import AgentFirstMail.Review.Documents

namespace AgentFirstMail
open Effect

/-- Commands on suggestions ask for the ids of events only. -/
inductive TreeRequest where
  | newEventId

abbrev TreeCommand (α : Type) := Program WorkspaceTree TreeRequest (fun _ => String) AppError α

abbrev TreeEvent := Event WorkspaceTree TreeRequest (fun _ => String) AppError

namespace TreeCommand

def tree : TreeCommand WorkspaceTree := Program.read

def newEventId : TreeCommand String := Program.perform TreeRequest.newEventId

/-- One atomic write to the canonical files. -/
def writeWorkspace (change : Workspace → Workspace) : TreeCommand Unit :=
  Program.write fun tree => { tree with workspace := change tree.workspace }

def writeProjection (message : MessageFile) : TreeCommand Unit :=
  Program.write (·.writeProjection message)

/-- A record and its newline are two writes. -/
def appendAuditEvent (host : Host) (kind : String) (targets : List (String × String))
    (reason : Option String) : TreeCommand Unit := do
  let eventId ← newEventId
  writeWorkspace
    (·.appendAuditRecord { eventId, createdRfc3339 := host.now, kind, targets, reason })
  writeWorkspace (·.appendAuditNewline)

end TreeCommand

open TreeCommand

/-- The id of an event, which starts with `event_`, as the id of a suggestion. -/
def suggestionUid (kind eventId : String) : String :=
  if "event_".toList.isPrefixOf eventId.toList then
    kind ++ "_" ++ String.ofList (eventId.toList.drop 6)
  else eventId

def suggestionNotFound (message : String) : AppError :=
  { errorCode := "suggestion_not_found", message }

def staleSuggestionError (objectKind objectRef : String) : AppError :=
  { errorCode := "review_stale"
    message := s!"{objectKind} {objectRef} changed after the Agent analyzed it" }

def staleSuggestionUidError : AppError :=
  { errorCode := "suggestion_stale"
    message := "the supplied agent_suggestion_uid is no longer current" }

def settlementFollowupFailed : AppError :=
  { errorCode := "settlement_followup_failed"
    message := ("the human suggestion was persisted, but a derived projection or audit write " ++
      "failed") }

/-- A person's disposition of an item, as the settle route of a review page receives it. -/
structure HumanSuggestionInput (α : Type) where
  itemRef : String
  basedOnAgentSuggestionUid : Option String := none
  reviewBaseHash : String
  outcome : HumanSuggestionOutcome
  suggestedAction : Option α := none
  reason : Option String := none

abbrev MessageHumanSuggestionInput := HumanSuggestionInput MessageSuggestedAction
abbrev CaseHumanSuggestionInput := HumanSuggestionInput CaseSuggestedAction
abbrev NotificationHumanSuggestionInput := HumanSuggestionInput NotificationSuggestedAction

/-- A kind of item that suggestions are made for: how one is found from a reference, when a
proposal is made and when it is cleared or settled, the file that holds its suggestions, and
what has to be refreshed after that file was written. -/
structure SuggestedItem (α ι : Type) where
  objectKind : String
  validateAction : α → Result Unit
  checkRef : String → Result Unit
  proposed : WorkspaceTree → String → Result String
  settled : WorkspaceTree → String → Result String
  reviewBaseHash : WorkspaceTree → String → Result String
  read : Workspace → String → Result ι
  agent : ι → Option (AgentSuggestion α)
  withAgent : ι → Option (AgentSuggestion α) → ι
  withHuman : ι → Option (HumanSuggestion α) → ι
  check : ι → Result Unit
  put : Workspace → String → ι → Workspace
  refresh : String → TreeCommand Unit
  unanswerable : String → AppError

namespace SuggestedItem
variable (item : SuggestedItem α ι) (host : Host)

/-- The file of an item is checked before it is written. -/
def write (uid : String) (file : ι) : TreeCommand Unit := do
  Program.ofExcept (item.check file)
  writeWorkspace (item.put · uid file)

def ensureCurrent (uid current expected : String) : Result Unit :=
  ensure (current == expected) (staleSuggestionError item.objectKind uid)

def setAgentSuggestion (itemRef reviewBaseHash : String) (action : α) (reason : String)
    (confidencePercent : Option UInt8) : TreeCommand (AgentSuggestion α) := do
  Program.ofExcept (item.checkRef itemRef)
  Program.ofExcept (item.validateAction action)
  let reason ← Program.ofExcept (checkedSuggestionText "reason" reason)
  let confidencePercent ← Program.ofExcept (checkedConfidencePercent confidencePercent)
  let tree ← TreeCommand.tree
  let uid ← Program.ofExcept (item.proposed tree itemRef)
  let current ← Program.ofExcept (item.reviewBaseHash tree uid)
  Program.ofExcept (item.ensureCurrent uid current reviewBaseHash)
  let file ← Program.ofExcept (item.read tree.workspace uid)
  let eventId ← newEventId
  let suggestion : AgentSuggestion α :=
    { agentSuggestionUid := suggestionUid "agent_suggestion" eventId
      reviewBaseHash := current
      suggestedAction := action
      reason
      confidencePercent
      createdRfc3339 := host.now }
  item.write uid (item.withHuman (item.withAgent file (some suggestion)) none)
  item.refresh uid
  appendAuditEvent host "agent_suggestion_set" [(item.objectKind, uid)] (some reason)
  return suggestion

def clearSuggestion (itemRef agentSuggestionUid : String) : TreeCommand Unit := do
  Program.ofExcept (item.checkRef itemRef)
  let tree ← TreeCommand.tree
  let uid ← Program.ofExcept (item.settled tree itemRef)
  let file ← Program.ofExcept (item.read tree.workspace uid)
  match item.agent file with
  | none => throw (suggestionNotFound s!"{item.objectKind} has no agent_suggestion")
  | some agent =>
    Program.ofExcept (ensure (agent.agentSuggestionUid == agentSuggestionUid)
      staleSuggestionUidError)
    item.write uid (item.withHuman (item.withAgent file none) none)
    item.refresh uid
    appendAuditEvent host "suggestion_cleared" [(item.objectKind, uid)] none

/-- The proposed action that a person answers, when it is still the one they saw. -/
def answeredAction (uid : String) (agent : Option (AgentSuggestion α))
    (basedOn : Option String) (reviewBaseHash : String) : Result (Option α) :=
  match basedOn, agent with
  | none, _ => .ok none
  | some _, none => .error (item.unanswerable uid)
  | some basedOn, some agent =>
    if agent.agentSuggestionUid = basedOn ∧ agent.reviewBaseHash = reviewBaseHash then
      .ok (some agent.suggestedAction)
    else .error (staleSuggestionError item.objectKind uid)

/-- The disposition is on disk; what fails afterwards is told as such. -/
def followUp (uid : String) (reason : Option String) : TreeCommand Unit := do
  let projection ← (item.refresh uid).attempt
  let audit ← (appendAuditEvent host "human_suggestion_set" [(item.objectKind, uid)]
    reason).attempt
  match projection, audit with
  | .ok (), .ok () => return ()
  | _, _ => throw settlementFollowupFailed

def setHumanSuggestion [DecidableEq α] (input : HumanSuggestionInput α) :
    TreeCommand (HumanSuggestion α) := do
  Program.ofExcept (item.checkRef input.itemRef)
  let tree ← TreeCommand.tree
  let uid ← Program.ofExcept (item.settled tree input.itemRef)
  let file ← Program.ofExcept (item.read tree.workspace uid)
  let current ← Program.ofExcept (item.reviewBaseHash tree uid)
  Program.ofExcept (item.ensureCurrent uid current input.reviewBaseHash)
  let agentAction ← Program.ofExcept (item.answeredAction uid (item.agent file)
    input.basedOnAgentSuggestionUid input.reviewBaseHash)
  Program.ofExcept (validateHumanSuggestionFields item.validateAction input.outcome
    input.basedOnAgentSuggestionUid input.suggestedAction input.reason agentAction)
  let eventId ← newEventId
  let human : HumanSuggestion α :=
    { humanSuggestionUid := suggestionUid "human_suggestion" eventId
      basedOnAgentSuggestionUid := input.basedOnAgentSuggestionUid
      reviewBaseHash := input.reviewBaseHash
      outcome := input.outcome
      suggestedAction := input.suggestedAction
      reason := cleanOptionalReason input.reason
      createdRfc3339 := host.now }
  item.write uid (item.withHuman file (some human))
  item.followUp host uid human.reason
  return human

end SuggestedItem

section Items
variable (host : ReviewHost)

def refreshMessageProjection (messageId : String) : TreeCommand Unit := do
  let tree ← TreeCommand.tree
  let message ← Program.ofExcept (tree.readMessageById host.toProjectionHost messageId)
  let projection ← Program.ofExcept (tree.materializedCache host.toProjectionHost message)
  writeProjection projection

def canonicalMetadataMissing (messageId : String) : AppError :=
  { errorCode := "message_metadata_missing"
    message := s!"canonical metadata is missing for message {messageId}" }

def messageNotInTriage (messageId : String) : AppError :=
  { errorCode := "message_not_in_triage", message := s!"message {messageId} is not in triage" }

def readRequiredMetadata (w : Workspace) (messageId : String) : Result MessageMetadata := do
  match ← w.readMessageMetadataFile host.toHost messageId with
  | some metadata => .ok metadata
  | none => .error (canonicalMetadataMissing messageId)

/-- Proposals are made for messages in triage. -/
def triageMessage (tree : WorkspaceTree) (messageId : String) : Result String := do
  let message ← tree.readMessageById host.toProjectionHost messageId
  ensure (message.workspace.status == .triage) (messageNotInTriage messageId)
  return messageId

def suggestedMessage : SuggestedItem MessageSuggestedAction MessageMetadata where
  objectKind := "message"
  validateAction := validateMessageAction host.toHost
  checkRef := validateId host.toHost "message_id"
  proposed := triageMessage host
  settled _ messageId := .ok messageId
  reviewBaseHash tree := tree.messageReviewBaseHash host
  read := readRequiredMetadata host
  agent metadata := metadata.agentSuggestion
  withAgent metadata agentSuggestion := { metadata with agentSuggestion }
  withHuman metadata humanSuggestion := { metadata with humanSuggestion }
  check := checkMessageMetadata host.toHost
  put := .writeMessageMetadataFile
  refresh := refreshMessageProjection host
  unanswerable messageId := suggestionNotFound s!"message {messageId} has no agent_suggestion"

/-- A case by its reference; its file is read for its status. -/
def resolveCaseRef (tree : WorkspaceTree) (caseRef : String) : Result String := do
  let caseUid ← parseCaseRef host.toHost caseRef
  let _ ← tree.workspace.readCaseFile host.toHost caseUid
  return caseUid

def Workspace.putCase (w : Workspace) (caseUid : String) (case_ : CaseRecord) : Workspace :=
  { w with cases := w.cases.insert caseUid case_ }

def suggestedCase : SuggestedItem CaseSuggestedAction CaseRecord where
  objectKind := "case"
  validateAction := validateCaseAction host.toHost
  checkRef _ := .ok ()
  proposed := resolveCaseRef host
  settled := resolveCaseRef host
  reviewBaseHash tree := tree.caseReviewBaseHash host
  read w := w.readCaseFile host.toHost
  agent
    | { agentSuggestion := some (.case agent), .. } => some agent
    | _ => none
  withAgent case_ agent := { case_ with agentSuggestion := agent.map .case }
  withHuman case_ human := { case_ with humanSuggestion := human.map .case }
  check case_ :=
    validateCaseSuggestionPair host.toHost case_.agentSuggestion case_.humanSuggestion
  put := .putCase
  refresh _ := return ()
  unanswerable _ := suggestionNotFound "case has no agent_suggestion"

def resolveNotificationRef (tree : WorkspaceTree) (notificationRef : String) : Result String := do
  let notificationUid ← parseNotificationRef host.toHost notificationRef
  let _ ← tree.workspace.findNotification notificationUid
  return notificationUid

def Workspace.putNotification (w : Workspace) (notificationUid : String)
    (notification : NotificationRecord) : Workspace :=
  { w with notifications := w.notifications.insert notificationUid notification }

def suggestedNotification : SuggestedItem NotificationSuggestedAction NotificationRecord where
  objectKind := "notification"
  validateAction := validateNotificationAction host.toHost
  checkRef _ := .ok ()
  proposed := resolveNotificationRef host
  settled := resolveNotificationRef host
  reviewBaseHash tree := tree.notificationReviewBaseHash host
  read w := w.readNotifications host.toHost
  agent
    | { agentSuggestion := some (.notification agent), .. } => some agent
    | _ => none
  withAgent notification agent :=
    { notification with agentSuggestion := agent.map .notification }
  withHuman notification human :=
    { notification with humanSuggestion := human.map .notification }
  check notification := validateNotificationSuggestionPair host.toHost
    notification.agentSuggestion notification.humanSuggestion
  put := .putNotification
  refresh _ := return ()
  unanswerable _ := suggestionNotFound "notification has no agent_suggestion"

def setMessageAgentSuggestion : String → String → MessageSuggestedAction → String →
    Option UInt8 → TreeCommand MessageAgentSuggestion :=
  (suggestedMessage host).setAgentSuggestion host.toHost

def clearMessageSuggestion : String → String → TreeCommand Unit :=
  (suggestedMessage host).clearSuggestion host.toHost

def setMessageHumanSuggestion : MessageHumanSuggestionInput → TreeCommand MessageHumanSuggestion :=
  (suggestedMessage host).setHumanSuggestion host.toHost

def setCaseAgentSuggestion : String → String → CaseSuggestedAction → String → Option UInt8 →
    TreeCommand CaseAgentSuggestion :=
  (suggestedCase host).setAgentSuggestion host.toHost

def clearCaseSuggestion : String → String → TreeCommand Unit :=
  (suggestedCase host).clearSuggestion host.toHost

def setCaseHumanSuggestion : CaseHumanSuggestionInput → TreeCommand CaseHumanSuggestion :=
  (suggestedCase host).setHumanSuggestion host.toHost

def setNotificationAgentSuggestion : String → String → NotificationSuggestedAction → String →
    Option UInt8 → TreeCommand NotificationAgentSuggestion :=
  (suggestedNotification host).setAgentSuggestion host.toHost

def clearNotificationSuggestion : String → String → TreeCommand Unit :=
  (suggestedNotification host).clearSuggestion host.toHost

def setNotificationHumanSuggestion : NotificationHumanSuggestionInput →
    TreeCommand NotificationHumanSuggestion :=
  (suggestedNotification host).setHumanSuggestion host.toHost

end Items
end AgentFirstMail
