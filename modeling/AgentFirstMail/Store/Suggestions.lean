import AgentFirstMail.Store.Process

namespace AgentFirstMail

def invalidSuggestion (message : String) : AppError :=
  { errorCode := "invalid_suggestion", message }

def invalidSuggestionState (message : String) : AppError :=
  { errorCode := "invalid_suggestion_state", message }

def invalidHumanSuggestion (message : String) : AppError :=
  { errorCode := "invalid_human_suggestion", message }

/-- Text of which something is left when it is trimmed. -/
def checkedSuggestionText (field value : String) : Result String :=
  let value := trimmed value
  if value = "" then .error (invalidSuggestion s!"{field} must not be empty") else .ok value

def checkedConfidencePercent (value : Option UInt8) : Result (Option UInt8) :=
  if value.any (· > 100) then
    .error (invalidSuggestion "confidence_percent must be between 0 and 100")
  else .ok value

def cleanOptionalReason (reason : Option String) : Option String :=
  (reason.map trimmed).filter (· != "")

section Actions
variable (host : Host)

def validateMessageAction : MessageSuggestedAction → Result Unit
  | .caseCreate caseName group => do
    validateName host "case_name" (← checkedSuggestionText "case_name" caseName)
    validateId host "group" (← checkedSuggestionText "group" group)
  | .caseAdd caseRef => do
    let _ ← checkedSuggestionText "case_ref" caseRef
  | .notificationCreate notificationName summary => do
    validateName host "notification_name"
      (← checkedSuggestionText "notification_name" notificationName)
    let _ ← checkedSuggestionText "summary" summary
  | .notificationAdd notificationRef summary => do
    let _ ← checkedSuggestionText "notification_ref" notificationRef
    let _ ← checkedSuggestionText "summary" summary
  | .spam => .ok ()
  | .trash => .ok ()

def validateCaseAction : CaseSuggestedAction → Result Unit
  | .caseUnarchive group => do
    validateId host "group" (← checkedSuggestionText "group" group)
  | .caseMove group => do
    validateId host "group" (← checkedSuggestionText "group" group)
  | .caseRename caseName => do
    validateName host "case_name" (← checkedSuggestionText "case_name" caseName)
  | .caseTag tag => do
    validateId host "tag" (← checkedSuggestionText "tag" tag)
  | .caseUntag tag => do
    validateId host "tag" (← checkedSuggestionText "tag" tag)
  | .caseArchive => .ok ()
  | .caseTrash => .ok ()
  | .caseDelete _ => .ok ()

def validateNotificationAction : NotificationSuggestedAction → Result Unit
  | .notificationRename notificationName => do
    validateName host "notification_name"
      (← checkedSuggestionText "notification_name" notificationName)
  | .notificationDelete _ => .ok ()

end Actions
section Pairs
variable (validateAction : α → Result Unit)

def validateAgentFields (agent : AgentSuggestion α) : Result Unit := do
  let _ ← checkedSuggestionText "agent_suggestion_uid" agent.agentSuggestionUid
  let _ ← checkedSuggestionText "review_base_hash" agent.reviewBaseHash
  let _ ← checkedSuggestionText "reason" agent.reason
  let _ ← checkedConfidencePercent agent.confidencePercent
  let _ ← checkedSuggestionText "created_rfc3339" agent.createdRfc3339

/-- A proposal that is referred to must have a uid. -/
def checkedBasedOn : Option String → Result Unit
  | none => .ok ()
  | some uid => do
    let _ ← checkedSuggestionText "based_on_agent_suggestion_uid" uid

def validateHumanFields (human : HumanSuggestion α) : Result Unit := do
  let _ ← checkedSuggestionText "human_suggestion_uid" human.humanSuggestionUid
  checkedBasedOn human.basedOnAgentSuggestionUid
  let _ ← checkedSuggestionText "review_base_hash" human.reviewBaseHash
  let _ ← checkedSuggestionText "created_rfc3339" human.createdRfc3339

def notBound : AppError :=
  invalidSuggestionState "human_suggestion is not bound to the current agent_suggestion"

def noLongerCurrent : AppError :=
  invalidSuggestionState "human_suggestion references an agent_suggestion that is no longer current"

/-- The proposed action that a person answers, when the answer refers to one. -/
def bindHumanToAgent (basedOn : Option String) (humanReviewBaseHash : String)
    (agent : Option (AgentSuggestion α)) : Result (Option α) :=
  match basedOn, agent with
  | none, _ => .ok none
  | some uid, some agent =>
    if uid = agent.agentSuggestionUid ∧ humanReviewBaseHash = agent.reviewBaseHash then
      .ok (some agent.suggestedAction)
    else .error notBound
  | some _, none => .error noLongerCurrent

/-- A complete action, when one is required. -/
def checkedAction (action : Option α) (error : AppError) : Result α :=
  match action with
  | some action => do
    validateAction action
    return action
  | none => .error error

/-- What an outcome requires of the proposal it refers to, of its action and of its reason. -/
def validateHumanSuggestionFields [DecidableEq α] (outcome : HumanSuggestionOutcome)
    (basedOn : Option String) (suggestedAction : Option α) (reason : Option String)
    (agentAction : Option α) : Result Unit :=
  match outcome with
  | .accepted => do
    ensure basedOn.isSome (invalidHumanSuggestion
      "accepted human_suggestion requires based_on_agent_suggestion_uid")
    ensure (suggestedAction.isSome && decide (suggestedAction = agentAction))
      (invalidHumanSuggestion "accepted human_suggestion must copy the current Agent action")
  | .changed => do
    ensure basedOn.isSome (invalidHumanSuggestion
      "changed human_suggestion requires based_on_agent_suggestion_uid")
    let action ← checkedAction validateAction suggestedAction (invalidHumanSuggestion
      "changed human_suggestion requires a complete suggested_action")
    ensure (agentAction.isSome && decide (agentAction ≠ some action)) (invalidHumanSuggestion
      "changed human_suggestion must differ from the current Agent action")
  | .rejected =>
    ensure (suggestedAction.isNone && (cleanOptionalReason reason).isSome)
      (invalidHumanSuggestion
        "rejected human_suggestion requires a reason and must not contain an action")
  | .decided => do
    ensure basedOn.isNone (invalidHumanSuggestion
      "decided human_suggestion must not reference an agent_suggestion")
    let _ ← checkedAction validateAction suggestedAction (invalidHumanSuggestion
      "decided human_suggestion requires a complete suggested_action")

def validateAgentSuggestion : Option (AgentSuggestion α) → Result Unit
  | none => .ok ()
  | some agent => do
    validateAgentFields agent
    validateAction agent.suggestedAction

def validateHumanSuggestion [DecidableEq α] (agent : Option (AgentSuggestion α)) :
    Option (HumanSuggestion α) → Result Unit
  | none => .ok ()
  | some human => do
    validateHumanFields human
    let agentAction ←
      bindHumanToAgent human.basedOnAgentSuggestionUid human.reviewBaseHash agent
    validateHumanSuggestionFields validateAction human.outcome human.basedOnAgentSuggestionUid
      human.suggestedAction human.reason agentAction

/-- The checks on the suggestions of one item as a file holds them. -/
def validateSuggestionPair [DecidableEq α] (agent : Option (AgentSuggestion α))
    (human : Option (HumanSuggestion α)) : Result Unit := do
  validateAgentSuggestion validateAction agent
  validateHumanSuggestion validateAction agent human

end Pairs
section Kinds
variable (host : Host)

def validateHumanMessageFields : HumanSuggestionOutcome → Option String →
    Option MessageSuggestedAction → Option String → Option MessageSuggestedAction → Result Unit :=
  validateHumanSuggestionFields (validateMessageAction host)

def validateHumanCaseFields : HumanSuggestionOutcome → Option String →
    Option CaseSuggestedAction → Option String → Option CaseSuggestedAction → Result Unit :=
  validateHumanSuggestionFields (validateCaseAction host)

def validateHumanNotificationFields : HumanSuggestionOutcome → Option String →
    Option NotificationSuggestedAction → Option String → Option NotificationSuggestedAction →
    Result Unit :=
  validateHumanSuggestionFields (validateNotificationAction host)

def validateMessageSuggestionPair : Option MessageAgentSuggestion →
    Option MessageHumanSuggestion → Result Unit :=
  validateSuggestionPair (validateMessageAction host)

def caseAgent? : Option CollectionAgentSuggestion → Result (Option CaseAgentSuggestion)
  | none => .ok none
  | some (.case agent) => .ok (some agent)
  | some (.notification _) =>
    .error (invalidSuggestionState "case metadata contains a notification agent_suggestion")

def caseHuman? : Option CollectionHumanSuggestion → Result (Option CaseHumanSuggestion)
  | none => .ok none
  | some (.case human) => .ok (some human)
  | some (.notification _) =>
    .error (invalidSuggestionState "case metadata contains a notification human_suggestion")

def validateCaseSuggestionPair (agent : Option CollectionAgentSuggestion)
    (human : Option CollectionHumanSuggestion) : Result Unit := do
  let agent ← caseAgent? agent
  let human ← caseHuman? human
  validateSuggestionPair (validateCaseAction host) agent human

def notificationAgent? :
    Option CollectionAgentSuggestion → Result (Option NotificationAgentSuggestion)
  | none => .ok none
  | some (.notification agent) => .ok (some agent)
  | some (.case _) =>
    .error (invalidSuggestionState "notification metadata contains a case agent_suggestion")

def notificationHuman? :
    Option CollectionHumanSuggestion → Result (Option NotificationHumanSuggestion)
  | none => .ok none
  | some (.notification human) => .ok (some human)
  | some (.case _) =>
    .error (invalidSuggestionState "notification metadata contains a case human_suggestion")

def validateNotificationSuggestionPair (agent : Option CollectionAgentSuggestion)
    (human : Option CollectionHumanSuggestion) : Result Unit := do
  let agent ← notificationAgent? agent
  let human ← notificationHuman? human
  validateSuggestionPair (validateNotificationAction host) agent human

end Kinds
end AgentFirstMail
