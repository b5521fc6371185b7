import AgentFirstMail.Config.Defaults
import AgentFirstMail.Review.Validity

namespace AgentFirstMail
open Effect TreeCommand

/-- A name or an id that passes the checks of one host passes those of the other. -/
structure SameRules (host host' : Host) : Prop where
  humanSlug : host.humanSlug = host'.humanSlug
  validPathSegment : host.validPathSegment = host'.validPathSegment

namespace SameRules
variable {host host' : Host}

theorem refl (host : Host) : SameRules host host := ⟨rfl, rfl⟩

theorem validateId (h : SameRules host host') : validateId host = validateId host' := by
  funext label value
  rw [AgentFirstMail.validateId, AgentFirstMail.validateId, h.validPathSegment]

theorem validateName (h : SameRules host host') : validateName host = validateName host' := by
  funext label value
  rw [AgentFirstMail.validateName, AgentFirstMail.validateName, h.validateId, h.humanSlug]

theorem validateMessageSuggestionPair (h : SameRules host host') :
    validateMessageSuggestionPair host = validateMessageSuggestionPair host' := by
  have hactions : validateMessageAction host = validateMessageAction host' := by
    funext action
    cases action with
    | caseCreate => simp only [validateMessageAction, h.validateName, h.validateId]
    | notificationCreate => simp only [validateMessageAction, h.validateName]
    | _ => rfl
  funext agent human
  rw [AgentFirstMail.validateMessageSuggestionPair, AgentFirstMail.validateMessageSuggestionPair,
    hactions]

theorem validateCaseSuggestionPair (h : SameRules host host') :
    validateCaseSuggestionPair host = validateCaseSuggestionPair host' := by
  have hactions : validateCaseAction host = validateCaseAction host' := by
    funext action
    cases action with
    | caseRename => simp only [validateCaseAction, h.validateName]
    | caseUnarchive => simp only [validateCaseAction, h.validateId]
    | caseMove => simp only [validateCaseAction, h.validateId]
    | caseTag => simp only [validateCaseAction, h.validateId]
    | caseUntag => simp only [validateCaseAction, h.validateId]
    | _ => rfl
  funext agent human
  rw [AgentFirstMail.validateCaseSuggestionPair, AgentFirstMail.validateCaseSuggestionPair,
    hactions]

theorem validateNotificationSuggestionPair (h : SameRules host host') :
    validateNotificationSuggestionPair host = validateNotificationSuggestionPair host' := by
  have hactions : validateNotificationAction host = validateNotificationAction host' := by
    funext action
    cases action with
    | notificationRename => simp only [validateNotificationAction, h.validateName]
    | notificationDelete => rfl
  funext agent human
  rw [AgentFirstMail.validateNotificationSuggestionPair,
    AgentFirstMail.validateNotificationSuggestionPair, hactions]

end SameRules

/-- The suggestions that a write to a tree leaves are checked ones. -/
abbrev TreeWrite (host : Host) (tree tree' : WorkspaceTree) : Prop :=
  MetadataWrite host tree.workspace tree'.workspace

section Writes
variable {host : Host}

theorem writes_check {R : WorkspaceTree → WorkspaceTree → Prop} {result : Result α}
    {f : α → TreeCommand β} (h : ∀ value, result = .ok value → (f value).Writes R) :
    ((Program.ofExcept result).bind f).Writes R := by
  cases result with
  | ok value => exact h value rfl
  | error error => exact .fail error

theorem MetadataWrite.audit (w : Workspace) (audit : AuditLog) :
    MetadataWrite host w { w with audit } := .elsewhere (.of_eq rfl rfl rfl)

theorem writes_appendAuditEvent (host' : Host) (kind : String) (targets : List (String × String))
    (reason : Option String) :
    (appendAuditEvent host' kind targets reason).Writes (TreeWrite host) := by
  refine (Program.Writes.perform _).bind fun eventId => ?_
  refine (Program.Writes.write fun tree => ?_).bind fun _ => .write fun tree => ?_
  · exact .audit _ _
  · exact .audit _ _

theorem writes_writeProjection (message : MessageFile) :
    (writeProjection message).Writes (TreeWrite host) :=
  .write fun _ => .elsewhere (.of_eq rfl rfl rfl)

theorem writes_refreshMessageProjection (host' : ReviewHost) (messageId : String) :
    (refreshMessageProjection host' messageId).Writes (TreeWrite host) := by
  refine Program.Writes.read.bind fun tree => ?_
  refine (Program.Writes.ofExcept _).bind fun message => ?_
  refine (Program.Writes.ofExcept _).bind fun projection => ?_
  exact writes_writeProjection projection

theorem writes_attempt {R : WorkspaceTree → WorkspaceTree → Prop} {p : TreeCommand α}
    (hp : p.Writes R) : p.attempt.Writes R :=
  (hp.bind fun _ => .ret _).tryCatch fun _ => .ret _

end Writes

namespace SuggestedItem
variable {item : SuggestedItem α ι} {host host' : Host}

/-- What is written for an item is checked as a whole, and its refreshing writes nothing that
holds suggestions. -/
structure Checked (item : SuggestedItem α ι) (host : Host) : Prop where
  put : ∀ (w : Workspace) (uid : String) (file : ι), item.check file = .ok () →
    MetadataWrite host w (item.put w uid file)
  refresh : ∀ uid, (item.refresh uid).Writes (TreeWrite host)

namespace Checked

theorem write (h : item.Checked host) (uid : String) (file : ι) :
    (item.write uid file).Writes (TreeWrite host) :=
  writes_check fun _ hchecked => .write fun tree => h.put tree.workspace uid file hchecked

theorem setAgentSuggestion (h : item.Checked host) (itemRef reviewBaseHash : String) (action : α)
    (reason : String) (confidencePercent : Option UInt8) :
    (item.setAgentSuggestion host' itemRef reviewBaseHash action reason
      confidencePercent).Writes (TreeWrite host) := by
  refine (Program.Writes.ofExcept _).bind fun _ => ?_
  refine (Program.Writes.ofExcept _).bind fun _ => ?_
  refine (Program.Writes.ofExcept _).bind fun text => ?_
  refine (Program.Writes.ofExcept _).bind fun percent => ?_
  refine Program.Writes.read.bind fun tree => ?_
  refine (Program.Writes.ofExcept _).bind fun uid => ?_
  refine (Program.Writes.ofExcept _).bind fun current => ?_
  refine (Program.Writes.ofExcept _).bind fun _ => ?_
  refine (Program.Writes.ofExcept _).bind fun file => ?_
  refine (Program.Writes.perform _).bind fun eventId => ?_
  refine (h.write uid _).bind fun _ => ?_
  refine (h.refresh uid).bind fun _ => ?_
  exact (writes_appendAuditEvent _ _ _ _).bind fun _ => .ret _

theorem clearSuggestion (h : item.Checked host) (itemRef agentSuggestionUid : String) :
    (item.clearSuggestion host' itemRef agentSuggestionUid).Writes (TreeWrite host) := by
  refine (Program.Writes.ofExcept _).bind fun _ => ?_
  refine Program.Writes.read.bind fun tree => ?_
  refine (Program.Writes.ofExcept _).bind fun uid => ?_
  refine (Program.Writes.ofExcept _).bind fun file => ?_
  cases item.agent file with
  | none => exact .fail _
  | some agent =>
    refine (Program.Writes.ofExcept _).bind fun _ => ?_
    refine (h.write uid _).bind fun _ => ?_
    refine (h.refresh uid).bind fun _ => ?_
    exact writes_appendAuditEvent _ _ _ _

theorem followUp (h : item.Checked host) (uid : String) (reason : Option String) :
    (item.followUp host' uid reason).Writes (TreeWrite host) := by
  refine (writes_attempt (h.refresh uid)).bind fun projection => ?_
  refine (writes_attempt (writes_appendAuditEvent _ _ _ _)).bind fun audit => ?_
  split
  · exact .ret _
  · exact .fail _

theorem setHumanSuggestion [DecidableEq α] (h : item.Checked host)
    (input : HumanSuggestionInput α) :
    (item.setHumanSuggestion host' input).Writes (TreeWrite host) := by
  refine (Program.Writes.ofExcept _).bind fun _ => ?_
  refine Program.Writes.read.bind fun tree => ?_
  refine (Program.Writes.ofExcept _).bind fun uid => ?_
  refine (Program.Writes.ofExcept _).bind fun file => ?_
  refine (Program.Writes.ofExcept _).bind fun current => ?_
  refine (Program.Writes.ofExcept _).bind fun _ => ?_
  refine (Program.Writes.ofExcept _).bind fun agentAction => ?_
  refine (Program.Writes.ofExcept _).bind fun _ => ?_
  refine (Program.Writes.perform _).bind fun eventId => ?_
  refine (h.write uid _).bind fun _ => ?_
  exact (h.followUp uid _).bind fun _ => .ret _

end Checked
end SuggestedItem

section Items
variable {host : ReviewHost} {rules : Host}

theorem checked_suggestedMessage (h : SameRules host.toHost rules) :
    (suggestedMessage host).Checked rules where
  put w messageId metadata hchecked := by
    obtain ⟨hpair, _⟩ := Result.seq_ok hchecked
    rw [h.validateMessageSuggestionPair] at hpair
    exact .message messageId metadata hpair
  refresh := writes_refreshMessageProjection host

theorem checked_suggestedCase (h : SameRules host.toHost rules) : (suggestedCase host).Checked rules where
  put w caseUid case_ hchecked := by
    change validateCaseSuggestionPair host.toHost _ _ = .ok () at hchecked
    rw [h.validateCaseSuggestionPair] at hchecked
    exact .case caseUid case_ hchecked
  refresh _ := .ret _

theorem checked_suggestedNotification (h : SameRules host.toHost rules) :
    (suggestedNotification host).Checked rules where
  put w notificationUid notification hchecked := by
    change validateNotificationSuggestionPair host.toHost _ _ = .ok () at hchecked
    rw [h.validateNotificationSuggestionPair] at hchecked
    exact .notification notificationUid notification hchecked
  refresh _ := .ret _

end Items

section OtherWriters
variable (host : Host)

def mergeDelivery (parser : MailParser) (messageId : String) (incoming : DeliveryEnvelope) :
    TreeCommand Unit := do
  let tree ← TreeCommand.tree
  match ← Program.ofExcept (tree.workspace.readMessageMetadataFile host messageId) with
  | none => throw deliveryMetadataMissing
  | some prior =>
    let delivery ← Program.ofExcept ((prior.delivery.getD {}).merge parser incoming)
    let metadata := { prior with delivery := some delivery }
    Program.ofExcept (checkMessageMetadata host metadata)
    writeWorkspace (·.writeMessageMetadataFile messageId metadata)

end OtherWriters

/-- The commands on suggestions. -/
inductive SuggestionCommand (host : ReviewHost) : {α : Type} → TreeCommand α → Prop
  | setMessageAgent (messageId reviewBaseHash : String) (action : MessageSuggestedAction)
      (reason : String) (confidencePercent : Option UInt8) :
      SuggestionCommand host (setMessageAgentSuggestion host messageId reviewBaseHash action reason
        confidencePercent)
  | clearMessage (messageId agentSuggestionUid : String) :
      SuggestionCommand host (clearMessageSuggestion host messageId agentSuggestionUid)
  | setMessageHuman (input : MessageHumanSuggestionInput) :
      SuggestionCommand host (setMessageHumanSuggestion host input)
  | setCaseAgent (caseRef reviewBaseHash : String) (action : CaseSuggestedAction)
      (reason : String) (confidencePercent : Option UInt8) :
      SuggestionCommand host (setCaseAgentSuggestion host caseRef reviewBaseHash action reason
        confidencePercent)
  | clearCase (caseRef agentSuggestionUid : String) :
      SuggestionCommand host (clearCaseSuggestion host caseRef agentSuggestionUid)
  | setCaseHuman (input : CaseHumanSuggestionInput) :
      SuggestionCommand host (setCaseHumanSuggestion host input)
  | setNotificationAgent (notificationRef reviewBaseHash : String)
      (action : NotificationSuggestedAction) (reason : String)
      (confidencePercent : Option UInt8) :
      SuggestionCommand host (setNotificationAgentSuggestion host notificationRef reviewBaseHash
        action reason confidencePercent)
  | clearNotification (notificationRef agentSuggestionUid : String) :
      SuggestionCommand host (clearNotificationSuggestion host notificationRef agentSuggestionUid)
  | setNotificationHuman (input : NotificationHumanSuggestionInput) :
      SuggestionCommand host (setNotificationHumanSuggestion host input)

theorem SuggestionCommand.writes {host : ReviewHost} {rules : Host} {program : TreeCommand α}
    (h : SuggestionCommand host program) (hrules : SameRules host.toHost rules) :
    program.Writes (TreeWrite rules) := by
  have hmessage := checked_suggestedMessage hrules
  have hcase := checked_suggestedCase hrules
  have hnotification := checked_suggestedNotification hrules
  cases h with
  | setMessageAgent => exact hmessage.setAgentSuggestion _ _ _ _ _
  | clearMessage => exact hmessage.clearSuggestion _ _
  | setMessageHuman => exact hmessage.setHumanSuggestion _
  | setCaseAgent => exact hcase.setAgentSuggestion _ _ _ _ _
  | clearCase => exact hcase.clearSuggestion _ _
  | setCaseHuman => exact hcase.setHumanSuggestion _
  | setNotificationAgent => exact hnotification.setAgentSuggestion _ _ _ _ _
  | clearNotification => exact hnotification.clearSuggestion _ _
  | setNotificationHuman => exact hnotification.setHumanSuggestion _

/-- One command on its own, to its end or cut off: a command on suggestions, or any other, with
requests of its own, which writes the files that hold suggestions as the writers above do. -/
inductive SuggestionSession (rules : Host) : WorkspaceTree → List TreeEvent → WorkspaceTree → Prop
  | command {host : ReviewHost} {program : TreeCommand α} {outcome : Outcome AppError α} :
      SameRules host.toHost rules → SuggestionCommand host program →
      Exec program before events outcome after → SuggestionSession rules before events after
  | other {κ : Type} {ρ : κ → Type} {ε : Type} {program : Program WorkspaceTree κ ρ ε α}
      {events : List (Event WorkspaceTree κ ρ ε)} {outcome : Outcome ε α} :
      program.Writes (TreeWrite rules) → Exec program before events outcome after →
      SuggestionSession rules before [] after

/-- A disposition that refers to a proposal refers to the current one, as it was when it was
made. -/
def HumanSuggestion.Answers (human : HumanSuggestion α) (agent : Option (AgentSuggestion α)) :
    Prop :=
  ∀ uid, human.basedOnAgentSuggestionUid = some uid → ∃ current, agent = some current ∧
    current.agentSuggestionUid = uid ∧ current.reviewBaseHash = human.reviewBaseHash

/-- The suggestions on disk can be read back, and every answer is bound to what it answers. -/
structure SuggestionsSound (host : Host) (w : Workspace) : Prop
    extends SuggestionsValid host w where
  messageAnswers : ∀ (messageId : String) (metadata : MessageMetadata)
    (human : MessageHumanSuggestion), w.metadataFile messageId = some metadata →
    metadata.humanSuggestion = some human → human.Answers metadata.agentSuggestion
  caseAnswers : ∀ (caseUid : String) (case_ : CaseRecord) (human : CaseHumanSuggestion),
    w.cases[caseUid]? = some case_ → case_.humanSuggestion = some (.case human) →
    ∃ agent, caseAgent? case_.agentSuggestion = .ok agent ∧ human.Answers agent
  notificationAnswers : ∀ (notificationUid : String) (notification : NotificationRecord)
    (human : NotificationHumanSuggestion),
    w.notifications[notificationUid]? = some notification →
    notification.humanSuggestion = some (.notification human) →
    ∃ agent, notificationAgent? notification.agentSuggestion = .ok agent ∧ human.Answers agent

theorem SuggestionsValid.sound {host : Host} {w : Workspace} (h : SuggestionsValid host w) :
    SuggestionsSound host w where
  toSuggestionsValid := h
  messageAnswers messageId metadata human hget hhuman := by
    have hpair := h.messages messageId metadata hget
    rw [hhuman] at hpair
    exact fun _ => bound_of_validateSuggestionPair hpair
  caseAnswers caseUid case_ human hget hhuman := by
    have hpair := h.cases caseUid case_ hget
    rw [hhuman] at hpair
    obtain ⟨agent, hagent, hpair⟩ := Result.bind_ok hpair
    exact ⟨agent, hagent, fun _ => bound_of_validateSuggestionPair hpair⟩
  notificationAnswers notificationUid notification human hget hhuman := by
    have hpair := h.notifications notificationUid notification hget
    rw [hhuman] at hpair
    obtain ⟨agent, hagent, hpair⟩ := Result.bind_ok hpair
    exact ⟨agent, hagent, fun _ => bound_of_validateSuggestionPair hpair⟩

namespace SuggestedItem
variable (item : SuggestedItem α ι)

/-- What a command that sets, clears or settles a suggestion accepts for an item whose file
passes its check is accepted by the check that the file is read back with. -/
structure Accepts [DecidableEq α] : Prop where
  proposed : ∀ (file : ι) (uid hash reason text now : String) (action : α)
    (confidence percent : Option UInt8), item.check file = .ok () → trimmed uid ≠ "" →
    trimmed hash ≠ "" → trimmed now ≠ "" → item.validateAction action = .ok () →
    checkedSuggestionText "reason" reason = .ok text →
    checkedConfidencePercent confidence = .ok percent →
    item.check (item.withHuman
      (item.withAgent file (some ⟨uid, hash, action, text, percent, now⟩)) none) = .ok ()
  cleared : ∀ file : ι, item.check file = .ok () →
    item.check (item.withHuman (item.withAgent file none) none) = .ok ()
  settled : ∀ (file : ι) (itemUid uid hash now : String) (basedOn reason : Option String)
    (outcome : HumanSuggestionOutcome) (action agentAction : Option α),
    item.check file = .ok () → trimmed uid ≠ "" → trimmed hash ≠ "" → trimmed now ≠ "" →
    item.answeredAction itemUid (item.agent file) basedOn hash = .ok agentAction →
    validateHumanSuggestionFields item.validateAction outcome basedOn action reason agentAction =
      .ok () →
    item.check (item.withHuman file
      (some ⟨uid, basedOn, hash, outcome, action, cleanOptionalReason reason, now⟩)) = .ok ()

/-- The check of a file whose other content passes it is that of its pair of suggestions. -/
structure ChecksPair [DecidableEq α] : Prop where
  check_iff : ∀ (file : ι) (agent : Option (AgentSuggestion α))
    (human : Option (HumanSuggestion α)), item.check file = .ok () →
    (item.check (item.withHuman (item.withAgent file agent) human) = .ok () ↔
      validateSuggestionPair item.validateAction agent human = .ok ())
  own : ∀ file : ι, item.check file = .ok () →
    item.withAgent file (item.agent file) = file ∧
      validateAgentSuggestion item.validateAction (item.agent file) = .ok ()

theorem ChecksPair.accepts [DecidableEq α] (h : item.ChecksPair) : item.Accepts where
  proposed file uid hash reason text now action confidence percent hfile huid hhash hnow haction
      hreason hpercent := by
    rw [h.check_iff file _ _ hfile, validateSuggestionPair_eq_ok_iff]
    exact ⟨validateAgentSuggestion_proposed huid hhash hnow haction hreason hpercent, rfl⟩
  cleared file hfile := by
    rw [h.check_iff file _ _ hfile]
    rfl
  settled file itemUid uid hash now basedOn reason outcome action agentAction hfile huid hhash
      hnow hanswered hfields := by
    obtain ⟨hown, hagent⟩ := h.own file hfile
    have hpair := (h.check_iff file (item.agent file)
      (some ⟨uid, basedOn, hash, outcome, action, cleanOptionalReason reason, now⟩) hfile).mpr
      (validateSuggestionPair_eq_ok_iff.mpr
        ⟨hagent, validateHumanSuggestion_settled huid hhash hnow hagent hanswered hfields⟩)
    rwa [hown] at hpair

end SuggestedItem

section Accepts
variable (host : ReviewHost)

theorem checksPair_suggestedMessage : (suggestedMessage host).ChecksPair where
  check_iff metadata agent human hchecked := by
    obtain ⟨_, hcaseUids⟩ := Result.seq_ok hchecked
    constructor
    · intro h
      exact (Result.seq_ok h).1
    · intro h
      exact Result.bind_unit_eq_ok_iff.mpr ⟨h, hcaseUids⟩
  own metadata hchecked := by
    obtain ⟨hpair, _⟩ := Result.seq_ok hchecked
    exact ⟨rfl, (validateSuggestionPair_eq_ok_iff.mp hpair).1⟩

theorem caseAgent?_eq_ok {suggestion : Option CollectionAgentSuggestion}
    {agent : Option CaseAgentSuggestion} (h : caseAgent? suggestion = .ok agent) :
    suggestion = agent.map .case := by
  match suggestion with
  | none =>
    cases h
    rfl
  | some (.case _) =>
    cases h
    rfl

theorem notificationAgent?_eq_ok {suggestion : Option CollectionAgentSuggestion}
    {agent : Option NotificationAgentSuggestion} (h : notificationAgent? suggestion = .ok agent) :
    suggestion = agent.map .notification := by
  match suggestion with
  | none =>
    cases h
    rfl
  | some (.notification _) =>
    cases h
    rfl

theorem validateCaseSuggestionPair_map (rules : Host) (agent : Option CaseAgentSuggestion)
    (human : Option CaseHumanSuggestion) :
    validateCaseSuggestionPair rules (agent.map .case) (human.map .case) =
      validateSuggestionPair (validateCaseAction rules) agent human := by
  cases agent <;> cases human <;> rfl

theorem validateNotificationSuggestionPair_map (rules : Host)
    (agent : Option NotificationAgentSuggestion) (human : Option NotificationHumanSuggestion) :
    validateNotificationSuggestionPair rules (agent.map .notification)
        (human.map .notification) =
      validateSuggestionPair (validateNotificationAction rules) agent human := by
  cases agent <;> cases human <;> rfl

theorem agent_caseItem {case_ : CaseRecord} {agent : Option CaseAgentSuggestion}
    (h : case_.agentSuggestion = agent.map .case) : (suggestedCase host).agent case_ = agent := by
  cases case_
  cases agent <;> cases h <;> rfl

theorem agent_notificationItem {notification : NotificationRecord}
    {agent : Option NotificationAgentSuggestion}
    (h : notification.agentSuggestion = agent.map .notification) :
    (suggestedNotification host).agent notification = agent := by
  cases notification
  cases agent <;> cases h <;> rfl

theorem checksPair_suggestedCase : (suggestedCase host).ChecksPair where
  check_iff case_ agent human _ := by
    change validateCaseSuggestionPair host.toHost (agent.map .case) (human.map .case) = _ ↔ _
    rw [validateCaseSuggestionPair_map]
    rfl
  own case_ hchecked := by
    obtain ⟨agent, hagent, hpair⟩ := Result.bind_ok hchecked
    obtain ⟨human, _, hpair⟩ := Result.bind_ok hpair
    have hfile := caseAgent?_eq_ok hagent
    rw [agent_caseItem host hfile]
    refine ⟨?_, (validateSuggestionPair_eq_ok_iff.mp hpair).1⟩
    change { case_ with agentSuggestion := agent.map .case } = case_
    rw [← hfile]

theorem checksPair_suggestedNotification : (suggestedNotification host).ChecksPair where
  check_iff notification agent human _ := by
    change validateNotificationSuggestionPair host.toHost (agent.map .notification)
      (human.map .notification) = _ ↔ _
    rw [validateNotificationSuggestionPair_map]
    rfl
  own notification hchecked := by
    obtain ⟨agent, hagent, hpair⟩ := Result.bind_ok hchecked
    obtain ⟨human, _, hpair⟩ := Result.bind_ok hpair
    have hfile := notificationAgent?_eq_ok hagent
    rw [agent_notificationItem host hfile]
    refine ⟨?_, (validateSuggestionPair_eq_ok_iff.mp hpair).1⟩
    change { notification with agentSuggestion := agent.map .notification } = notification
    rw [← hfile]

end Accepts

theorem SuggestionSession.keeps {rules : Host} {before after : WorkspaceTree}
    {events : List TreeEvent} (h : SuggestionSession rules before events after)
    (hvalid : SuggestionsValid rules before.workspace) :
    SuggestionsValid rules after.workspace := by
  have hwrite : ∀ {t t' : WorkspaceTree}, TreeWrite rules t t' →
      SuggestionsValid rules t.workspace → SuggestionsValid rules t'.workspace :=
    fun hwrite hvalid => hvalid.write hwrite
  cases h with
  | command hrules hcommand hexec => exact hexec.preserves (hcommand.writes hrules) hwrite hvalid
  | other hwrites hexec => exact hexec.preserves hwrites hwrite hvalid

/-- A host for reviews of texts that nothing is known about. -/
def plainReviewHost : ReviewHost where
  toHost := plainHost
  parseMail _ := none
  native _ := .error { errorCode := "native_message_invalid", message := "" }
  cloudflareDirection := .inbound
  matchIdentities := .ok fun _ => {}
  safeAttachmentFilename _ name := name
  defaultIdentityEmail := .ok "me@example.com"
  analyzeMessage _ _ := .null
  analyzeDraft _ _ _ := .ok .null
  fingerprint _ := "sha256"

def answerTreeRequests (_ : Unit) : (request : TreeRequest) → Except AppError String × Unit
  | .newEventId => (.ok "event_1", ())

def oneNotification : WorkspaceTree where
  workspace :=
    { config := .default
      notifications := (∅ : Std.ExtTreeMap String NotificationRecord).insert "n20240101001"
        { group := "", dirName := "n20240101001-news", notificationName := "News",
          notes := some "" } }

def proposeRename : TreeCommand NotificationAgentSuggestion :=
  setNotificationAgentSuggestion plainReviewHost "n20240101001" "sha256"
    (.notificationRename "Letters") " shorter " (some 80)

def acceptRename : TreeCommand NotificationHumanSuggestion :=
  setNotificationHumanSuggestion plainReviewHost
    { itemRef := "n20240101001", basedOnAgentSuggestionUid := some "agent_suggestion_1"
      reviewBaseHash := "sha256", outcome := .accepted
      suggestedAction := some (.notificationRename "Letters") }

def treeAfter (program : TreeCommand α) (tree : WorkspaceTree) : WorkspaceTree :=
  (program.run answerTreeRequests tree ()).2.1

def renameAccepted : WorkspaceTree :=
  treeAfter acceptRename (treeAfter proposeRename oneNotification)

end AgentFirstMail
