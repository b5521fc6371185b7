import AgentFirstMail.Review.PageFreshness

namespace AgentFirstMail
open Effect TreeCommand

/-- A refusal for another reason than that something changed. -/
def AppError.NotStale (error : AppError) : Prop := error.errorCode ≠ "review_stale"

theorem AppError.NotStale.of_code {error : AppError}
    (h : (error.errorCode != "review_stale") = true) : error.NotStale := bne_iff_ne.mp h

section Validation
variable {host : Host}

theorem notStale_invalidSuggestion (message : String) : (invalidSuggestion message).NotStale := .of_code rfl

theorem notStale_checkedSuggestionText (field value : String) :
    (checkedSuggestionText field value).Fails AppError.NotStale := by
  unfold checkedSuggestionText
  dsimp only
  split
  · exact .failure (notStale_invalidSuggestion _)
  · exact .ok _

theorem notStale_checkedConfidencePercent (value : Option UInt8) :
    (checkedConfidencePercent value).Fails AppError.NotStale := by
  unfold checkedConfidencePercent
  split
  · exact .failure (notStale_invalidSuggestion _)
  · exact .ok _

theorem notStale_validateId (label value : String) :
    (validateId host label value).Fails AppError.NotStale :=
  .ensure (.of_code rfl)

theorem notStale_validateName (label value : String) :
    (validateName host label value).Fails AppError.NotStale :=
  .bind (.ensure (.of_code rfl)) fun _ _ => notStale_validateId _ _

theorem notStale_validateMessageAction (action : MessageSuggestedAction) :
    (validateMessageAction host action).Fails AppError.NotStale := by
  cases action with
  | caseCreate caseName group =>
    refine .bind (notStale_checkedSuggestionText _ _) fun _ _ => ?_
    refine .bind (notStale_validateName _ _) fun _ _ => ?_
    exact .bind (notStale_checkedSuggestionText _ _) fun _ _ => notStale_validateId _ _
  | caseAdd caseRef => exact .bind (notStale_checkedSuggestionText _ _) fun _ _ => .ok _
  | notificationCreate notificationName summary =>
    refine .bind (notStale_checkedSuggestionText _ _) fun _ _ => ?_
    refine .bind (notStale_validateName _ _) fun _ _ => ?_
    exact .bind (notStale_checkedSuggestionText _ _) fun _ _ => .ok _
  | notificationAdd notificationRef summary =>
    refine .bind (notStale_checkedSuggestionText _ _) fun _ _ => ?_
    exact .bind (notStale_checkedSuggestionText _ _) fun _ _ => .ok _
  | spam => exact .ok _
  | trash => exact .ok _

theorem notStale_validateCaseAction (action : CaseSuggestedAction) :
    (validateCaseAction host action).Fails AppError.NotStale := by
  cases action with
  | caseRename caseName =>
    exact .bind (notStale_checkedSuggestionText _ _) fun _ _ => notStale_validateName _ _
  | caseUnarchive group | caseMove group | caseTag group | caseUntag group =>
    exact .bind (notStale_checkedSuggestionText _ _) fun _ _ => notStale_validateId _ _
  | caseArchive | caseTrash | caseDelete _ => exact .ok _

theorem notStale_validateNotificationAction (action : NotificationSuggestedAction) :
    (validateNotificationAction host action).Fails AppError.NotStale := by
  cases action with
  | notificationRename notificationName =>
    exact .bind (notStale_checkedSuggestionText _ _) fun _ _ => notStale_validateName _ _
  | notificationDelete _ => exact .ok _

variable [DecidableEq α] {validateAction : α → Result Unit}

theorem notStale_validateHumanSuggestionFields
    (haction : ∀ action, (validateAction action).Fails AppError.NotStale)
    (outcome : HumanSuggestionOutcome) (basedOn : Option String) (action : Option α)
    (reason : Option String) (agentAction : Option α) :
    (validateHumanSuggestionFields validateAction outcome basedOn action reason
      agentAction).Fails AppError.NotStale := by
  have hchecked : ∀ message, (checkedAction validateAction action
      (invalidHumanSuggestion message)).Fails AppError.NotStale := by
    intro message
    cases action with
    | none => exact .failure (.of_code rfl)
    | some action => exact .bind (haction action) fun _ _ => .ok _
  cases outcome with
  | accepted =>
    exact .bind (.ensure (.of_code rfl)) fun _ _ => .ensure (.of_code rfl)
  | changed =>
    refine .bind (.ensure (.of_code rfl)) fun _ _ => ?_
    exact .bind (hchecked _) fun _ _ => .ensure (.of_code rfl)
  | rejected => exact .ensure (.of_code rfl)
  | decided =>
    refine .bind (.ensure (.of_code rfl)) fun _ _ => ?_
    exact .bind (hchecked _) fun _ _ => .ok _

theorem notStale_validateSuggestionPair
    (haction : ∀ action, (validateAction action).Fails AppError.NotStale)
    (agent : Option (AgentSuggestion α)) (human : Option (HumanSuggestion α)) :
    (validateSuggestionPair validateAction agent human).Fails AppError.NotStale := by
  have htext := notStale_checkedSuggestionText
  refine .bind ?_ fun _ _ => ?_
  · cases agent with
    | none => exact .ok _
    | some agent =>
      refine .bind ?_ fun _ _ => haction _
      refine .bind (htext _ _) fun _ _ => .bind (htext _ _) fun _ _ => ?_
      refine .bind (htext _ _) fun _ _ => ?_
      exact .bind (notStale_checkedConfidencePercent _) fun _ _ =>
        .bind (htext _ _) fun _ _ => .ok _
  · cases human with
    | none => exact .ok _
    | some human =>
      refine .bind ?_ fun _ _ => .bind ?_ fun _ _ => ?_
      · refine .bind (htext _ _) fun _ _ => .bind ?_ fun _ _ => .bind (htext _ _) fun _ _ => ?_
        · cases human.basedOnAgentSuggestionUid with
          | none => exact .ok _
          | some uid => exact .bind (htext _ _) fun _ _ => .ok _
        · exact .bind (htext _ _) fun _ _ => .ok _
      · unfold bindHumanToAgent
        split
        · exact .ok _
        · split
          · exact .ok _
          · exact .failure (.of_code rfl)
        · exact .failure (.of_code rfl)
      · exact notStale_validateHumanSuggestionFields haction _ _ _ _ _

end Validation

/-- The decisions on what an agent proposed. -/
def SettleFields.Answers (fields : SettleFields) : Prop :=
  settleField fields "decision" ∈ ["accept", "reject", "override_spam", "override_trash"]

section Decisions
variable {fields : SettleFields}

theorem notStale_requiredField (name : String) :
    (requiredField fields name).Fails AppError.NotStale := by
  unfold requiredField
  split
  · exact .ok _
  · exact .failure (.of_code rfl)

/-- What a decision answers is the proposal that it was made on, and only some decisions answer
one. -/
structure DecidesOn (decide : Option (AgentSuggestion α) → SettleFields → Result (Decision α)) :
    Prop where
  notStale : ∀ agent fields, (decide agent fields).Fails AppError.NotStale
  answers : ∀ (agent : Option (AgentSuggestion α)) (fields : SettleFields) (decision : Decision α)
    (uid : String), decide agent fields = .ok decision →
    decision.basedOnAgentSuggestionUid = some uid →
    agent.map (·.agentSuggestionUid) = some uid ∧ fields.Answers

namespace Decision
variable {agent : Option (AgentSuggestion α)} {decision : Decision α} {uid : String}

theorem notStale_accept {confirmed : α → Result Unit}
    (h : ∀ action, (confirmed action).Fails AppError.NotStale) :
    (accept agent confirmed).Fails AppError.NotStale := by
  cases agent with
  | none => exact .failure (.of_code rfl)
  | some agent => exact .bind (h _) fun _ _ => .ok _

theorem accept_answers {confirmed : α → Result Unit}
    (h : accept agent confirmed = .ok decision)
    (huid : decision.basedOnAgentSuggestionUid = some uid) :
    agent.map (·.agentSuggestionUid) = some uid := by
  cases agent with
  | none => cases h
  | some agent =>
    obtain ⟨_, h⟩ := Result.seq_ok h
    cases h
    exact huid

theorem notStale_reject : (reject agent fields).Fails AppError.NotStale := by
  unfold reject
  split
  · exact .failure (.of_code rfl)
  · exact .ok _

theorem reject_answers (h : reject agent fields = .ok decision)
    (huid : decision.basedOnAgentSuggestionUid = some uid) :
    agent.map (·.agentSuggestionUid) = some uid := by
  unfold reject at h
  split at h
  · cases h
  · cases h
    exact huid

theorem notStale_override {what : String} {action : α} :
    (override agent fields what action).Fails AppError.NotStale := by
  unfold override
  split
  · exact .failure (.of_code rfl)
  · split
    · exact .failure (.of_code rfl)
    · exact .ok _

theorem override_answers {what : String} {action : α}
    (h : override agent fields what action = .ok decision)
    (huid : decision.basedOnAgentSuggestionUid = some uid) :
    agent.map (·.agentSuggestionUid) = some uid := by
  unfold override at h
  split at h
  · cases h
  · split at h
    · cases h
    · cases h
      exact huid

end Decision

theorem decidesOn_message : DecidesOn messageDecision where
  notStale agent fields := by
    have hfield := @notStale_requiredField fields
    unfold messageDecision
    split
    · exact Decision.notStale_accept fun _ => .ok _
    · exact Decision.notStale_reject
    · exact Decision.notStale_override
    · exact Decision.notStale_override
    · exact .bind (hfield _) fun _ _ => .bind (hfield _) fun _ _ => .ok _
    · exact .bind (hfield _) fun _ _ => .ok _
    · exact .bind (hfield _) fun _ _ => .bind (hfield _) fun _ _ => .ok _
    · exact .bind (hfield _) fun _ _ => .bind (hfield _) fun _ _ => .ok _
    · exact .ok _
    · exact .ok _
    · exact .failure (.of_code rfl)
  answers agent fields decision uid h huid := by
    unfold messageDecision at h
    unfold SettleFields.Answers
    split at h
    · rename_i hfield
      exact ⟨Decision.accept_answers h huid, by rw [hfield]; decide⟩
    · rename_i hfield
      exact ⟨Decision.reject_answers h huid, by rw [hfield]; decide⟩
    · rename_i hfield
      exact ⟨Decision.override_answers h huid, by rw [hfield]; decide⟩
    · rename_i hfield
      exact ⟨Decision.override_answers h huid, by rw [hfield]; decide⟩
    · obtain ⟨_, _, h⟩ := Result.bind_ok h
      obtain ⟨_, _, h⟩ := Result.bind_ok h
      cases h
      cases huid
    · obtain ⟨_, _, h⟩ := Result.bind_ok h
      cases h
      cases huid
    · obtain ⟨_, _, h⟩ := Result.bind_ok h
      obtain ⟨_, _, h⟩ := Result.bind_ok h
      cases h
      cases huid
    · obtain ⟨_, _, h⟩ := Result.bind_ok h
      obtain ⟨_, _, h⟩ := Result.bind_ok h
      cases h
      cases huid
    · cases h
      cases huid
    · cases h
      cases huid
    · cases h

theorem notStale_notesDeletionConfirmed (kind : String) (allowNotes : Bool)
    (hkind : (s!"invalid_{kind}_decision" != "review_stale") = true) :
    (notesDeletionConfirmed fields kind allowNotes).Fails AppError.NotStale :=
  .ensure (.of_code hkind)

theorem decidesOn_case : DecidesOn caseDecision where
  notStale agent fields := by
    have hfield := @notStale_requiredField fields
    unfold caseDecision
    split
    · refine Decision.notStale_accept fun action => ?_
      split
      · exact notStale_notesDeletionConfirmed "case" _ rfl
      · exact .ok _
    · exact Decision.notStale_reject
    · exact .ok _
    · exact .bind (hfield _) fun _ _ => .ok _
    · exact .bind (hfield _) fun _ _ => .ok _
    · exact .bind (hfield _) fun _ _ => .ok _
    · exact .bind (hfield _) fun _ _ => .ok _
    · exact .bind (hfield _) fun _ _ => .ok _
    · exact .ok _
    · exact .ok _
    · exact .failure (.of_code rfl)
  answers agent fields decision uid h huid := by
    unfold caseDecision at h
    unfold SettleFields.Answers
    split at h
    · rename_i hfield
      exact ⟨Decision.accept_answers h huid, by rw [hfield]; decide⟩
    · rename_i hfield
      exact ⟨Decision.reject_answers h huid, by rw [hfield]; decide⟩
    · cases h
      cases huid
    · obtain ⟨_, _, h⟩ := Result.bind_ok h
      cases h
      cases huid
    · obtain ⟨_, _, h⟩ := Result.bind_ok h
      cases h
      cases huid
    · obtain ⟨_, _, h⟩ := Result.bind_ok h
      cases h
      cases huid
    · obtain ⟨_, _, h⟩ := Result.bind_ok h
      cases h
      cases huid
    · obtain ⟨_, _, h⟩ := Result.bind_ok h
      cases h
      cases huid
    · cases h
      cases huid
    · cases h
      cases huid
    · cases h

theorem decidesOn_notification : DecidesOn notificationDecision where
  notStale agent fields := by
    unfold notificationDecision
    split
    · refine Decision.notStale_accept fun action => ?_
      split
      · exact notStale_notesDeletionConfirmed "notification" _ rfl
      · exact .ok _
    · exact Decision.notStale_reject
    · exact .bind (notStale_requiredField _) fun _ _ => .ok _
    · exact .ok _
    · exact .failure (.of_code rfl)
  answers agent fields decision uid h huid := by
    unfold notificationDecision at h
    unfold SettleFields.Answers
    split at h
    · rename_i hfield
      exact ⟨Decision.accept_answers h huid, by rw [hfield]; decide⟩
    · rename_i hfield
      exact ⟨Decision.reject_answers h huid, by rw [hfield]; decide⟩
    · obtain ⟨_, _, h⟩ := Result.bind_ok h
      cases h
      cases huid
    · cases h
      cases huid
    · cases h

end Decisions

/-- A program that fails without its environment failing does not tell that something changed. -/
abbrev Unstale : AppError → Assertion WorkspaceTree TreeRequest (fun _ => String) AppError :=
  fun error history _ => (∀ event ∈ history, event.Answered) → error.NotStale

section Settling
variable {host : PageHost} {tree : WorkspaceTree} {history : List TreeEvent}

theorem wp_attempted {p : TreeCommand α}
    {abort : AppError → Assertion WorkspaceTree TreeRequest (fun _ => String) AppError} :
    Program.wp (fun _ _ => True) (fun _ _ _ => True) abort p.attempt history tree := by
  apply Program.wp_attempt.mpr
  apply Program.wp_complete
  intro _ outcome _ _
  refine ⟨trivial, ?_⟩
  cases outcome <;> trivial

/-- What follows on a settlement that passed its checks is not refused as stale. -/
theorem wp_settle_notStale {item : SuggestedItem α ι} {uid : String} {file : ι}
    {input : HumanSuggestionInput α} (hcheck : ∀ file, (item.check file).Fails AppError.NotStale) :
    Program.wp (fun _ _ => True) (fun _ _ _ => True) Unstale
      (item.settle host.toHost uid file input) history tree := by
  refine wp_then ⟨trivial, fun reply => ⟨trivial, ?_⟩⟩
  cases reply with
  | error error =>
    intro hanswered
    obtain ⟨_, hreply⟩ := hanswered _ (List.mem_append_right _ List.mem_cons_self)
    cases hreply
  | ok eventId =>
    apply wp_then
    apply wp_treeCheck
    · intro _ _
      refine ⟨trivial, wp_then (wp_then ?_)⟩
      refine Program.wp_mono wp_attempted (fun projection history t _ => ?_) fun _ _ _ h => h
      refine wp_then (Program.wp_mono wp_attempted (fun audit history t _ => ?_)
        fun _ _ _ h => h)
      split
      · trivial
      · exact fun _ => .of_code rfl
    · exact fun error h _ => hcheck _ error h

/-- A settlement of an item that is as it was shown is not refused as stale, unless it answers a
proposal that was made for another state of the item. -/
theorem wp_settleItemInWorkspace_notStale [DecidableEq α] {item : SuggestedItem α ι}
    {currentAgent : WorkspaceTree → String → Result (Option (AgentSuggestion α))}
    {decide : Option (AgentSuggestion α) → SettleFields → Result (Decision α)}
    {itemRef reviewBaseHash uid : String} {expected : Option String} {fields : SettleFields}
    {agent : Option (AgentSuggestion α)} (hagent : currentAgent tree itemRef = .ok agent)
    (hround : expected = agent.map (·.agentSuggestionUid))
    (hreference : (item.checkRef itemRef).Fails AppError.NotStale)
    (hresolved : item.settled tree itemRef = .ok uid)
    (hread : (item.read tree.workspace uid).Fails AppError.NotStale)
    (hfile : ∀ file, item.read tree.workspace uid = .ok file → item.agent file = agent)
    (hhash : item.reviewBaseHash tree uid = .ok reviewBaseHash)
    (hcheck : ∀ file, (item.check file).Fails AppError.NotStale)
    (haction : ∀ action, (item.validateAction action).Fails AppError.NotStale)
    (hdecides : DecidesOn decide)
    (hanswers : fields.Answers → ∀ current, agent = some current →
      current.reviewBaseHash = reviewBaseHash) :
    Program.wp (fun _ _ => True) (fun _ _ _ => True) Unstale
      (settleItemInWorkspace host item currentAgent decide itemRef reviewBaseHash expected fields)
      history tree := by
  refine wp_settleItemInWorkspace (fun error hrefused _ => ?_) fun _ _ _ _ _ =>
    wp_settle_notStale hcheck
  cases hrefused with
  | locked h =>
    obtain ⟨_, rfl⟩ := ensure_eq_error_iff.mp h
    exact .of_code rfl
  | unproposed h => cases h.symm.trans hagent
  | round h hne =>
    cases h.symm.trans hagent
    exact (hne hround).elim
  | undecided _ h => exact hdecides.notStale _ _ error h
  | reference h => exact hreference error h
  | unresolved h => cases h.symm.trans hresolved
  | unread h hfailed =>
    cases h.symm.trans hresolved
    exact hread error hfailed
  | unhashed h hfailed =>
    cases h.symm.trans hresolved
    cases hfailed.symm.trans hhash
  | stale h hcurrent hne =>
    cases h.symm.trans hresolved
    exact (hne (Except.ok.inj (hcurrent.symm.trans hhash))).elim
  | @unanswered found uid' file decision _ hchecked hanswered =>
    cases hchecked.proposed.symm.trans hagent
    cases hchecked.resolved.symm.trans hresolved
    rw [hfile file hchecked.found] at hanswered
    cases hbased : decision.basedOnAgentSuggestionUid with
    | none =>
      rw [hbased] at hanswered
      cases hanswered
    | some basedOn =>
      obtain ⟨hsame, hanswer⟩ := hdecides.answers _ _ _ _ hchecked.decided hbased
      obtain ⟨current, rfl, rfl⟩ := Option.map_eq_some_iff.mp hsame
      rw [hbased] at hanswered
      unfold SuggestedItem.answeredAction at hanswered
      dsimp only at hanswered
      rw [if_pos ⟨rfl, hanswers hanswer current rfl⟩] at hanswered
      cases hanswered
  | invalid h => exact notStale_validateHumanSuggestionFields haction _ _ _ _ _ error h

theorem wp_settleItemInWorkspace_unproposed [DecidableEq α] {item : SuggestedItem α ι}
    {currentAgent : WorkspaceTree → String → Result (Option (AgentSuggestion α))}
    {decide : Option (AgentSuggestion α) → SettleFields → Result (Decision α)}
    {itemRef reviewBaseHash : String} {expected : Option String} {fields : SettleFields}
    {error : AppError} (hagent : currentAgent tree itemRef = .error error)
    (herror : error.NotStale) :
    Program.wp (fun _ _ => True) (fun _ _ _ => True) Unstale
      (settleItemInWorkspace host item currentAgent decide itemRef reviewBaseHash expected fields)
      history tree := by
  refine wp_acquireReviewWriteLock (fun _ => ?_) fun error h _ => ?_
  · refine wp_treeCheck (fun agent h => (nomatch h.symm.trans hagent)) fun other h _ => ?_
    cases h.symm.trans hagent
    exact herror
  · obtain ⟨_, rfl⟩ := ensure_eq_error_iff.mp h
    exact .of_code rfl

end Settling

section Checks
variable {host : Host}

theorem notStale_validateCaseSuggestionPair (agent : Option CollectionAgentSuggestion)
    (human : Option CollectionHumanSuggestion) :
    (validateCaseSuggestionPair host agent human).Fails AppError.NotStale := by
  refine .bind ?_ fun _ _ => .bind ?_ fun _ _ =>
    notStale_validateSuggestionPair notStale_validateCaseAction _ _
  · unfold caseAgent?
    split
    · exact .ok _
    · exact .ok _
    · exact .failure (.of_code rfl)
  · unfold caseHuman?
    split
    · exact .ok _
    · exact .ok _
    · exact .failure (.of_code rfl)

theorem notStale_validateNotificationSuggestionPair (agent : Option CollectionAgentSuggestion)
    (human : Option CollectionHumanSuggestion) :
    (validateNotificationSuggestionPair host agent human).Fails AppError.NotStale := by
  refine .bind ?_ fun _ _ => .bind ?_ fun _ _ =>
    notStale_validateSuggestionPair notStale_validateNotificationAction _ _
  · unfold notificationAgent?
    split
    · exact .ok _
    · exact .ok _
    · exact .failure (.of_code rfl)
  · unfold notificationHuman?
    split
    · exact .ok _
    · exact .ok _
    · exact .failure (.of_code rfl)

theorem notStale_checkCaseUids (seen caseUids : List String) :
    (checkCaseUids host seen caseUids).Fails AppError.NotStale := by
  induction caseUids generalizing seen with
  | nil => exact .ok _
  | cons caseUid rest ih =>
    refine .bind (notStale_validateId _ _) fun _ _ => ?_
    exact .bind (.ensure (.of_code rfl)) fun _ _ => ih _

theorem notStale_checkMessageMetadata (metadata : MessageMetadata) :
    (checkMessageMetadata host metadata).Fails AppError.NotStale := by
  refine .bind (notStale_validateSuggestionPair notStale_validateMessageAction _ _) fun _ _ => ?_
  unfold validateCaseRelationshipSuggestion
  split
  · exact .ok _
  · exact .bind (.ensure (.of_code rfl)) fun _ _ => notStale_checkCaseUids _ _

end Checks

/-- The proposal for an item was made for its documents as they are. -/
def CurrentItem.Proposed (host : PageHost) (current : CurrentItem) : Prop :=
  ∀ hash, current.proposedFor = some hash → hash = host.fingerprint current.document

section Agents
variable (host : ReviewHost) (uid : String) (messages : List MessageRenderDocument)
  (location : Option String)

theorem agent_case (case_ : CaseRecord) : (suggestedCase host).agent case_ =
    CollectionRenderDocument.caseAgent ⟨case_.collection uid, messages, location⟩ := by
  unfold CollectionRenderDocument.caseAgent
  cases case_
  rename_i agent _
  dsimp only [CaseRecord.collection, suggestedCase]
  rcases agent with _ | agent | agent <;> rfl

theorem agent_notification (notification : NotificationRecord) :
    (suggestedNotification host).agent notification =
      CollectionRenderDocument.notificationAgent
        ⟨notification.collection uid, messages, location⟩ := by
  unfold CollectionRenderDocument.notificationAgent
  cases notification
  rename_i agent _
  dsimp only [NotificationRecord.collection, suggestedNotification]
  rcases agent with _ | agent | agent <;> rfl

end Agents

section Items
variable {host : PageHost} {tree : WorkspaceTree} {history : List TreeEvent}
  {fields : SettleFields} {shown : ShownItem} {current : CurrentItem} {reviewBaseHash : String}

theorem wp_settleMessage_notStale {messageId : String}
    (hcurrent : currentItem host tree .triage messageId = .ok current)
    (hshown : current.toShownItem = shown) (hhash : reviewBaseHash = host.fingerprint shown.document)
    (hanswers : fields.Answers → current.Proposed host) :
    Program.wp (fun _ _ => True) (fun _ _ _ => True) Unstale
      (settleMessageInWorkspace host messageId reviewBaseHash shown.agentSuggestionUid fields)
      history tree := by
  obtain ⟨document, hdocument, h⟩ := Result.bind_ok hcurrent
  obtain ⟨agent, hagent, h⟩ := Result.bind_ok h
  cases h
  cases hshown
  subst hhash
  obtain ⟨_, hread⟩ := Result.seq_ok hagent
  obtain ⟨_, _, hread⟩ := Result.bind_ok hread
  obtain ⟨metadata, hmetadata, hread⟩ := Result.bind_ok hread
  cases hread
  refine wp_settleItemInWorkspace_notStale hagent rfl (notStale_validateId _ _)
    rfl ?_ ?_ (messageReviewBaseHash_eq_ok.mpr ⟨document, hdocument, rfl⟩)
    notStale_checkMessageMetadata notStale_validateMessageAction decidesOn_message ?_
  · refine .bind (fun error h => (nomatch h.symm.trans hmetadata)) fun found _ => ?_
    split
    · exact .ok _
    · exact .failure (.of_code rfl)
  · intro file hfile
    obtain ⟨found, hfound, hfile⟩ := Result.bind_ok hfile
    cases hfound.symm.trans hmetadata
    split at hfile
    · cases hfile
      rfl
    · cases hfile
  · intro hanswer proposed hproposed
    exact hanswers hanswer _ (by rw [hproposed]; rfl)

theorem wp_settleCase_notStale {caseRef messageId : String}
    (hcurrent : currentItem host tree (.case caseRef) messageId = .ok current)
    (hshown : current.toShownItem = shown) (hhash : reviewBaseHash = host.fingerprint shown.document)
    (hanswers : fields.Answers → current.Proposed host) :
    Program.wp (fun _ _ => True) (fun _ _ _ => True) Unstale
      (settleCaseInWorkspace host caseRef reviewBaseHash shown.agentSuggestionUid fields)
      history tree := by
  obtain ⟨caseUid, huid, h⟩ := Result.bind_ok hcurrent
  obtain ⟨collection, hcollection, h⟩ := Result.bind_ok h
  obtain ⟨notes, hnotes, h⟩ := Result.bind_ok h
  obtain ⟨drafts, hdrafts, h⟩ := Result.bind_ok h
  cases h
  cases hshown
  subst hhash
  obtain ⟨case_, hfile, hread⟩ := Result.bind_ok hcollection
  obtain ⟨messages, _, hread⟩ := Result.bind_ok hread
  have hagent : currentCaseAgentSuggestion host tree caseRef = .ok collection.caseAgent :=
    Result.bind_eq_ok_iff.mpr ⟨caseUid, huid, Result.bind_eq_ok_iff.mpr
      ⟨collection, hcollection, rfl⟩⟩
  refine wp_settleItemInWorkspace_notStale hagent rfl (.ok _) huid
    (fun error h => (nomatch h.symm.trans hfile)) ?_
    (caseReviewBaseHash_eq_ok.mpr ⟨collection, notes, drafts, hcollection, hnotes, hdrafts, rfl⟩)
    (fun _ => notStale_validateCaseSuggestionPair _ _) notStale_validateCaseAction decidesOn_case ?_
  · intro file hfound
    cases hfound.symm.trans hfile
    cases hread
    exact agent_case host.toReviewHost caseUid messages _ case_
  · intro hanswer proposed hproposed
    exact hanswers hanswer _ (by rw [hproposed]; rfl)

theorem wp_settleNotification_notStale {notificationRef messageId : String}
    (hcurrent : currentItem host tree (.notification notificationRef) messageId = .ok current)
    (hshown : current.toShownItem = shown) (hhash : reviewBaseHash = host.fingerprint shown.document)
    (hanswers : fields.Answers → current.Proposed host) :
    Program.wp (fun _ _ => True) (fun _ _ _ => True) Unstale
      (settleNotificationInWorkspace host notificationRef reviewBaseHash shown.agentSuggestionUid
        fields) history tree := by
  obtain ⟨notificationUid, huid, h⟩ := Result.bind_ok hcurrent
  obtain ⟨collection, hcollection, h⟩ := Result.bind_ok h
  obtain ⟨notes, hnotes, h⟩ := Result.bind_ok h
  cases h
  cases hshown
  subst hhash
  obtain ⟨notification, hfile, hread⟩ := Result.bind_ok hcollection
  obtain ⟨messages, _, hread⟩ := Result.bind_ok hread
  have hagent : currentNotificationAgentSuggestion host tree notificationRef =
      .ok collection.notificationAgent :=
    Result.bind_eq_ok_iff.mpr ⟨notificationUid, huid, Result.bind_eq_ok_iff.mpr
      ⟨collection, hcollection, rfl⟩⟩
  refine wp_settleItemInWorkspace_notStale hagent rfl (.ok _) huid
    (fun error h => (nomatch h.symm.trans hfile)) ?_
    (notificationReviewBaseHash_eq_ok.mpr ⟨collection, notes, hcollection, hnotes, rfl⟩)
    (fun _ => notStale_validateNotificationSuggestionPair _ _)
    notStale_validateNotificationAction decidesOn_notification ?_
  · intro file hfound
    cases hfound.symm.trans hfile
    cases hread
    exact agent_notification host.toReviewHost notificationUid messages _ notification
  · intro hanswer proposed hproposed
    exact hanswers hanswer _ (by rw [hproposed]; rfl)

/-- A settlement of an item that is as the server has it is not refused as stale, unless it answers
a proposal that was made for another state of the item. -/
theorem wp_settleFromFields_notStale {surface : ReviewSurface} {model : ReviewContents}
    (hhashed : model.Hashed host surface)
    (hcurrent : LeftTriage host surface tree (settledMessageId fields) ∨
      Shows host surface tree model (settledMessageId fields))
    (hanswers : fields.Answers → ∀ current,
      currentItem host tree surface (settledMessageId fields) = .ok current →
        current.Proposed host) :
    Program.wp (fun _ _ => True) (fun _ _ _ => True) Unstale
      (settleFromFields host surface model fields) history tree := by
  cases hhashed with
  | @triage contents hhashes =>
    refine wp_treeCheck (fun messageId hmessageId => ?_) fun error h _ =>
      notStale_requiredField _ error h
    cases requiredField_eq_ok hmessageId
    dsimp only
    split
    · exact fun _ => .of_code rfl
    · rename_i item hitem
      apply wp_then
      rcases hcurrent with ⟨_, hleft⟩ | hshows
      · exact wp_settleItemInWorkspace_unproposed hleft (.of_code rfl)
      · obtain ⟨current, hfound, hshown⟩ := hshows
          ⟨.message item.document.withoutSuggestions, item.expectedAgentSuggestionUid⟩
          (by rw [ReviewContents.item?_triage]; exact congrArg (Option.map _) hitem)
        exact wp_settleMessage_notStale hfound hshown
          (hhashes item (TriageReviewContents.item?_eq_some hitem).1)
          fun hanswer => hanswers hanswer current hfound
  | case hhash =>
    rcases hcurrent with ⟨hsurface, _⟩ | hshows
    · cases hsurface
    · obtain ⟨current, hfound, hshown⟩ := hshows _ rfl
      apply wp_then
      exact wp_settleCase_notStale hfound hshown hhash
        fun hanswer => hanswers hanswer current hfound
  | notification hhash =>
    rcases hcurrent with ⟨hsurface, _⟩ | hshows
    · cases hsurface
    · obtain ⟨current, hfound, hshown⟩ := hshows _ rfl
      apply wp_then
      exact wp_settleNotification_notStale hfound hshown hhash
        fun hanswer => hanswers hanswer current hfound
  | draft => exact fun _ => .of_code rfl

end Items
end AgentFirstMail
