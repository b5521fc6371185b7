import AgentFirstMail.Review.PageItems

namespace AgentFirstMail
open Effect TreeCommand

section Checks
variable {inv : Assertion WorkspaceTree TreeRequest (fun _ => String) AppError}
  {abort : AppError → Assertion WorkspaceTree TreeRequest (fun _ => String) AppError}
  {history : List TreeEvent} {tree : WorkspaceTree}

theorem wp_treeCheck {result : Result α} {f : α → TreeCommand β}
    {post : β → Assertion WorkspaceTree TreeRequest (fun _ => String) AppError}
    (hpost : ∀ value, result = .ok value → Program.wp inv post abort (f value) history tree)
    (habort : ∀ error, result = .error error → abort error history tree) :
    Program.wp inv post abort (Program.ofExcept result >>= f) history tree := by
  apply wp_then
  cases result with
  | ok value => exact hpost value rfl
  | error error => exact habort error rfl

theorem wp_tree {f : WorkspaceTree → TreeCommand β}
    {post : β → Assertion WorkspaceTree TreeRequest (fun _ => String) AppError} :
    Program.wp inv post abort (TreeCommand.tree >>= f) history tree ↔
      Program.wp inv post abort (f tree) history tree := Program.wp_bind

theorem wp_acquireReviewWriteLock {f : WorkspaceTree → TreeCommand β}
    {post : β → Assertion WorkspaceTree TreeRequest (fun _ => String) AppError}
    (hpost : tree.workspace.ensureNoIncompleteTransactions = .ok () →
      Program.wp inv post abort (f tree) history tree)
    (habort : ∀ error, tree.workspace.ensureNoIncompleteTransactions = .error error →
      abort error history tree) :
    Program.wp inv post abort (acquireReviewWriteLock >>= f) history tree := by
  apply wp_then
  apply wp_tree.mpr
  exact wp_treeCheck (fun _ => hpost) habort

end Checks

theorem ensure_eq_error_iff {condition : Bool} {error error' : AppError} :
    ensure condition error = .error error' ↔ condition = false ∧ error' = error := by
  unfold ensure
  cases condition with
  | true => exact ⟨fun h => (nomatch h), fun h => (nomatch h.1)⟩
  | false => exact ⟨fun h => ⟨rfl, (Except.error.inj h).symm⟩, fun h => congrArg Except.error h.2.symm⟩

/-- The settlement of an item after it passed its checks. -/
def SuggestedItem.settle (item : SuggestedItem α ι) (host : Host) (uid : String) (file : ι)
    (input : HumanSuggestionInput α) : TreeCommand (HumanSuggestion α) := do
  let eventId ← newEventId
  let human : HumanSuggestion α :=
    { humanSuggestionUid := suggestionUid "human_suggestion" eventId
      basedOnAgentSuggestionUid := input.basedOnAgentSuggestionUid
      reviewBaseHash := input.reviewBaseHash
      outcome := input.outcome
      suggestedAction := input.suggestedAction
      reason := cleanOptionalReason input.reason
      createdRfc3339 := host.now }
  item.write uid (item.withHuman file (some human))
  item.followUp host uid human.reason
  return human

section Rule
variable [DecidableEq α] (item : SuggestedItem α ι)
  (currentAgent : WorkspaceTree → String → Result (Option (AgentSuggestion α)))
  (decide : Option (AgentSuggestion α) → SettleFields → Result (Decision α))
  (tree : WorkspaceTree) (itemRef reviewBaseHash : String) (expected : Option String)
  (fields : SettleFields)

/-- What a settlement that is not refused has found of its item. -/
structure SettleChecked (agent : Option (AgentSuggestion α)) (uid : String) (file : ι)
    (decision : Decision α) : Prop where
  proposed : currentAgent tree itemRef = .ok agent
  round : expected = agent.map (·.agentSuggestionUid)
  decided : decide agent fields = .ok decision
  resolved : item.settled tree itemRef = .ok uid
  found : item.read tree.workspace uid = .ok file
  hashed : item.reviewBaseHash tree uid = .ok reviewBaseHash

/-- The ways in which a settlement is refused. -/
inductive SettleRefused : AppError → Prop
  | locked {error : AppError} : tree.workspace.ensureNoIncompleteTransactions = .error error →
      SettleRefused error
  | unproposed {error : AppError} : currentAgent tree itemRef = .error error → SettleRefused error
  | round {agent : Option (AgentSuggestion α)} : currentAgent tree itemRef = .ok agent →
      expected ≠ agent.map (·.agentSuggestionUid) → SettleRefused reviewStale
  | undecided {agent : Option (AgentSuggestion α)} {error : AppError} :
      currentAgent tree itemRef = .ok agent → decide agent fields = .error error →
      SettleRefused error
  | reference {error : AppError} : item.checkRef itemRef = .error error → SettleRefused error
  | unresolved {error : AppError} : item.settled tree itemRef = .error error →
      SettleRefused error
  | unread {uid : String} {error : AppError} : item.settled tree itemRef = .ok uid →
      item.read tree.workspace uid = .error error → SettleRefused error
  | unhashed {uid : String} {error : AppError} : item.settled tree itemRef = .ok uid →
      item.reviewBaseHash tree uid = .error error → SettleRefused error
  | stale {uid hash : String} : item.settled tree itemRef = .ok uid →
      item.reviewBaseHash tree uid = .ok hash → hash ≠ reviewBaseHash →
      SettleRefused (staleSuggestionError item.objectKind uid)
  | unanswered {agent : Option (AgentSuggestion α)} {uid : String} {file : ι}
      {decision : Decision α} {error : AppError} :
      SettleChecked item currentAgent decide tree itemRef reviewBaseHash expected fields agent uid
        file decision →
      item.answeredAction uid (item.agent file) decision.basedOnAgentSuggestionUid
        reviewBaseHash = .error error → SettleRefused error
  | invalid {decision : Decision α} {agentAction : Option α} {error : AppError} :
      validateHumanSuggestionFields item.validateAction decision.outcome
        decision.basedOnAgentSuggestionUid decision.suggestedAction
        (nonEmpty (settleField fields "reason")) agentAction = .error error → SettleRefused error

variable {item currentAgent decide tree itemRef reviewBaseHash expected fields}
  {host : PageHost} {history : List TreeEvent}
  {inv : Assertion WorkspaceTree TreeRequest (fun _ => String) AppError}
  {post : HumanSuggestion α → Assertion WorkspaceTree TreeRequest (fun _ => String) AppError}
  {abort : AppError → Assertion WorkspaceTree TreeRequest (fun _ => String) AppError}

/-- A settlement writes nothing before it passed its checks. -/
theorem wp_settleItemInWorkspace
    (hrefused : ∀ error, SettleRefused item currentAgent decide tree itemRef reviewBaseHash
      expected fields error → abort error history tree)
    (hsettled : ∀ agent uid file decision, SettleChecked item currentAgent decide tree itemRef
      reviewBaseHash expected fields agent uid file decision →
      Program.wp inv post abort (item.settle host.toHost uid file
        { itemRef, basedOnAgentSuggestionUid := decision.basedOnAgentSuggestionUid, reviewBaseHash
          outcome := decision.outcome, suggestedAction := decision.suggestedAction
          reason := nonEmpty (settleField fields "reason") }) history tree) :
    Program.wp inv post abort
      (settleItemInWorkspace host item currentAgent decide itemRef reviewBaseHash expected fields)
      history tree := by
  apply wp_acquireReviewWriteLock _ fun error h => hrefused error (.locked h)
  intro _
  refine wp_treeCheck (fun agent hagent => ?_) fun error h => hrefused error (.unproposed h)
  refine wp_treeCheck (fun _ hround => ?_) fun error h => ?_
  swap
  · obtain ⟨hround, rfl⟩ := ensure_eq_error_iff.mp h
    exact hrefused _ (.round hagent (beq_eq_false_iff_ne.mp hround))
  have hround := eq_of_beq (ensure_eq_ok_iff.mp hround)
  refine wp_treeCheck (fun decision hdecision => ?_) fun error h =>
    hrefused error (.undecided hagent h)
  refine wp_treeCheck (fun _ _ => ?_) fun error h => hrefused error (.reference h)
  apply wp_tree.mpr
  refine wp_treeCheck (fun uid huid => ?_) fun error h => hrefused error (.unresolved h)
  refine wp_treeCheck (fun file hfile => ?_) fun error h => hrefused error (.unread huid h)
  refine wp_treeCheck (fun current hcurrent => ?_) fun error h =>
    hrefused error (.unhashed huid h)
  refine wp_treeCheck (fun _ hsame => ?_) fun error h => ?_
  swap
  · obtain ⟨hsame, rfl⟩ := ensure_eq_error_iff.mp h
    exact hrefused _ (.stale huid hcurrent (beq_eq_false_iff_ne.mp hsame))
  have hhash := eq_of_beq (ensure_eq_ok_iff.mp hsame)
  rw [hhash] at hcurrent
  have hchecked : SettleChecked item currentAgent decide tree itemRef reviewBaseHash expected
      fields agent uid file decision := ⟨hagent, hround, hdecision, huid, hfile, hcurrent⟩
  refine wp_treeCheck (fun agentAction _ => ?_) fun error h =>
    hrefused error (.unanswered hchecked h)
  refine wp_treeCheck (fun _ _ => ?_) fun error h => hrefused error (.invalid h)
  exact hsettled agent uid file decision hchecked

theorem wp_settled {P : Prop} (hp : P) (p : TreeCommand β) :
    Program.wp (fun _ t => t = tree ∨ P) (fun _ _ _ => P) (fun _ _ t => t = tree ∨ P) p history
      tree := by
  apply Program.wp_complete
  intro events outcome t _
  refine ⟨.inr hp, ?_⟩
  cases outcome with
  | returned value => exact hp
  | failed error => exact .inr hp
  | crashed => trivial

theorem wp_settleItemInWorkspace_agreed {P : Prop}
    (hagreed : ∀ agent uid file decision, SettleChecked item currentAgent decide tree itemRef
      reviewBaseHash expected fields agent uid file decision → P) :
    Program.wp (fun _ t => t = tree ∨ P) (fun _ _ _ => P) (fun _ _ t => t = tree ∨ P)
      (settleItemInWorkspace host item currentAgent decide itemRef reviewBaseHash expected fields)
      history tree :=
  wp_settleItemInWorkspace (fun _ _ => .inl rfl) fun agent uid file decision hchecked =>
    wp_settled (hagreed agent uid file decision hchecked) _

end Rule

/-- What a settlement is about agrees with what was shown, as far as the documents' fingerprints
tell. -/
structure SettlesItem (host : PageHost) (surface : ReviewSurface) (tree : WorkspaceTree)
    (contents : ReviewContents) (messageId : String) : Prop where
  agrees : ∃ shown current, contents.item? messageId = some shown ∧
    currentItem host tree surface messageId = .ok current ∧
    current.agentSuggestionUid = shown.agentSuggestionUid ∧
    host.fingerprint current.document = host.fingerprint shown.document

/-- The message that a form names. -/
def settledMessageId (fields : SettleFields) : String := trimmed (settleField fields "message_id")

section Settling
variable {host : PageHost} {tree : WorkspaceTree} {surface : ReviewSurface}
  {contents : ReviewContents} {history : List TreeEvent} {fields : SettleFields}

theorem requiredField_eq_ok {name value : String} (h : requiredField fields name = .ok value) :
    value = trimmed (settleField fields name) := by
  unfold requiredField nonEmpty at h
  split at h
  · rename_i found hfound
    split at hfound
    · cases hfound
    · cases h
      exact (Option.some.inj hfound).symm
  · cases h

theorem TriageReviewContents.item?_eq_some {contents : TriageReviewContents} {messageId : String}
    {item : TriageReviewItem} (h : contents.item? messageId = some item) :
    item ∈ contents.items ∧ item.document.message.message.messageId = messageId := by
  unfold item? at h
  have hname := List.find?_some h
  exact ⟨List.mem_of_find?_eq_some h, eq_of_beq hname⟩

/-- A settlement is written only when the server's copy of the item is the workspace's. -/
theorem wp_settleFromFields (hhashed : contents.Hashed host surface) :
    let P := SettlesItem host surface tree contents (settledMessageId fields)
    Program.wp (fun _ t => t = tree ∨ P) (fun _ _ _ => P) (fun _ _ t => t = tree ∨ P)
      (settleFromFields host surface contents fields) history tree := by
  intro P
  cases hhashed with
  | @triage contents hhashes =>
    refine wp_treeCheck (fun messageId hmessageId => ?_) fun _ _ => .inl rfl
    have hname := requiredField_eq_ok hmessageId
    dsimp only
    split
    · exact .inl rfl
    · rename_i item hitem
      apply wp_then
      refine wp_settleItemInWorkspace_agreed (P := P) fun agent uid file decision hchecked => ?_
      obtain ⟨hagent, hround, _, huid, _, hhash⟩ := hchecked
      cases huid
      obtain ⟨document, hdocument, hsame⟩ := messageReviewBaseHash_eq_ok.mp hhash
      rw [hhashes item (TriageReviewContents.item?_eq_some hitem).1] at hsame
      refine ⟨⟨.message item.document.withoutSuggestions, item.expectedAgentSuggestionUid⟩,
        ⟨⟨.message document.withoutSuggestions, agent.map (·.agentSuggestionUid)⟩,
          agent.map (·.reviewBaseHash)⟩, ?_, ?_, hround.symm, hsame.symm⟩
      · rw [settledMessageId, ← hname, ReviewContents.item?, hitem]
        rfl
      · rw [settledMessageId, ← hname]
        exact Result.bind_eq_ok_iff.mpr ⟨document, hdocument,
          Result.bind_eq_ok_iff.mpr ⟨agent, hagent, rfl⟩⟩
  | @case caseRef contents hhash' =>
    apply wp_then
    refine wp_settleItemInWorkspace_agreed (P := P) fun agent uid file decision hchecked => ?_
    obtain ⟨hagent, hround, _, huid, _, hhash⟩ := hchecked
    obtain ⟨collection, notes, drafts, hcollection, hnotes, hdrafts, hsame⟩ :=
      caseReviewBaseHash_eq_ok.mp hhash
    obtain ⟨found, hfound, hagent⟩ := Result.bind_ok hagent
    cases hfound.symm.trans huid
    obtain ⟨other, hother, hagent⟩ := Result.bind_ok hagent
    cases hother.symm.trans hcollection
    cases hagent
    refine ⟨_, ⟨⟨.case collection.withoutSuggestions notes drafts,
      collection.caseAgent.map (·.agentSuggestionUid)⟩,
      collection.caseAgent.map (·.reviewBaseHash)⟩, rfl, ?_, hround.symm, ?_⟩
    · exact Result.bind_eq_ok_iff.mpr ⟨uid, huid, Result.bind_eq_ok_iff.mpr
        ⟨collection, hcollection, Result.bind_eq_ok_iff.mpr
          ⟨notes, hnotes, Result.bind_eq_ok_iff.mpr ⟨drafts, hdrafts, rfl⟩⟩⟩⟩
    · rw [← hsame, hhash']
  | @notification notificationRef contents hhash' =>
    apply wp_then
    refine wp_settleItemInWorkspace_agreed (P := P) fun agent uid file decision hchecked => ?_
    obtain ⟨hagent, hround, _, huid, _, hhash⟩ := hchecked
    obtain ⟨collection, notes, hcollection, hnotes, hsame⟩ :=
      notificationReviewBaseHash_eq_ok.mp hhash
    obtain ⟨found, hfound, hagent⟩ := Result.bind_ok hagent
    cases hfound.symm.trans huid
    obtain ⟨other, hother, hagent⟩ := Result.bind_ok hagent
    cases hother.symm.trans hcollection
    cases hagent
    refine ⟨_, ⟨⟨.notification collection.withoutSuggestions notes,
      collection.notificationAgent.map (·.agentSuggestionUid)⟩,
      collection.notificationAgent.map (·.reviewBaseHash)⟩, rfl, ?_, hround.symm, ?_⟩
    · exact Result.bind_eq_ok_iff.mpr ⟨uid, huid, Result.bind_eq_ok_iff.mpr
        ⟨collection, hcollection, Result.bind_eq_ok_iff.mpr ⟨notes, hnotes, rfl⟩⟩⟩
    · rw [← hsame, hhash']
  | draft => exact .inl rfl

end Settling
end AgentFirstMail
