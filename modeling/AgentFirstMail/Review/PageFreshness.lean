import AgentFirstMail.Review.PageSaves

namespace AgentFirstMail
open Effect TreeCommand

namespace WorkspaceTree
variable {host : ProjectionHost} {tree : WorkspaceTree} {messageId : String}

theorem parseEvidence_messageId {prior : Option MessageFile} {metadata : MessageMetadata}
    {message : MessageBase} (h : tree.parseEvidence host messageId prior metadata = .ok message) :
    message.messageId = messageId := by
  unfold parseEvidence at h
  split at h
  · obtain ⟨native, _, h⟩ := Result.bind_ok h
    cases h
    rfl
  · unfold parseMessageWithOptions at h
    split at h
    · cases h
    · cases h
      rfl
  · cases h

/-- A message that is read from its evidence is told under its own id, with the suggestions of its
canonical metadata. -/
theorem readMessageById_eq_ok {message : MessageFile}
    (hevidence : ∀ messageId ∈ tree.projections, tree.hasEvidence messageId = true)
    (h : tree.readMessageById host messageId = .ok message) :
    message.messageId = messageId ∧ ∃ metadata,
      tree.workspace.readMessageMetadataFile host.toHost messageId = .ok (some metadata) ∧
      message.agentSuggestion = metadata.agentSuggestion := by
  obtain ⟨context, _, h⟩ := Result.bind_ok h
  obtain ⟨_, h⟩ := Result.seq_ok h
  split at h
  · obtain ⟨_, h⟩ := Result.seq_ok h
    obtain ⟨_, h⟩ := Result.seq_ok h
    obtain ⟨prior, _, h⟩ := Result.bind_ok h
    obtain ⟨found, hfound, h⟩ := Result.bind_ok h
    cases found with
    | none => cases h
    | some metadata =>
      obtain ⟨parsed, hparsed, h⟩ := Result.bind_ok h
      cases h
      refine ⟨?_, metadata, hfound, rfl⟩
      exact (present_messageId context (tree.withDelivery host metadata.delivery parsed)).trans
        (show parsed.messageId = messageId from parseEvidence_messageId hparsed)
  · rename_i hnone
    unfold readProjection at h
    split at h
    · cases h
    · rename_i hget
      exact (hnone (hevidence messageId (Indexing.mem_of_getElem? hget))).elim

end WorkspaceTree

/-- The items that contents show are those of the workspace. -/
def Shows (host : PageHost) (surface : ReviewSurface) (tree : WorkspaceTree)
    (contents : ReviewContents) (messageId : String) : Prop :=
  ∀ shown, contents.item? messageId = some shown → ∃ current,
    currentItem host tree surface messageId = .ok current ∧ current.toShownItem = shown

/-- A message that is no longer in triage is not settled, whatever was shown of it. -/
def LeftTriage (host : PageHost) (surface : ReviewSurface) (tree : WorkspaceTree)
    (messageId : String) : Prop :=
  surface = .triage ∧
    currentMessageAgentSuggestion host tree messageId = .error (messageNotInTriage messageId)

section Building
variable {host : PageHost} {tree : WorkspaceTree} {surface : ReviewSurface}
  {contents model : ReviewContents} {messageId : String}

theorem triageReviewItem_current {item : TriageReviewItem}
    (hreadable : ReviewSurface.triage.Readable tree)
    (h : triageReviewItem host tree messageId = .ok item) :
    item.document.message.message.messageId = messageId ∧
      (LeftTriage host .triage tree messageId ∨ ∃ current,
        currentItem host tree .triage messageId = .ok current ∧ current.toShownItem =
          ⟨.message item.document.withoutSuggestions, item.expectedAgentSuggestionUid⟩) := by
  obtain ⟨hdocument, _, hround⟩ := triageReviewItem_eq_ok h
  obtain ⟨hid, hmore⟩ := Result.seq_ok hdocument
  obtain ⟨document, hmessage, hmore⟩ := Result.bind_ok hmore
  obtain ⟨related, _, hmore⟩ := Result.bind_ok hmore
  have hshown : item.document.message = document := by rw [← Except.ok.inj hmore]
  obtain ⟨message, hread, hmessage⟩ := Result.bind_ok hmessage
  obtain ⟨account, _, hmessage⟩ := Result.bind_ok hmessage
  have hbuilt : item.document.message.message = message := by
    rw [hshown, ← Except.ok.inj hmessage]
    rfl
  obtain ⟨hname, metadata, hmetadata, hagent⟩ :=
    WorkspaceTree.readMessageById_eq_ok (hreadable rfl) hread
  rw [hbuilt] at hround ⊢
  refine ⟨hname, ?_⟩
  by_cases htriage : message.workspace.status = .triage
  · have hcurrent : currentMessageAgentSuggestion host tree messageId =
        .ok metadata.agentSuggestion := by
      refine Result.bind_unit_eq_ok_iff.mpr ⟨hid, Result.bind_eq_ok_iff.mpr ⟨messageId,
        Result.bind_eq_ok_iff.mpr ⟨message, hread, Result.bind_unit_eq_ok_iff.mpr ⟨?_, rfl⟩⟩,
        Result.bind_eq_ok_iff.mpr ⟨some metadata, hmetadata, rfl⟩⟩⟩
      exact ensure_eq_ok_iff.mpr (beq_iff_eq.mpr htriage)
    refine .inr ⟨_, Result.bind_eq_ok_iff.mpr ⟨item.document, hdocument,
      Result.bind_eq_ok_iff.mpr ⟨_, hcurrent, rfl⟩⟩, ?_⟩
    rw [hround, hagent]
  · refine .inl ⟨rfl, ?_⟩
    unfold currentMessageAgentSuggestion triageMessage
    rw [hid, hread]
    change (ensure (message.workspace.status == .triage) (messageNotInTriage messageId) >>= _) >>=
      _ = _
    rw [ensure_eq_error_iff.mpr ⟨beq_eq_false_iff_ne.mpr htriage, rfl⟩]
    rfl

theorem ReviewContents.item?_triage (contents : TriageReviewContents) (messageId : String) :
    (ReviewContents.triage contents).item? messageId = (contents.item? messageId).map fun item =>
      ⟨.message item.document.withoutSuggestions, item.expectedAgentSuggestionUid⟩ := rfl

theorem TriageReviewContents.isSome_item? (contents : TriageReviewContents) (messageId : String) :
    (contents.item? messageId).isSome = true ↔
      messageId ∈ contents.items.map fun item => item.document.message.message.messageId := by
  unfold item?
  rw [List.find?_isSome, List.mem_map]
  simp only [beq_iff_eq]

/-- What a load or a refresh reads is what the workspace has, where messages are read from their
canonical files. -/
theorem Built.shows (hbuilt : Built host tree surface contents) (hreadable : surface.Readable tree)
    (messageId : String) :
    LeftTriage host surface tree messageId ∨ Shows host surface tree contents messageId := by
  cases hbuilt with
  | @triage messageIds truncated contents h =>
    obtain ⟨items, hitems, h⟩ := Result.bind_ok h
    cases h
    cases hitem : TriageReviewContents.item? ⟨items, truncated⟩ messageId with
    | none =>
      right
      intro shown hshown
      rw [ReviewContents.item?_triage, hitem] at hshown
      cases hshown
    | some item =>
      obtain ⟨hmem, hname⟩ := TriageReviewContents.item?_eq_some hitem
      obtain ⟨requested, _, hread⟩ := Lists.exists_of_forall₂ (Result.mapM_eq_ok_iff.mp hitems) hmem
      obtain ⟨hsame, hcurrent⟩ := triageReviewItem_current hreadable hread
      cases hsame.symm.trans hname
      refine hcurrent.imp_right fun hcurrent shown hshown => ?_
      rw [ReviewContents.item?_triage, hitem] at hshown
      cases hshown
      exact hcurrent
  | case h =>
    right
    obtain ⟨caseUid, notes, drafts, huid, hcollection, hnotes, hdrafts, _, hround, rfl, rfl⟩ :=
      buildCaseReviewContents_eq_ok h
    intro shown hshown
    cases hshown
    refine ⟨_, Result.bind_eq_ok_iff.mpr ⟨caseUid, huid, Result.bind_eq_ok_iff.mpr
      ⟨_, hcollection, Result.bind_eq_ok_iff.mpr ⟨_, hnotes, Result.bind_eq_ok_iff.mpr
        ⟨_, hdrafts, rfl⟩⟩⟩⟩, ?_⟩
    rw [hround]
  | notification h =>
    right
    obtain ⟨notificationUid, notes, huid, hcollection, hnotes, _, hround, rfl⟩ :=
      buildNotificationReviewContents_eq_ok h
    intro shown hshown
    cases hshown
    refine ⟨_, Result.bind_eq_ok_iff.mpr ⟨notificationUid, huid, Result.bind_eq_ok_iff.mpr
      ⟨_, hcollection, Result.bind_eq_ok_iff.mpr ⟨_, hnotes, rfl⟩⟩⟩, ?_⟩
    rw [hround]
  | draft _ =>
    right
    intro shown hshown
    cases hshown

/-- A refresh keeps the messages of a triage review. -/
theorem item?_refreshed (hhashed : model.Hashed host surface) (hreadable : surface.Readable tree)
    (h : refreshedReviewRenderDocument host tree surface model = .ok contents)
    (messageId : String) :
    (contents.item? messageId).isSome = (model.item? messageId).isSome := by
  cases hhashed with
  | @triage shown _ =>
    obtain ⟨built, hbuilt, h⟩ := Result.bind_ok h
    cases h
    obtain ⟨items, hitems, h⟩ := Result.bind_ok hbuilt
    cases h
    have hnames : items.map (fun item => item.document.message.message.messageId) =
        shown.items.map fun item => item.document.message.message.messageId := by
      rw [← List.forall₂_eq_eq_eq, List.forall₂_map_left_iff]
      exact ((Result.mapM_eq_ok_iff.mp hitems).flip.imp fun item requested hread =>
        (triageReviewItem_current hreadable hread).1)
    rw [ReviewContents.item?_triage, ReviewContents.item?_triage, Option.isSome_map,
      Option.isSome_map, Bool.eq_iff_iff, TriageReviewContents.isSome_item?,
      TriageReviewContents.isSome_item?, hnames]
  | case _ =>
    obtain ⟨_, _, h⟩ := Result.bind_ok h
    cases h
    rfl
  | notification _ =>
    obtain ⟨_, _, h⟩ := Result.bind_ok h
    cases h
    rfl
  | draft =>
    obtain ⟨_, _, h⟩ := Result.bind_ok h
    cases h
    rfl

end Building

/-- The items of a review are as they were, but for what was settled. -/
def KeepsItems (host : PageHost) (surface : ReviewSurface) (tree tree' : WorkspaceTree) : Prop :=
  ∀ (messageId : String) (current : CurrentItem),
    currentItem host tree surface messageId = .ok current →
    ∃ current', currentItem host tree' surface messageId = .ok current' ∧
      current'.toShownItem = current.toShownItem

section Settling
variable {host : PageHost} {surface : ReviewSurface} {tree tree' : WorkspaceTree}
  {history : List TreeEvent} {inv : Assertion WorkspaceTree TreeRequest (fun _ => String) AppError}

theorem wp_followUp {item : SuggestedItem α ι} {uid : String} {reason : Option String}
    (hrefresh : ∀ uid, item.refresh uid = return ())
    (hinv : ∀ history audit, inv history (tree.written tree.workspace audit)) :
    Program.wp inv (fun _ _ _ => True) (fun _ _ _ => True)
      (item.followUp host.toHost uid reason) history tree := by
  unfold SuggestedItem.followUp
  rw [hrefresh]
  apply wp_then
  refine ⟨hinv _ tree.workspace.audit, fun reply => ⟨hinv _ tree.workspace.audit, ?_⟩⟩
  cases reply with
  | error error => trivial
  | ok eventId => exact ⟨hinv _ _, hinv _ _, trivial⟩

theorem wp_suggestedItem_settle {item : SuggestedItem α ι} {uid : String} {file : ι}
    {input : HumanSuggestionInput α} (hrefresh : ∀ uid, item.refresh uid = return ())
    (hstart : ∀ history, inv history tree)
    (hput : ∀ human audit history, item.check (item.withHuman file (some human)) = .ok () →
      inv history (tree.written (item.put tree.workspace uid (item.withHuman file (some human)))
        audit)) :
    Program.wp inv (fun _ _ _ => True) (fun _ _ _ => True) (item.settle host.toHost uid file input)
      history tree := by
  refine wp_then ⟨hstart _, fun reply => ⟨hstart _, ?_⟩⟩
  cases reply with
  | error error => trivial
  | ok eventId =>
    apply wp_then
    apply wp_treeCheck
    · intro _ hchecked
      refine ⟨hput _ (item.put tree.workspace uid _).audit _ hchecked, ?_⟩
      apply Program.wp_seq (wp_followUp hrefresh fun history audit => hput _ audit history hchecked)
      exact fun _ _ _ _ => trivial
    · exact fun _ _ => trivial

theorem KeepsItems.refl (tree : WorkspaceTree) : KeepsItems host surface tree tree :=
  fun _ current h => ⟨current, h, rfl⟩

/-- A settlement of a case or a notification leaves its documents. -/
theorem KeepsItems.of_settled {model : ReviewContents} {fields : SettleFields}
    {events : List TreeEvent} {outcome : Outcome AppError Unit} (hsurface : surface ≠ .triage)
    (hexec : Exec (settleFromFields host surface model fields) tree events outcome tree') :
    KeepsItems host surface tree tree' := by
  suffices hwp : Program.wp (fun _ t => KeepsItems host surface tree t) (fun _ _ _ => True)
      (fun _ _ _ => True) (settleFromFields host surface model fields) [] tree from
    (Program.wp_sound hexec (.refl tree) hwp).1
  cases surface with
  | triage => exact (hsurface rfl).elim
  | draft caseRef draftName => trivial
  | case caseRef =>
    cases model with
    | case contents =>
      apply wp_then
      refine wp_settleItemInWorkspace (fun _ _ => trivial) fun agent uid file decision hchecked => ?_
      refine wp_suggestedItem_settle (fun _ => rfl) (fun _ => .refl tree) fun human audit _ hpair => ?_
      obtain ⟨parsed, hparsed, hresolved⟩ := Result.bind_ok hchecked.resolved
      obtain ⟨_, _, hresolved⟩ := Result.bind_ok hresolved
      cases hresolved
      intro messageId current hcurrent
      obtain ⟨uid, found, messages, notes, drafts, hreads, rfl⟩ :=
        currentItem_case_eq_ok.mp hcurrent
      cases hreads.parsed.symm.trans hparsed
      cases hreads.file.symm.trans hchecked.found
      exact ⟨_, currentItem_case_eq_ok.mpr ⟨uid, _, messages, notes, drafts,
        hreads.put rfl hpair hreads.notes hreads.drafts, rfl⟩, rfl⟩
    | triage _ => trivial
    | notification _ => trivial
    | draft _ => trivial
  | notification notificationRef =>
    cases model with
    | notification contents =>
      apply wp_then
      refine wp_settleItemInWorkspace (fun _ _ => trivial) fun agent uid file decision hchecked => ?_
      refine wp_suggestedItem_settle (fun _ => rfl) (fun _ => .refl tree) fun human audit _ hpair => ?_
      obtain ⟨parsed, hparsed, hresolved⟩ := Result.bind_ok hchecked.resolved
      obtain ⟨_, _, hresolved⟩ := Result.bind_ok hresolved
      cases hresolved
      intro messageId current hcurrent
      obtain ⟨uid, found, messages, notes, hreads, rfl⟩ :=
        currentItem_notification_eq_ok.mp hcurrent
      cases hreads.parsed.symm.trans hparsed
      cases hreads.file.symm.trans hchecked.found
      exact ⟨_, currentItem_notification_eq_ok.mpr ⟨uid, _, messages, notes,
        hreads.put rfl hpair hreads.notes, rfl⟩, rfl⟩
    | triage _ => trivial
    | case _ => trivial
    | draft _ => trivial

end Settling
end AgentFirstMail
