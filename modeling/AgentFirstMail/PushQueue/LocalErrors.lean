import AgentFirstMail.PushQueue.Lifecycle

namespace AgentFirstMail
open Effect

/-- An error of the executor itself: it says nothing about what the remote did. -/
structure AppError.Local (error : AppError) : Prop where
  silent : remoteEffectNotApplied error = false
  code : error.errorCode ≠ legacyMoveErrorCode

theorem AppError.local_of_code {code message : String} (h : code ≠ legacyMoveErrorCode) :
    AppError.Local { errorCode := code, message } := ⟨rfl, h⟩

/-- The codes of what can go wrong when a workspace, a configuration or a listing is read. -/
def readErrorCodes : List String :=
  ["store_error", "case_metadata_invalid", "disposition_state_invalid",
    "notification_state_invalid", "message_state_invalid", "message_metadata_missing",
    "case_not_found", "draft_not_found", "imap_mailbox_ambiguous", "imap_mailbox_unresolved",
    "io_error"]

/-- An error of reading what the executor goes by. -/
structure AppError.OfRead (error : AppError) : Prop where
  code : error.errorCode ∈ readErrorCodes
  details : error.details = none

theorem AppError.ofRead {code message : String} (h : code ∈ readErrorCodes) :
    AppError.OfRead { errorCode := code, message } := ⟨h, rfl⟩

theorem AppError.OfRead.local {error : AppError} (h : error.OfRead) : error.Local := by
  constructor
  · unfold remoteEffectNotApplied
    rw [h.details]
    rfl
  · intro hcode
    have hlegacy : legacyMoveErrorCode ∉ readErrorCodes := by decide
    rw [← hcode] at hlegacy
    exact hlegacy h.code

namespace Workspace
variable {w : Workspace}

theorem ofRead_storeError (message : String) : (storeError message).OfRead :=
  AppError.ofRead (by decide)

theorem fails_caseIndexEntry (entry : String × CaseRecord) :
    (caseIndexEntry entry).Fails AppError.OfRead := by
  apply Result.Fails.bind
  · unfold ensureStatusFitsTree
    split
    · exact Result.Fails.ensure (AppError.ofRead (by decide))
    · exact Result.Fails.ensure (AppError.ofRead (by decide))
  · intro _ _
    exact Result.Fails.ok _

theorem fails_materializedOverlayIndex : (w.materializedOverlayIndex).Fails AppError.OfRead := by
  apply Result.Fails.bind
  · apply Result.Fails.foldlM
    intro out spec
    apply Result.Fails.foldlM
    intro out messageId
    unfold addDisposition
    split
    · exact Result.Fails.failure (AppError.ofRead (by decide))
    · exact Result.Fails.ok _
  intro dispositions _
  apply Result.Fails.bind
  · apply Result.Fails.foldlM
    intro out entry
    apply Result.Fails.foldlM
    intro out messageId
    unfold addNotified
    split
    · exact Result.Fails.failure (AppError.ofRead (by decide))
    · exact Result.Fails.ok _
  intro notifications _
  apply Result.Fails.bind
  · apply Result.Fails.forM
    intro entry
    split
    · exact Result.Fails.failure (AppError.ofRead (by decide))
    · exact Result.Fails.ok _
  intro _ _
  apply Result.Fails.bind
  · apply Result.Fails.mapM
    intro entry _
    exact fails_caseIndexEntry entry
  · intro _ _
    exact Result.Fails.ok _

theorem fails_readMessageUnder (index : OverlayIndex) (messageId : String) :
    (w.readMessageUnder index messageId).Fails AppError.OfRead := by
  unfold readMessageUnder
  split
  · exact Result.Fails.failure (ofRead_storeError _)
  · apply Result.Fails.bind
    · exact Result.Fails.ensure (ofRead_storeError _)
    intro _ _
    split
    · exact Result.Fails.failure (AppError.ofRead (by decide))
    · exact Result.Fails.ok _

theorem fails_readMessageById (messageId : String) :
    (w.readMessageById messageId).Fails AppError.OfRead := by
  apply Result.Fails.bind fails_materializedOverlayIndex
  intro index _
  exact fails_readMessageUnder index messageId

theorem fails_messageRemoteLocationsAny (messageIds : List String) :
    (w.messageRemoteLocationsAny messageIds).Fails AppError.OfRead := by
  apply Result.Fails.bind
  · unfold messageRemoteLocationsWithMailboxIds
    split
    · exact Result.Fails.ok _
    · apply Result.Fails.bind fails_materializedOverlayIndex
      intro index _
      apply Result.Fails.bind
      · apply Result.Fails.mapM
        intro messageId _
        apply Result.Fails.bind (fails_readMessageUnder index messageId)
        intro _ _
        exact Result.Fails.ok _
      · intro _ _
        exact Result.Fails.ok _
  · intro _ _
    exact Result.Fails.ok _

theorem fails_readDraft (caseUid draftName : String) :
    (w.readDraft caseUid draftName).Fails AppError.OfRead := by
  apply Result.Fails.bind
  · unfold findCase
    split
    · exact Result.Fails.ok _
    · exact Result.Fails.failure (AppError.ofRead (by decide))
  · intro case_ _
    split
    · exact Result.Fails.ok _
    · exact Result.Fails.failure (AppError.ofRead (by decide))

end Workspace

theorem local_noReplyTo : noReplyTo.Local := AppError.local_of_code (by decide)

theorem fails_replyToMessageIdForStep (w : Workspace) (item : PushItem) :
    (replyToMessageIdForStep w item).Fails fun error => error.OfRead ∨ error = noReplyTo := by
  unfold replyToMessageIdForStep
  split
  · exact Result.Fails.ok _
  · exact Result.Fails.failure (.inr rfl)
  · apply Result.Fails.bind
    · exact fun error herror => .inl (Workspace.fails_readDraft _ _ error herror)
    intro draft _
    split
    · exact Result.Fails.ok _
    · exact Result.Fails.failure (.inr rfl)

theorem fails_actionLocations (w : Workspace) (item : PushItem) (step : ActionStep) :
    (actionLocations w item step).Fails AppError.Local := by
  unfold actionLocations
  split
  · apply Result.Fails.bind
    · intro error herror
      rcases fails_replyToMessageIdForStep w item error herror with hread | rfl
      · exact hread.local
      · exact local_noReplyTo
    intro replyTo _
    exact fun error herror => (Workspace.fails_messageRemoteLocationsAny _ error herror).local
  · exact Result.Fails.ok _

theorem fails_mailbox (config : MailConfig) (id : String) :
    (config.mailbox id).Fails (· = config.unknownMailboxId id) := by
  unfold MailConfig.mailbox
  split
  · exact Result.Fails.ok _
  · exact Result.Fails.failure rfl

theorem local_unknownMailboxId (config : MailConfig) (id : String) :
    (config.unknownMailboxId id).Local := AppError.local_of_code (by simp [legacyMoveErrorCode])

theorem decideSelector_ofRead {error : AppError} (h : error.OfRead)
    (hdecide : decideSelector error mailboxes = some result) : result.Fails AppError.OfRead := by
  unfold decideSelector at hdecide
  split at hdecide
  · cases hdecide
    exact Result.Fails.ok _
  · cases hdecide
  · cases hdecide
    exact Result.Fails.failure h

theorem ofRead_ambiguousMailbox (id : String) (index : Nat) (selector value : String) :
    (ambiguousMailbox id index selector value).OfRead :=
  AppError.ofRead (by decide)

theorem fails_resolveRules (id : String) (listed : List MailboxInfo) :
    (resolveRules id listed index rules).Fails AppError.OfRead := by
  induction rules generalizing index with
  | nil => exact Result.Fails.failure (AppError.ofRead (by decide))
  | cons rule rest ih =>
    rw [resolveRules]
    cases hrule : resolveRule id index rule listed with
    | none => exact ih
    | some result =>
      rw [resolveRule, Option.or_eq_some_iff] at hrule
      cases hrule with
      | inl hname =>
        obtain ⟨name, _, hdecide⟩ := Option.bind_eq_some_iff.mp hname
        exact decideSelector_ofRead (ofRead_ambiguousMailbox _ _ _ _) hdecide
      | inr hattribute =>
        obtain ⟨specialUse, _, hdecide⟩ := Option.bind_eq_some_iff.mp hattribute.2
        exact decideSelector_ofRead (ofRead_ambiguousMailbox _ _ _ _) hdecide

theorem fails_readMovedMessages (w : Workspace) (messageIds : List String) :
    (readMovedMessages w messageIds).Fails AppError.OfRead := by
  apply Result.Fails.mapM
  intro messageId _
  apply Result.Fails.bind (Workspace.fails_readMessageById messageId)
  intro _ _
  exact Result.Fails.ok _

theorem fails_appendedRaw (w : Workspace) (item : PushItem) (messageId : String) :
    (appendedRaw w item messageId).Fails AppError.OfRead := by
  unfold appendedRaw
  split
  · exact Result.Fails.ok _
  · split
    · exact Result.Fails.ok _
    · exact Result.Fails.failure (AppError.ofRead (by decide))

end AgentFirstMail
