import AgentFirstMail.PushQueue.TrackedConformance

namespace AgentFirstMail
open Effect Command
variable {context : PushExecutionContext} {start : PushPosition} {remaining : List PushItem}
  {steps : Option (List ActionStep)} {h : List RemoteEvent} {m : Process}
  {abort : AppError → ProcessFact}
  {post : Unit → ProcessFact}

section Audit

/-- Where an answered request for an event id takes an item. -/
def named (steps : Option (List ActionStep)) (remaining : List PushItem) :
    Option (Except AppError String) → PushPhase
  | some (.ok eventId) => .serving steps (.named eventId) remaining
  | _ => .serving steps .resting remaining

theorem wp_newEventId
    {post : String → ProcessFact}
    (hat : At context start (.serving steps .resting remaining) h m)
    (hpost : ∀ eventId h', At context start (.serving steps (.named eventId) remaining) h' m →
      post eventId h' m)
    (habort : ∀ error h', At context start (.serving steps .resting remaining) h' m →
      abort error h' m) :
    Program.wp (Path context start) post abort (Command.perform .newEventId) h m := by
  apply Program.wp_perform_step (named steps remaining) hat
  · intro reply
    match reply with
    | none => exact .serve (.ask ⟨.newEventId, m, none⟩ rfl rfl rfl rfl)
    | some (.ok eventId) => exact .serve (.name eventId)
    | some (.error error) => exact .serve (.ask ⟨.newEventId, m, some (.error error)⟩ rfl rfl rfl rfl)
  · intro eventId hnext
    exact hpost eventId _ hnext
  · intro error hnext
    exact habort error _ hnext

theorem wp_appendAuditEvent {host : Host} {kind : String} {targets : List (String × String)}
    {reason : Option String}
    (hat : At context start (.serving steps .resting remaining) h m)
    (hkind : kind ≠ "push_succeeded")
    (hpost : ∀ h' audit, At context start (.serving steps .resting remaining) h'
      (m.onWorkspace fun w => { w with audit }) → post () h' (m.onWorkspace fun w => { w with audit }))
    (habort : ∀ error h', At context start (.serving steps .resting remaining) h' m →
      abort error h' m) :
    Program.wp (Path context start) post abort (appendAuditEvent host kind targets reason) h m := by
  unfold appendAuditEvent
  apply wp_then
  apply wp_newEventId hat
  · intro eventId h' hnamed
    unfold appendAuditEventRecord
    apply wp_then
    apply wp_writeWorkspace hnamed (.report { eventId, createdRfc3339 := host.now, kind, targets, reason } hkind)
    intro hrecorded
    apply wp_writeWorkspace hrecorded .newline
    exact hpost h' _
  · exact habort

end Audit

section Outbound

/-- The evidence of a message is there. -/
def Workspace.HasEvidence (w : Workspace) (messageId : String) : Prop :=
  ∃ record, w.messages[messageId]? = some record ∧ record.eml.isSome

theorem hasEvidence_writeSentEvidence (w : Workspace) (messageId : String) (raw : Bytes)
    (rfc822MessageId : Option String) :
    (w.writeSentEvidence messageId raw rfc822MessageId).HasEvidence messageId := by
  refine ⟨_, Std.ExtTreeMap.getElem?_alter_self, ?_⟩
  rfl

theorem Workspace.HasEvidence.writeSentMetadata {w : Workspace} (hw : w.HasEvidence messageId) :
    (w.writeSentMetadata messageId).HasEvidence messageId := by
  obtain ⟨record, hget, heml⟩ := hw
  refine ⟨{ record with metadata := some { record.metadata.getD {} with remote := none } }, ?_,
    heml⟩
  unfold Workspace.writeSentMetadata
  rw [Std.ExtTreeMap.getElem?_alter_self, hget]
  rfl

theorem wp_writeEvidenceOnce {prepared : PreparedOutbound} {rfc822MessageId : Option String}
    (hat : At context start (.serving steps .resting remaining) h m)
    (hrecording : m.Recording prepared)
    (hpost : ∀ m', At context start (.serving steps .resting remaining) h m' →
      m'.item = m.item → m'.workspace.HasEvidence prepared.messageId → post () h m')
    (habort : ∀ error, abort error h m) :
    Program.wp (Path context start) post abort
      (writeEvidenceOnce prepared.messageId prepared.raw rfc822MessageId) h m := by
  unfold writeEvidenceOnce
  apply wp_workspace_bind.mpr
  split
  · rename_i existing hexisting
    apply wp_check
    · intro _ _
      obtain ⟨record, hget, heml⟩ := Option.bind_eq_some_iff.mp hexisting
      exact hpost m hat rfl ⟨record, hget, by rw [heml]; rfl⟩
    · intro error _
      exact habort error
  · rename_i hnone
    apply wp_writeWorkspace hat (.writeEvidence prepared rfc822MessageId hrecording hnone)
    intro hnext
    exact hpost _ hnext rfl (hasEvidence_writeSentEvidence _ _ _ _)

/-- The message that is recorded gets its place in the case. -/
theorem wp_appendSentMessageToCase {prepared : PreparedOutbound} {caseUid : String}
    (hat : At context start (.serving steps .resting remaining) h m)
    (hrecording : m.Recording prepared) (hevidence : m.workspace.HasEvidence prepared.messageId)
    (hpost : ∀ m', At context start (.serving steps .resting remaining) h m' →
      m'.item = m.item → m'.workspace.RecordsSent m.item.pushId caseUid → post () h m')
    (habort : ∀ error, abort error h m) :
    Program.wp (Path context start) post abort
      (appendSentMessageToCase context caseUid prepared) h m := by
  unfold appendSentMessageToCase
  apply wp_workspace_bind.mpr
  apply wp_check_bind
  · intro case_ hcase
    have hfound := Workspace.findCase_eq_ok_iff.mp hcase
    apply wp_writeWorkspace hat (.appendToCase prepared caseUid _ hrecording)
    intro hnext
    apply hpost _ hnext rfl
    refine ⟨?_, ?_⟩
    · rw [← hrecording.messageId]
      exact hevidence
    · refine ⟨_, Workspace.alterCase_get hfound, ?_⟩
      rw [← hrecording.messageId]
      exact Members.mem_upsertItem.mpr (.inl rfl)
  · intro error _
    exact habort error

theorem Process.Recording.congr {m' : Process} {prepared : PreparedOutbound}
    (hrecording : m.Recording prepared) (hitem : m'.item = m.item) : m'.Recording prepared := by
  obtain ⟨hsend, hid, hreached, hbefore⟩ := hrecording
  refine ⟨?_, ?_, ?_, ?_⟩
  · rw [hitem]
    exact hsend
  · rw [hitem]
    exact hid
  · rw [hitem]
    exact hreached
  · rw [hitem]
    exact hbefore

section Record
variable {prepared : PreparedOutbound} {caseUid : String}
  (hat : At context start (.serving steps .resting remaining) h m)
  (hrecording : m.Recording prepared)
  (hpost : ∀ m', At context start (.serving steps .resting remaining) h m' →
    m'.item = m.item → m'.workspace.RecordsSent m.item.pushId caseUid → post () h m')
  (habort : ∀ error m', At context start (.serving steps .resting remaining) h m' →
    m'.item = m.item → abort error h m')

include hat hrecording hpost habort

theorem wp_recordTail (hevidence : m.workspace.HasEvidence prepared.messageId) :
    Program.wp (Path context start) post abort
      (do
        writeWorkspace (·.writeSentMetadata prepared.messageId)
        appendSentMessageToCase context caseUid prepared) h m := by
  apply wp_then
  apply wp_writeWorkspace hat (.writeMetadata prepared hrecording)
  intro hnext
  exact wp_appendSentMessageToCase hnext (hrecording.congr rfl) hevidence.writeSentMetadata hpost
    (fun error => habort error _ hnext rfl)

theorem wp_recordEvidence {rfc822MessageId : Option String} :
    Program.wp (Path context start) post abort
      (do
        writeEvidenceOnce prepared.messageId prepared.raw rfc822MessageId
        writeWorkspace (·.writeSentMetadata prepared.messageId)
        appendSentMessageToCase context caseUid prepared) h m := by
  apply wp_then
  apply wp_writeEvidenceOnce hat hrecording
  · intro m' hnext hitem hevidence
    refine wp_recordTail hnext (hrecording.congr hitem) ?_ ?_ hevidence
    · intro m'' hdone hsame hrecords
      rw [hitem] at hrecords
      exact hpost m'' hdone (hsame.trans hitem) hrecords
    · intro error m'' hdone hsame
      exact habort error m'' hdone (hsame.trans hitem)
  · intro error
    exact habort error m hat rfl

theorem wp_markSentAndAppendCase :
    Program.wp (Path context start) post abort
      (markSentAndAppendCase context caseUid prepared) h m := by
  unfold markSentAndAppendCase
  apply wp_workspace_bind.mpr
  apply wp_check_bind
  · intro _ _
    exact wp_recordEvidence hat hrecording hpost habort
  · intro error _
    exact habort error m hat rfl

theorem wp_recordSent :
    Program.wp (Path context start) post abort (recordSent context caseUid prepared) h m := by
  unfold recordSent
  apply wp_then
  apply wp_writeWorkspace hat (.writeMetadata prepared hrecording)
  intro hfirst
  exact wp_recordEvidence hfirst (hrecording.congr rfl) hpost habort

end Record

theorem PushItem.Planned.prepared_messageId {item : PushItem} {prepared : PreparedOutbound}
    {outbound : OutboundPush} (hplanned : item.Planned) (haudit : item.auditPending = none)
    (houtbound : item.outbound = some outbound)
    (hprepared : item.plannedOutboundMessage = some prepared) :
    prepared.messageId = messageIdForPush item.pushId := by
  cases hplanned with
  | reported hpending =>
    rw [haudit] at hpending
    cases hpending
  | message message action _ hnone => cases hnone.symm.trans houtbound
  | draft draft other _ _ _ _ _ hmessage => exact hmessage prepared hprepared

theorem wp_recordOutboundAfterPush (hsound : Sound context start)
    (hrests : Rests context start steps remaining h m)
    (hreached : m.item.localStageAtLeast .remoteSucceeded = true)
    (hbefore : m.item.localStageAtLeast .outboundRecorded = false)
    (hpost : ∀ m', Rests context start steps remaining h m' → m'.item = m.item →
      (∀ outbound, m.item.outbound = some outbound → outbound.action = .send →
        m'.workspace.RecordsSent m.item.pushId outbound.caseUid) → post () h m')
    (habort : ∀ error m', Rests context start steps remaining h m' → abort error h m') :
    Program.wp (Path context start) post abort (recordOutboundAfterPush context) h m := by
  obtain ⟨hat, hunreported⟩ := hrests
  have hunreported' : ∀ m' : Process, m'.item = m.item → m'.item.auditPending = none := by
    intro m' hitem
    rw [hitem]
    exact hunreported
  have hplanned := (hsound.serving hat).serves.planned
  unfold recordOutboundAfterPush
  apply wp_currentItem_bind.mpr
  apply wp_workspace_bind.mpr
  split
  · rename_i hnone
    apply hpost m ⟨hat, hunreported⟩ rfl
    intro outbound houtbound
    rw [hnone] at houtbound
    cases houtbound
  · rename_i outbound houtbound
    apply wp_check_bind
    · intro case_ _
      split
      · rename_i hsend
        apply wp_check_bind
        · intro prepared hprepared
          have hid : prepared.messageId = messageIdForPush m.item.pushId := by
            split at hprepared
            · rename_i found hfound
              cases hprepared
              exact hplanned.prepared_messageId hunreported houtbound hfound
            · exact (prepareOutbound_eq_ok hprepared).1
          have hrecording : m.Recording prepared :=
            ⟨⟨outbound, houtbound, hsend⟩, hid, hreached, hbefore⟩
          have hrecorded : ∀ m', At context start (.serving steps .resting remaining) h m' →
              m'.item = m.item →
              m'.workspace.RecordsSent m.item.pushId outbound.caseUid → post () h m' := by
            intro m' hnext hitem hrecords
            apply hpost m' ⟨hnext, hunreported' m' hitem⟩ hitem
            intro other hother _
            cases houtbound.symm.trans hother
            exact hrecords
          have hfailed : ∀ error m', At context start (.serving steps .resting remaining) h m' →
              m'.item = m.item → abort error h m' :=
            fun error m' hnext hitem => habort error m' ⟨hnext, hunreported' m' hitem⟩
          split
          · exact wp_recordSent hat hrecording hrecorded hfailed
          · exact wp_markSentAndAppendCase hat hrecording hrecorded hfailed
        · intro error _
          exact habort error m ⟨hat, hunreported⟩
      · rename_i hsave
        apply hpost m ⟨hat, hunreported⟩ rfl
        intro other hother hsend
        cases houtbound.symm.trans hother
        exact (hsave hsend).elim
    · intro error _
      exact habort error m ⟨hat, hunreported⟩

theorem wp_removeOutboundDraftAfterPush
    (hrests : Rests context start steps remaining h m)
    (hreached : m.item.localStageAtLeast .outboundRecorded = true)
    (hpost : ∀ h' m', Rests context start steps remaining h' m' → m'.item = m.item →
      post () h' m')
    (habort : ∀ error h' m', Rests context start steps remaining h' m' → abort error h' m') :
    Program.wp (Path context start) post abort (removeOutboundDraftAfterPush context) h m := by
  obtain ⟨hat, hunreported⟩ := hrests
  unfold removeOutboundDraftAfterPush
  apply wp_currentItem_bind.mpr
  apply wp_workspace_bind.mpr
  split
  · exact hpost h m ⟨hat, hunreported⟩ rfl
  · rename_i outbound houtbound
    have hrest : ∀ (case_ : CaseRecord) m', At context start (.serving steps .resting remaining) h m' →
        m'.item = m.item → Program.wp (Path context start) post abort (do
          let _ ← Program.ofExcept case_.readDraftState
          writeWorkspace (·.alterCase outbound.caseUid fun case_ =>
            { case_ with draftStates := case_.draftStates.erase outbound.draftName })
          appendAuditEvent context.host outbound.action.finishedEvent
            [("case", outbound.caseUid)] none) h m' := by
      intro case_ m' hnext hitem
      have hunreported' : m'.item.auditPending = none := by
        rw [hitem]
        exact hunreported
      apply wp_check_bind _ fun error _ => habort error h m' ⟨hnext, hunreported'⟩
      intro _ _
      apply wp_then
      apply wp_writeWorkspace hnext (.removeDraftState outbound (by rw [hitem]; exact houtbound)
        (by rw [hitem]; exact hreached))
      intro hremoved
      apply wp_appendAuditEvent hremoved
      · cases outbound.action <;> decide
      · intro h' audit hdone
        exact hpost h' _ ⟨hdone, hunreported'⟩ hitem
      · intro error h' hdone
        exact habort error h' _ ⟨hdone, hunreported'⟩
    apply wp_check_bind
    · intro case_ _
      apply wp_then
      unfold removeDraftFile
      split
      · apply wp_writeWorkspace hat (.removeDraft outbound houtbound hreached)
        intro hnext
        exact hrest case_ _ hnext rfl
      · exact hrest case_ m hat rfl
    · intro error _
      exact habort error h m ⟨hat, hunreported⟩

end Outbound
end AgentFirstMail
