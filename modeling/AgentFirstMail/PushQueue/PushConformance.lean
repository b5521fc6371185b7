import AgentFirstMail.PushQueue.FinalizeConformance

namespace AgentFirstMail
open Effect Command
variable {context : PushExecutionContext} {start : PushPosition} {remaining : List PushItem}
  {steps : Option (List ActionStep)} {h : List RemoteEvent} {m : Process} {stage : PushLocalStage}
  {abort : AppError → ProcessFact}
  {post : Unit → ProcessFact}

section Stages

namespace PushItem
variable {item : PushItem}

theorem localStageAtLeast_of_eq (hstage : item.localStage = some stage) :
    item.localStageAtLeast stage = true := by
  rw [localStageAtLeast, hstage, Option.any_some, decide_eq_true_eq]

theorem localStageAtLeast_mono {lower upper : PushLocalStage} (hle : lower.rank ≤ upper.rank)
    (hupper : item.localStageAtLeast upper = true) : item.localStageAtLeast lower = true := by
  unfold localStageAtLeast at hupper ⊢
  cases hstage : item.localStage with
  | none =>
    rw [hstage] at hupper
    cases hupper
  | some current =>
    rw [hstage, Option.any_some, decide_eq_true_eq] at hupper
    rw [Option.any_some, decide_eq_true_eq]
    exact Nat.le_trans hle hupper

theorem localStageAtLeast_first :
    item.localStageAtLeast .remoteSucceeded = item.localStage.isSome := by
  unfold localStageAtLeast
  cases item.localStage with
  | none => rfl
  | some current =>
    rw [Option.any_some, Option.isSome_some, decide_eq_true_eq]
    exact Nat.zero_le _

theorem localStageAtLeast_last (hnot : item.localStage ≠ some .auditPending) :
    item.localStageAtLeast .auditPending = false := by
  unfold localStageAtLeast
  cases hstage : item.localStage with
  | none => rfl
  | some current =>
    rw [hstage] at hnot
    cases current with
    | auditPending => exact (hnot rfl).elim
    | remoteSucceeded | outboundRecorded | draftRemoved | pendingCleared => rfl

end PushItem

/-- The item rests after a local stage. -/
structure Staged (context : PushExecutionContext) (start : PushPosition)
    (steps : Option (List ActionStep)) (remaining : List PushItem) (stage : PushLocalStage)
    (h : List RemoteEvent) (m : Process) : Prop where
  rests : Rests context start steps remaining h m
  reached : m.item.localStageAtLeast stage = true

theorem wp_advanceLocalStage (hrests : Rests context start steps remaining h m)
    (hready : m.item.localStageAtLeast stage = false → StageReady steps .resting m stage)
    (hpost : ∀ m', Staged context start steps remaining stage h m' → post () h m') :
    Program.wp (Path context start) post abort (advanceLocalStage context stage) h m := by
  unfold advanceLocalStage
  apply wp_currentItem_bind.mpr
  split
  · rename_i hreached
    exact hpost m ⟨hrests, hreached⟩
  · rename_i hbefore
    have hbefore : m.item.localStageAtLeast stage = false := Bool.eq_false_iff.mpr hbefore
    apply wp_saveItem hrests.at_ (.advance stage hbefore (hready hbefore))
    intro hnext
    exact hpost _ ⟨⟨hnext, hrests.unreported⟩, PushItem.localStageAtLeast_of_eq rfl⟩

theorem wp_refreshOutboundPushViews (hstaged : Staged context start steps remaining stage h m) :
    Program.wp (Path context start) (fun _ => Staged context start steps remaining stage)
      (ItemAborts context start remaining) (refreshOutboundPushViews context) h m := by
  unfold refreshOutboundPushViews
  apply wp_currentItem_bind.mpr
  apply wp_workspace_bind.mpr
  split
  · exact hstaged
  · apply wp_check_bind
    · intro _ _
      apply wp_check
      · intro _ _
        exact hstaged
      · intro error _
        exact ⟨steps, hstaged.rests⟩
    · intro error _
      exact ⟨steps, hstaged.rests⟩

theorem wp_recordOutboundStage (hsound : Sound context start) (houtbound : m.item.outbound.isSome)
    (hstaged : Staged context start steps remaining .remoteSucceeded h m) :
    Program.wp (Path context start) (fun _ => Staged context start steps remaining .outboundRecorded)
      (ItemAborts context start remaining) (recordOutboundStage context) h m := by
  unfold recordOutboundStage
  apply wp_currentItem_bind.mpr
  split
  · rename_i hreached
    exact ⟨hstaged.rests, hreached⟩
  · rename_i hbefore
    apply wp_then
    apply wp_recordOutboundAfterPush hsound hstaged.rests hstaged.reached
      (Bool.eq_false_iff.mpr hbefore)
    · intro m' hrests hitem hrecorded
      apply wp_then
      apply wp_advanceLocalStage hrests
      · intro _
        obtain ⟨outbound, hsome⟩ := Option.isSome_iff_exists.mp houtbound
        refine ⟨rfl, ?_, outbound, ?_, ?_⟩
        · rw [hitem]
          exact PushItem.localStage_of_atLeast hstaged.reached
        · rw [hitem]
          exact hsome
        · rw [hitem]
          exact hrecorded outbound hsome
      · intro m'' hnext
        exact wp_refreshOutboundPushViews hnext
    · intro error m' hrests
      exact ⟨steps, hrests⟩

theorem wp_removeDraftStage
    (hstaged : Staged context start steps remaining .outboundRecorded h m) :
    Program.wp (Path context start) (fun _ => Staged context start steps remaining .draftRemoved)
      (ItemAborts context start remaining) (removeDraftStage context) h m := by
  unfold removeDraftStage
  apply wp_currentItem_bind.mpr
  split
  · rename_i hreached
    exact ⟨hstaged.rests, hreached⟩
  · apply wp_then
    apply wp_removeOutboundDraftAfterPush hstaged.rests hstaged.reached
    · intro h' m' hrests hitem
      apply wp_then
      apply wp_advanceLocalStage hrests
      · intro _
        refine ⟨rfl, ?_⟩
        rw [hitem]
        exact hstaged.reached
      · intro m'' hnext
        exact wp_refreshOutboundPushViews hnext
    · intro error h' m' hrests
      exact ⟨steps, hrests⟩

theorem wp_finalizeOutbound (hsound : Sound context start)
    (hstaged : Staged context start steps remaining .remoteSucceeded h m) :
    Program.wp (Path context start)
      (fun _ h' m' => Staged context start steps remaining .remoteSucceeded h' m' ∧
        (m'.item.outbound.isSome → m'.item.localStageAtLeast .draftRemoved = true))
      (ItemAborts context start remaining) (finalizeOutbound context) h m := by
  unfold finalizeOutbound
  apply wp_currentItem_bind.mpr
  split
  · rename_i houtbound
    apply Program.wp_seq (wp_recordOutboundStage hsound houtbound hstaged)
    intro _ h' m' hrecorded
    apply Program.wp_mono (wp_removeDraftStage hrecorded)
    · intro _ h'' m'' hremoved
      refine ⟨⟨hremoved.rests, ?_⟩, fun _ => hremoved.reached⟩
      exact PushItem.localStageAtLeast_mono (Nat.zero_le _) hremoved.reached
    · intro _ _ _ habort
      exact habort
  · rename_i hnone
    exact ⟨hstaged, fun hsome => (hnone hsome).elim⟩

theorem wp_clearPendingStage
    (hstaged : Staged context start steps remaining .remoteSucceeded h m)
    (hremoved : m.item.outbound.isSome → m.item.localStageAtLeast .draftRemoved = true) :
    Program.wp (Path context start) (fun _ => Staged context start steps remaining .pendingCleared)
      (ItemAborts context start remaining) (clearPendingStage context) h m := by
  unfold clearPendingStage
  apply wp_currentItem_bind.mpr
  split
  · rename_i hreached
    exact ⟨hstaged.rests, hreached⟩
  · apply wp_workspace_bind.mpr
    apply wp_check_bind
    · intro _ _
      apply wp_then
      apply wp_advanceLocalStage hstaged.rests
      · intro _
        exact ⟨rfl, PushItem.localStage_of_atLeast hstaged.reached, hremoved⟩
      · intro m' hnext
        unfold refreshMessagePushViews
        split
        · exact hnext
        · apply wp_workspace_bind.mpr
          apply wp_check
          · intro _ _
            exact hnext
          · intro error _
            exact ⟨steps, hnext.rests⟩
    · intro error _
      exact ⟨steps, hstaged.rests⟩

/-- The item rests with its audit identity. -/
structure Reportable (context : PushExecutionContext) (start : PushPosition)
    (steps : Option (List ActionStep)) (remaining : List PushItem) (h : List RemoteEvent)
    (m : Process) : Prop where
  at_ : At context start (.serving steps .resting remaining) h m
  pending : m.item.auditPending.isSome

theorem wp_preparePushAuditPending (hsound : Sound context start)
    (hstaged : Staged context start steps remaining .pendingCleared h m) :
    Program.wp (Path context start) (fun _ => Reportable context start steps remaining)
      (ItemAborts context start remaining) (preparePushAuditPending context) h m := by
  obtain ⟨⟨hat, hunreported⟩, hreached⟩ := hstaged
  have hkept := (hsound.serving hat).auditKept (by simp)
  have hlast : m.item.localStageAtLeast .auditPending = false := by
    apply PushItem.localStageAtLeast_last
    intro hstage
    have hpending := hkept.mpr hstage
    rw [hunreported] at hpending
    cases hpending
  unfold preparePushAuditPending assignAuditPending
  apply wp_then
  apply wp_currentItem_bind.mpr
  rw [hunreported]
  apply wp_then
  apply wp_newEventId hat
  · intro eventId h' hnamed
    apply wp_modifyItem hnamed (.assignAudit eventId hunreported hreached)
    intro hassigned
    unfold advanceLocalStage
    apply wp_currentItem_bind.mpr
    split
    · rename_i hnot
      cases hlast.symm.trans hnot
    · apply wp_saveItem hassigned (.advance .auditPending hlast rfl)
      intro hnext
      exact ⟨hnext, rfl⟩
  · intro error h' hnext
    exact ⟨steps, hnext, hunreported⟩

theorem wp_finalizePushedItem (hsound : Sound context start)
    (hpushed : Pushed context start steps remaining h m) :
    Program.wp (Path context start) (fun _ => Reportable context start steps remaining)
      (ItemAborts context start remaining) (finalizePushedItem context) h m := by
  unfold finalizePushedItem
  apply wp_then
  apply wp_advanceLocalStage hpushed.rests
  · intro hbefore
    rw [PushItem.localStageAtLeast_first] at hbefore
    have hdone := hpushed.done (Option.not_isSome_iff_eq_none.mp (Bool.eq_false_iff.mp hbefore))
    exact ⟨rfl, hdone⟩
  · intro m' hstaged
    apply Program.wp_seq (wp_finalizeOutbound hsound hstaged)
    intro _ h'' m'' hfinalized
    apply Program.wp_seq (wp_clearPendingStage hfinalized.1 hfinalized.2)
    intro _ h₃ m₃ hcleared
    exact wp_preparePushAuditPending hsound hcleared

theorem wp_runItem (hsound : Sound context start)
    (hat : At context start (.serving none .resting remaining) h m) :
    Program.wp (Path context start)
      (fun _ h' m' => ∃ steps, Reportable context start steps remaining h' m')
      (ItemAborts context start remaining) (runItem context) h m := by
  have hfinalize : ∀ h m, (∃ steps, Pushed context start steps remaining h m) →
      Program.wp (Path context start)
        (fun _ h' m' => ∃ steps, Reportable context start steps remaining h' m')
        (ItemAborts context start remaining) (finalizePushedItem context) h m := by
    intro h m hpushed
    obtain ⟨steps, hpushed⟩ := hpushed
    apply Program.wp_mono (wp_finalizePushedItem hsound hpushed)
    · intro _ h' m' hreportable
      exact ⟨steps, hreportable⟩
    · intro _ _ _ habort
      exact habort
  unfold runItem
  apply wp_currentItem_bind.mpr
  split
  · rename_i hpending
    exact ⟨none, hat, hpending⟩
  · rename_i hnone
    rw [Option.not_isSome_iff_eq_none] at hnone
    have hrests : Rests context start none remaining h m := ⟨hat, hnone⟩
    cases hpayload : m.item.payload with
    | draft draft =>
      apply Program.wp_seq (wp_pushOutbound hsound hrests hpayload)
      intro _ h' m' hpushed
      exact hfinalize h' m' hpushed
    | message message =>
      apply Program.wp_seq (wp_pushActionSteps hsound hrests hpayload)
      intro _ h' m' hpushed
      exact hfinalize h' m' hpushed

end Stages

section Report

namespace AuditLog

theorem readLines_subset {lines : List (List AuditEvent)} {found : AuditLogRead}
    (hread : readLines number lines = .ok found) : found.events ⊆ lines.flatten := by
  induction lines generalizing number found with
  | nil =>
    cases hread
    exact List.Subset.refl _
  | cons line rest ih =>
    unfold readLines at hread
    split at hread
    · cases hread
      exact List.nil_subset _
    · rename_i event rest heq
      cases heq
      obtain ⟨later, hlater, hread⟩ := Result.bind_ok hread
      cases hread
      rw [List.flatten_cons, List.singleton_append]
      exact List.cons_subset_cons event (ih hlater)
    · cases hread
      exact List.nil_subset _
    · cases hread

theorem read_subset {log : AuditLog} {found : AuditLogRead} (hread : log.read = .ok found) :
    found.events ⊆ log.events := by
  intro event hmem
  obtain ⟨line, hline, hevent⟩ := List.mem_flatten.mp (readLines_subset hread hmem)
  exact List.mem_flatten.mpr ⟨line, List.mem_of_mem_filter hline, hevent⟩

end AuditLog

theorem wp_auditPushSucceeded
    (hreportable : Reportable context start steps remaining h m)
    (hpost : ∀ m', Reportable context start steps remaining h m' → m'.item = m.item →
      (∃ pending, m.item.auditPending = some pending ∧
        ∃ event ∈ m'.workspace.audit.events, event.eventId = pending.eventId) → post () h m')
    (habort : ∀ error m', Reportable context start steps remaining h m' → abort error h m') :
    Program.wp (Path context start) post abort auditPushSucceeded h m := by
  obtain ⟨hat, hpending⟩ := hreportable
  unfold auditPushSucceeded
  apply wp_currentItem_bind.mpr
  split
  · rename_i hnone
    rw [hnone] at hpending
    cases hpending
  · rename_i pending hsome
    unfold appendAuditEventWithIdentity
    apply wp_then
    apply wp_workspace_bind.mpr
    apply wp_check_bind
    · intro log hlog
      split
      · exact habort _ m ⟨hat, hpending⟩
      · rename_i htail
        split
        · rename_i hany
          obtain ⟨event, hmem, heq⟩ := List.any_eq_true.mp hany
          exact hpost m ⟨hat, hpending⟩ rfl
            ⟨pending, hsome, event, AuditLog.read_subset hlog hmem, beq_iff_eq.mp heq⟩
        · rename_i hnew
          have hfresh : ∀ event ∈ log.events, event.eventId ≠ pending.eventId := by
            intro event hmem heq
            exact hnew (List.any_eq_true.mpr ⟨event, hmem, beq_iff_eq.mpr heq⟩)
          unfold appendAuditEventRecord
          apply wp_then
          apply wp_then
          apply wp_writeWorkspace hat (.reportSuccess pending log hsome hlog
            (Bool.eq_false_iff.mpr htail) hfresh)
          intro hrecorded
          apply wp_writeWorkspace hrecorded .newline
          intro hnext
          apply hpost _ ⟨hnext, hpending⟩ rfl
          refine ⟨pending, hsome, succeededEvent m.item pending, ?_, rfl⟩
          change _ ∈ ((m.workspace.audit.appendRecord _).appendNewline).events
          rw [AuditLog.events_appendNewline, AuditLog.events_appendRecord]
          exact List.mem_append_right _ (List.mem_singleton_self _)
    · intro error _
      exact habort error m ⟨hat, hpending⟩

/-- The item is reported and gone from the queue. -/
structure Reported (context : PushExecutionContext) (start : PushPosition)
    (steps : Option (List ActionStep)) (remaining : List PushItem) (h : List RemoteEvent)
    (m : Process) : Prop where
  reportable : Reportable context start steps remaining h m
  gone : m.record? = none

theorem Reported.change {change : Workspace → Workspace} {h' : List RemoteEvent}
    (hreported : Reported context start steps remaining h m)
    (hat : At context start (.serving steps .resting remaining) h' (m.onWorkspace change))
    (hpush : (change m.workspace).pushItems = m.workspace.pushItems) :
    Reported context start steps remaining h' (m.onWorkspace change) := by
  refine ⟨⟨hat, hreported.reportable.pending⟩, ?_⟩
  change (change m.workspace).pushItems[m.item.pushId]? = none
  rw [hpush]
  exact hreported.gone

/-- A case whose archiving is finished, or has queued work to wait for. -/
def Workspace.ArchivingSettled (w : Workspace) (caseUid : String) : Prop :=
  ∀ case_, w.cases[caseUid]? = some case_ → case_.status = .archiving →
    ∃ pushId : String, pushId ∈ w.pushItems

theorem Workspace.queued_of_mem {w : Workspace} (hmem : item ∈ w.readItems) :
    ∃ pushId : String, pushId ∈ w.pushItems := by
  obtain ⟨pushId, record, hget, _⟩ := Workspace.mem_readItems.mp hmem
  exact ⟨pushId, Std.ExtTreeMap.mem_iff_isSome_getElem?.mpr (by rw [hget]; rfl)⟩

theorem Workspace.pendingPush_of_materialized {w : Workspace}
    (hindex : w.materializedOverlayIndex = .ok index) : index.pendingPush = w.pendingPushes := by
  obtain ⟨_, _, hindex⟩ := Result.bind_ok hindex
  obtain ⟨_, _, hindex⟩ := Result.bind_ok hindex
  obtain ⟨_, hindex⟩ := Result.seq_ok hindex
  obtain ⟨_, _, hindex⟩ := Result.bind_ok hindex
  cases hindex
  rfl

theorem Workspace.queued_of_pending {w : Workspace} {messageId : String} {message : Message}
    (hmessage : w.readMessageById messageId = .ok message) (hpush : push ∈ message.pending) :
    ∃ pushId : String, pushId ∈ w.pushItems := by
  obtain ⟨index, hindex, hmessage⟩ := Result.bind_ok hmessage
  obtain ⟨_, _, _, _, _, _, _, _, _, hpending⟩ := readMessageUnder_eq_ok hmessage
  rw [hpending, OverlayIndex.pending, pendingPush_of_materialized hindex, List.mem_filterMap]
    at hpush
  obtain ⟨entry, hentry, _⟩ := hpush
  obtain ⟨item, hitem, _⟩ := List.mem_flatMap.mp hentry
  exact queued_of_mem (mem_sortedItems.mp (List.mem_of_mem_filter hitem))

theorem Workspace.queued_of_pendingArchiveWork {w : Workspace} {caseUid : String}
    {messageIds : List String} (hpending : w.caseHasPendingArchiveWork caseUid messageIds = .ok true) :
    ∃ pushId : String, pushId ∈ w.pushItems := by
  unfold caseHasPendingArchiveWork at hpending
  split at hpending
  · rename_i hany
    obtain ⟨item, hmem, _⟩ := List.any_eq_true.mp hany
    exact queued_of_mem hmem
  · induction messageIds with
    | nil => cases hpending
    | cons messageId rest ih =>
      obtain ⟨message, hmessage, hpending⟩ := Result.bind_ok hpending
      split at hpending
      · rename_i hany
        obtain ⟨push, hpush, _⟩ := List.any_eq_true.mp hany
        exact queued_of_pending hmessage hpush
      · exact ih hpending

/-- The sweep over the archived cases has come so far. -/
structure Swept (context : PushExecutionContext) (start : PushPosition)
    (steps : Option (List ActionStep)) (remaining : List PushItem) (cases : List String)
    (done : List String) (h : List RemoteEvent) (m : Process) : Prop where
  reported : Reported context start steps remaining h m
  entries : ∀ (caseUid : String) case_, m.workspace.cases[caseUid]? = some case_ →
    (case_.archivedDir = true ↔ caseUid ∈ cases)
  settled : ∀ caseUid ∈ done, m.workspace.ArchivingSettled caseUid

theorem updateCaseArchiveState_status (now : String) (case_ : CaseRecord) :
    (updateCaseArchiveState now case_).status ≠ .archiving := by
  unfold updateCaseArchiveState
  cases case_.status <;> exact fun heq => nomatch heq

theorem Swept.archive {caseUid now : String} {cases done : List String} {audit : AuditLog}
    (hswept : Swept context start steps remaining cases done h m)
    (hreported : Reported context start steps remaining h'
      ((m.onWorkspace (·.alterCase caseUid (updateCaseArchiveState now))).onWorkspace
        fun w => { w with audit })) :
    Swept context start steps remaining cases (done ++ [caseUid]) h'
      ((m.onWorkspace (·.alterCase caseUid (updateCaseArchiveState now))).onWorkspace
        fun w => { w with audit }) := by
  refine ⟨hreported, ?_, ?_⟩
  · intro other changed hget
    obtain ⟨case_, hcase, rfl⟩ := Workspace.alterCase_get_eq_some.mp hget
    rw [← hswept.entries other case_ hcase]
    split <;> rfl
  · intro other hmem changed hget hstatus
    obtain ⟨case_, hcase, rfl⟩ := Workspace.alterCase_get_eq_some.mp hget
    split at hstatus
    · exact (updateCaseArchiveState_status _ _ hstatus).elim
    · rename_i hne
      rcases List.mem_append.mp hmem with hold | hnew
      · exact hswept.settled other hold case_ hcase hstatus
      · exact (hne (List.mem_singleton.mp hnew)).elim

theorem wp_finalizeArchivingCase {caseUid : String} {cases done : List String}
    (hin : caseUid ∈ cases) (hswept : Swept context start steps remaining cases done h m) :
    Program.wp (Path context start)
      (fun _ => Swept context start steps remaining cases (done ++ [caseUid]))
      (fun _ => Reportable context start steps remaining)
      (finalizeArchivingCase context caseUid) h m := by
  have hreported := hswept.reported
  have hkeep : m.workspace.ArchivingSettled caseUid →
      Swept context start steps remaining cases (done ++ [caseUid]) h m := by
    intro hsettled
    refine ⟨hreported, hswept.entries, ?_⟩
    intro other hmem
    rcases List.mem_append.mp hmem with hold | hnew
    · exact hswept.settled other hold
    · rw [List.mem_singleton.mp hnew]
      exact hsettled
  unfold finalizeArchivingCase
  apply wp_workspace_bind.mpr
  apply wp_check_bind
  · intro case_ hfind
    have hget := Workspace.findCase_eq_ok_iff.mp hfind
    split
    · rename_i harchiving
      apply wp_check_bind
      · intro pending hpending
        split
        · apply wp_then
          have hdir : case_.archivedDir = true := (hswept.entries caseUid case_ hget).mpr hin
          apply wp_writeWorkspace hreported.reportable.at_
            (.archiveCase caseUid case_ hget hdir harchiving)
          intro hnext
          have harchived := hreported.change hnext rfl
          apply wp_appendAuditEvent hnext (by decide)
          · intro h' audit hdone
            exact hswept.archive (harchived.change hdone rfl)
          · intro error h' hfailed
            exact ⟨hfailed, hreported.reportable.pending⟩
        · rename_i hwork
          rw [Bool.not_eq_true, Bool.not_eq_false'] at hwork
          subst hwork
          apply hkeep
          intro _ _ _
          exact Workspace.queued_of_pendingArchiveWork hpending
      · intro error _
        exact hreported.reportable
    · rename_i hnot
      apply hkeep
      intro other hother hstatus
      cases hget.symm.trans hother
      exact (hnot hstatus).elim
  · intro error _
    exact hreported.reportable

theorem wp_finalizeArchivingCases (hreported : Reported context start steps remaining h m) :
    Program.wp (Path context start)
      (fun _ h' m' => Reported context start steps remaining h' m' ∧
        ∀ (caseUid : String) case_, m'.workspace.cases[caseUid]? = some case_ →
          case_.archivedDir = true → m'.workspace.ArchivingSettled caseUid)
      (fun _ => Reportable context start steps remaining)
      (finalizeArchivingCases context) h m := by
  unfold finalizeArchivingCases
  apply wp_workspace_bind.mpr
  have hentries : ∀ (caseUid : String) case_, m.workspace.cases[caseUid]? = some case_ →
      (case_.archivedDir = true ↔ caseUid ∈ m.workspace.archivedCaseEntries.map (·.1)) := by
    intro caseUid case_ hget
    rw [List.mem_map]
    constructor
    · intro hdir
      refine ⟨(caseUid, case_), List.mem_filter.mpr ⟨?_, hdir⟩, rfl⟩
      exact Std.ExtTreeMap.mem_toList_iff_getElem?_eq_some.mpr hget
    · intro ⟨entry, hmem, heq⟩
      obtain ⟨hin, hdir⟩ := List.mem_filter.mp hmem
      have hentry := Std.ExtTreeMap.mem_toList_iff_getElem?_eq_some.mp hin
      rw [heq] at hentry
      cases hget.symm.trans hentry
      exact hdir
  have hstart : Swept context start steps remaining
      (m.workspace.archivedCaseEntries.map (·.1)) [] h m :=
    ⟨hreported, hentries, fun _ hmem => (List.not_mem_nil hmem).elim⟩
  have hloop := Program.wp_forEach_done
    (Swept context start steps remaining (m.workspace.archivedCaseEntries.map (·.1))) [] hstart
    fun caseUid hin done h' m' hswept => wp_finalizeArchivingCase hin hswept
  apply Program.wp_mono hloop
  · intro _ h' m' hswept
    refine ⟨hswept.reported, ?_⟩
    intro caseUid case_ hget hdir
    exact hswept.settled caseUid ((hswept.entries caseUid case_ hget).mp hdir)
  · intro _ _ _ habort
    exact habort

/-- The item is done, and the push is between two items again. -/
structure Finished (context : PushExecutionContext) (start : PushPosition)
    (remaining : List PushItem) (h : List RemoteEvent) (m : Process) : Prop where
  at_ : At context start (.between remaining) h m
  audited : m.item.auditPending = none
  served : ∃ steps served, At context start (.serving steps .resting remaining) h served ∧
    served.item.pushId = m.item.pushId
  settled : ∀ (caseUid : String) case_, m.workspace.cases[caseUid]? = some case_ →
    case_.archivedDir = true → m.workspace.ArchivingSettled caseUid

theorem wp_completeSuccessfulPushAudit
    (hreportable : Reportable context start steps remaining h m) :
    Program.wp (Path context start) (fun _ => Finished context start remaining)
      (fun _ => Reportable context start steps remaining)
      (completeSuccessfulPushAudit context) h m := by
  unfold completeSuccessfulPushAudit
  apply wp_then
  apply wp_auditPushSucceeded hreportable
  · intro m' hnext hitem hevent
    obtain ⟨pending, hsome, hevent⟩ := hevent
    apply wp_currentItem_bind.mpr
    apply wp_then
    apply wp_writeWorkspace hnext.at_ (.delete pending (by rw [hitem]; exact hsome) hevent)
    intro hdeleted
    have hgone : (m'.onWorkspace (·.deleteItem m'.item.pushId)).record? = none :=
      Std.ExtTreeMap.getElem?_erase_self
    apply Program.wp_seq (wp_finalizeArchivingCases ⟨⟨hdeleted, hnext.pending⟩, hgone⟩)
    intro _ h'' m'' ⟨hreported, hsettled⟩
    apply Program.wp_write_step hreported.reportable.at_ (.finish _ hreported.gone)
    intro hfinished
    exact ⟨hfinished, rfl, ⟨_, m'', hreported.reportable.at_, rfl⟩, hsettled⟩
  · intro error m' hnext
    exact hnext

/-- The item is left in the queue. -/
structure Kept (context : PushExecutionContext) (start : PushPosition)
    (remaining : List PushItem) (h : List RemoteEvent) (m : Process) : Prop where
  at_ : ∃ steps, At context start (.serving steps .resting remaining) h m
  record : m.record?.isSome

theorem Kept.of_save {change : PushItem → PushItem}
    (hat : At context start (.serving steps .resting remaining) h (m.save change)) :
    Kept context start remaining h (m.save change) := by
  refine ⟨⟨steps, hat⟩, ?_⟩
  rw [Process.record?_save]
  rfl

theorem wp_recordFailedItem {error : AppError}
    (hrests : Rests context start steps remaining h m)
    (hpost : ∀ h' m', Kept context start remaining h' m' → m'.item.pushId = m.item.pushId →
      post () h' m') :
    Program.wp (Path context start) post abort (recordFailedItem context error) h m := by
  unfold recordFailedItem auditPushFailed
  apply wp_then
  apply Program.wp_tryCatch.mpr
  apply wp_currentItem_bind.mpr
  apply wp_appendAuditEvent hrests.at_ (by decide)
  · intro h' audit hnext
    apply wp_saveItem hnext (.bookkeep error hrests.unreported)
    intro hsaved
    exact hpost _ _ (.of_save hsaved) rfl
  · intro _ h' hnext
    apply wp_saveItem hnext (.bookkeep error hrests.unreported)
    intro hsaved
    exact hpost _ _ (.of_save hsaved) rfl

end Report

section Loop

/-- How an item ended, whether the push goes on after it, and what is reported. -/
inductive ItemEnding (context : PushExecutionContext) (start : PushPosition)
    (remaining : List PushItem) (summary : PushSummary) :
    Bool × PushSummary → ProcessFact
  | pushed : Finished context start remaining history process →
      ItemEnding context start remaining summary (true, summary.addPushed process.item)
        history process
  | auditPending : Kept context start remaining history process →
      process.item.auditPending.isSome →
      ItemEnding context start remaining summary
        (false, (summary.addPushed process.item).addAuditPending) history process
  | failed (item : PushItem) (error : AppError) :
      Kept context start remaining history process → process.item.pushId = item.pushId →
      ItemEnding context start remaining summary (false, summary.addFailed item error)
        history process

theorem ItemEnding.of_pending {summary : PushSummary} (hkept : Kept context start remaining h m)
    (hpending : m.item.auditPending.isSome) :
    ItemEnding context start remaining summary
      (m.item.auditPending.isNone, (summary.addPushed m.item).addAuditPending) h m := by
  rw [Option.isNone_eq_false_iff.mpr hpending]
  exact .auditPending hkept hpending

theorem wp_pushItem {summary : PushSummary} (hsound : Sound context start)
    (hat : At context start (.serving none .resting remaining) h m) :
    Program.wp (Path context start) (ItemEnding context start remaining summary) abort
      (pushItem context summary) h m := by
  unfold pushItem
  apply wp_then
  apply Program.wp_tryCatch.mpr
  apply wp_then
  apply Program.wp_mono (wp_runItem hsound hat)
  · intro _ h' m' hreportable
    obtain ⟨steps, hreportable⟩ := hreportable
    apply wp_then
    apply Program.wp_tryCatch.mpr
    apply wp_then
    apply Program.wp_mono (wp_completeSuccessfulPushAudit hreportable)
    · intro _ h'' m'' hfinished
      apply wp_currentItem_bind.mpr
      rw [hfinished.audited]
      exact .pushed hfinished
    · intro error h'' m'' hkept
      apply wp_then
      apply wp_saveItem hkept.at_ (.keepAudit error hkept.pending)
      intro hsaved
      have hpending : (m''.item.auditPending.map fun pending =>
          { pending with lastError := some error.toString }).isSome :=
        Option.isSome_map.trans hkept.pending
      apply wp_currentItem_bind.mpr
      exact .of_pending (.of_save hsaved) hpending
  · intro error h' m' haborts
    obtain ⟨steps, hrests⟩ := haborts
    apply wp_currentItem_bind.mpr
    apply wp_then
    apply wp_recordFailedItem hrests
    intro h'' m'' hkept hitem
    exact .failed m'.item error hkept hitem

/-- How a push over some items ended: each went through, up to the first that did not. -/
inductive PushEnding (context : PushExecutionContext) (start : PushPosition) :
    PushSummary → List PushItem → List RemoteEvent → Process → PushSummary →
      ProcessFact
  | finished : At context start (.between []) history process →
      PushEnding context start summary [] history process summary history process
  | stopped : ItemEnding context start rest summary (false, summary') history' process' →
      PushEnding context start summary (item :: rest) history process
        { summary' with unattemptedCount := rest.length } history' process'
  | next : ItemEnding context start rest summary (true, summary') history' process' →
      PushEnding context start summary' rest history' process' summary'' history'' process'' →
      PushEnding context start summary (item :: rest) history process summary'' history'' process''

theorem wp_pushItems {summary : PushSummary} {items : List PushItem}
    (hsound : Sound context start) (hat : At context start (.between items) h m) :
    Program.wp (Path context start) (PushEnding context start summary items h m) abort
      (pushItems context summary items) h m := by
  induction items generalizing summary h m with
  | nil => exact .finished hat
  | cons item rest ih =>
    rw [pushItems]
    apply wp_then
    apply Program.wp_write_step hat (.pick item rest)
    intro hpicked
    apply Program.wp_seq (wp_pushItem hsound hpicked)
    intro result h' m' hended
    obtain ⟨goOn, summary'⟩ := result
    cases goOn with
    | true =>
      have hat' : At context start (.between rest) h' m' := by
        cases hended with
        | pushed hfinished => exact hfinished.at_
      apply Program.wp_mono (ih hat')
      · intro summary'' h'' m'' hrest
        exact .next hended hrest
      · intro _ _ _ habort
        exact habort
    | false => exact .stopped hended

theorem wp_reconcileWrites {items writes deletes : List PushItem}
    {post : Unit → ProcessFact}
    (hat : At context start (.reconciling items writes deletes) h m)
    (hpost : ∀ m', At context start (.reconciling items [] deletes) h m' → post () h m') :
    Program.wp (Path context start) post abort
      (Program.forEach writes fun item => writeWorkspace (·.writeItem item)) h m := by
  induction writes generalizing m with
  | nil => exact hpost m hat
  | cons item rest ih =>
    apply wp_then
    apply Program.wp_write_step hat (.reconcileWrite item rest)
    intro hnext
    exact ih hnext

theorem wp_reconcileDeletes {items deletes : List PushItem}
    {post : Unit → ProcessFact}
    (hat : At context start (.reconciling items [] deletes) h m)
    (hpost : ∀ m', At context start (.reconciling items [] []) h m' → post () h m') :
    Program.wp (Path context start) post abort
      (Program.forEach deletes fun item => writeWorkspace (·.deleteItem item.pushId)) h m := by
  induction deletes generalizing m with
  | nil => exact hpost m hat
  | cons item rest ih =>
    apply wp_then
    apply Program.wp_write_step hat (.reconcileDelete item rest)
    intro hnext
    exact ih hnext

theorem wp_runPlan {plan : ResolvedPushPlan} {planned : PlannedItems} {summary : PushSummary}
    {post : PushSummary → ProcessFact}
    (hsound : Sound context start) (hat : At context start .idle h m)
    (hsame : m.workspace.config = context.config) (hvalid : context.config.validate = .ok ())
    (hplanned : resolvePlannedItems context m.workspace = .ok planned)
    (hitems : plan.items = planned.items) (hskipped : plan.skippedItems = planned.skipped)
    (hpost : ∀ h₁ m₁ summary' h' m', At context start (.between plan.items) h₁ m₁ →
      PushEnding context start summary plan.items h₁ m₁ summary' h' m' → post summary' h' m') :
    Program.wp (Path context start) post abort
      (do
        reconcilePushPlan plan
        pushItems context summary plan.items) h m := by
  have hstart : At context start (.reconciling plan.items plan.items plan.skippedItems) h m := by
    rw [hitems, hskipped]
    exact hat.tail (.plan planned hsame hvalid hplanned)
  unfold reconcilePushPlan
  apply wp_then
  apply wp_then
  apply wp_reconcileWrites hstart
  intro m' hwritten
  apply wp_reconcileDeletes hwritten
  intro m'' hdeleted
  have hreconciled := hdeleted.tail .reconciled
  apply Program.wp_mono (wp_pushItems hsound hreconciled)
  · intro summary' h' m' hended
    exact hpost h m'' summary' h' m' hreconciled hended
  · intro _ _ _ habort
    exact habort

end Loop

theorem resolvePushPlan_planned {w : Workspace} (hplan : resolvePushPlan context w = .ok plan) :
    ∃ planned, resolvePlannedItems context w = .ok planned ∧ plan.items = planned.items ∧
      plan.skippedItems = planned.skipped := by
  obtain ⟨built, hbuilt, hplan⟩ := Result.bind_ok hplan
  obtain ⟨_, _, hplan⟩ := Result.bind_ok hplan
  cases hplan
  obtain ⟨planned, hplanned, hbuilt⟩ := Result.bind_ok hbuilt
  obtain ⟨views, _, hbuilt⟩ := Result.bind_ok hbuilt
  cases hbuilt
  exact ⟨planned, hplanned, rfl, rfl⟩

theorem loadConfig_eq_ok {w : Workspace} (hload : loadConfig w = .ok config) :
    w.config.validate = .ok () ∧ config = w.config := by
  obtain ⟨hvalid, hload⟩ := Result.seq_ok hload
  cases hload
  exact ⟨hvalid, rfl⟩

theorem sound_start {w : Workspace} {history : List RemoteEvent}
    (hconfig : context.config.validate = .ok ()) (hqueue : w.QueueConsistent) :
    Sound context ⟨.idle, history, .start w⟩ :=
  fun _ _ _ hat => pushConsistent_of_reaches hconfig hqueue hat

/-- A confirmed push that ends has run the items of the confirmed plan. -/
def PushEnds (host : Host) (w : Workspace) (confirmed : PushPlanDigest) (start : PushPosition)
    (summary : PushSummary) : ProcessFact := fun h m =>
  ∃ plan, resolvePushPlan ⟨host, w.config⟩ w = .ok plan ∧ plan.planId = confirmed ∧
    w.config.validate = .ok () ∧ ∃ h₁ m₁,
      At ⟨host, w.config⟩ start (.between plan.items) h₁ m₁ ∧
      PushEnding ⟨host, w.config⟩ start
        { reconciledRemovedPushIds := plan.skippedItems.map (·.pushId) } plan.items h₁ m₁
        summary h m

theorem wp_pushConfirmed {host : Host} {w : Workspace} {confirmed : PushPlanDigest}
    {history : List RemoteEvent} (hqueue : w.QueueConsistent) :
    Program.wp (Path ⟨host, w.config⟩ ⟨.idle, history, .start w⟩)
      (PushEnds host w confirmed ⟨.idle, history, .start w⟩) (fun _ _ _ => True)
      (pushConfirmed host confirmed) history (.start w) := by
  unfold pushConfirmed
  apply wp_workspace_bind.mpr
  apply wp_check_bind
  · intro config hload
    obtain ⟨hvalid, rfl⟩ := loadConfig_eq_ok hload
    apply wp_check_bind
    · intro plan hplan
      obtain ⟨planned, hplanned, hitems, hskipped⟩ := resolvePushPlan_planned hplan
      apply wp_check_bind
      · intro _ hconfirmed
        rw [ensure_eq_ok_iff, decide_eq_true_eq] at hconfirmed
        apply wp_runPlan (sound_start hvalid hqueue) .refl rfl hvalid hplanned hitems hskipped
        intro h₁ m₁ summary h m hreconciled hended
        exact ⟨plan, hplan, hconfirmed, hvalid, h₁, m₁, hreconciled, hended⟩
      · intro error _
        exact trivial
    · intro error _
      exact trivial
  · intro error _
    exact trivial

theorem pushConfirmed_conforms {host : Host} {w : Workspace} {confirmed : PushPlanDigest}
    {history : List RemoteEvent} (hqueue : w.QueueConsistent)
    (hexec : Exec (pushConfirmed host confirmed) (.start w) events outcome process) :
    Path ⟨host, w.config⟩ ⟨.idle, history, .start w⟩ (history ++ events) process :=
  Program.Exec.reaches hexec .refl (wp_pushConfirmed hqueue)

theorem pushConfirmed_ends {host : Host} {w : Workspace} {confirmed : PushPlanDigest}
    {history : List RemoteEvent} (hqueue : w.QueueConsistent)
    (hexec : Exec (pushConfirmed host confirmed) (.start w) events (.returned summary) process) :
    PushEnds host w confirmed ⟨.idle, history, .start w⟩ summary (history ++ events) process :=
  (Program.wp_sound hexec ⟨_, .refl⟩ (wp_pushConfirmed hqueue)).2

end AgentFirstMail
