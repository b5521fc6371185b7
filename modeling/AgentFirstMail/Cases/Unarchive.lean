import AgentFirstMail.Cases.Rules
import AgentFirstMail.Config.Defaults
import AgentFirstMail.PushQueue.LocalErrors
import AgentFirstMail.PushQueue.PlannedQueue

namespace AgentFirstMail
open Effect Command

/-- An error that does not speak of a started push. -/
def AppError.NotOfStart (error : AppError) : Prop := error.errorCode ≠ "push_already_started"

/-- Neither a cached file nor a view is refused for a started push. -/
structure CaseHost.Renders (host : CaseHost) : Prop where
  cache : ∀ w messageIds, (host.clearPendingCache w messageIds).Fails AppError.NotOfStart
  dispositions : ∀ w, (host.renderDispositionViews w).Fails AppError.NotOfStart
  messages : ∀ w messageIds, (host.renderMessageViews w messageIds).Fails AppError.NotOfStart
  cases : ∀ w caseUid, (host.renderCaseViews w caseUid).Fails AppError.NotOfStart

namespace Workspace
variable (w : Workspace)

/-- The archive pushes queued for a message. -/
def archivePushes (messageId : String) : List PushItem :=
  w.readItems.filter fun item =>
    item.message.any fun message =>
      message.messageId == messageId && message.action == .notification

/-- An archive push that can no longer be taken back. -/
def StartedArchivePush (messageId : String) (item : PushItem) : Prop :=
  item ∈ w.archivePushes messageId ∧ item.hasStartedEffects = true

def takeBack (messageId : String) : Workspace :=
  (w.archivePushes messageId).foldl (fun w item => w.deleteItem item.pushId) w

/-- A case out of the archive, before anything is done about its messages. -/
def unarchived (now caseUid group : String) : Workspace :=
  (w.alterCase caseUid (·.withArchiveState false now)).alterCase caseUid (·.movedTo false group)

end Workspace

/-- Taking the archive pushes of some messages back comes upon one that has started: none of
the messages before has such a push, and their cached files can be rewritten. -/
def CleanupRefused (host : Host) : Workspace → List String → Prop
  | _, [] => False
  | w, messageId :: rest =>
    (∃ item, w.StartedArchivePush messageId item) ∨
    (∀ item, ¬ w.StartedArchivePush messageId item) ∧
      (w.archivePushes messageId = [] ∨
        host.clearPendingCache (w.takeBack messageId) [messageId] = .ok ()) ∧
      CleanupRefused host (w.takeBack messageId) rest

section TakingBack
variable {h : List RemoteEvent} {m : Process} {host : Host}

theorem removableMessagePushes_started {w : Workspace} {messageId : String} {item : PushItem}
    (hstarted : w.StartedArchivePush messageId item) :
    ∃ error, removableMessagePushes w messageId .notification = .error error ∧
      error.errorCode = "push_already_started" := by
  have hsome : ((w.archivePushes messageId).find? (·.hasStartedEffects)).isSome :=
    List.find?_isSome.mpr ⟨item, hstarted⟩
  obtain ⟨found, hfound⟩ := Option.isSome_iff_exists.mp hsome
  have hfilter : (w.readItems.filter fun item => item.message.any fun message =>
      message.messageId == messageId && message.action == .notification).find?
        (·.hasStartedEffects) = some found := hfound
  refine ⟨pushAlreadyStarted s!"push item already started and cannot be undone locally: {found.pushId}",
    ?_, rfl⟩
  unfold removableMessagePushes
  simp only [hfilter]

theorem removableMessagePushes_unstarted {w : Workspace} {messageId : String}
    (hnone : ∀ item, ¬ w.StartedArchivePush messageId item) :
    removableMessagePushes w messageId .notification = .ok (w.archivePushes messageId) := by
  refine removableMessagePushes_eq_ok_iff.mpr ⟨rfl, ?_⟩
  intro item hmem
  exact Bool.eq_false_iff.mpr fun hstarted => hnone item ⟨hmem, hstarted⟩

theorem wp_takeBackMessagePushes_started {messageId : String} {item : PushItem}
    {pushIds : List String} {post : List String → ProcessFact}
    (hstarted : m.workspace.StartedArchivePush messageId item) :
    Program.wp Anywhere post
      (fun error h' m' => h' = h ∧ m' = m ∧ error.errorCode = "push_already_started")
      (takeBackMessagePushes host .notification pushIds messageId) h m := by
  obtain ⟨error, herror, hcode⟩ := removableMessagePushes_started hstarted
  apply wp_then
  apply wp_workspace_bind.mpr
  apply wp_then
  rw [herror]
  exact ⟨rfl, rfl, hcode⟩

theorem wp_takeBackMessagePushes {messageId : String} {pushIds : List String}
    {post : List String → ProcessFact}
    {abort : AppError → ProcessFact}
    (hnone : ∀ item, ¬ m.workspace.StartedArchivePush messageId item)
    (hpost : (m.workspace.archivePushes messageId = [] ∨
        host.clearPendingCache (m.workspace.takeBack messageId) [messageId] = .ok ()) →
      ∀ pushIds', post pushIds' h (m.onWorkspace (·.takeBack messageId)))
    (habort : ∀ error, m.workspace.archivePushes messageId ≠ [] →
      host.clearPendingCache (m.workspace.takeBack messageId) [messageId] = .error error →
      abort error h (m.onWorkspace (·.takeBack messageId))) :
    Program.wp Anywhere post abort
      (takeBackMessagePushes host .notification pushIds messageId) h m := by
  apply wp_then
  apply wp_workspace_bind.mpr
  apply wp_then
  rw [removableMessagePushes_unstarted hnone]
  apply wp_then
  apply wp_forEach_write
  by_cases hempty : m.workspace.archivePushes messageId = []
  · have hsame := hpost (.inl hempty) (pushIds ++ [])
    rw [hempty]
    have hback : (m.onWorkspace (·.takeBack messageId)) = m.onWorkspace fun w => w := by
      change { m with workspace := m.workspace.takeBack messageId } = _
      rw [Workspace.takeBack, hempty]
      rfl
    rw [hback] at hsame
    exact hsame
  · have hids : ((m.workspace.archivePushes messageId).map (·.pushId)).isEmpty = false := by
      simp [hempty]
    rw [Program.pure_eq, Program.wp_ret]
    dsimp only
    rw [if_pos (by rw [hids]; rfl)]
    apply wp_workspace_bind.mpr
    apply wp_check_bind
    · intro _ hclear
      exact hpost (.inr hclear) _
    · intro error herror
      exact habort error hempty herror

end TakingBack

section Cleanup
variable {h : List RemoteEvent} {m : Process} {host : Host} {pushIds : List String}

@[simp] theorem Workspace.takeBack_cases (w : Workspace) (messageId : String) :
    (w.takeBack messageId).cases = w.cases := by
  unfold takeBack
  generalize w.archivePushes messageId = items
  induction items generalizing w with
  | nil => rfl
  | cons item rest ih => exact ih (w.deleteItem item.pushId)

/-- Up to the started push, only pushes are taken back. -/
theorem wp_cleanup_refused {messageIds : List String}
    (hrefused : CleanupRefused host m.workspace messageIds) :
    Program.wp Anywhere (fun _ _ _ => False)
      (fun error h' m' => h' = h ∧ m'.workspace.cases = m.workspace.cases ∧
        error.errorCode = "push_already_started")
      (Program.gather messageIds pushIds (takeBackMessagePushes host .notification)) h m := by
  induction messageIds generalizing m pushIds with
  | nil => exact hrefused
  | cons messageId rest ih =>
    apply wp_then
    rcases hrefused with ⟨item, hstarted⟩ | ⟨hnone, hclear, hrest⟩
    · apply Program.wp_mono (wp_takeBackMessagePushes_started hstarted)
      · intro _ _ _ hfalse
        exact hfalse
      · rintro error _ _ ⟨rfl, rfl, hcode⟩
        exact ⟨rfl, rfl, hcode⟩
    · apply wp_takeBackMessagePushes hnone
      · intro _ pushIds'
        apply Program.wp_mono (ih (m := m.onWorkspace (·.takeBack messageId)) hrest)
        · intro _ _ _ hfalse
          exact hfalse
        · rintro error _ m' ⟨rfl, hcases, hcode⟩
          exact ⟨rfl, hcases.trans (Workspace.takeBack_cases _ _), hcode⟩
      · intro error hne herror
        rcases hclear with hempty | hok
        · exact (hne hempty).elim
        · cases herror.symm.trans hok

theorem wp_cleanup_unhindered {messageIds : List String}
    (hcache : ∀ w messageIds, (host.clearPendingCache w messageIds).Fails AppError.NotOfStart)
    (hpassed : ¬ CleanupRefused host m.workspace messageIds) :
    Program.wp Anywhere (fun _ _ _ => True) (fun error _ _ => error.NotOfStart)
      (Program.gather messageIds pushIds (takeBackMessagePushes host .notification)) h m := by
  induction messageIds generalizing m pushIds with
  | nil => trivial
  | cons messageId rest ih =>
    rw [CleanupRefused, not_or, not_exists] at hpassed
    obtain ⟨hnone, hpassed⟩ := hpassed
    apply wp_then
    apply wp_takeBackMessagePushes hnone
    · intro hclear pushIds'
      exact ih fun hrest => hpassed ⟨hnone, hclear, hrest⟩
    · intro error _ herror
      exact hcache _ _ error herror

end Cleanup

section Unarchiving
variable {host : CaseHost} {caseRef group : String} {reason : Option String} {m : Process}

/-- A started push is no reason to leave anything changed. -/
abbrev LeavesOnStart (w : Workspace) : AppError → ProcessFact :=
  fun error h m => error.errorCode = "push_already_started" →
    (∀ event ∈ h, event.Answered) → m.workspace = w

theorem leavesOnStart {w : Workspace} {error : AppError} {h : List RemoteEvent}
    (herror : error.NotOfStart) : LeavesOnStart w error h m :=
  fun hcode => (herror hcode).elim

theorem AppError.OfRead.notOfStart {error : AppError} (h : error.OfRead) : error.NotOfStart := by
  intro hcode
  have hmem := h.code
  rw [hcode] at hmem
  exact absurd hmem (by decide)

theorem notOfStart_invalidRequest (message : String) : (invalidRequest message).NotOfStart := by
  intro hcode
  exact absurd hcode (by decide : "invalid_request" ≠ "push_already_started")

theorem Workspace.fails_findCase (w : Workspace) (caseUid : String) :
    (w.findCase caseUid).Fails AppError.OfRead := by
  unfold Workspace.findCase
  split
  · exact Result.Fails.ok _
  · exact Result.Fails.failure (AppError.ofRead (by decide))

theorem messagesRefreshed_notOfStart (hrenders : host.Renders) (w : Workspace)
    (messageIds : List String) :
    (messagesRefreshed host.toHost w messageIds).Fails AppError.NotOfStart := by
  apply Result.Fails.forM
  intro messageId
  apply Result.Fails.bind (Result.Fails.ensure (notOfStart_invalidRequest _))
  intro _ _
  apply Result.Fails.bind
  · intro error herror
    exact (Workspace.fails_readMessageById messageId error herror).notOfStart
  · intro _ _
    exact hrenders.messages _ _

theorem caseRefreshed_notOfStart (hrenders : host.Renders) (w : Workspace) (caseUid : String) :
    (caseRefreshed host.toHost w caseUid).Fails AppError.NotOfStart := by
  apply Result.Fails.bind
  · intro error herror
    exact (Workspace.fails_findCase w caseUid error herror).notOfStart
  intro case_ _
  apply Result.Fails.bind
  · apply Result.Fails.forM
    intro messageId
    apply Result.Fails.bind
    · intro error herror
      exact (Workspace.fails_readMessageById messageId error herror).notOfStart
    · intro _ _
      exact Result.Fails.ok _
  · intro _ _
    exact hrenders.cases _ _

theorem wp_unarchiveCase_unhindered (hrenders : host.Renders)
    (hpassed : ∀ caseUid case_ checked,
      unarchiveChecks host m.workspace caseRef group reason = .ok (caseUid, case_, checked) →
      ¬ CleanupRefused host.toHost (m.workspace.unarchived host.now caseUid group)
        case_.members.messageIds) :
    Program.wp Anywhere (fun _ _ _ => True) (LeavesOnStart m.workspace)
      (unarchiveCase host caseRef group reason) [] m := by
  apply wp_workspace_bind.mpr
  apply wp_check_bind
  · rintro ⟨caseUid, case_, checked⟩ hchecks
    apply wp_then
    refine ⟨trivial, ?_⟩
    apply wp_then
    refine ⟨trivial, ?_⟩
    refine Program.wp_seq (?_ : Program.wp _ (fun _ _ _ => True) _ _ _ _) ?_
    · refine Program.wp_seq (?_ : Program.wp _ (fun _ _ _ => True) _ _ _ _) ?_
      · apply Program.wp_mono (wp_cleanup_unhindered hrenders.cache (hpassed _ _ _ hchecks))
        · intro _ _ _ _
          trivial
        · intro error _ _ herror
          exact leavesOnStart herror
      · intro pushIds h' m' _
        split
        · apply wp_workspace_bind.mpr
          apply wp_check_bind
          · intro _ _
            trivial
          · intro error herror
            exact leavesOnStart (hrenders.dispositions _ error herror)
        · trivial
    · intro removed h' m' _
      apply wp_then
      apply (computes_refreshMessagesAfterRefChange _).wp
      · intro _ _
        apply wp_then
        apply (computes_refreshCaseMessageViews caseUid).wp
        · intro _ _
          apply wp_then
          apply wp_auditing
          · intro _ _
            trivial
          · intro _ _
            trivial
          · rintro error h'' ⟨event, hmem, hunanswered⟩ _ hanswered
            exact (hunanswered (hanswered event hmem)).elim
        · intro error herror
          exact leavesOnStart (caseRefreshed_notOfStart hrenders _ _ error herror)
      · intro error herror
        exact leavesOnStart (messagesRefreshed_notOfStart hrenders _ _ error herror)
  · intro _ _ _ _
    rfl

theorem wp_unarchiveCase_refused {caseUid : String} {case_ : CaseRecord} {checked : Option String}
    (hchecks : unarchiveChecks host m.workspace caseRef group reason = .ok (caseUid, case_, checked))
    (hrefused : CleanupRefused host.toHost (m.workspace.unarchived host.now caseUid group)
      case_.members.messageIds) :
    Program.wp Anywhere (fun _ _ _ => False)
      (fun error h' m' => h' = [] ∧
        m'.workspace.cases = (m.workspace.unarchived host.now caseUid group).cases ∧
        error.errorCode = "push_already_started")
      (unarchiveCase host caseRef group reason) [] m := by
  apply wp_workspace_bind.mpr
  apply wp_then
  rw [hchecks]
  apply wp_then
  refine ⟨trivial, ?_⟩
  apply wp_then
  refine ⟨trivial, ?_⟩
  refine Program.wp_seq (?_ : Program.wp _ (fun _ _ _ => False) _ _ _ _) ?_
  · refine Program.wp_seq (?_ : Program.wp _ (fun _ _ _ => False) _ _ _ _) ?_
    · exact wp_cleanup_refused (m := (m.onWorkspace
        (·.alterCase caseUid (·.withArchiveState false host.now))).onWorkspace
          (·.alterCase caseUid (·.movedTo false group))) hrefused
    · exact fun _ _ _ hfalse => hfalse.elim
  · exact fun _ _ _ hfalse => hfalse.elim

theorem unarchiveChecks_archived {w : Workspace} {caseUid : String} {case_ : CaseRecord}
    {checked : Option String}
    (hchecks : unarchiveChecks host w caseRef group reason = .ok (caseUid, case_, checked)) :
    w.cases[caseUid]? = some case_ ∧ case_.archivedDir = true := by
  obtain ⟨_, _, hchecks⟩ := Result.bind_ok hchecks
  obtain ⟨_, hchecks⟩ := Result.seq_ok hchecks
  obtain ⟨⟨found, record⟩, hfound, hchecks⟩ := Result.bind_ok hchecks
  obtain ⟨_, hchecks⟩ := Result.seq_ok hchecks
  cases hchecks
  obtain ⟨uid, _, hfound⟩ := Result.bind_ok hfound
  split at hfound
  · cases hfound
  · rename_i record' hrecord
    obtain ⟨_, hfound⟩ := Result.seq_ok hfound
    cases hfound
    exact Option.filter_eq_some_iff.mp hrecord

theorem Workspace.unarchived_cases_ne {w : Workspace} {now caseUid : String} {case_ : CaseRecord}
    (hget : w.cases[caseUid]? = some case_) (hdir : case_.archivedDir = true) :
    (w.unarchived now caseUid group).cases ≠ w.cases := by
  intro hsame
  have hmoved : (w.unarchived now caseUid group).cases[caseUid]? =
      some ((case_.withArchiveState false now).movedTo false group) := by
    exact Workspace.alterCase_get (Workspace.alterCase_get hget)
  rw [hsame, hget] at hmoved
  have hfalse := congrArg CaseRecord.archivedDir (Option.some.inj hmoved)
  rw [hdir] at hfalse
  cases hfalse

end Unarchiving

/-- A call refused because an archive push of a message has started leaves the workspace as it
was. -/
def UnarchiveAtomic (host : CaseHost) (caseRef group : String) (reason : Option String)
    (w : Workspace) : Prop :=
  ∀ (m : Process) (events : List RemoteEvent) (error : AppError) (m' : Process), m.workspace = w →
    Exec (unarchiveCase host caseRef group reason) m events (.failed error) m' →
    (∀ event ∈ events, event.Answered) → error.errorCode = "push_already_started" →
    m'.workspace = w

section Atomicity
variable {host : CaseHost} {caseRef group : String} {reason : Option String} {w : Workspace}

theorem unarchiveCase_atomic_iff (hrenders : host.Renders) :
    UnarchiveAtomic host caseRef group reason w ↔
      ∀ caseUid case_ checked,
        unarchiveChecks host w caseRef group reason = .ok (caseUid, case_, checked) →
        ¬ CleanupRefused host.toHost (w.unarchived host.now caseUid group)
          case_.members.messageIds := by
  constructor
  · intro hatomic caseUid case_ checked hchecks hrefused
    have hwp := wp_unarchiveCase_refused (m := .start w) hchecks hrefused
    obtain ⟨events, error, m', hexec, rfl, hcases, hcode⟩ :=
      Program.failing (storeError "") trivial hwp
    have hsame := hatomic (.start w) [] error m' rfl hexec (List.forall_mem_nil _) hcode
    obtain ⟨hget, hdir⟩ := unarchiveChecks_archived hchecks
    rw [hsame] at hcases
    exact Workspace.unarchived_cases_ne hget hdir hcases.symm
  · rintro hpassed m events error m' rfl hexec hanswered hcode
    have hended := (Program.wp_sound hexec trivial
      (wp_unarchiveCase_unhindered hrenders hpassed)).2
    exact hended hcode hanswered

end Atomicity

section Refusals

theorem plainCaseHost_renders : plainCaseHost.Renders where
  cache _ _ := Result.Fails.ok ()
  dispositions _ := Result.Fails.ok ()
  messages _ _ := Result.Fails.ok ()
  cases _ _ := Result.Fails.ok ()

/-- An archive push that has run its first step. -/
def startedArchive : PushItem where
  pushId := "push_message_message_1"
  enqueueSeq := 1
  payload := .message { messageId := "message_1", action := .notification }
  createdRfc3339 := ""
  updatedRfc3339 := ""
  stepStates := [{ index := 0, label := "add_flags", status := .succeeded }]

/-- An archived case whose one message has an archive push that has started. -/
def archivingWorkspace : Workspace where
  config := .default
  cases := (∅ : Std.ExtTreeMap String CaseRecord).insert "c20240101001"
    { archivedDir := true, group := "support", dirName := "c20240101001-order", caseName := "order"
      status := .archiving
      members := (∅ : Members).upsertItem "message_1" none "" }
  pushItems := (∅ : Std.ExtTreeMap String PushItem).insert startedArchive.pushId startedArchive

def answerCommand (_ : Unit) (request : Request) : Except AppError request.Reply × Unit :=
  (.error (storeError ""), ())

def unarchiveStarted : Trace Process Request Request.Reply AppError (List String) Unit :=
  (unarchiveCase plainCaseHost "c20240101001" "support" none).trace answerCommand
    (.start archivingWorkspace) ()

/-- The call is refused, and the case lies among the active ones. -/
theorem unarchiveCase_not_atomic :
    ¬ ∀ (host : CaseHost) (caseRef group : String) (reason : Option String) (w : Workspace),
      host.Renders → UnarchiveAtomic host caseRef group reason w := by
  intro hall
  have hexec := Program.trace_exec answerCommand
    (unarchiveCase plainCaseHost "c20240101001" "support" none) (.start archivingWorkspace) ()
  change Exec _ _ unarchiveStarted.events unarchiveStarted.outcome unarchiveStarted.state at hexec
  have houtcome : unarchiveStarted.outcome = .failed (pushAlreadyStarted
      "push item already started and cannot be undone locally: push_message_message_1") := by
    decide +kernel
  have hevents : unarchiveStarted.events = [] := by decide +kernel
  rw [houtcome, hevents] at hexec
  have hsame := hall _ _ _ _ _ plainCaseHost_renders _ _ _ _ rfl hexec (List.forall_mem_nil _) rfl
  have hdir := congrArg (fun w => w.cases["c20240101001"]?.map (·.archivedDir)) hsame
  exact absurd hdir (by decide +kernel)

theorem archivingWorkspace_atomic_iff :
    UnarchiveAtomic plainCaseHost "c20240101001" "support" none archivingWorkspace ↔
      ∀ caseUid case_ checked,
        unarchiveChecks plainCaseHost archivingWorkspace "c20240101001" "support" none =
          .ok (caseUid, case_, checked) →
        ¬ CleanupRefused plainCaseHost.toHost
          (archivingWorkspace.unarchived plainCaseHost.now caseUid "support")
          case_.members.messageIds :=
  unarchiveCase_atomic_iff plainCaseHost_renders

end Refusals
end AgentFirstMail
