import AgentFirstMail.PushQueue.Accounting

namespace AgentFirstMail
open Effect Command
variable {context : PushExecutionContext} {start : PushPosition} {remaining : List PushItem}
  {planned : PlannedItems} {steps steps' : Option (List ActionStep)} {attempt attempt' : Attempt}
  {h h' : List RemoteEvent} {m m' : Process} {w w' : Workspace}

section Cases

/-- A case keeps its place and its status, unless its archiving is finished. -/
structure CaseRecord.Keeps (case_ left : CaseRecord) : Prop where
  archivedDir : left.archivedDir = case_.archivedDir
  status : left.status = case_.status ∨
    case_.status = .archiving ∧ case_.archivedDir = true ∧ ∃ time, left.status = .archived time

theorem CaseRecord.Keeps.refl (case_ : CaseRecord) : case_.Keeps case_ := ⟨rfl, .inl rfl⟩

theorem CaseRecord.Keeps.trans {first second third : CaseRecord} (hfirst : first.Keeps second)
    (hsecond : second.Keeps third) : first.Keeps third := by
  refine ⟨hsecond.archivedDir.trans hfirst.archivedDir, ?_⟩
  rcases hsecond.status with hsame | ⟨harchiving, hdir, htime⟩
  · rw [hsame]
    exact hfirst.status
  · rcases hfirst.status with hsame | ⟨_, _, time, harchived⟩
    · rw [hsame] at harchiving
      rw [hfirst.archivedDir] at hdir
      exact .inr ⟨harchiving, hdir, htime⟩
    · cases harchived.symm.trans harchiving

/-- No case comes or goes. -/
structure Workspace.CasesKept (w w' : Workspace) : Prop where
  left : ∀ (caseUid : String) case_, w.cases[caseUid]? = some case_ →
    ∃ left, w'.cases[caseUid]? = some left ∧ case_.Keeps left
  none : ∀ (caseUid : String), w.cases[caseUid]? = .none → w'.cases[caseUid]? = .none

namespace Workspace.CasesKept

theorem of_eq (hsame : w'.cases = w.cases) : w.CasesKept w' where
  left caseUid case_ hget := ⟨case_, by rw [hsame]; exact hget, .refl case_⟩
  none caseUid hget := by rw [hsame]; exact hget

theorem trans (hfirst : w.CasesKept w') (hsecond : w'.CasesKept w'') : w.CasesKept w'' where
  left caseUid case_ hget := by
    obtain ⟨middle, hmiddle, hkept⟩ := hfirst.left caseUid case_ hget
    obtain ⟨left, hleft, hmore⟩ := hsecond.left caseUid middle hmiddle
    exact ⟨left, hleft, hkept.trans hmore⟩
  none caseUid hget := hsecond.none caseUid (hfirst.none caseUid hget)

theorem alterCase {change : CaseRecord → CaseRecord}
    (hchange : ∀ case_, w.cases[caseUid]? = some case_ → case_.Keeps (change case_)) :
    w.CasesKept (w.alterCase caseUid change) where
  left other case_ hget := by
    refine ⟨_, Workspace.alterCase_get_eq_some.mpr ⟨case_, hget, rfl⟩, ?_⟩
    split
    · rename_i heq
      rw [heq] at hget
      exact hchange case_ hget
    · exact .refl case_
  none other hget := by
    rw [Option.eq_none_iff_forall_ne_some]
    intro left hleft
    obtain ⟨case_, hcase, _⟩ := Workspace.alterCase_get_eq_some.mp hleft
    cases hget.symm.trans hcase

end Workspace.CasesKept

theorem updateCaseArchiveState_keeps (now : String) {case_ : CaseRecord}
    (hdir : case_.archivedDir = true) (hstatus : case_.status = .archiving) :
    case_.Keeps (updateCaseArchiveState now case_) := by
  refine ⟨rfl, .inr ⟨hstatus, hdir, now, ?_⟩⟩
  rw [updateCaseArchiveState, hstatus]

theorem ItemTransition.casesKept
    (ht : ItemTransition context steps attempt h m steps' attempt' h' m') :
    m.workspace.CasesKept m'.workspace := by
  cases ht with
  | archiveCase caseUid case_ hget hdir hstatus =>
    apply Workspace.CasesKept.alterCase
    intro other hother
    cases hget.symm.trans hother
    exact updateCaseArchiveState_keeps _ hdir hstatus
  | appendToCase | removeDraft | removeDraftState =>
    exact .alterCase fun _ _ => ⟨rfl, .inl rfl⟩
  | _ => exact .of_eq rfl

/-- What a push that has come so far did to the cases. -/
structure PushPhase.CasesStand (w : Workspace) (planned : PlannedItems) (h : List RemoteEvent)
    (m : Process) (phase : PushPhase) : Prop where
  stands : phase.Stands w planned h m
  kept : w.CasesKept m.workspace
  unserved : planned.items = [] → m.workspace.cases = w.cases

theorem PlannedItems.Exact.casesStand_step (hexact : planned.Exact context w)
    {position next : PushPosition}
    (hstand : position.phase.CasesStand w planned position.history position.state)
    (ht : PushTransition context position next) :
    next.phase.CasesStand w planned next.history next.state := by
  obtain ⟨hstands, hkept, hunserved⟩ := hstand
  refine ⟨hexact.step hstands ht, ?_, ?_⟩
  · cases ht with
    | serve ht => exact hkept.trans ht.casesKept
    | _ => exact hkept.trans (.of_eq rfl)
  · intro hempty
    cases ht with
    | serve ht =>
      obtain ⟨done, item, hitems, _⟩ := hstands
      rw [hempty] at hitems
      simp at hitems
    | _ => exact hunserved hempty

theorem PlannedItems.Exact.casesStand (hexact : planned.Exact context w)
    (hat : At context ⟨.idle, [], .start w⟩ phase h m) : phase.CasesStand w planned h m := by
  have hstart : PushPhase.idle.CasesStand w planned [] (.start w) :=
    ⟨⟨rfl, rfl⟩, .of_eq rfl, fun _ => rfl⟩
  exact hat.invariant hstart fun _ _ hposition ht => hexact.casesStand_step hposition ht

end Cases

section Ending

theorem PushEnding.settled {items : List PushItem} {summary summary' : PushSummary}
    (hended : PushEnding context start summary items h m summary' h' m')
    (hthrough : summary'.stoppedAfterFailure = false) (hitems : items ≠ []) :
    ∀ (caseUid : String) case_, m'.workspace.cases[caseUid]? = some case_ →
      case_.archivedDir = true → m'.workspace.ArchivingSettled caseUid := by
  induction hended with
  | finished => exact (hitems rfl).elim
  | stopped hended =>
    cases hended with
    | auditPending _ hpending => cases hpending.symm.trans hthrough
    | failed => cases hthrough
  | @next rest _ _ _ _ _ _ _ _ _ _ hended hrest ih =>
    by_cases hlast : rest = []
    · subst hlast
      cases hrest with
      | finished =>
        cases hended with
        | pushed hfinished => exact hfinished.settled
    · exact ih hthrough hlast

theorem PushEnding.at_ {items : List PushItem} {summary summary' : PushSummary}
    (hended : PushEnding context start summary items h m summary' h' m') :
    ∃ phase, At context start phase h' m' := by
  induction hended with
  | finished hat => exact ⟨_, hat⟩
  | stopped hended =>
    cases hended with
    | auditPending hkept | failed _ _ hkept =>
      obtain ⟨steps, hat⟩ := hkept.at_
      exact ⟨_, hat⟩
  | next _ _ ih => exact ih

/-- What archiving has come to after a push: a case that is still being archived has work to
wait for, and every other one that was has become archived. -/
structure ArchivingFinalized (w w' : Workspace) : Prop where
  waiting : ∀ (caseUid : String) case_, w'.cases[caseUid]? = some case_ →
    case_.status = .archiving →
      w'.caseHasPendingArchiveWork caseUid case_.members.messageIds = .ok true
  archived : ∀ (caseUid : String) case_, w.cases[caseUid]? = some case_ →
    case_.status = .archiving → ∃ left, w'.cases[caseUid]? = some left ∧
      (left.status = .archiving ∨ ∃ time, left.status = .archived time)

theorem Workspace.CasesKept.archived {caseUid : String} {case_ : CaseRecord}
    (hkept : w.CasesKept w') (hget : w.cases[caseUid]? = some case_) (hstatus : case_.status = .archiving) :
    ∃ left, w'.cases[caseUid]? = some left ∧
      (left.status = .archiving ∨ ∃ time, left.status = .archived time) := by
  obtain ⟨left, hleft, hkeeps⟩ := hkept.left caseUid case_ hget
  refine ⟨left, hleft, ?_⟩
  rcases hkeeps.status with hsame | ⟨_, _, harchived⟩
  · exact .inl (hsame.trans hstatus)
  · exact .inr harchived

theorem archivingFinalized_iff_of_empty (hkept : w.CasesKept w')
    (hqueue : ∀ pushId : String, pushId ∉ w'.pushItems) :
    ArchivingFinalized w w' ↔
      ∀ (caseUid : String) case_, w'.cases[caseUid]? = some case_ → case_.status ≠ .archiving := by
  constructor
  · intro hfinalized caseUid case_ hget hstatus
    obtain ⟨pushId, hmem⟩ :=
      Workspace.queued_of_pendingArchiveWork (hfinalized.waiting caseUid case_ hget hstatus)
    exact hqueue pushId hmem
  · intro hnone
    refine ⟨?_, ?_⟩
    · intro caseUid case_ hget hstatus
      exact (hnone caseUid case_ hget hstatus).elim
    · intro caseUid case_ hget hstatus
      exact hkept.archived hget hstatus

theorem PushAccount.queue_empty {plan : List PushItem} {summary : PushSummary}
    (haccount : PushAccount plan summary events w) (hfailed : summary.failedCount = 0)
    (haudited : summary.auditPendingCount = 0) (hattempted : summary.unattemptedCount = 0) :
    summary.stoppedAfterFailure = false ∧ ∀ pushId : String, pushId ∉ w.pushItems := by
  have hfailures : summary.failures = [] :=
    List.length_eq_zero_iff.mp (haccount.failedCount.symm.trans hfailed)
  have hpending : ∀ success ∈ summary.succeededItems, ¬ success.auditPending = true :=
    List.filter_eq_nil_iff.mp
      (List.length_eq_zero_iff.mp (haccount.auditPendingCount.symm.trans haudited))
  have hunattempted : summary.unattempted plan = [] :=
    List.length_eq_zero_iff.mp (haccount.unattemptedCount.symm.trans hattempted)
  constructor
  · rw [← Bool.not_eq_true, haccount.stopped, hfailures]
    rintro (hne | ⟨success, hmem, htrue⟩)
    · exact hne rfl
    · exact hpending success hmem htrue
  · intro pushId hmem
    rcases (haccount.queue pushId).mp hmem with hleft | hfailure | ⟨success, hin, htrue, _⟩
    · rw [hunattempted] at hleft
      cases hleft
    · rw [hfailures] at hfailure
      cases hfailure
    · exact hpending success hin htrue

/-- A push that went through finalizes archiving exactly when it had an item to push, or no
case was being archived; and only cases in the archived tree are looked at. -/
theorem archivingFinalized_iff {host : Host} {w₀ : Workspace} (hempty : w₀.pushItems = ∅)
    (hrun : Run QueueSession w₀ history w)
    (hexec : Exec (pushConfirmed host confirmed) (.start w) events (.returned summary) process)
    (hfailed : summary.failedCount = 0) (haudited : summary.auditPendingCount = 0)
    (hattempted : summary.unattemptedCount = 0)
    (hplan : resolvePushPlan ⟨host, w.config⟩ w = .ok plan) :
    ArchivingFinalized w process.workspace ↔
      ∀ (caseUid : String) case_, w.cases[caseUid]? = some case_ → case_.status = .archiving →
        case_.archivedDir = true ∧ plan.items ≠ [] := by
  have hqueue := queueConsistent_of_run (queueConsistent_of_empty hempty) hrun
  have hends : PushEnds host w confirmed ⟨.idle, [], .start w⟩ summary ([] ++ events) process :=
    pushConfirmed_ends hqueue hexec
  obtain ⟨other, hother, _, haccount⟩ := hends.account hqueue
  obtain ⟨found, hfound, _, hvalid, h₁, m₁, hreconciled, hended⟩ := hends
  cases hplan.symm.trans hother
  cases hplan.symm.trans hfound
  obtain ⟨planned, hplanned, hitems, _⟩ := resolvePushPlan_planned hplan
  have hexact := resolvePlannedItems_exact hvalid hqueue hplanned
  obtain ⟨hthrough, hnone⟩ := haccount.queue_empty hfailed haudited hattempted
  by_cases hnil : plan.items = []
  · rw [hnil] at hended
    cases hended with
    | finished hat =>
      have hstand := hexact.casesStand hat
      rw [archivingFinalized_iff_of_empty hstand.kept hnone,
        hstand.unserved (hitems.symm.trans hnil)]
      simp [hnil]
  · have hsettled := hended.settled hthrough hnil
    obtain ⟨phase, hat⟩ := hended.at_
    have hkept := (hexact.casesStand hat).kept
    rw [archivingFinalized_iff_of_empty hkept hnone]
    constructor
    · intro hdone caseUid case_ hget hstatus
      refine ⟨?_, hnil⟩
      obtain ⟨left, hleft, hkeeps⟩ := hkept.left caseUid case_ hget
      rcases hkeeps.status with hsame | ⟨_, hdir, _⟩
      · exact (hdone caseUid left hleft (hsame.trans hstatus)).elim
      · exact hdir
    · intro hcases caseUid left hleft hstatus
      have hget : ∃ case_, w.cases[caseUid]? = some case_ := by
        rw [← Option.ne_none_iff_exists']
        intro hgone
        cases (hkept.none caseUid hgone).symm.trans hleft
      obtain ⟨case_, hcase⟩ := hget
      obtain ⟨kept, hkeptleft, hkeeps⟩ := hkept.left caseUid case_ hcase
      cases hleft.symm.trans hkeptleft
      rcases hkeeps.status with hsame | ⟨_, _, time, harchived⟩
      · have hdir := (hcases caseUid case_ hcase (hsame.symm.trans hstatus)).1
        obtain ⟨pushId, hmem⟩ :=
          hsettled caseUid left hleft (hkeeps.archivedDir.trans hdir) left hleft hstatus
        exact hnone pushId hmem
      · cases harchived.symm.trans hstatus

end Ending

section Example

/-- A case that is being archived and waits for its only message. -/
def caseArchiving : Workspace where
  config := .default
  messages := .ofList [("m", ({ eml := some [], metadata := some { remote := some [
    { mailboxName := "INBOX", uidValidity := some 1, uid := some 7 }] } } : MessageRecord))]
  cases := .ofList [("c", ({ archivedDir := true, group := "g", dirName := "c", caseName := "case"
                             status := .archiving
                             members := Members.upsertItem ∅ "m" none "" } : CaseRecord))]

def archiveQueued : Workspace :=
  ((queueActionSteps plainHost .notification ["m"] [⟨"m", "INBOX", 1, 7⟩]
    [ActionStep.moveTo "archive"]).run flagsThenGone (.start caseArchiving) ()).2.1.workspace

/-- A message that a pull has found gone from every mailbox. -/
def MessageRecord.vanished (record : MessageRecord) : MessageRecord :=
  { record with metadata := some { remote := some [] } }

def messageVanished : Workspace :=
  { archiveQueued with
    messages := archiveQueued.messages.alter "m" (Option.map MessageRecord.vanished) }

theorem run_archiveQueued : ∃ events, Run QueueSession caseArchiving events archiveQueued := by
  obtain ⟨events, hqueued⟩ := Program.run_exec flagsThenGone
    (queueActionSteps plainHost .notification ["m"] [⟨"m", "INBOX", 1, 7⟩]
      [ActionStep.moveTo "archive"]) (.start caseArchiving) ()
  exact ⟨_, .next .start (.command (.queueActionSteps _ _ _ _ _) hqueued)⟩

theorem run_messageVanished : ∃ events, Run QueueSession caseArchiving events messageVanished := by
  obtain ⟨events, hrun⟩ := run_archiveQueued
  exact ⟨_, hrun.next (.other rfl)⟩

/-- A server that has an archive mailbox and moves whatever it is asked to. -/
def filesAway (_ : Unit) : (request : Request) → Except AppError request.Reply × Unit
  | .newEventId => (.ok "event", ())
  | .listMailboxes => (.ok [{ name := "Archive", attributes := ["\\Archive"] }], ())
  | .moveMessage .. => (.ok (some ⟨1, 9⟩), ())
  | _ => (.error { errorCode := "imap_error", message := "connection lost" }, ())

/-- The plan has nothing to push, the record of the message is dropped, and no sweep follows. -/
theorem not_archivingFinalized_messageVanished : ∃ history events summary process,
    Run QueueSession caseArchiving history messageVanished ∧
    Exec (pushConfirmed plainHost (reviewedPlan plainHost messageVanished))
      (.start messageVanished) events (.returned summary) process ∧
    summary.failedCount = 0 ∧ summary.auditPendingCount = 0 ∧ summary.unattemptedCount = 0 ∧
    ¬ ArchivingFinalized messageVanished process.workspace := by
  obtain ⟨history, hrun⟩ := run_messageVanished
  have hreport : (reviewedPush plainHost flagsThenGone messageVanished ()).1 =
      .ok { reconciledRemovedPushIds := [messagePushId "m"] } := by decide +kernel
  obtain ⟨events, hexec⟩ := reviewedPush_exec hreport
  refine ⟨history, events, _, _, hrun, hexec, rfl, rfl, rfl, ?_⟩
  intro hfinalized
  have hleft : ((reviewedPush plainHost flagsThenGone messageVanished
      ()).2.1.workspace.cases["c"]?).map (·.status) = some .archiving := by decide +kernel
  have hnone : (reviewedPush plainHost flagsThenGone messageVanished
      ()).2.1.workspace.pushItems.isEmpty = true := by decide +kernel
  obtain ⟨case_, hget, hstatus⟩ := Option.map_eq_some_iff.mp hleft
  obtain ⟨pushId, hmem⟩ :=
    Workspace.queued_of_pendingArchiveWork (hfinalized.waiting "c" case_ hget hstatus)
  rw [Std.ExtTreeMap.isEmpty_iff.mp hnone] at hmem
  exact Std.ExtTreeMap.not_mem_empty hmem

theorem archivingFinalized_archiveQueued : ∃ summary,
    (reviewedPush plainHost filesAway archiveQueued ()).1 = .ok summary ∧
    summary.pushedCount = 1 ∧
    ArchivingFinalized archiveQueued
      (reviewedPush plainHost filesAway archiveQueued ()).2.1.workspace := by
  obtain ⟨history, hrun⟩ := run_archiveQueued
  have hreport : ((reviewedPush plainHost filesAway archiveQueued ()).1.toOption.map
      fun summary => (summary.pushedCount, summary.failedCount, summary.auditPendingCount,
        summary.unattemptedCount)) = some (1, 0, 0, 0) := by decide +kernel
  cases hsummary : (reviewedPush plainHost filesAway archiveQueued ()).1 with
  | error error =>
    rw [hsummary] at hreport
    cases hreport
  | ok summary =>
    rw [hsummary] at hreport
    obtain ⟨hpushed, hreport⟩ := Prod.mk.inj (Option.some.inj hreport)
    obtain ⟨hfailed, hreport⟩ := Prod.mk.inj hreport
    obtain ⟨haudited, hattempted⟩ := Prod.mk.inj hreport
    obtain ⟨events, hexec⟩ := reviewedPush_exec hsummary
    have hplan : (resolvePushPlan ⟨plainHost, archiveQueued.config⟩ archiveQueued).toOption.any
        (!·.items.isEmpty) = true := by decide +kernel
    have hcases : ∀ entry ∈ archiveQueued.cases.toList, entry.2.archivedDir = true := by
      decide +kernel
    cases hresolved : resolvePushPlan ⟨plainHost, archiveQueued.config⟩ archiveQueued with
    | error error =>
      rw [hresolved] at hplan
      cases hplan
    | ok plan =>
      rw [hresolved] at hplan
      refine ⟨summary, rfl, hpushed, ?_⟩
      apply (archivingFinalized_iff rfl hrun hexec hfailed haudited hattempted hresolved).mpr
      intro caseUid case_ hget _
      refine ⟨hcases (caseUid, case_)
        (Std.ExtTreeMap.mem_toList_iff_getElem?_eq_some.mpr hget), ?_⟩
      intro hnil
      have hany : (!plan.items.isEmpty) = true := hplan
      rw [hnil] at hany
      cases hany

end Example
end AgentFirstMail
