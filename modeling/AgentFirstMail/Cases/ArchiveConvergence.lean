import AgentFirstMail.Cases.DoctorRepair
import AgentFirstMail.Cases.Unarchive

namespace AgentFirstMail
open Effect Command

section Enough
variable {host : CaseHost} {w : Workspace} {caseRef caseUid : String} {case_ : CaseRecord}
  {reason checked : Option String}

/-- A repair at any time finishes what was cut off at any stage. -/
theorem ArchiveStage.repairs {s : Workspace} (hstage : ArchiveStage host w caseUid case_ s)
    (hcut : s.transactions ≠ w.transactions) (hviews : host.ViewsFollow w caseUid)
    (hfiled : w.Filed)
    (hchecks : archiveChecks host w caseRef reason = .ok (caseUid, case_, checked))
    (hready : ArchiveReady host w caseUid case_) :
    RepairsTo host s (OpenOrArchived w caseUid case_) := by
  obtain ⟨hempty, hget, hactive, _, _⟩ := archiveChecks_eq_ok hchecks
  have hcan : moveChecks host w caseUid case_ = .ok () → ∀ now,
      CanArchive (host.at now).toHost w caseUid case_ := by
    intro hmoves now
    obtain ⟨hvalid, hreads, hactions, hunstarted⟩ := hready.canArchive hfiled hchecks hmoves
    exact ⟨hvalid, hreads, hactions, hunstarted⟩
  apply repairsTo_iff.mpr
  intro now m hm
  have hrepairable : (archiveTransaction caseUid case_).repairableCaseArchiveUid
      (host.at now).toHost = some caseUid := hready.repairable
  cases hstage with
  | outside hsame => exact (hcut hsame).elim
  | begun =>
    apply (wp_doctorRepair_begun hempty hget hactive hrepairable hm).mpr
    exact ⟨hready.refreshes, hempty, .inl rfl⟩
  | renamed hmoves =>
    have hrenamed : m.workspace.cases[caseUid]? = some (case_.movedTo true case_.group) := by
      rw [hm]
      exact Workspace.alterCase_get hget
    apply wp_doctorRepair_renamed (hviews.at now) hfiled hready.refreshes hempty hget hrepairable
      (hcan hmoves now) hrenamed rfl rfl
    · rw [hm]
      rfl
    · rw [hm]
      exact Workspace.Archiving.of_renamed (w := w.transacting host.now caseUid case_) hget now
  | archiving hmoves harchiving =>
    obtain ⟨status, _, hcases⟩ := harchiving.renamed
    have hrenamed : m.workspace.cases[caseUid]? = some { case_ with archivedDir := true, status } := by
      rw [hm, hcases, Std.ExtTreeMap.getElem?_insert_self]
    apply wp_doctorRepair_renamed (hviews.at now) hfiled hready.refreshes hempty hget hrepairable
      (hcan hmoves now) hrenamed rfl rfl
    · rw [hm]
      exact harchiving.transactions
    · rw [hm]
      exact harchiving.alterCase _ _ (updateCaseArchiveState_eq now) (archivedSince_isActive now)

theorem ArchiveRecovers.of_ready (hviews : ∀ caseUid, host.ViewsFollow w caseUid) (hfiled : w.Filed)
    (hready : ∀ caseUid case_ checked,
      archiveChecks host w caseRef reason = .ok (caseUid, case_, checked) →
        ArchiveReady host w caseUid case_) :
    ArchiveRecovers host caseRef reason w where
  completes caseUid case_ checked hchecks m events m' hm hexec := by
    subst hm
    have hwp := wp_archiveCase (hviews caseUid) hfiled hchecks
      (hready caseUid case_ checked hchecks)
    exact (Program.wp_sound hexec (.outside rfl) hwp).2
  recovers caseUid case_ checked hchecks m events outcome m' hm hexec hcut := by
    subst hm
    have hmine := hready caseUid case_ checked hchecks
    have hwp := wp_archiveCase (hviews caseUid) hfiled hchecks hmine
    have hstage := (Program.wp_sound hexec (.outside rfl) hwp).1
    exact hstage.repairs hcut (hviews caseUid) hfiled hchecks hmine

end Enough

section TakingBack
variable {host : CaseHost} {h : List RemoteEvent} {m : Process}
  {post : Unit → ProcessFact}

theorem Workspace.Filed.of_subset {s s' : Workspace} (hfiled : s.Filed)
    (hsubset : ∀ (pushId : String) item, s'.pushItems[pushId]? = some item →
      s.pushItems[pushId]? = some item) : s'.Filed :=
  ⟨fun pushId item hget => hfiled.pushId pushId item (hsubset pushId item hget),
    fun pushId item hget => hfiled.named pushId item (hsubset pushId item hget)⟩

theorem wp_takeBackCaseAdd_unfailing {messageId : String}
    (hwp : Program.wp Anywhere post Never (takeBackCaseAdd host messageId) h m) :
    ∃ items, removableMessagePushes m.workspace messageId .caseAdd = .ok items ∧
      post () h (m.onWorkspace fun s => items.foldl (fun s item => s.deleteItem item.pushId) s) := by
  have hremoving := Program.wp_bind.mp (Program.wp_bind.mp hwp)
  obtain ⟨items, hremovable, hrest⟩ := wp_unfailing.mp (Program.wp_bind.mp (wp_workspace.mp hremoving))
  refine ⟨items, hremovable, ?_⟩
  have hdeleted := (wp_forEach_write_iff items fun item s => s.deleteItem item.pushId).mp
    (Program.wp_bind.mp hrest)
  simp only [Program.pure_eq, Program.wp_ret] at hdeleted
  split at hdeleted
  · obtain ⟨_, _, hpost⟩ := wp_unfailing.mp (wp_workspace.mp (Program.wp_bind.mp hdeleted))
    exact hpost
  · exact hdeleted

theorem Workspace.Filed.caseAdd_pushId {s : Workspace} (hfiled : s.Filed) {messageId : String}
    {item : PushItem} (hmem : item ∈ s.readItems)
    (hof : (item.message.any fun message =>
      message.messageId == messageId && message.action == .caseAdd) = true) :
    item.pushId = messagePushId messageId := by
  obtain ⟨pushId, record, hget, rfl⟩ := Workspace.mem_readItems.mp hmem
  obtain ⟨message, hmessage, hof⟩ := (Option.any_eq_true _ _).mp hof
  rw [Bool.and_eq_true, beq_iff_eq] at hof
  rw [PushItem.stored_pushId, hfiled.pushId pushId record hget, hfiled.of_message hget hmessage,
    hof.1]

/-- What is deleted for one message cannot be what hinders another. -/
theorem removable_of_deleted {s : Workspace} (hfiled : s.Filed) {messageId other : String}
    {items deleted : List PushItem}
    (hdeleted : removableMessagePushes s messageId .caseAdd = .ok deleted)
    (hremovable : removableMessagePushes
      (deleted.foldl (fun s item => s.deleteItem item.pushId) s) other .caseAdd = .ok items) :
    ∃ items, removableMessagePushes s other .caseAdd = .ok items := by
  by_cases heq : other = messageId
  · subst heq
    exact ⟨deleted, hdeleted⟩
  obtain ⟨rfl, _⟩ := removableMessagePushes_eq_ok_iff.mp hdeleted
  obtain ⟨rfl, hunstarted⟩ := removableMessagePushes_eq_ok_iff.mp hremovable
  refine ⟨_, removableMessagePushes_eq_ok_iff.mpr ⟨rfl, fun item hitem => ?_⟩⟩
  obtain ⟨hmem, hof⟩ := List.mem_filter.mp hitem
  refine hunstarted item (List.mem_filter.mpr ⟨?_, hof⟩)
  have hkey := hfiled.caseAdd_pushId hmem hof
  obtain ⟨pushId, record, hget, rfl⟩ := Workspace.mem_readItems.mp hmem
  refine Workspace.mem_readItems.mpr ⟨pushId, record, ?_, rfl⟩
  rw [Workspace.deleteItems_get, if_neg, hget]
  intro hgone
  obtain ⟨found, hfound, hid⟩ := List.mem_map.mp hgone
  obtain ⟨hfound, hothers⟩ := List.mem_filter.mp hfound
  rw [hfiled.caseAdd_pushId hfound hothers, ← hfiled.pushId pushId record hget,
    ← PushItem.stored_pushId, hkey] at hid
  exact heq (messagePushId_injective hid.symm)

theorem removable_of_wp {messageIds : List String} (hfiled : m.workspace.Filed)
    (hwp : Program.wp Anywhere post Never (Program.forEach messageIds (takeBackCaseAdd host)) h m) :
    ∀ messageId ∈ messageIds, ∃ items,
      removableMessagePushes m.workspace messageId .caseAdd = .ok items := by
  induction messageIds generalizing m with
  | nil => exact List.forall_mem_nil _
  | cons messageId rest ih =>
    obtain ⟨deleted, hdeleted, hrest⟩ := wp_takeBackCaseAdd_unfailing (Program.wp_bind.mp hwp)
    refine List.forall_mem_cons.mpr ⟨⟨deleted, hdeleted⟩, fun other hmem => ?_⟩
    have hnext : (m.onWorkspace fun s =>
        deleted.foldl (fun s item => s.deleteItem item.pushId) s).workspace.Filed := by
      apply hfiled.of_subset
      intro pushId item hget
      change (deleted.foldl (fun s item => s.deleteItem item.pushId) m.workspace).pushItems[pushId]? =
        _ at hget
      rw [Workspace.deleteItems_get] at hget
      split at hget
      · cases hget
      · exact hget
    obtain ⟨items, hremovable⟩ := ih hnext hrest other hmem
    exact removable_of_deleted hfiled hdeleted hremovable

end TakingBack

section Needed
variable {host : CaseHost} {w : Workspace} {caseRef caseUid transactionId : String}
  {case_ : CaseRecord} {reason checked : Option String} {h : List RemoteEvent} {m : Process}

theorem repairable_of_wp {post : Unit → ProcessFact}
    (hwp : Program.wp Anywhere post Never (doctorRepair host) h m) :
    ∀ entry ∈ m.workspace.transactions.toList, ∃ repair,
      entry.2.repairAction host.toHost m.workspace = .ok (some repair) := by
  obtain ⟨_, _, hrest⟩ := wp_unfailing.mp (Program.wp_bind.mp (wp_workspace.mp (Program.wp_bind.mp hwp)))
  have hrepairing := wp_workspace.mp (Program.wp_bind.mp (Program.wp_bind.mp hrest))
  obtain ⟨repairs, hrepairs, _⟩ := wp_unfailing.mp (Program.wp_bind.mp hrepairing)
  intro entry hmem
  obtain ⟨repair, _, hrepair⟩ := Lists.exists_of_forall₂ (Result.mapM_eq_ok_iff.mp hrepairs).flip hmem
  obtain ⟨action, haction, hrepair⟩ := Result.bind_ok hrepair
  cases action with
  | none => cases hrepair
  | some repair => exact ⟨repair, haction⟩

theorem archiveTransaction_repairable {s : Workspace} {repair : TransactionRepair}
    (hvalid : validUid 'c' caseUid = true)
    (hrepair : (archiveTransaction caseUid case_).repairAction host.toHost s = .ok (some repair)) :
    (archiveTransaction caseUid case_).repairableCaseArchiveUid host.toHost = some caseUid := by
  unfold TransactionRecord.repairAction at hrepair
  split at hrepair
  · rename_i found hfound
    rw [hfound, repairableCaseArchiveUid_eq hvalid hfound]
  · cases hrepair

/-- Finishing an archived case without a failure takes an archive action of each message that
nothing keeps from being archived, and no push for adding it to a case that has started. -/
theorem archives_of_wp {pending : Bool → ProcessFact}
    (hfiled : w.Filed) (hreadable : w.Readable) (hget : w.cases[caseUid]? = some case_)
    (hvalid : ∀ messageId ∈ case_.members, validateId host.toHost "message_id" messageId = .ok ())
    (harchiving : w.Archiving m.workspace caseUid case_)
    (hsame : m.workspace.pushItems = w.pushItems)
    (hwp : Program.wp Anywhere pending Never
      (completeCaseArchiveWorkspace host caseUid case_.members.messageIds) h m) :
    ∀ messageId ∈ case_.members, w.Unreferenced caseUid messageId →
      (∃ action, w.archiveAction messageId = .ok action) ∧
        ∃ items, removableMessagePushes m.workspace messageId .caseAdd = .ok items := by
  have hreads := hreadable.members caseUid case_ hget
  have hmessages := (computes_refreshMessagesAfterRefChange _ _ _ _ _ _).mp (Program.wp_bind.mp hwp)
  obtain ⟨_, _, hviews⟩ := wp_unfailing.mp hmessages
  have hcase := (computes_refreshCaseMessageViews caseUid _ _ _ _ _).mp (Program.wp_bind.mp hviews)
  obtain ⟨_, _, hqueue⟩ := wp_unfailing.mp hcase
  have hqueueing := wp_workspace.mp (Program.wp_bind.mp (Program.wp_bind.mp hqueue))
  obtain ⟨eligible, heligible, hplan⟩ := wp_unfailing.mp (Program.wp_bind.mp hqueueing)
  obtain ⟨actions, hactions, htaking⟩ := wp_unfailing.mp (Program.wp_bind.mp hplan)
  have hremovable := removable_of_wp (harchiving.filed hfiled) (Program.wp_bind.mp htaking)
  obtain ⟨found, hfound, _, hmem⟩ := harchiving.eligible hfiled hvalid hreads
  cases hfound.symm.trans heligible
  intro messageId hmember hfree
  have helected : messageId ∈ eligible := by
    refine (hmem messageId).mpr ⟨hmember, hfree, ?_⟩
    unfold Workspace.QueuedAfresh
    rw [hsame]
    exact hfree.not_queuedAfresh hfiled
  refine ⟨?_, hremovable messageId helected⟩
  obtain ⟨_, _, haction⟩ := Lists.exists_of_forall₂ (Result.mapM_eq_ok_iff.mp hactions).flip helected
  obtain ⟨action, haction, _⟩ := Result.bind_ok haction
  obtain ⟨message, hread⟩ := hreads messageId hmember
  rw [harchiving.archiveAction_eq hread] at haction
  exact ⟨action, haction⟩

/-- What a repair of every cut-off needs. -/
theorem ArchiveRecovers.ready (hrecovers : ArchiveRecovers host caseRef reason w)
    (hfiled : w.Filed)
    (hchecks : archiveChecks host w caseRef reason = .ok (caseUid, case_, checked)) :
    ArchiveReady host w caseUid case_ := by
  obtain ⟨hempty, hget, hactive, huid, hvalid⟩ := archiveChecks_eq_ok hchecks
  let m : Process := { workspace := w, item := messageItem "" 0 "" .notification none }
  have hwp : Program.wp
      (fun _ m' => m'.workspace.transactions ≠ w.transactions →
        RepairsTo host m'.workspace (OpenOrArchived w caseUid case_))
      (fun _ _ _ => True) (fun _ _ _ => True) (archiveCase host caseRef reason) [] m := by
    apply Program.wp_complete
    intro events outcome m' hexec
    refine ⟨hrecovers.recovers caseUid case_ checked hchecks m events outcome m' rfl hexec, ?_⟩
    cases outcome <;> trivial
  obtain ⟨hbegun, hrest⟩ := (wp_archiveCase_iff (m := m) hchecks).mp hwp
  have hcut : (w.transacting host.now caseUid case_).transactions ≠ w.transactions := by
    rw [Workspace.transacting_transactions hempty, hempty]
    intro heq
    have hmem := Std.ExtTreeMap.mem_insert_self (t := (∅ : Std.ExtTreeMap String TransactionRecord))
      (k := uniqueTransactionId host.now "case_archive") (v := archiveTransaction caseUid case_)
    rw [heq] at hmem
    exact Std.ExtTreeMap.not_mem_empty hmem
  have hopen := repairsTo_iff.mp (hbegun hcut) host.now
    (m.onWorkspace (·.transacting host.now caseUid case_)) rfl
  obtain ⟨repair, hrepair⟩ := repairable_of_wp hopen
    (uniqueTransactionId host.now "case_archive", archiveTransaction caseUid case_) (by
      rw [show (m.onWorkspace (·.transacting host.now caseUid case_)).workspace.transactions = _ from
        Workspace.transacting_transactions hempty, Indexing.toList_insert_empty]
      exact List.mem_singleton.mpr rfl)
  have hrepairable := archiveTransaction_repairable huid hrepair
  have hrefreshes := ((wp_doctorRepair_begun hempty hget hactive hrepairable rfl).mp hopen).1
  refine ⟨hrepairable, hrefreshes, ?_⟩
  intro hmoves messageId hmember heligible
  rw [hmoves] at hrest
  obtain ⟨hreadable, _⟩ := Workspace.renderRefresh_eq_ok_iff.mp hrefreshes
  obtain ⟨message, hread⟩ := hreadable.members caseUid case_ hget messageId hmember
  have hfree := (archivedCase_eligible_iff hget hmember hread).mp heligible
  have harchiving : (w.transacting host.now caseUid case_).Archiving
      ((w.transacting host.now caseUid case_).archivedCase host.now caseUid case_) caseUid case_ :=
    .of_renamed (w := w.transacting host.now caseUid case_) hget host.now
  let archived := m.onWorkspace fun _ =>
    (w.transacting host.now caseUid case_).archivedCase host.now caseUid case_
  have hrepairing := repairsTo_iff.mp (hrest.2.1 hcut) host.now archived rfl
  have htransactions : archived.workspace.transactions = (∅ : Std.ExtTreeMap _ _).insert
      (uniqueTransactionId host.now "case_archive") (archiveTransaction caseUid case_) :=
    Workspace.transacting_transactions hempty
  have hrecovering := (wp_doctorRepair htransactions hrepairable).mp hrepairing
  obtain ⟨status, _, hcases⟩ := harchiving.renamed
  have hrenamed : archived.workspace.cases[caseUid]? =
      some { case_ with archivedDir := true, status } := by
    rw [show archived.workspace.cases = _ from hcases, Std.ExtTreeMap.getElem?_insert_self]
  have hcompleting := ((wp_recover_archived hrenamed rfl).mp hrecovering).2
  have hstamped := harchiving.alterCase _ _ (updateCaseArchiveState_eq host.now)
    (archivedSince_isActive host.now)
  have harchives := archives_of_wp hfiled.transacting hreadable.transacting hget hvalid hstamped rfl
    hcompleting
  exact harchives messageId hmember (Workspace.unreferenced_transacting.mpr hfree)

end Needed

/-- Every cut-off of archiving an open case can be repaired exactly when the case is ready. -/
theorem archiveCase_recovers_iff (host : CaseHost) (caseRef : String) (reason : Option String)
    (w : Workspace) (hviews : ∀ caseUid, host.ViewsFollow w caseUid) (hfiled : w.Filed) :
    ArchiveRecovers host caseRef reason w ↔
      ∀ caseUid case_ checked, archiveChecks host w caseRef reason = .ok (caseUid, case_, checked) →
        ArchiveReady host w caseUid case_ :=
  ⟨fun hrecovers _ _ _ hchecks => hrecovers.ready hfiled hchecks, .of_ready hviews hfiled⟩

section Started

theorem plainCaseHost_viewsFollow (w : Workspace) (caseUid : String) :
    plainCaseHost.ViewsFollow w caseUid where
  all _ _ _ := ⟨rfl, rfl, rfl, fun _ _ => rfl, rfl⟩
  messages _ _ _ _ _ := rfl
  cache _ _ _ _ _ := rfl

/-- A push for adding a message to a case that has run its first step. -/
def startedCaseAdd : PushItem where
  pushId := "push_message_message_1"
  enqueueSeq := 1
  payload := .message { messageId := "message_1", action := .caseAdd }
  createdRfc3339 := ""
  updatedRfc3339 := ""
  stepStates := [{ index := 0, label := "add_flags", status := .succeeded }]

/-- An open case whose one message is being added to it remotely. -/
def caseAddStarted : Workspace where
  config := .default
  messages := (∅ : Std.ExtTreeMap String MessageRecord).insert "message_1"
    { eml := some [], metadata := some { remote := some [
      { mailboxName := "INBOX", uidValidity := some 1, uid := some 7 }] } }
  cases := (∅ : Std.ExtTreeMap String CaseRecord).insert "c20240101001"
    { group := "support", dirName := "c20240101001-order", caseName := "order"
      members := (∅ : Members).upsertItem "message_1" none "" }
  pushItems := (∅ : Std.ExtTreeMap String PushItem).insert startedCaseAdd.pushId startedCaseAdd

theorem caseAddStarted_filed : caseAddStarted.Filed := by
  have hrecord : ∀ (pushId : String) item, caseAddStarted.pushItems[pushId]? = some item →
      pushId = startedCaseAdd.pushId ∧ item = startedCaseAdd := by
    intro pushId item hget
    by_cases heq : pushId = startedCaseAdd.pushId
    · subst heq
      cases (Std.ExtTreeMap.getElem?_insert_self (t := ∅)).symm.trans hget
      exact ⟨rfl, rfl⟩
    · have hother : caseAddStarted.pushItems[pushId]? = (∅ : Std.ExtTreeMap String PushItem)[pushId]? :=
        Indexing.getElem?_insert_ne heq
      rw [hother, Std.ExtTreeMap.getElem?_empty] at hget
      cases hget
  constructor
  · intro pushId item hget
    obtain ⟨rfl, rfl⟩ := hrecord pushId item hget
    rfl
  · intro pushId item hget
    obtain ⟨rfl, rfl⟩ := hrecord pushId item hget
    rfl

def archiveStarted : Trace Process Request Request.Reply AppError Unit Unit :=
  (archiveCase plainCaseHost "c20240101001" none).trace answerCommand (.start caseAddStarted) ()

def repairStarted : Trace Process Request Request.Reply AppError Unit Unit :=
  (doctorRepair plainCaseHost).trace answerCommand archiveStarted.state ()

/-- The command fails after the rename, and so does every repair. -/
theorem archiveCase_not_recovering :
    ¬ ∀ (host : CaseHost) (caseRef : String) (reason : Option String) (w : Workspace),
      (∀ caseUid, host.ViewsFollow w caseUid) → w.Filed → ArchiveRecovers host caseRef reason w := by
  intro hall
  have harchived := Program.trace_exec answerCommand
    (archiveCase plainCaseHost "c20240101001" none) (.start caseAddStarted) ()
  change Exec _ _ archiveStarted.events archiveStarted.outcome archiveStarted.state at harchived
  have hrepaired := Program.trace_exec answerCommand (doctorRepair plainCaseHost)
    archiveStarted.state ()
  change Exec _ _ repairStarted.events repairStarted.outcome repairStarted.state at hrepaired
  have houtcome : repairStarted.outcome = .failed (pushAlreadyStarted
      "push item already started and cannot be undone locally: push_message_message_1") := by
    decide +kernel
  have hrecovers := hall plainCaseHost "c20240101001" none caseAddStarted
    (plainCaseHost_viewsFollow _) caseAddStarted_filed
  have hcut : archiveStarted.state.workspace.transactions ≠ caseAddStarted.transactions := by
    intro hsame
    have hcount := congrArg (·.size) hsame
    exact absurd hcount (by decide +kernel)
  have hpassed : (archiveChecks plainCaseHost caseAddStarted "c20240101001" none).isOk = true := by
    decide +kernel
  cases hchecks : archiveChecks plainCaseHost caseAddStarted "c20240101001" none with
  | error error =>
    rw [hchecks] at hpassed
    cases hpassed
  | ok found =>
    obtain ⟨caseUid, case_, checked⟩ := found
    have hrepairs := hrecovers.recovers caseUid case_ checked hchecks (.start caseAddStarted) _ _ _
      rfl harchived hcut
    exact (hrepairs plainCaseHost.now _ _ _ _ rfl hrepaired).1 _ houtcome

theorem caseAddStarted_recovers_iff :
    ArchiveRecovers plainCaseHost "c20240101001" none caseAddStarted ↔
      ∀ caseUid case_ checked,
        archiveChecks plainCaseHost caseAddStarted "c20240101001" none =
          .ok (caseUid, case_, checked) →
        ArchiveReady plainCaseHost caseAddStarted caseUid case_ :=
  archiveCase_recovers_iff _ _ _ _ (plainCaseHost_viewsFollow _) caseAddStarted_filed

end Started
end AgentFirstMail
