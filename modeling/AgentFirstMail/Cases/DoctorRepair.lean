import AgentFirstMail.Cases.Transactions

namespace AgentFirstMail
open Effect Command

/-- The same host at another time. -/
def CaseHost.at (host : CaseHost) (now : String) : CaseHost := { host with now }

/-- All views of a workspace can be made. -/
structure CaseHost.RendersAll (host : CaseHost) (w : Workspace) : Prop where
  prepared : host.prepareRender w = .ok ()
  messages : host.renderMessageViews w w.messages.keys = .ok ()
  dispositions : host.renderDispositionViews w = .ok ()
  cases : ∀ caseUid ∈ w.cases, host.renderCaseViews w caseUid = .ok ()
  notifications : host.renderNotificationViews w = .ok ()

namespace Workspace

/-- The index of a workspace can be built, and every message with evidence and every message
of a case can be read. -/
structure Readable (w : Workspace) : Prop where
  index : ∃ index, w.materializedOverlayIndex = .ok index
  messages : ∀ (messageId : String) record, w.messages[messageId]? = some record →
    record.eml.isSome = true → ∃ message, w.readMessageById messageId = .ok message
  members : ∀ (caseUid : String) case_, w.cases[caseUid]? = some case_ →
    ∀ messageId ∈ case_.members, ∃ message, w.readMessageById messageId = .ok message

theorem validateMessages_eq_ok_iff {w : Workspace} :
    validateMessages w = .ok () ↔ ∃ index, w.materializedOverlayIndex = .ok index ∧
      ∀ (messageId : String) record, w.messages[messageId]? = some record →
        record.eml.isSome = true → ∃ message, w.readMessageUnder index messageId = .ok message := by
  unfold validateMessages
  rw [Result.bind_eq_ok_iff]
  apply exists_congr
  intro index
  apply and_congr_right
  intro _
  rw [Result.forM_eq_ok_iff]
  constructor
  · intro hall messageId record hget hevidence
    have hentry := hall (messageId, record)
      (Std.ExtTreeMap.mem_toList_iff_getElem?_eq_some.mpr hget)
    rw [if_pos hevidence] at hentry
    obtain ⟨message, hread, _⟩ := Result.bind_ok hentry
    exact ⟨message, hread⟩
  · rintro hall ⟨messageId, record⟩ hmem
    split
    · rename_i hevidence
      obtain ⟨message, hread⟩ := hall messageId record
        (Std.ExtTreeMap.mem_toList_iff_getElem?_eq_some.mp hmem) hevidence
      exact Result.bind_eq_ok_iff.mpr ⟨message, hread, rfl⟩
    · rfl

theorem caseRefreshed_eq_ok {w : Workspace} {host : Host} {caseUid : String} {case_ : CaseRecord}
    (hget : w.cases[caseUid]? = some case_) (hrefreshed : caseRefreshed host w caseUid = .ok ()) :
    ∀ messageId ∈ case_.members, ∃ message, w.readMessageById messageId = .ok message := by
  obtain ⟨found, hfound, hrefreshed⟩ := Result.bind_ok hrefreshed
  cases hget.symm.trans (findCase_eq_ok_iff.mp hfound)
  obtain ⟨hreads, _⟩ := Result.seq_ok hrefreshed
  intro messageId hmember
  obtain ⟨message, hread, _⟩ :=
    Result.bind_ok (Result.forM_eq_ok_iff.mp hreads messageId hmember)
  exact ⟨message, hread⟩

/-- A refresh is refused for what cannot be read and for views that cannot be made. -/
theorem renderRefresh_eq_ok_iff {w : Workspace} {host : CaseHost} :
    renderRefresh host w = .ok () ↔ w.Readable ∧ host.RendersAll w := by
  unfold renderRefresh
  simp only [Result.bind_unit_eq_ok_iff, Result.forM_eq_ok_iff, validateMessages_eq_ok_iff]
  constructor
  · rintro ⟨hprepared, ⟨index, hindex, hmessages⟩, hviews, hdispositions, hcases, hnotifications⟩
    have hcase : ∀ (caseUid : String) case_, w.cases[caseUid]? = some case_ →
        caseRefreshed host.toHost w caseUid = .ok () := fun caseUid case_ hget =>
      hcases caseUid (Std.ExtTreeMap.mem_keys.mpr (Indexing.mem_of_getElem? hget))
    refine ⟨⟨⟨index, hindex⟩, ?_, ?_⟩, hprepared, hviews, hdispositions, ?_, hnotifications⟩
    · intro messageId record hget hevidence
      obtain ⟨message, hread⟩ := hmessages messageId record hget hevidence
      exact ⟨message, Result.bind_eq_ok_iff.mpr ⟨index, hindex, hread⟩⟩
    · intro caseUid case_ hget
      exact caseRefreshed_eq_ok hget (hcase caseUid case_ hget)
    · intro caseUid hmem
      obtain ⟨case_, hget⟩ := Indexing.mem_iff_exists.mp hmem
      obtain ⟨_, _, hrefreshed⟩ := Result.bind_ok (hcase caseUid case_ hget)
      exact (Result.seq_ok hrefreshed).2
  · rintro ⟨⟨⟨index, hindex⟩, hmessages, hmembers⟩, hrenders⟩
    refine ⟨hrenders.prepared, ⟨index, hindex, ?_⟩, hrenders.messages, hrenders.dispositions, ?_,
      hrenders.notifications⟩
    · intro messageId record hget hevidence
      obtain ⟨message, hread⟩ := hmessages messageId record hget hevidence
      obtain ⟨found, hfound, hread⟩ := Result.bind_ok hread
      cases hindex.symm.trans hfound
      exact ⟨message, hread⟩
    · intro caseUid hkey
      have hmem := Std.ExtTreeMap.mem_keys.mp hkey
      obtain ⟨case_, hget⟩ := Indexing.mem_iff_exists.mp hmem
      exact caseRefreshed_ok (hrenders.cases caseUid hmem) hget (hmembers caseUid case_ hget)

theorem Archiving.readable {w s : Workspace} {caseUid : String} {case_ : CaseRecord}
    (harchiving : w.Archiving s caseUid case_) (hreadable : w.Readable)
    (hget : w.cases[caseUid]? = some case_) : s.Readable where
  index := by
    obtain ⟨before, hbefore⟩ := hreadable.index
    exact harchiving.index hbefore
  messages messageId record hrecord hevidence := by
    have hmessages : s.messages = w.messages := by rw [harchiving.same]
    obtain ⟨message, hread⟩ := hreadable.messages messageId record
      (by rw [← hmessages]; exact hrecord) hevidence
    obtain ⟨found, hfound, _⟩ := harchiving.readMessageById hread
    exact ⟨found, hfound⟩
  members other found hother messageId hmember := by
    have hread : ∃ message, w.readMessageById messageId = .ok message := by
      by_cases heq : other = caseUid
      · subst heq
        obtain ⟨status, _, hcases⟩ := harchiving.renamed
        rw [hcases, Std.ExtTreeMap.getElem?_insert_self] at hother
        cases hother
        exact hreadable.members other case_ hget messageId hmember
      · exact hreadable.members other found ((harchiving.other heq).symm.trans hother) messageId
          hmember
    obtain ⟨message, hread⟩ := hread
    obtain ⟨found, hfound, _⟩ := harchiving.readMessageById hread
    exact ⟨found, hfound⟩

/-- A workspace that can be read and differs from another one in where a case lies and what its
status is, in what is queued and in the transactions only. -/
structure ArchivesAlike (w s : Workspace) (caseUid : String) : Prop where
  readable : s.Readable
  case_ : ∀ case_, w.cases[caseUid]? = some case_ → ∃ archivedDir status,
    s.cases[caseUid]? = some { case_ with archivedDir, status }
  other : ∀ other : String, other ≠ caseUid → s.cases[other]? = w.cases[other]?
  same : s = { w with cases := s.cases, pushItems := s.pushItems, transactions := s.transactions }

end Workspace

/-- Views that can be made of a workspace can still be made while a case is archived, and the
cached file of a message that can be read can be cleared. -/
structure CaseHost.ViewsFollow (host : CaseHost) (w : Workspace) (caseUid : String) : Prop where
  all : host.RendersAll w → ∀ s, w.ArchivesAlike s caseUid → host.RendersAll s
  messages : host.RendersAll w → ∀ s, w.ArchivesAlike s caseUid → ∀ messageId ∈ w.messages,
    host.renderMessageViews s [messageId] = .ok ()
  cache : ∀ s, w.ArchivesAlike s caseUid → ∀ messageId message,
    s.readMessageById messageId = .ok message → host.clearPendingCache s [messageId] = .ok ()

namespace CaseHost
variable {host : CaseHost} {w : Workspace} {now caseUid : String}

theorem rendersAll_at_iff : (host.at now).RendersAll w ↔ host.RendersAll w :=
  ⟨fun h => ⟨h.prepared, h.messages, h.dispositions, h.cases, h.notifications⟩,
    fun h => ⟨h.prepared, h.messages, h.dispositions, h.cases, h.notifications⟩⟩

theorem ViewsFollow.at (hviews : host.ViewsFollow w caseUid) (now : String) :
    (host.at now).ViewsFollow w caseUid where
  all hrenders s halike :=
    rendersAll_at_iff.mpr (hviews.all (rendersAll_at_iff.mp hrenders) s halike)
  messages hrenders s halike messageId hmem :=
    hviews.messages (rendersAll_at_iff.mp hrenders) s halike messageId hmem
  cache := hviews.cache

end CaseHost

section Repairing
variable {host : CaseHost} {caseUid transactionId : String} {transaction : TransactionRecord}
  {h : List RemoteEvent} {m : Process} {post : Unit → ProcessFact}

/-- No error is accepted. -/
abbrev Never : AppError → ProcessFact := fun _ _ _ => False

theorem wp_unfailing {inv : ProcessFact}
    {post : α → ProcessFact} {result : Result α} :
    Program.wp inv post Never (Program.ofExcept result) h m ↔
      ∃ value, result = .ok value ∧ post value h m := by
  cases result with
  | ok value =>
    constructor
    · exact fun hpost => ⟨value, rfl, hpost⟩
    · rintro ⟨_, heq, hpost⟩
      cases heq
      exact hpost
  | error error =>
    constructor
    · exact False.elim
    · rintro ⟨_, heq, _⟩
      cases heq

/-- A repair of one archive transaction recovers its case and then refreshes everything. -/
theorem wp_doctorRepair
    (htransactions : m.workspace.transactions = (∅ : Std.ExtTreeMap _ _).insert transactionId
      transaction)
    (hrepairable : transaction.repairableCaseArchiveUid host.toHost = some caseUid) :
    Program.wp Anywhere post Never (doctorRepair host) h m ↔
      Program.wp Anywhere (fun _ h' m' =>
        renderRefresh host (m'.workspace.removeTransaction transactionId) = .ok () ∧
        (∃ issues, checkTransactions host.toHost
          (m'.workspace.removeTransaction transactionId) = .ok issues) ∧
        post () h' (m'.onWorkspace (·.removeTransaction transactionId))) Never
        (recoverCaseArchiveTransaction host caseUid) h m := by
  have haction : transaction.repairAction host.toHost m.workspace = .ok (some (.caseArchive caseUid)) := by
    unfold TransactionRecord.repairAction
    rw [hrepairable]
    rfl
  have hcheck : ∃ issues, checkTransactions host.toHost m.workspace = .ok issues := by
    unfold checkTransactions
    rw [htransactions, Indexing.toList_insert_empty]
    exact ⟨_, Result.mapM_eq_ok_iff.mpr
      (.cons (Result.bind_eq_ok_iff.mpr ⟨_, haction, rfl⟩) .nil)⟩
  have hrepairs : transactionRepairs host m.workspace =
      .ok [(transactionId, .caseArchive caseUid)] := by
    unfold transactionRepairs
    rw [htransactions, Indexing.toList_insert_empty]
    exact Result.mapM_eq_ok_iff.mpr (.cons (Result.bind_eq_ok_iff.mpr ⟨_, haction, rfl⟩) .nil)
  obtain ⟨issues, hissues⟩ := hcheck
  have hrefreshing : ∀ h' m', Program.wp Anywhere post Never (do
        let w ← workspace
        Program.ofExcept (renderRefresh host w)
        let _ ← Program.ofExcept (checkTransactions host.toHost w)) h' m' ↔
      renderRefresh host m'.workspace = .ok () ∧
        (∃ issues, checkTransactions host.toHost m'.workspace = .ok issues) ∧ post () h' m' := by
    intro h' m'
    rw [Program.bind_eq, Program.wp_bind, wp_workspace, Program.bind_eq, Program.wp_bind,
      wp_unfailing]
    constructor
    · rintro ⟨_, hrefresh, hrest⟩
      rw [Program.bind_eq, Program.wp_bind, wp_unfailing] at hrest
      obtain ⟨issues, hok, hpost⟩ := hrest
      exact ⟨hrefresh, ⟨issues, hok⟩, hpost⟩
    · rintro ⟨hrefresh, ⟨issues, hok⟩, hpost⟩
      refine ⟨(), hrefresh, ?_⟩
      rw [Program.bind_eq, Program.wp_bind, wp_unfailing]
      exact ⟨issues, hok, hpost⟩
  refine Program.wp_bind.trans (wp_workspace.trans (Program.wp_bind.trans ?_))
  rw [hissues]
  refine Program.wp_bind.trans (Program.wp_bind.trans (wp_workspace.trans
    (Program.wp_bind.trans ?_)))
  rw [hrepairs]
  change Program.wp Anywhere _ Never (((recoverCaseArchiveTransaction host caseUid).bind fun _ =>
    writeWorkspace (·.removeTransaction transactionId)).bind fun _ => .ret ()) h m ↔ _
  rw [Program.wp_bind, Program.wp_bind]
  constructor
  · intro hwp
    apply Program.wp_mono hwp
    · intro _ h' m' hended
      exact (hrefreshing h' _).mp hended.2
    · exact fun _ _ _ hfailed => hfailed
  · intro hwp
    apply Program.wp_mono hwp
    · intro _ h' m' hended
      exact ⟨trivial, (hrefreshing h' _).mpr hended⟩
    · exact fun _ _ _ hfailed => hfailed

theorem wp_recover_active {inv : ProcessFact}
    {abort : AppError → ProcessFact} {case_ : CaseRecord}
    (hget : m.workspace.cases[caseUid]? = some case_) (hactive : case_.archivedDir = false) :
    Program.wp inv post abort (recoverCaseArchiveTransaction host caseUid) h m ↔ post () h m := by
  have hfind : m.workspace.findCaseByUid caseUid = some case_ :=
    Option.filter_eq_some_iff.mpr ⟨hget, by rw [hactive]; rfl⟩
  refine Program.wp_bind.trans (wp_workspace.trans ?_)
  rw [hfind]
  rfl

theorem wp_recover_archived {inv : ProcessFact}
    {abort : AppError → ProcessFact} {case_ : CaseRecord}
    (hget : m.workspace.cases[caseUid]? = some case_) (harchived : case_.archivedDir = true) :
    Program.wp inv post abort (recoverCaseArchiveTransaction host caseUid) h m ↔
      inv h (m.onWorkspace (·.alterCase caseUid (updateCaseArchiveState host.now))) ∧
        Program.wp inv (fun _ => post ()) abort
          (completeCaseArchiveWorkspace host caseUid case_.members.messageIds) h
          (m.onWorkspace (·.alterCase caseUid (updateCaseArchiveState host.now))) := by
  have hnone : m.workspace.findCaseByUid caseUid = none :=
    Option.filter_eq_none_iff.mpr fun found hfound => by
      cases hget.symm.trans hfound
      rw [harchived]
      exact Bool.false_ne_true
  have hfound : m.workspace.findArchivedCaseByUid caseUid = some case_ :=
    Option.filter_eq_some_iff.mpr ⟨hget, harchived⟩
  refine Program.wp_bind.trans (wp_workspace.trans ?_)
  rw [hnone, if_neg (by simp), hfound]
  exact Program.wp_bind.trans (and_congr_right fun _ => Program.wp_bind)

end Repairing

def archiveTransaction (caseUid : String) (case_ : CaseRecord) : TransactionRecord :=
  { kind := "case_archive", paths := archivePaths caseUid case_ }

namespace Workspace

/-- The workspace with the transaction of archiving a case on disk. -/
def transacting (w : Workspace) (now caseUid : String) (case_ : CaseRecord) : Workspace :=
  w.writeTransaction (uniqueTransactionId now "case_archive") (archiveTransaction caseUid case_)

variable {w s : Workspace} {now caseUid messageId : String} {case_ : CaseRecord}

theorem unreferenced_transacting :
    (w.transacting now caseUid case_).Unreferenced caseUid messageId ↔
      w.Unreferenced caseUid messageId :=
  ⟨fun h => ⟨h.cases, h.drafts, h.pushes⟩, fun h => ⟨h.cases, h.drafts, h.pushes⟩⟩

theorem Filed.transacting (hfiled : w.Filed) : (w.transacting now caseUid case_).Filed :=
  ⟨hfiled.pushId, hfiled.named⟩

theorem Readable.transacting (hreadable : w.Readable) :
    (w.transacting now caseUid case_).Readable :=
  ⟨hreadable.index, hreadable.messages, hreadable.members⟩

theorem Readable.removeTransaction (hreadable : w.Readable) (transactionId : String) :
    (w.removeTransaction transactionId).Readable :=
  ⟨hreadable.index, hreadable.messages, hreadable.members⟩

theorem transacting_transactions (hempty : w.transactions = ∅) :
    (w.transacting now caseUid case_).transactions = (∅ : Std.ExtTreeMap _ _).insert
      (uniqueTransactionId now "case_archive") (archiveTransaction caseUid case_) := by
  change w.transactions.insert _ _ = _
  rw [hempty]

theorem removeTransaction_transactions (hempty : w.transactions = ∅)
    (hsame : s.transactions = (w.transacting now caseUid case_).transactions) :
    (s.removeTransaction (uniqueTransactionId now "case_archive")).transactions = ∅ := by
  change s.transactions.erase _ = _
  rw [hsame, transacting_transactions hempty, Indexing.erase_insert_empty]

theorem transacting_removeTransaction (hempty : w.transactions = ∅) :
    (w.transacting now caseUid case_).removeTransaction (uniqueTransactionId now "case_archive") =
      w := by
  have hsame : (w.transacting now caseUid case_).transactions =
      (w.transacting now caseUid case_).transactions := rfl
  have hgone := removeTransaction_transactions hempty hsame
  change { w with transactions := _ } = w
  change Std.ExtTreeMap.erase _ _ = _ at hgone
  rw [hgone, ← hempty]

theorem ArchivedFrom.removeTransaction (hempty : w.transactions = ∅)
    (harchived : (w.transacting now caseUid case_).ArchivedFrom s caseUid case_) :
    w.ArchivedFrom (s.removeTransaction (uniqueTransactionId now "case_archive")) caseUid case_ where
  renamed := harchived.renamed
  queued messageId hmember hfree :=
    harchived.queued messageId hmember (unreferenced_transacting.mpr hfree)
  single messageId hmember hfree :=
    harchived.single messageId hmember (unreferenced_transacting.mpr hfree)
  kept pushId hother := harchived.kept pushId fun messageId hmember hfree =>
    hother messageId hmember (unreferenced_transacting.mp hfree)
  same := by
    have htransactions : s.transactions = (w.transacting now caseUid case_).transactions := by
      rw [harchived.same]
    have hgone := removeTransaction_transactions hempty htransactions
    change s.transactions.erase _ = ∅ at hgone
    change { s with transactions := s.transactions.erase _ } = _
    rw [hgone, ← hempty, harchived.same]
    rfl

theorem alterCase_cases {change : CaseRecord → CaseRecord}
    (hget : w.cases[caseUid]? = some case_) :
    (w.alterCase caseUid change).cases = w.cases.insert caseUid (change case_) := by
  apply Std.ExtTreeMap.ext_getElem?
  intro other
  by_cases heq : other = caseUid
  · subst heq
    rw [alterCase_get hget, Std.ExtTreeMap.getElem?_insert_self]
  · rw [alterCase_get_ne heq, Indexing.getElem?_insert_ne heq]

theorem Archiving.of_renamed (hget : w.cases[caseUid]? = some case_) (now : String) :
    w.Archiving ((w.alterCase caseUid (·.movedTo true case_.group)).alterCase caseUid
      (updateCaseArchiveState now)) caseUid case_ where
  renamed := by
    refine ⟨archivedSince now case_.status, archivedSince_isActive now _, ?_⟩
    rw [alterCase_cases (alterCase_get hget), alterCase_cases hget, updateCaseArchiveState_eq]
    apply Std.ExtTreeMap.ext_getElem?
    intro other
    by_cases heq : other = caseUid
    · subst heq
      rw [Std.ExtTreeMap.getElem?_insert_self, Std.ExtTreeMap.getElem?_insert_self]
      rfl
    · rw [Indexing.getElem?_insert_ne heq, Indexing.getElem?_insert_ne heq,
        Indexing.getElem?_insert_ne heq]
  kept _ _ := rfl
  progress _ _ _ := .inl rfl
  same := rfl

end Workspace

theorem CanArchive.transacting {host : Host} {w : Workspace} {caseUid : String}
    {case_ : CaseRecord} (hcan : CanArchive host w caseUid case_) (now : String) :
    CanArchive host (w.transacting now caseUid case_) caseUid case_ where
  valid := hcan.valid
  reads := hcan.reads
  actions messageId hmember hfree :=
    hcan.actions messageId hmember (Workspace.unreferenced_transacting.mp hfree)
  unstarted messageId hmember hfree :=
    hcan.unstarted messageId hmember (Workspace.unreferenced_transacting.mp hfree)

section Following
variable {host : CaseHost} {w s : Workspace} {now caseUid : String} {case_ : CaseRecord}

theorem Workspace.Archiving.alike
    (harchiving : (w.transacting now caseUid case_).Archiving s caseUid case_)
    (hreadable : w.Readable) (hget : w.cases[caseUid]? = some case_) :
    w.ArchivesAlike s caseUid where
  readable := harchiving.readable hreadable.transacting hget
  case_ found hfound := by
    obtain ⟨status, _, hcases⟩ := harchiving.renamed
    cases hget.symm.trans hfound
    exact ⟨true, status, by rw [hcases, Std.ExtTreeMap.getElem?_insert_self]⟩
  other other hne := harchiving.other hne
  same := by
    rw [harchiving.same]
    rfl

theorem Workspace.ArchivesAlike.removeTransaction (halike : w.ArchivesAlike s caseUid)
    (transactionId : String) : w.ArchivesAlike (s.removeTransaction transactionId) caseUid where
  readable := halike.readable.removeTransaction transactionId
  case_ := halike.case_
  other := halike.other
  same := by
    rw [halike.same]
    rfl

theorem CaseHost.ViewsFollow.rendersArchiving (hfollow : host.ViewsFollow w caseUid)
    (hreadable : w.Readable) (hrenders : host.RendersAll w) (hget : w.cases[caseUid]? = some case_)
    (now : String) : host.RendersArchiving (w.transacting now caseUid case_) caseUid case_ where
  cache s harchiving messageId hmember := by
    have halike := harchiving.alike hreadable hget
    obtain ⟨message, hread⟩ := hreadable.members caseUid case_ hget messageId hmember
    obtain ⟨found, hfound, _⟩ := harchiving.readMessageById (w := w.transacting now caseUid case_) hread
    exact hfollow.cache s halike messageId found hfound
  messages s harchiving messageId hmember := by
    obtain ⟨message, hread⟩ := hreadable.members caseUid case_ hget messageId hmember
    obtain ⟨_, _, hread⟩ := Result.bind_ok hread
    obtain ⟨record, _, hrecord, _⟩ := Workspace.readMessageUnder_eq_ok hread
    exact hfollow.messages hrenders s (harchiving.alike hreadable hget) messageId
      (Indexing.mem_of_getElem? hrecord)
  cases s harchiving := by
    apply (hfollow.all hrenders s (harchiving.alike hreadable hget)).cases
    obtain ⟨status, _, hcases⟩ := harchiving.renamed
    rw [hcases]
    exact Std.ExtTreeMap.mem_insert_self

end Following

/-- Every repair of a workspace at any time that is not cut off returns, with a workspace as
wanted. -/
def RepairsTo (host : CaseHost) (s : Workspace) (goal : Workspace → Prop) : Prop :=
  ∀ now m events outcome m', m.workspace = s →
    Exec (doctorRepair (host.at now)) m events outcome m' →
      (∀ error, outcome ≠ .failed error) ∧ (outcome = .returned () → goal m'.workspace)

theorem repairsTo_iff {host : CaseHost} {s : Workspace} {goal : Workspace → Prop} :
    RepairsTo host s goal ↔ ∀ now m, m.workspace = s →
      Program.wp Anywhere (fun _ _ m' => goal m'.workspace) Never (doctorRepair (host.at now)) [] m := by
  constructor
  · intro hrepairs now m hm
    apply Program.wp_complete
    intro events outcome m' hexec
    obtain ⟨hnever, hgoal⟩ := hrepairs now m events outcome m' hm hexec
    refine ⟨trivial, ?_⟩
    cases outcome with
    | returned value => exact hgoal rfl
    | failed error => exact hnever error rfl
    | crashed => trivial
  · intro hwp now m events outcome m' hm hexec
    have hmeets := (Program.wp_sound hexec trivial (hwp now m hm)).2
    cases outcome with
    | returned value => exact ⟨fun _ heq => (nomatch heq), fun _ => hmeets⟩
    | failed error => exact hmeets.elim
    | crashed => exact ⟨fun _ heq => (nomatch heq), fun heq => (nomatch heq)⟩

/-- No transaction is left, and the case is open as it was or archived. -/
def OpenOrArchived (w : Workspace) (caseUid : String) (case_ : CaseRecord) (s : Workspace) : Prop :=
  s.transactions = ∅ ∧ (s = w ∨ w.ArchivedFrom s caseUid case_)

/-- Archiving a case leaves it archived when it is not cut off; wherever it is cut off with
its transaction on disk, a repair at any time recovers the workspace. -/
structure ArchiveRecovers (host : CaseHost) (caseRef : String) (reason : Option String)
    (w : Workspace) : Prop where
  completes : ∀ caseUid case_ checked,
    archiveChecks host w caseRef reason = .ok (caseUid, case_, checked) →
    ∀ m events m', m.workspace = w →
      Exec (archiveCase host caseRef reason) m events (.returned ()) m' →
        w.ArchivedFrom { m'.workspace with audit := w.audit } caseUid case_
  recovers : ∀ caseUid case_ checked,
    archiveChecks host w caseRef reason = .ok (caseUid, case_, checked) →
    ∀ m events outcome m', m.workspace = w →
      Exec (archiveCase host caseRef reason) m events outcome m' →
        m'.workspace.transactions ≠ w.transactions →
          RepairsTo host m'.workspace (OpenOrArchived w caseUid case_)

namespace Workspace

/-- The workspace after a case is renamed into the archive and its status is written. -/
def archivedCase (w : Workspace) (now caseUid : String) (case_ : CaseRecord) : Workspace :=
  (w.alterCase caseUid (·.movedTo true case_.group)).alterCase caseUid (·.withArchiveState true now)

end Workspace

/-- What a case needs for a cut-off of its archiving to be repaired: its transaction can be
told from its directory's name, everything can be read, and once the case is renamed, each
message that nothing keeps from being archived has one archive action, and no push for adding
it to a case that has started. -/
structure ArchiveReady (host : CaseHost) (w : Workspace) (caseUid : String) (case_ : CaseRecord) :
    Prop where
  repairable :
    (archiveTransaction caseUid case_).repairableCaseArchiveUid host.toHost = some caseUid
  refreshes : renderRefresh host w = .ok ()
  archives : moveChecks host w caseUid case_ = .ok () → ∀ messageId ∈ case_.members,
    (w.archivedCase host.now caseUid case_).archiveBlockers messageId none (some caseUid) =
      .ok [] →
    (∃ action, w.archiveAction messageId = .ok action) ∧
      ∃ items, removableMessagePushes w messageId .caseAdd = .ok items

section Readiness
variable {host : CaseHost} {w : Workspace} {caseRef caseUid : String} {case_ : CaseRecord}
  {reason checked : Option String}

theorem archiveChecks_eq_ok
    (hchecks : archiveChecks host w caseRef reason = .ok (caseUid, case_, checked)) :
    w.transactions = ∅ ∧ w.cases[caseUid]? = some case_ ∧ case_.archivedDir = false ∧
      validUid 'c' caseUid = true ∧
      ∀ messageId ∈ case_.members, validateId host.toHost "message_id" messageId = .ok () := by
  obtain ⟨hempty, hchecks⟩ := Result.seq_ok hchecks
  obtain ⟨_, _, hchecks⟩ := Result.bind_ok hchecks
  obtain ⟨⟨uid, found⟩, hresolved, hchecks⟩ := Result.bind_ok hchecks
  obtain ⟨_, hchecks⟩ := Result.seq_ok hchecks
  obtain ⟨hpreflight, hchecks⟩ := Result.seq_ok hchecks
  cases hchecks
  obtain ⟨hget, hactive, hvalid⟩ := Workspace.resolveActiveCase_eq_ok hresolved
  refine ⟨?_, hget, hactive, hvalid, ?_⟩
  · exact Std.ExtTreeMap.isEmpty_iff.mp (ensure_eq_ok_iff.mp hempty)
  · intro messageId hmember
    obtain ⟨eligible, heligible, _⟩ := Result.bind_ok hpreflight
    obtain ⟨blockers, hblockers, _⟩ := Result.bind_ok heligible
    obtain ⟨found, _, hfound⟩ := Lists.exists_of_forall₂ (Result.mapM_eq_ok_iff.mp hblockers).flip hmember
    exact (Result.seq_ok hfound).1

/-- Among the messages of a case that are renamed into the archive nothing blocks those that
nothing else refers to. -/
theorem archivedCase_eligible_iff (hget : w.cases[caseUid]? = some case_) {messageId : String}
    (hmember : messageId ∈ case_.members) (hread : w.readMessageById messageId = .ok message) :
    (w.archivedCase host.now caseUid case_).archiveBlockers messageId none (some caseUid) =
      .ok [] ↔ w.Unreferenced caseUid messageId := by
  have harchiving : w.Archiving (w.archivedCase host.now caseUid case_) caseUid case_ :=
    .of_renamed hget host.now
  obtain ⟨found, hfound, _⟩ := harchiving.readMessageById hread
  obtain ⟨status, _, hcases⟩ := harchiving.renamed
  have hrenamed : (w.archivedCase host.now caseUid case_).cases[caseUid]? =
      some { case_ with archivedDir := true, status } := by
    rw [hcases, Std.ExtTreeMap.getElem?_insert_self]
  obtain ⟨blockers, hblockers, hnil⟩ :=
    Workspace.archiveBlockers_eq_ok hfound hrenamed rfl hmember
  have hsame : (w.archivedCase host.now caseUid case_).Unreferenced caseUid messageId ↔
      w.Unreferenced caseUid messageId := by
    constructor
    · intro hfree
      refine ⟨?_, ?_, hfree.pushes⟩
      · intro other found hne hother
        exact hfree.cases other found hne ((harchiving.other hne).trans hother)
      · intro other found hne hother
        exact hfree.drafts other found hne ((harchiving.other hne).trans hother)
    · intro hfree
      refine ⟨?_, ?_, hfree.pushes⟩
      · intro other found hne hother
        exact hfree.cases other found hne ((harchiving.other hne).symm.trans hother)
      · intro other found hne hother
        exact hfree.drafts other found hne ((harchiving.other hne).symm.trans hother)
  rw [hblockers, ← hsame, ← hnil, Except.ok.injEq]

theorem ArchiveReady.canArchive (hready : ArchiveReady host w caseUid case_) (hfiled : w.Filed)
    (hchecks : archiveChecks host w caseRef reason = .ok (caseUid, case_, checked))
    (hmoves : moveChecks host w caseUid case_ = .ok ()) :
    CanArchive host.toHost w caseUid case_ := by
  obtain ⟨_, hget, _, _, hvalid⟩ := archiveChecks_eq_ok hchecks
  obtain ⟨hreadable, _⟩ := Workspace.renderRefresh_eq_ok_iff.mp hready.refreshes
  have hreads := hreadable.members caseUid case_ hget
  have harchives : ∀ messageId ∈ case_.members, w.Unreferenced caseUid messageId →
      (∃ action, w.archiveAction messageId = .ok action) ∧
        ∃ items, removableMessagePushes w messageId .caseAdd = .ok items := by
    intro messageId hmember hfree
    obtain ⟨message, hread⟩ := hreads messageId hmember
    exact hready.archives hmoves messageId hmember
      ((archivedCase_eligible_iff hget hmember hread).mpr hfree)
  refine ⟨hvalid, hreads, fun messageId hmember hfree => (harchives messageId hmember hfree).1, ?_⟩
  intro messageId hmember hfree item hitem
  obtain ⟨_, items, hremovable⟩ := harchives messageId hmember hfree
  obtain ⟨rfl, hunstarted⟩ := removableMessagePushes_eq_ok_iff.mp hremovable
  obtain ⟨message, hmessage, hid, haction⟩ := hfree.caseAdd hfiled hitem
  have hmem : item.stored ∈ w.readItems := Workspace.mem_readItems.mpr ⟨_, item, hitem, rfl⟩
  exact hunstarted item.stored (List.mem_filter.mpr ⟨hmem, by
    rw [Workspace.stored_message, hmessage]
    simp [hid, haction]⟩)

end Readiness

section Stages
variable {host : CaseHost} {w : Workspace} {caseRef caseUid : String} {case_ : CaseRecord}
  {reason checked : Option String}

/-- Where archiving can be cut off. -/
inductive ArchiveStage (host : CaseHost) (w : Workspace) (caseUid : String) (case_ : CaseRecord) :
    Workspace → Prop
  | outside : s.transactions = w.transactions → ArchiveStage host w caseUid case_ s
  | begun : ArchiveStage host w caseUid case_ (w.transacting host.now caseUid case_)
  | renamed : moveChecks host w caseUid case_ = .ok () → ArchiveStage host w caseUid case_
      ((w.transacting host.now caseUid case_).alterCase caseUid (·.movedTo true case_.group))
  | archiving : moveChecks host w caseUid case_ = .ok () →
      (w.transacting host.now caseUid case_).Archiving s caseUid case_ →
      ArchiveStage host w caseUid case_ s

/-- The runs of the command, up to the point where the directory is renamed. -/
theorem wp_archiveCase_iff {m : Process} {inv : ProcessFact}
    {post : Unit → ProcessFact}
    {abort : AppError → ProcessFact}
    (hchecks : archiveChecks host m.workspace caseRef reason = .ok (caseUid, case_, checked)) :
    let begun := m.onWorkspace (·.transacting host.now caseUid case_)
    let renamed := begun.onWorkspace (·.alterCase caseUid (·.movedTo true case_.group))
    let archived := renamed.onWorkspace (·.alterCase caseUid (·.withArchiveState true host.now))
    Program.wp inv post abort (archiveCase host caseRef reason) [] m ↔
      inv [] begun ∧ match moveChecks host m.workspace caseUid case_ with
        | .error error => abort error [] begun
        | .ok _ => inv [] renamed ∧ inv [] archived ∧
          Program.wp inv (fun pending h' m' =>
            inv h' (m'.onWorkspace
              (·.removeTransaction (uniqueTransactionId host.now "case_archive"))) ∧
            Program.wp inv post abort (appendAuditEvent host.toHost
              (if pending then "case_archiving" else "case_archived") [("case", caseUid)] checked) h'
              (m'.onWorkspace (·.removeTransaction (uniqueTransactionId host.now "case_archive"))))
            abort (completeCaseArchiveWorkspace host caseUid case_.members.messageIds) [] archived := by
  intro begun renamed archived
  refine Program.wp_bind.trans (wp_workspace.trans (Program.wp_bind.trans ?_))
  rw [hchecks]
  refine Program.wp_bind.trans (Program.wp_bind.trans (and_congr_right fun _ => ?_))
  refine Program.wp_bind.trans (Program.wp_bind.trans (wp_workspace.trans
    (Program.wp_bind.trans ?_)))
  change Program.wp inv _ abort (Program.ofExcept (moveChecks host m.workspace caseUid case_)) [] _ ↔ _
  cases moveChecks host m.workspace caseUid case_ with
  | error error => exact .rfl
  | ok _ =>
    refine Program.wp_bind.trans (and_congr_right fun _ => and_congr_right fun _ => ?_)
    exact Program.wp_bind

theorem wp_archiveCase {m : Process} (hviews : host.ViewsFollow m.workspace caseUid)
    (hfiled : m.workspace.Filed)
    (hchecks : archiveChecks host m.workspace caseRef reason = .ok (caseUid, case_, checked))
    (hready : ArchiveReady host m.workspace caseUid case_) :
    Program.wp (fun _ m' => ArchiveStage host m.workspace caseUid case_ m'.workspace)
      (fun _ _ m' => m.workspace.ArchivedFrom
        { m'.workspace with audit := m.workspace.audit } caseUid case_)
      (fun _ _ _ => True) (archiveCase host caseRef reason) [] m := by
  obtain ⟨hempty, hget, _, _, _⟩ := archiveChecks_eq_ok hchecks
  apply (wp_archiveCase_iff hchecks).mpr
  refine ⟨.begun, ?_⟩
  cases hmoves : moveChecks host m.workspace caseUid case_ with
  | error error => trivial
  | ok _ =>
    have hcan := (hready.canArchive hfiled hchecks hmoves).transacting host.now
    obtain ⟨hreadable, hrenders⟩ := Workspace.renderRefresh_eq_ok_iff.mp hready.refreshes
    have hrendersArchiving := hviews.rendersArchiving hreadable hrenders hget host.now
    have harchiving : (m.workspace.transacting host.now caseUid case_).Archiving
        ((m.workspace.transacting host.now caseUid case_).archivedCase host.now caseUid case_)
        caseUid case_ := .of_renamed (w := m.workspace.transacting host.now caseUid case_) hget host.now
    refine ⟨.renamed hmoves, .archiving hmoves harchiving, ?_⟩
    have hcomplete : Program.wp
        (OnTheWay (m.workspace.transacting host.now caseUid case_) caseUid case_)
        (fun _ _ m' => (m.workspace.transacting host.now caseUid case_).ArchivedFrom m'.workspace
          caseUid case_) (fun _ _ _ => True)
        (completeCaseArchiveWorkspace host caseUid case_.members.messageIds) []
        { m with workspace :=
          (m.workspace.transacting host.now caseUid case_).archivedCase host.now caseUid case_ } :=
      wp_completeCaseArchiveWorkspace hrendersArchiving hfiled.transacting hcan harchiving
        fun _ _ _ harchived => harchived
    apply Program.wp_weaken hcomplete
    · exact fun _ _ harchiving => .archiving hmoves harchiving
    · intro pending h m' harchived
      have hdone := harchived.removeTransaction hempty
      have houtside : (m'.workspace.removeTransaction
          (uniqueTransactionId host.now "case_archive")).transactions = m.workspace.transactions := by
        rw [hdone.same]
      refine ⟨.outside houtside, ?_⟩
      apply wp_auditing
      · exact fun _ _ => .outside houtside
      · intro h' audit
        have haudit : m.workspace.audit = (m'.workspace.removeTransaction
            (uniqueTransactionId host.now "case_archive")).audit := by
          rw [hdone.same]
        rw [haudit]
        exact hdone
      · exact fun _ _ _ => trivial
    · exact fun _ _ _ hfailed => hfailed

theorem Workspace.Archiving.transactions {s w' : Workspace}
    (harchiving : w'.Archiving s caseUid case_) : s.transactions = w'.transactions := by
  rw [harchiving.same]

/-- A repair of the open case takes the transaction away and refreshes everything. -/
theorem wp_doctorRepair_begun {later : CaseHost} {m : Process} {h : List RemoteEvent}
    {post : Unit → ProcessFact} (hempty : w.transactions = ∅)
    (hget : w.cases[caseUid]? = some case_) (hactive : case_.archivedDir = false)
    (hrepairable : (archiveTransaction caseUid case_).repairableCaseArchiveUid later.toHost =
      some caseUid)
    (hm : m.workspace = w.transacting host.now caseUid case_) :
    Program.wp Anywhere post Never (doctorRepair later) h m ↔
      renderRefresh later w = .ok () ∧ post () h { m with workspace := w } := by
  have htransactions : m.workspace.transactions = (∅ : Std.ExtTreeMap _ _).insert
      (uniqueTransactionId host.now "case_archive") (archiveTransaction caseUid case_) := by
    rw [hm]
    exact Workspace.transacting_transactions hempty
  have hopen : m.workspace.cases[caseUid]? = some case_ := by
    rw [hm]
    exact hget
  rw [wp_doctorRepair htransactions hrepairable, wp_recover_active hopen hactive]
  have hremoved : m.workspace.removeTransaction (uniqueTransactionId host.now "case_archive") = w := by
    rw [hm]
    exact Workspace.transacting_removeTransaction hempty
  change renderRefresh later (m.workspace.removeTransaction _) = _ ∧ _ ∧
    post () h { m with workspace := m.workspace.removeTransaction _ } ↔ _
  rw [hremoved]
  apply and_congr_right
  intro _
  constructor
  · exact (·.2)
  · intro hpost
    refine ⟨⟨[], ?_⟩, hpost⟩
    unfold checkTransactions
    rw [hempty]
    rfl

/-- A repair of a renamed case archives it. -/
theorem wp_doctorRepair_renamed {later : CaseHost} {m : Process} {h : List RemoteEvent}
    (hviews : later.ViewsFollow w caseUid) (hfiled : w.Filed)
    (hrefreshes : renderRefresh later w = .ok ())
    (hempty : w.transactions = ∅) (hget : w.cases[caseUid]? = some case_)
    (hrepairable : (archiveTransaction caseUid case_).repairableCaseArchiveUid later.toHost =
      some caseUid)
    (hcan : CanArchive later.toHost w caseUid case_) {found : CaseRecord}
    (hfound : m.workspace.cases[caseUid]? = some found) (harchived : found.archivedDir = true)
    (hmembers : found.members = case_.members)
    (htransactions : m.workspace.transactions =
      (w.transacting host.now caseUid case_).transactions)
    (harchiving : (w.transacting host.now caseUid case_).Archiving
      (m.workspace.alterCase caseUid (updateCaseArchiveState later.now)) caseUid case_) :
    Program.wp Anywhere (fun _ _ m' => OpenOrArchived w caseUid case_ m'.workspace) Never
      (doctorRepair later) h m := by
  obtain ⟨hreadable, hrenders⟩ := Workspace.renderRefresh_eq_ok_iff.mp hrefreshes
  have hsingle : m.workspace.transactions = (∅ : Std.ExtTreeMap _ _).insert
      (uniqueTransactionId host.now "case_archive") (archiveTransaction caseUid case_) := by
    rw [htransactions]
    exact Workspace.transacting_transactions hempty
  rw [wp_doctorRepair hsingle hrepairable, wp_recover_archived hfound harchived, hmembers]
  refine ⟨trivial, ?_⟩
  have hcomplete : Program.wp (OnTheWay (w.transacting host.now caseUid case_) caseUid case_)
      (fun _ _ m' => (w.transacting host.now caseUid case_).Archiving m'.workspace caseUid case_ ∧
        (w.transacting host.now caseUid case_).ArchivedFrom m'.workspace caseUid case_) Never
      (completeCaseArchiveWorkspace later caseUid case_.members.messageIds) h
      (m.onWorkspace (·.alterCase caseUid (updateCaseArchiveState later.now))) :=
    wp_completeCaseArchiveWorkspace (hviews.rendersArchiving hreadable hrenders hget host.now)
      hfiled.transacting (hcan.transacting host.now) harchiving fun _ _ hon hdone => ⟨hon, hdone⟩
  apply Program.wp_weaken hcomplete
  · exact fun _ _ _ => trivial
  · rintro _ h' m' ⟨hon, hdone⟩
    have hgone := Workspace.removeTransaction_transactions hempty hon.transactions
    refine ⟨?_, ⟨[], ?_⟩, hgone, .inr (hdone.removeTransaction hempty)⟩
    · have halike := (hon.alike hreadable hget).removeTransaction
        (uniqueTransactionId host.now "case_archive")
      exact Workspace.renderRefresh_eq_ok_iff.mpr ⟨halike.readable, hviews.all hrenders _ halike⟩
    · unfold checkTransactions
      rw [hgone]
      rfl
  · exact fun _ _ _ hfailed => hfailed

end Stages
end AgentFirstMail
