import AgentFirstMail.Cases.Eligibility
import AgentFirstMail.PushQueue.Requeue

namespace AgentFirstMail
open Effect Command

namespace Workspace

/-- Every queue record lies under its own id, which is that of its message or a random one. -/
structure Filed (w : Workspace) : Prop where
  pushId : w.PushesKeyed
  named : ∀ (pushId : String) item, w.pushItems[pushId]? = some item → item.Named

/-- A message has places to be archived from and steps to be taken there. -/
def Notifies (w : Workspace) (messageId : String) : Prop :=
  ∃ places steps, w.archiveAction messageId = .ok (places, steps) ∧ places ≠ [] ∧ steps ≠ []

/-- The record of an archive push as it is queued first. -/
def QueuedAfresh (w : Workspace) (messageId : String) : Prop :=
  ∃ now enqueueSeq, w.pushItems[messagePushId messageId]? =
    some (messageItem now enqueueSeq messageId .notification none)

/-- A case on its way into the archive: its directory is there with a status that says so, and
the queue differs for messages that nothing else refers to, whose adding to the case is taken
back and whose archiving is queued. -/
structure Archiving (w s : Workspace) (caseUid : String) (case_ : CaseRecord) : Prop where
  renamed : ∃ status : CaseStatus, status.isActive = false ∧
    s.cases = w.cases.insert caseUid { case_ with archivedDir := true, status }
  kept : ∀ pushId, (∀ messageId ∈ case_.members, w.Unreferenced caseUid messageId →
    pushId ≠ messagePushId messageId) → s.pushItems[pushId]? = w.pushItems[pushId]?
  progress : ∀ messageId ∈ case_.members, w.Unreferenced caseUid messageId →
    s.pushItems[messagePushId messageId]? = w.pushItems[messagePushId messageId]? ∨
      s.pushItems[messagePushId messageId]? = none ∨ w.Notifies messageId ∧ s.QueuedAfresh messageId
  same : s = { w with cases := s.cases, pushItems := s.pushItems }

section Records
variable {w s : Workspace} {caseUid messageId : String} {case_ : CaseRecord}

theorem Filed.of_message (hfiled : w.Filed) {pushId : String} {item : PushItem} {message : MessagePush}
    (hget : w.pushItems[pushId]? = some item) (hmessage : item.message = some message) :
    pushId = messagePushId message.messageId := by
  have hnamed := hfiled.named pushId item hget
  rw [← hfiled.pushId pushId item hget]
  unfold PushItem.Named at hnamed
  unfold PushItem.message at hmessage
  cases hpayload : item.payload with
  | draft draft =>
    rw [hpayload] at hmessage
    cases hmessage
  | message found =>
    rw [hpayload] at hmessage hnamed
    cases hmessage
    exact hnamed

theorem Filed.at_message (hfiled : w.Filed) {item : PushItem}
    (hget : w.pushItems[messagePushId messageId]? = some item) :
    ∃ message, item.message = some message ∧ message.messageId = messageId := by
  have hnamed := hfiled.named _ item hget
  unfold PushItem.Named at hnamed
  unfold PushItem.message
  cases hpayload : item.payload with
  | draft draft =>
    rw [hpayload] at hnamed
    obtain ⟨suffix, hsuffix⟩ := hnamed
    rw [hfiled.pushId _ item hget] at hsuffix
    exact (messagePushId_ne _ _ hsuffix).elim
  | message found =>
    rw [hpayload] at hnamed
    refine ⟨found, rfl, ?_⟩
    rw [hfiled.pushId _ item hget] at hnamed
    exact (messagePushId_injective hnamed).symm

theorem stored_messageIds {item : PushItem} {message : MessagePush}
    (hmessage : item.message = some message) : item.stored.messageIds = [message.messageId] := by
  unfold PushItem.message at hmessage
  cases hpayload : item.payload with
  | draft draft =>
    rw [hpayload] at hmessage
    cases hmessage
  | message found =>
    rw [hpayload] at hmessage
    cases hmessage
    rw [PushItem.messageIds, PushItem.stored_payload, hpayload]
    rfl

theorem stored_message (item : PushItem) : item.stored.message = item.message := rfl

theorem draft_of_message {item : PushItem} {message : MessagePush}
    (hmessage : item.message = some message) : item.draft = none := by
  unfold PushItem.message at hmessage
  unfold PushItem.draft
  cases hpayload : item.payload with
  | draft draft =>
    rw [hpayload] at hmessage
    cases hmessage
  | message found => rfl

theorem Unreferenced.caseAdd (hunreferenced : w.Unreferenced caseUid messageId) (hfiled : w.Filed)
    {item : PushItem} (hget : w.pushItems[messagePushId messageId]? = some item) :
    ∃ message, item.message = some message ∧ message.messageId = messageId ∧
      message.action = .caseAdd := by
  obtain ⟨message, hmessage, hid⟩ := hfiled.at_message hget
  refine ⟨message, hmessage, hid, ?_⟩
  have hmem : item.stored ∈ w.readItems := mem_readItems.mpr ⟨_, item, hget, rfl⟩
  have hids : messageId ∈ item.stored.messageIds := by
    rw [stored_messageIds hmessage, hid]
    exact List.mem_singleton.mpr rfl
  rcases hunreferenced.pushes item.stored hmem hids with hadd | hdraft
  · rw [stored_message, hmessage] at hadd
    exact eq_of_beq hadd
  · have hstored : item.stored.message = some message := hmessage
    have hnone : item.stored.draft = none := draft_of_message hstored
    rw [hnone] at hdraft
    cases hdraft

theorem Unreferenced.not_queuedAfresh (hunreferenced : w.Unreferenced caseUid messageId)
    (hfiled : w.Filed) : ¬ w.QueuedAfresh messageId := by
  rintro ⟨now, enqueueSeq, hget⟩
  obtain ⟨message, hmessage, _, haction⟩ := hunreferenced.caseAdd hfiled hget
  cases hmessage
  cases haction

end Records

namespace Archiving
variable {w s : Workspace} {caseUid messageId : String} {case_ : CaseRecord}

theorem record (harchiving : Archiving w s caseUid case_) {pushId : String} {item : PushItem}
    (hget : s.pushItems[pushId]? = some item) :
    w.pushItems[pushId]? = some item ∨
      ∃ messageId ∈ case_.members, w.Unreferenced caseUid messageId ∧
        pushId = messagePushId messageId ∧
        ∃ now enqueueSeq, item = messageItem now enqueueSeq messageId .notification none := by
  by_cases hkey : ∃ messageId ∈ case_.members, w.Unreferenced caseUid messageId ∧
      pushId = messagePushId messageId
  · obtain ⟨messageId, hmember, hunreferenced, rfl⟩ := hkey
    rcases harchiving.progress messageId hmember hunreferenced with hsame | hnone |
      ⟨_, now, enqueueSeq, hqueued⟩
    · exact .inl (hsame.symm.trans hget)
    · cases hnone.symm.trans hget
    · cases hqueued.symm.trans hget
      exact .inr ⟨messageId, hmember, hunreferenced, rfl, now, enqueueSeq, rfl⟩
  · push Not at hkey
    exact .inl ((harchiving.kept pushId hkey).symm.trans hget)

theorem filed (harchiving : Archiving w s caseUid case_) (hfiled : w.Filed) : s.Filed := by
  refine ⟨fun pushId item hget => ?_, fun pushId item hget => ?_⟩
  · rcases harchiving.record hget with hold | ⟨messageId, _, _, rfl, _, _, rfl⟩
    · exact hfiled.pushId pushId item hold
    · rfl
  · rcases harchiving.record hget with hold | ⟨messageId, _, _, rfl, _, _, rfl⟩
    · exact hfiled.named pushId item hold
    · rfl

theorem other (harchiving : Archiving w s caseUid case_) {other : String} (hne : other ≠ caseUid) :
    s.cases[other]? = w.cases[other]? := by
  obtain ⟨status, _, hcases⟩ := harchiving.renamed
  rw [hcases, Indexing.getElem?_insert_ne hne]

/-- What nothing else refers to, but what is queued for archiving already. -/
theorem unreferenced_iff (harchiving : Archiving w s caseUid case_) (hfiled : w.Filed) :
    s.Unreferenced caseUid messageId ↔
      w.Unreferenced caseUid messageId ∧ ¬ s.QueuedAfresh messageId := by
  constructor
  · intro hunreferenced
    refine ⟨⟨?_, ?_, ?_⟩, hunreferenced.not_queuedAfresh (harchiving.filed hfiled)⟩
    · intro other found hne hget
      exact hunreferenced.cases other found hne ((harchiving.other hne).trans hget)
    · intro other found hne hget
      exact hunreferenced.drafts other found hne ((harchiving.other hne).trans hget)
    · intro item hmem hids
      obtain ⟨pushId, record, hget, rfl⟩ := mem_readItems.mp hmem
      by_cases hkey : ∃ other ∈ case_.members, w.Unreferenced caseUid other ∧
          pushId = messagePushId other
      · obtain ⟨other, _, hother, rfl⟩ := hkey
        obtain ⟨message, hmessage, hid, haction⟩ := hother.caseAdd hfiled hget
        rw [stored_message, hmessage]
        exact .inl (beq_iff_eq.mpr haction)
      · push Not at hkey
        have hkept := (harchiving.kept pushId hkey).trans hget
        exact hunreferenced.pushes _ (mem_readItems.mpr ⟨pushId, record, hkept, rfl⟩) hids
  · rintro ⟨hunreferenced, hfresh⟩
    refine ⟨?_, ?_, ?_⟩
    · intro other found hne hget
      exact hunreferenced.cases other found hne ((harchiving.other hne).symm.trans hget)
    · intro other found hne hget
      exact hunreferenced.drafts other found hne ((harchiving.other hne).symm.trans hget)
    · intro item hmem hids
      obtain ⟨pushId, record, hget, rfl⟩ := mem_readItems.mp hmem
      rcases harchiving.record hget with hold | ⟨other, _, _, rfl, now, enqueueSeq, rfl⟩
      · exact hunreferenced.pushes _ (mem_readItems.mpr ⟨pushId, record, hold, rfl⟩) hids
      · have hof : (messageItem now enqueueSeq other .notification none).message =
            some ⟨other, .notification, none⟩ := rfl
        rw [stored_messageIds hof, List.mem_singleton] at hids
        subst hids
        exact (hfresh ⟨now, enqueueSeq, hget⟩).elim

/-- An archived case is in the index as its directory lies. -/
theorem index (harchiving : Archiving w s caseUid case_)
    (hindex : w.materializedOverlayIndex = .ok before) :
    ∃ after, s.materializedOverlayIndex = .ok after := by
  obtain ⟨dispositions, hdispositions, hindex⟩ := Result.bind_ok hindex
  obtain ⟨notifications, hnotifications, hindex⟩ := Result.bind_ok hindex
  obtain ⟨hdisjoint, hindex⟩ := Result.seq_ok hindex
  obtain ⟨cases, hcases, _⟩ := Result.bind_ok hindex
  obtain ⟨hfits, _⟩ := buildCaseIndex_eq_ok_iff.mp hcases
  obtain ⟨status, hstatus, hrenamed⟩ := harchiving.renamed
  have hbuild : ∃ entries, s.buildCaseIndex = .ok entries := by
    refine ⟨_, buildCaseIndex_eq_ok_iff.mpr ⟨?_, rfl⟩⟩
    rintro ⟨other, found⟩ hmem
    rw [mem_allCaseEntries] at hmem
    by_cases heq : other = caseUid
    · subst heq
      rw [hrenamed, Std.ExtTreeMap.getElem?_insert_self] at hmem
      cases hmem
      exact ensure_eq_ok_iff.mpr (by rw [hstatus]; rfl)
    · exact hfits _ (mem_allCaseEntries.mpr ((harchiving.other heq).symm.trans hmem))
  obtain ⟨entries, hentries⟩ := hbuild
  rw [harchiving.same] at hentries ⊢
  exact ⟨_, Result.bind_eq_ok_iff.mpr ⟨dispositions, hdispositions,
    Result.bind_eq_ok_iff.mpr ⟨notifications, hnotifications,
      Result.bind_unit_eq_ok_iff.mpr ⟨hdisjoint,
        Result.bind_eq_ok_iff.mpr ⟨entries, hentries, rfl⟩⟩⟩⟩⟩

theorem readMessageUnder_congr (harchiving : Archiving w s caseUid case_)
    {before : OverlayIndex} (after : OverlayIndex) (hread : w.readMessageUnder before messageId = .ok message) :
    ∃ found, s.readMessageUnder after messageId = .ok found ∧ found.remote = message.remote := by
  obtain ⟨record, metadata, hget, hevidence, hmetadata, _, hremote, _⟩ :=
    readMessageUnder_eq_ok hread
  have hmessages : s.messages = w.messages := by rw [harchiving.same]
  unfold readMessageUnder
  rw [hmessages, hget]
  dsimp only
  rw [hmetadata]
  refine ⟨_, Result.bind_unit_eq_ok_iff.mpr ⟨ensure_eq_ok_iff.mpr hevidence, rfl⟩, hremote.symm⟩

theorem readMessageById (harchiving : Archiving w s caseUid case_)
    (hread : w.readMessageById messageId = .ok message) :
    ∃ found, s.readMessageById messageId = .ok found ∧ found.remote = message.remote := by
  obtain ⟨before, hbefore, hread⟩ := Result.bind_ok hread
  obtain ⟨after, hafter⟩ := harchiving.index hbefore
  obtain ⟨found, hfound, hremote⟩ := harchiving.readMessageUnder_congr after hread
  exact ⟨found, Result.bind_eq_ok_iff.mpr ⟨after, hafter, hfound⟩, hremote⟩

theorem archiveAction_eq (harchiving : Archiving w s caseUid case_)
    (hread : w.readMessageById messageId = .ok message) :
    s.archiveAction messageId = w.archiveAction messageId := by
  have hlocations : ∀ (w : Workspace) (message : Message),
      w.readMessageById messageId = .ok message →
      w.messageRemoteLocationsWithMailboxIds [messageId] =
        .ok ((message.remote.getD []).filterMap (·.toMailboxIdLocation messageId)) := by
    intro w message hread
    obtain ⟨index, hindex, hread⟩ := Result.bind_ok hread
    refine Result.bind_eq_ok_iff.mpr ⟨index, hindex, Result.bind_eq_ok_iff.mpr
      ⟨[(message.remote.getD []).filterMap (·.toMailboxIdLocation messageId)], ?_, ?_⟩⟩
    · exact Result.mapM_eq_ok_iff.mpr (.cons (Result.bind_eq_ok_iff.mpr ⟨message, hread, rfl⟩) .nil)
    · rw [List.flatten_cons, List.flatten_nil, List.append_nil]
      rfl
  obtain ⟨found, hfound, hremote⟩ := harchiving.readMessageById hread
  have hconfig : s.config = w.config := by rw [harchiving.same]
  unfold archiveAction
  rw [hlocations s found hfound, hlocations w message hread, hremote, hconfig]

section Steps

/-- A queue that differs in the record of one message that nothing else refers to. -/
theorem repush (harchiving : Archiving w s caseUid case_) (hmember : messageId ∈ case_.members)
    (hunreferenced : w.Unreferenced caseUid messageId) {pushItems : Std.ExtTreeMap String PushItem}
    (hkept : ∀ pushId, pushId ≠ messagePushId messageId →
      pushItems[pushId]? = s.pushItems[pushId]?)
    (hprogress : pushItems[messagePushId messageId]? = none ∨ w.Notifies messageId ∧
      ∃ now enqueueSeq, pushItems[messagePushId messageId]? =
        some (messageItem now enqueueSeq messageId .notification none)) :
    Archiving w { s with pushItems } caseUid case_ where
  renamed := harchiving.renamed
  kept pushId hother := by
    rw [← harchiving.kept pushId hother]
    exact hkept pushId (hother messageId hmember hunreferenced)
  progress other hother hfree := by
    by_cases heq : other = messageId
    · subst heq
      exact .inr hprogress
    · have hpush : pushItems[messagePushId other]? = s.pushItems[messagePushId other]? :=
        hkept _ fun h => heq (messagePushId_injective h)
      unfold QueuedAfresh
      rw [hpush]
      exact harchiving.progress other hother hfree
  same := by
    rw [harchiving.same]

theorem deleteItem (harchiving : Archiving w s caseUid case_) (hmember : messageId ∈ case_.members)
    (hunreferenced : w.Unreferenced caseUid messageId) :
    Archiving w (s.deleteItem (messagePushId messageId)) caseUid case_ :=
  harchiving.repush hmember hunreferenced
    (fun _ hne => Indexing.getElem?_erase_ne hne)
    (.inl Std.ExtTreeMap.getElem?_erase_self)

theorem writeItem (harchiving : Archiving w s caseUid case_) (hmember : messageId ∈ case_.members)
    (hunreferenced : w.Unreferenced caseUid messageId) (hnotifies : w.Notifies messageId)
    (now : String) (enqueueSeq : Nat) :
    Archiving w (s.writeItem (messageItem now enqueueSeq messageId .notification none)) caseUid
      case_ :=
  harchiving.repush hmember hunreferenced
    (fun _ hne => Indexing.getElem?_insert_ne hne)
    (.inr ⟨hnotifies, now, enqueueSeq, Std.ExtTreeMap.getElem?_insert_self⟩)

theorem cases_alterCase (harchiving : Archiving w s caseUid case_)
    (change : CaseRecord → CaseRecord) (status : CaseStatus → CaseStatus)
    (hchange : ∀ case_ : CaseRecord, change case_ = { case_ with status := status case_.status }) :
    ∃ found, (s.alterCase caseUid change).cases =
      w.cases.insert caseUid { case_ with archivedDir := true, status := status found } := by
  obtain ⟨found, _, hcases⟩ := harchiving.renamed
  refine ⟨found, ?_⟩
  apply Std.ExtTreeMap.ext_getElem?
  intro other
  by_cases heq : other = caseUid
  · subst heq
    have hget : s.cases[other]? = some { case_ with archivedDir := true, status := found } := by
      rw [hcases, Std.ExtTreeMap.getElem?_insert_self]
    rw [alterCase_get hget, hchange, Std.ExtTreeMap.getElem?_insert_self]
  · rw [alterCase_get_ne heq, hcases, Indexing.getElem?_insert_ne heq,
      Indexing.getElem?_insert_ne heq]

theorem alterCase (harchiving : Archiving w s caseUid case_) (change : CaseRecord → CaseRecord)
    (status : CaseStatus → CaseStatus)
    (hchange : ∀ case_ : CaseRecord, change case_ = { case_ with status := status case_.status })
    (hstatus : ∀ found : CaseStatus, (status found).isActive = false) :
    Archiving w (s.alterCase caseUid change) caseUid case_ where
  renamed := by
    obtain ⟨found, hcases⟩ := harchiving.cases_alterCase change status hchange
    exact ⟨status found, hstatus found, hcases⟩
  kept := harchiving.kept
  progress := harchiving.progress
  same := by
    rw [harchiving.same]
    rfl

end Steps
end Archiving
end Workspace
end AgentFirstMail
