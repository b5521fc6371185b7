import AgentFirstMail.Data.Lists
import AgentFirstMail.PushQueue.Continuity

namespace AgentFirstMail
open Effect Command
variable {w w' w₀ : Workspace} {item later : PushItem}

namespace PushItem

/-- A queue record that has done nothing yet. -/
structure NoProgress (item : PushItem) : Prop where
  stepStates : item.stepStates = []
  localStage : item.localStage = none
  auditPending : item.auditPending = none
  attemptCount : item.attemptCount = 0
  snapshot : item.snapshot? = none

/-- Everything a record says of what it did is kept. -/
structure SameProgress (later item : PushItem) : Prop where
  stepStates : later.stepStates = item.stepStates
  localStage : later.localStage = item.localStage
  auditPending : later.auditPending = item.auditPending
  attemptCount : later.attemptCount = item.attemptCount
  snapshot : later.snapshot? = item.snapshot?

/-- A record that is queued again, for the action it was queued for or, when none of its steps
was started, for another one. -/
structure Requeues (same : Prop) (later item : PushItem) : Prop where
  identity : later.SameIdentity item
  kept : same → later.SameProgress item
  reset : ¬ same → item.hasStartedEffects = false ∧ later.NoProgress

theorem SameProgress.trans {last : PushItem} (hsecond : last.SameProgress later)
    (hfirst : later.SameProgress item) : last.SameProgress item :=
  ⟨hsecond.stepStates.trans hfirst.stepStates, hsecond.localStage.trans hfirst.localStage,
    hsecond.auditPending.trans hfirst.auditPending,
    hsecond.attemptCount.trans hfirst.attemptCount, hsecond.snapshot.trans hfirst.snapshot⟩

theorem NoProgress.congr (hnone : item.NoProgress) (hsame : later.SameProgress item) :
    later.NoProgress :=
  ⟨hsame.stepStates.trans hnone.stepStates, hsame.localStage.trans hnone.localStage,
    hsame.auditPending.trans hnone.auditPending, hsame.attemptCount.trans hnone.attemptCount,
    hsame.snapshot.trans hnone.snapshot⟩

theorem SameProgress.refl (item : PushItem) : item.SameProgress item := ⟨rfl, rfl, rfl, rfl, rfl⟩

theorem SameProgress.stored (item : PushItem) : item.stored.SameProgress item :=
  ⟨rfl, rfl, rfl, rfl, rfl⟩

theorem Requeues.stored {same : Prop} (hrequeues : later.Requeues same item) :
    later.stored.Requeues same item where
  identity := (SameIdentity.stored later).trans hrequeues.identity
  kept heq := (SameProgress.stored later).trans (hrequeues.kept heq)
  reset hne := ⟨(hrequeues.reset hne).1, (hrequeues.reset hne).2.congr (.stored later)⟩

theorem Requeues.of_stored {same : Prop} (hrequeues : later.Requeues same item.stored) :
    later.Requeues same item where
  identity := hrequeues.identity.trans (.stored item)
  kept heq := (hrequeues.kept heq).trans (.stored item)
  reset := hrequeues.reset

/-- The id that a record is queued under: a message's own, or a random one of a draft. -/
def Named (item : PushItem) : Prop :=
  match item.payload with
  | .draft _ => ∃ suffix, item.pushId = "push_draft_" ++ suffix
  | .message message => item.pushId = messagePushId message.messageId

theorem Named.congr (hnamed : item.Named) (hid : later.pushId = item.pushId)
    (htarget : later.target = item.target) : later.Named := by
  unfold Named target at *
  cases hlater : later.payload with
  | draft draft =>
    cases hitem : item.payload with
    | draft other =>
      rw [hitem] at hnamed
      rw [hid]
      exact hnamed
    | message other =>
      rw [hlater, hitem] at htarget
      cases htarget
  | message message =>
    cases hitem : item.payload with
    | draft other =>
      rw [hlater, hitem] at htarget
      cases htarget
    | message other =>
      rw [hitem] at hnamed
      rw [hlater, hitem] at htarget
      have hsame : message.messageId = other.messageId := PushTarget.message.inj htarget
      change later.pushId = messagePushId message.messageId
      rw [hid, hsame]
      exact hnamed

end PushItem

theorem messagePushId_toList (messageId : String) :
    (messagePushId messageId).toList = "push_message_".toList ++ messageId.toList := by
  simp [messagePushId, String.toList_append, toString]

theorem messagePushId_injective {left right : String}
    (h : messagePushId left = messagePushId right) : left = right := by
  have hlists := congrArg String.toList h
  rw [messagePushId_toList, messagePushId_toList, List.append_cancel_left_eq] at hlists
  exact String.toList_inj.mp hlists

theorem messagePushId_ne (messageId suffix : String) :
    messagePushId messageId ≠ "push_draft_" ++ suffix := by
  intro h
  have hlists := congrArg String.toList h
  rw [messagePushId_toList, String.toList_append] at hlists
  simp at hlists

namespace Workspace

/-- No two records are for the same draft or the same message, or have the same number. -/
structure QueueKeyed (w : Workspace) : Prop where
  named : ∀ (pushId : String) item, w.pushItems[pushId]? = some item → item.Named
  target : ∀ (pushId other : String) item found, w.pushItems[pushId]? = some item →
    w.pushItems[other]? = some found → item.target = found.target → pushId = other
  enqueueSeq : ∀ (pushId other : String) item found, w.pushItems[pushId]? = some item →
    w.pushItems[other]? = some found → item.enqueueSeq = found.enqueueSeq → pushId = other

theorem QueueKeyed.of_from (hkeyed : w.QueueKeyed) (hfrom : w.QueueFrom PushItem.SameIdentity w') :
    w'.QueueKeyed where
  named pushId later hget := by
    obtain ⟨item, hitem, hidentity⟩ := hfrom pushId later hget
    exact (hkeyed.named pushId item hitem).congr hidentity.pushId hidentity.target
  target pushId other later last hget hother heq := by
    obtain ⟨item, hitem, hidentity⟩ := hfrom pushId later hget
    obtain ⟨found, hfound, hsame⟩ := hfrom other last hother
    apply hkeyed.target pushId other item found hitem hfound
    rw [← hidentity.target, heq, hsame.target]
  enqueueSeq pushId other later last hget hother heq := by
    obtain ⟨item, hitem, hidentity⟩ := hfrom pushId later hget
    obtain ⟨found, hfound, hsame⟩ := hfrom other last hother
    apply hkeyed.enqueueSeq pushId other item found hitem hfound
    rw [← hidentity.enqueueSeq, heq, hsame.enqueueSeq]

/-- A record with a number above every one in the queue, for what nothing is queued for. -/
def Fresh (w : Workspace) (later : PushItem) : Prop :=
  ∀ (pushId : String) item, w.pushItems[pushId]? = some item →
    item.enqueueSeq < later.enqueueSeq ∧ item.target ≠ later.target

/-- A record that a queueing operation may write: one that is there already, or one with a new
number for what nothing is queued for. -/
inductive Takes (w : Workspace) (same : PushItem → Prop) (later : PushItem) : Prop
  | again (item : PushItem) :
      w.pushItems[later.pushId]? = some item → later.Requeues (same item) item → Takes w same later
  | new : w.pushItems[later.pushId]? = none → later.Named → later.NoProgress → w.Fresh later →
      Takes w same later

theorem Takes.apart {same : PushItem → Prop} (htakes : w.Takes same later) (hkeyed : w.QueueKeyed) :
    later.Named ∧ ∀ (pushId : String) item, w.pushItems[pushId]? = some item →
      (item.target = later.target → pushId = later.pushId) ∧
        (item.enqueueSeq = later.enqueueSeq → pushId = later.pushId) := by
  cases htakes with
  | again record hrecord hagain =>
    obtain ⟨hid, hseq, htarget⟩ := hagain.identity
    refine ⟨(hkeyed.named _ record hrecord).congr hid htarget, ?_⟩
    intro pushId item hget
    refine ⟨?_, ?_⟩
    · intro heq
      exact hkeyed.target pushId later.pushId item record hget hrecord (heq.trans htarget)
    · intro heq
      exact hkeyed.enqueueSeq pushId later.pushId item record hget hrecord (heq.trans hseq)
  | new hfree hnamed _ hfresh =>
    refine ⟨hnamed, ?_⟩
    intro pushId item hget
    obtain ⟨hlt, hne⟩ := hfresh pushId item hget
    exact ⟨fun heq => (hne heq).elim, fun heq => (Nat.ne_of_lt hlt heq).elim⟩

theorem writeItem_get_eq_some {pushId : String} {item record : PushItem}
    (hget : (w.writeItem item).pushItems[pushId]? = some record) :
    (pushId = item.pushId ∧ record = item.stored) ∨
      (pushId ≠ item.pushId ∧ w.pushItems[pushId]? = some record) := by
  change (w.pushItems.insert item.pushId item.stored)[pushId]? = some record at hget
  rw [Std.ExtTreeMap.getElem?_insert] at hget
  split at hget
  · rename_i heq
    cases hget
    rw [Std.LawfulEqCmp.compare_eq_iff_eq] at heq
    exact .inl ⟨heq.symm, rfl⟩
  · rename_i hne
    rw [Std.LawfulEqCmp.compare_eq_iff_eq] at hne
    exact .inr ⟨Ne.symm hne, hget⟩

theorem QueueKeyed.write {same : PushItem → Prop} (hkeyed : w.QueueKeyed)
    (htakes : w.Takes same later) : (w.writeItem later).QueueKeyed := by
  obtain ⟨hnamed, hapart⟩ := htakes.apart hkeyed
  refine ⟨?_, ?_, ?_⟩
  · intro pushId item hget
    rcases writeItem_get_eq_some hget with ⟨_, rfl⟩ | ⟨_, hold⟩
    · exact hnamed
    · exact hkeyed.named pushId item hold
  · intro pushId other item found hget hother heq
    rcases writeItem_get_eq_some hget with ⟨rfl, rfl⟩ | ⟨_, hold⟩
    · rcases writeItem_get_eq_some hother with ⟨rfl, _⟩ | ⟨_, hold⟩
      · rfl
      · exact ((hapart other found hold).1 heq.symm).symm
    · rcases writeItem_get_eq_some hother with ⟨rfl, rfl⟩ | ⟨_, hfound⟩
      · exact (hapart pushId item hold).1 heq
      · exact hkeyed.target pushId other item found hold hfound heq
  · intro pushId other item found hget hother heq
    rcases writeItem_get_eq_some hget with ⟨rfl, rfl⟩ | ⟨_, hold⟩
    · rcases writeItem_get_eq_some hother with ⟨rfl, _⟩ | ⟨_, hold⟩
      · rfl
      · exact ((hapart other found hold).2 heq.symm).symm
    · rcases writeItem_get_eq_some hother with ⟨rfl, rfl⟩ | ⟨_, hfound⟩
      · exact (hapart pushId item hold).2 heq
      · exact hkeyed.enqueueSeq pushId other item found hold hfound heq

/-- What a queueing operation makes of a queue: it keeps every record, adds some with higher
numbers that have done nothing, and changes only records for what it is asked to queue. -/
structure Requeued (w : Workspace) (same after : PushItem → Prop) (w' : Workspace) : Prop where
  kept : ∀ (pushId : String) item, w.pushItems[pushId]? = some item →
    ∃ later, w'.pushItems[pushId]? = some later ∧
      (later = item ∨ after later ∧ later.Requeues (same item) item)
  new : ∀ (pushId : String) later, w'.pushItems[pushId]? = some later →
    w.pushItems[pushId]? = none → after later ∧ later.NoProgress ∧ w.Fresh later

/-- What was queued is under this id, and a record of it that was there before is the one that
was queued again. -/
def QueuedUnder (w : Workspace) (same after : PushItem → Prop) (w' : Workspace) (pushId : String) :
    Prop :=
  ∃ later, w'.pushItems[pushId]? = some later ∧ after later ∧
    ∀ (other : String) item, w.pushItems[other]? = some item → item.target = later.target →
      other = pushId ∧ later.Requeues (same item) item

theorem Takes.queuedUnder {same after : PushItem → Prop} (htakes : w.Takes same later)
    (hkeyed : w.QueueKeyed) (hafter : after later.stored) :
    w.QueuedUnder same after (w.writeItem later) later.pushId := by
  refine ⟨later.stored, writeItem_get w later, hafter, ?_⟩
  intro other item hget htarget
  cases htakes with
  | again record hrecord hagain =>
    have hother := hkeyed.target other later.pushId item record hget hrecord
      (htarget.trans hagain.identity.target)
    subst hother
    cases hrecord.symm.trans hget
    exact ⟨rfl, hagain.stored⟩
  | new _ _ _ hfresh => exact ((hfresh other item hget).2 htarget).elim

namespace Requeued
variable {same after : PushItem → Prop}

theorem recordsEnded (hrequeued : w.Requeued same after w') : w.RecordsEnded w' := by
  apply RecordsEnded.of_kept
  intro pushId item hget
  obtain ⟨later, hlater, _⟩ := hrequeued.kept pushId item hget
  exact Option.isSome_of_eq_some hlater

theorem queuedUnder {pushId : String} {asked : PushItem → Prop}
    (hrequeued : w.Requeued same after w') (hkeyed : w'.QueueKeyed)
    (hlater : w'.pushItems[pushId]? = some later) (hsame : same later) (hasked : asked later) :
    w.QueuedUnder same asked w' pushId := by
  refine ⟨later, hlater, hasked, ?_⟩
  intro other item hget htarget
  obtain ⟨found, hfound, hcase⟩ := hrequeued.kept other item hget
  have hidentity : found.target = item.target := by
    rcases hcase with rfl | ⟨_, hagain⟩
    · rfl
    · exact hagain.identity.target
  have hother := hkeyed.target other pushId found later hfound hlater (hidentity.trans htarget)
  subst hother
  cases hfound.symm.trans hlater
  refine ⟨rfl, ?_⟩
  rcases hcase with rfl | ⟨_, hagain⟩
  · exact ⟨.refl later, fun _ => .refl later, fun hne => (hne hsame).elim⟩
  · exact hagain

theorem of_same (hpush : w'.pushItems = w.pushItems) : w.Requeued same after w' where
  kept pushId item hget := by
    rw [hpush]
    exact ⟨item, hget, .inl rfl⟩
  new pushId later hget hnone := by
    rw [hpush, hnone] at hget
    cases hget

theorem write (htakes : w.Takes same later) (hafter : after later.stored) :
    w.Requeued same after (w.writeItem later) where
  kept pushId item hget := by
    by_cases heq : pushId = later.pushId
    · subst heq
      refine ⟨later.stored, writeItem_get w later, .inr ⟨hafter, ?_⟩⟩
      cases htakes with
      | again record hrecord hagain =>
        cases hrecord.symm.trans hget
        exact hagain.stored
      | new hfree => cases hfree.symm.trans hget
    · refine ⟨item, ?_, .inl rfl⟩
      change (w.pushItems.insert later.pushId later.stored)[pushId]? = some item
      rw [Std.ExtTreeMap.getElem?_insert, if_neg]
      · exact hget
      · rw [Std.LawfulEqCmp.compare_eq_iff_eq]
        exact Ne.symm heq
  new pushId found hget hnone := by
    rcases writeItem_get_eq_some hget with ⟨rfl, rfl⟩ | ⟨_, hold⟩
    · cases htakes with
      | again record hrecord => cases hnone.symm.trans hrecord
      | new _ _ hprogress hfresh => exact ⟨hafter, hprogress.congr (.stored later), hfresh⟩
    · cases hnone.symm.trans hold

theorem fresh (hrequeued : w.Requeued same after w') (hfresh : w'.Fresh later) : w.Fresh later := by
  intro pushId item hget
  obtain ⟨middle, hmiddle, hcase⟩ := hrequeued.kept pushId item hget
  have hmore := hfresh pushId middle hmiddle
  rcases hcase with rfl | ⟨_, hagain⟩
  · exact hmore
  · rw [hagain.identity.enqueueSeq, hagain.identity.target] at hmore
    exact hmore

/-- A record that was queued once is queued for the same again. -/
theorem trans {w'' : Workspace} (hsame : ∀ item, after item → same item)
    (hfirst : w.Requeued same after w') (hsecond : w'.Requeued same after w'') :
    w.Requeued same after w'' where
  kept pushId item hget := by
    obtain ⟨middle, hmiddle, hcase⟩ := hfirst.kept pushId item hget
    obtain ⟨last, hlast, hcase'⟩ := hsecond.kept pushId middle hmiddle
    refine ⟨last, hlast, ?_⟩
    rcases hcase with rfl | ⟨hafter, hrequeued⟩
    · exact hcase'
    · right
      rcases hcase' with rfl | ⟨hafter', hagain⟩
      · exact ⟨hafter, hrequeued⟩
      · have hprogress := hagain.kept (hsame middle hafter)
        refine ⟨hafter', hagain.identity.trans hrequeued.identity, ?_, ?_⟩
        · intro heq
          exact hprogress.trans (hrequeued.kept heq)
        · intro hne
          obtain ⟨hnot, hnone⟩ := hrequeued.reset hne
          exact ⟨hnot, hnone.congr hprogress⟩
  new pushId last hlast hnone := by
    cases hmiddle : w'.pushItems[pushId]? with
    | none =>
      obtain ⟨hafter, hprogress, hmore⟩ := hsecond.new pushId last hlast hmiddle
      exact ⟨hafter, hprogress, hfirst.fresh hmore⟩
    | some middle =>
      obtain ⟨hafter, hprogress, hmore⟩ := hfirst.new pushId middle hmiddle hnone
      obtain ⟨found, hfound, hcase⟩ := hsecond.kept pushId middle hmiddle
      cases hlast.symm.trans hfound
      rcases hcase with rfl | ⟨hafter', hagain⟩
      · exact ⟨hafter, hprogress, hmore⟩
      · refine ⟨hafter', hprogress.congr (hagain.kept (hsame middle hafter)), ?_⟩
        rw [Fresh, hagain.identity.enqueueSeq, hagain.identity.target]
        exact hmore

end Requeued
end Workspace

section Queueing
variable {host : Host}

theorem Workspace.lt_nextEnqueueSeq {pushId : String}
    (hget : w.pushItems[pushId]? = some item) : item.enqueueSeq < w.nextEnqueueSeq := by
  have hmem : item.stored.enqueueSeq ∈ w.readItems.map (·.enqueueSeq) :=
    List.mem_map_of_mem (Workspace.mem_readItems.mpr ⟨pushId, item, hget, rfl⟩)
  exact Nat.lt_succ_of_le ((Lists.le_foldl_max _ 0).2 _ hmem)

theorem PushItem.target_draft_iff (caseUid draftName : String) (item : PushItem) :
    item.target = .draft caseUid draftName ↔
      (item.draft.any fun draft => draft.caseUid == caseUid && draft.draftName == draftName) =
        true := by
  unfold PushItem.target PushItem.draft
  cases item.payload with
  | draft draft => simp
  | message message => simp

theorem PushItem.target_message_iff (messageId : String) (item : PushItem) :
    item.target = .message messageId ↔
      (item.message.any (·.messageId == messageId)) = true := by
  unfold PushItem.target PushItem.message
  cases item.payload with
  | draft draft => simp
  | message message => simp

theorem Workspace.QueueConsistent.find_target {found : PushItem → Bool} {target : PushTarget}
    (hqueue : w.QueueConsistent) (hfound : ∀ item : PushItem, item.target = target ↔ found item = true) :
    (∀ item, w.readItems.find? found = some item → item.target = target ∧
      ∃ record, w.pushItems[item.pushId]? = some record ∧ record.stored = item) ∧
    (w.readItems.find? found = none →
      ∀ (pushId : String) item, w.pushItems[pushId]? = some item → item.target ≠ target) := by
  refine ⟨?_, ?_⟩
  · intro item hfind
    exact ⟨(hfound item).mpr (List.find?_some hfind),
      hqueue.record (List.mem_of_find?_eq_some hfind)⟩
  · intro hnone pushId item hget htarget
    have hmem : item.stored ∈ w.readItems := Workspace.mem_readItems.mpr ⟨pushId, item, hget, rfl⟩
    exact List.find?_eq_none.mp hnone item.stored hmem ((hfound item.stored).mp htarget)

theorem PushItem.snapshot_of_draft {caseUid draftName : String}
    (htarget : item.target = .draft caseUid draftName) : item.snapshot? = none := by
  unfold PushItem.target at htarget
  unfold PushItem.snapshot? PushItem.message
  cases hpayload : item.payload with
  | draft draft => rfl
  | message message =>
    rw [hpayload] at htarget
    cases htarget

theorem outboundItem_requeues {now caseUid draftName : String} {action : OutboundAction}
    {previousAction : Option OutboundAction} {reset : Bool}
    (hreset : validateOutboundRequeue (some item) previousAction action = .ok reset)
    (htarget : item.target = .draft caseUid draftName) :
    (outboundItem now item.pushId item.enqueueSeq caseUid draftName (some item) reset).Requeues
      (previousAction = some action) item := by
  unfold validateOutboundRequeue at hreset
  dsimp only at hreset
  split at hreset
  · cases hreset
  · rename_i hnot
    cases hreset
    refine ⟨⟨rfl, rfl, htarget.symm⟩, ?_, ?_⟩
    · intro hsame
      have hkept : (previousAction != some action) = false := bne_eq_false_iff_eq.mpr hsame
      rw [hkept]
      exact ⟨rfl, rfl, rfl, rfl, (PushItem.snapshot_of_draft htarget).symm⟩
    · intro hother
      have hdropped : (previousAction != some action) = true := bne_iff_ne.mpr hother
      rw [hdropped]
      exact ⟨Bool.not_eq_true _ ▸ hnot, rfl, rfl, rfl, rfl, rfl⟩

/-- A message is queued again for the action it has, or for another one unless it was started. -/
theorem messageItem_requeues (now : String) {messageId : String} {action : MessagePushAction}
    {message : MessagePush} (hmessage : item.message = some message)
    (htarget : item.target = .message messageId) (hid : item.pushId = messagePushId messageId)
    (hchecked : actionChanged (some item) action = true → item.hasStartedEffects = false) :
    (messageItem now item.enqueueSeq messageId action (some item)).Requeues
      (item.message.map (·.action) = some action) item := by
  have hchanged : actionChanged (some item) action = (message.action != action) := by
    simp only [actionChanged, Option.bind_some, hmessage, Option.any_some]
  refine ⟨⟨hid.symm, rfl, htarget.symm⟩, ?_, ?_⟩
  · intro hsame
    rw [hmessage, Option.map_some, Option.some_inj] at hsame
    have hkept : (some item).filter (fun _ => !actionChanged (some item) action) = some item := by
      rw [hchanged, hsame]
      simp
    have hsnapshot : item.snapshot? = message.messageActionSnapshot := by
      rw [PushItem.snapshot?, hmessage, Option.bind_some]
    refine ⟨?_, ?_, ?_, ?_, ?_⟩
    all_goals simp only [messageItem, hkept, PushItem.snapshot?, PushItem.message]
    · rfl
    · rfl
    · rfl
    · rfl
    · rfl
  · intro hother
    rw [hmessage, Option.map_some, Option.some_inj] at hother
    have hdropped : (some item).filter (fun _ => !actionChanged (some item) action) = none := by
      rw [hchanged, bne_iff_ne.mpr hother]
      rfl
    refine ⟨hchecked (by rw [hchanged]; exact bne_iff_ne.mpr hother), ?_⟩
    refine ⟨?_, ?_, ?_, ?_, ?_⟩
    all_goals simp only [messageItem, hdropped, PushItem.snapshot?, PushItem.message]
    · rfl
    · rfl
    · rfl
    · rfl
    · rfl

/-- The record of a message that is queued. -/
theorem takes_message (now : String) {messageId : String} {action : MessagePushAction}
    (hqueue : w.QueueConsistent) (hkeyed : w.QueueKeyed)
    (hchecked : ∀ item, w.findMessageItem messageId = some item →
      actionChanged (some item) action = true → item.hasStartedEffects = false) :
    w.Takes (fun item => item.message.map (·.action) = some action)
      (messageItem now (((w.findMessageItem messageId).map (·.enqueueSeq)).getD w.nextEnqueueSeq)
        messageId action (w.findMessageItem messageId)) := by
  obtain ⟨hsome, hnone⟩ := hqueue.find_target (PushItem.target_message_iff messageId)
  cases hfind : w.findMessageItem messageId with
  | some item =>
    obtain ⟨htarget, record, hget, hstored⟩ := hsome item hfind
    have hany := (PushItem.target_message_iff messageId item).mp htarget
    rw [Option.any_eq_true] at hany
    obtain ⟨message, hmessage, hid⟩ := hany
    rw [beq_iff_eq] at hid
    have hpushId : item.pushId = messagePushId messageId := by
      rw [← hid]
      exact ((hqueue.of_mem (List.mem_of_find?_eq_some hfind)).2.1.frozen message hmessage).pushId
    have hrequeues := messageItem_requeues now hmessage htarget hpushId (hchecked item hfind)
    rw [hpushId] at hget
    subst hstored
    exact .again record hget hrequeues.of_stored
  | none =>
    have hfree : w.pushItems[messagePushId messageId]? = none := by
      cases hget : w.pushItems[messagePushId messageId]? with
      | none => rfl
      | some found =>
        have hnamed := hkeyed.named _ found hget
        have hpushId := (hqueue _ found hget).pushId
        unfold PushItem.Named at hnamed
        cases hpayload : found.payload with
        | draft draft =>
          rw [hpayload, hpushId] at hnamed
          obtain ⟨suffix, heq⟩ := hnamed
          exact (messagePushId_ne messageId suffix heq).elim
        | message message =>
          rw [hpayload, hpushId] at hnamed
          have htarget : found.target = .message messageId := by
            rw [PushItem.target, hpayload, messagePushId_injective hnamed]
          exact (hnone hfind _ found hget htarget).elim
    refine .new hfree ?_ ⟨rfl, rfl, rfl, rfl, rfl⟩ ?_
    · exact rfl
    intro pushId item hget
    exact ⟨Workspace.lt_nextEnqueueSeq hget, hnone hfind pushId item hget⟩

/-- The id that a draft is queued under: that of its record, or a free one. -/
def Workspace.QueuesUnder (w : Workspace) (caseUid draftName pushId : String) : Prop :=
  match w.findDraftItem caseUid draftName with
  | some item => pushId = item.pushId
  | none => pushId ∉ w.pushItems ∧ ∃ suffix, pushId = "push_draft_" ++ suffix

/-- The record that queueing a draft writes. -/
def Workspace.queuedItem (w : Workspace) (now caseUid draftName pushId : String) (reset : Bool) :
    PushItem :=
  outboundItem now pushId
    (((w.findDraftItem caseUid draftName).map (·.enqueueSeq)).getD w.nextEnqueueSeq) caseUid
    draftName (w.findDraftItem caseUid draftName) reset

/-- The record of a draft that is queued, under its own id or a free one. -/
theorem takes_draft (now : String) {pushId caseUid draftName : String} {action : OutboundAction}
    {previousAction : Option OutboundAction} {reset : Bool} (hqueue : w.QueueConsistent)
    (hreset : validateOutboundRequeue (w.findDraftItem caseUid draftName) previousAction action =
      .ok reset)
    (hunder : w.QueuesUnder caseUid draftName pushId) :
    w.Takes (fun _ => previousAction = some action)
      (w.queuedItem now caseUid draftName pushId reset) := by
  rw [Workspace.queuedItem]
  rw [Workspace.QueuesUnder] at hunder
  obtain ⟨hsome, hnone⟩ := hqueue.find_target (PushItem.target_draft_iff caseUid draftName)
  cases hfind : w.findDraftItem caseUid draftName with
  | some item =>
    obtain ⟨htarget, record, hget, hstored⟩ := hsome item hfind
    rw [hfind] at hunder hreset
    have hid : pushId = item.pushId := hunder
    subst hid
    subst hstored
    exact .again record hget (outboundItem_requeues hreset htarget).of_stored
  | none =>
    rw [hfind] at hunder
    obtain ⟨hfree, hnamed⟩ := hunder
    have hfree : w.pushItems[pushId]? = none := by
      rw [Std.ExtTreeMap.mem_iff_isSome_getElem?, Option.not_isSome_iff_eq_none] at hfree
      exact hfree
    refine .new hfree ?_ ⟨rfl, rfl, rfl, rfl, rfl⟩ ?_
    · exact hnamed
    intro other item hget
    exact ⟨Workspace.lt_nextEnqueueSeq hget, hnone hfind other item hget⟩

/-- A queueing operation at work on a queue that it began with. -/
structure Queueing (w : Workspace) (same after : PushItem → Prop) (m : Process) : Prop where
  consistent : m.workspace.QueueConsistent
  keyed : m.workspace.QueueKeyed
  requeued : w.Requeued same after m.workspace

variable {h : List RemoteEvent} {m : Process} {same after : PushItem → Prop}

theorem Queueing.start (hqueue : w.QueueConsistent) (hkeyed : w.QueueKeyed) :
    Queueing w same after (.start w) := ⟨hqueue, hkeyed, .of_same rfl⟩

/-- No id could be drawn: the random source failed, or gave taken ones only. -/
def DrawFailed (error : AppError) (h : List RemoteEvent) : Prop :=
  error = pushIdGenerationFailed ∨ ∃ event ∈ h, event.reply = some (.error error)

/-- Draws an id that is free. -/
theorem wp_newDraftPushId {inv : ProcessFact}
    {post : String → ProcessFact}
    {abort : AppError → ProcessFact} {attempts : Nat}
    (hinv : ∀ h, inv h m) (habort : ∀ error h', DrawFailed error h' → abort error h' m)
    (hpost : ∀ pushId h', pushId ∉ m.workspace.pushItems →
      (∃ suffix, pushId = "push_draft_" ++ suffix) → post pushId h' m) :
    Program.wp inv post abort (newDraftPushId attempts) h m := by
  induction attempts generalizing h with
  | zero => exact habort _ h (.inl rfl)
  | succ attempts ih =>
    rw [newDraftPushId]
    apply wp_then
    refine ⟨hinv _, fun reply => ⟨hinv _, ?_⟩⟩
    cases reply with
    | error error => exact habort _ _ (.inr ⟨_, List.mem_concat_self, rfl⟩)
    | ok suffix =>
      apply wp_workspace_bind.mpr
      dsimp only
      split
      · exact ih
      · rename_i hfree
        exact hpost _ _ hfree ⟨suffix, rfl⟩

/-- Queueing a draft comes to one write, after what it checks. -/
theorem wp_queueOutbound {inv : ProcessFact}
    {post : String → ProcessFact}
    {abort : AppError → ProcessFact}
    {caseUid draftName : String} {action : OutboundAction}
    {previousAction : Option OutboundAction} (hinv : ∀ h, inv h m)
    (hwrite : ∀ reset pushId h',
      validateOutboundRequeue (m.workspace.findDraftItem caseUid draftName) previousAction action =
        .ok reset → m.workspace.QueuesUnder caseUid draftName pushId →
      let written := m.onWorkspace (·.writeItem
        (m.workspace.queuedItem host.now caseUid draftName pushId reset))
      inv h' written ∧ post pushId h' written)
    (hrefused : ∀ error,
      validateOutboundRequeue (m.workspace.findDraftItem caseUid draftName) previousAction action =
        .error error → abort error h m)
    (hdraw : ∀ error h', DrawFailed error h' → abort error h' m) :
    Program.wp inv post abort (queueOutbound host caseUid draftName action previousAction) h m := by
  unfold queueOutbound
  apply wp_workspace_bind.mpr
  apply wp_check_bind
  · intro reset hreset
    apply wp_then
    unfold existingOrNewPushId
    cases hfind : m.workspace.findDraftItem caseUid draftName with
    | some item =>
      have hunder : m.workspace.QueuesUnder caseUid draftName item.pushId := by
        rw [Workspace.QueuesUnder, hfind]
      have hwritten := hwrite reset item.pushId h hreset hunder
      rw [Workspace.queuedItem, hfind] at hwritten
      exact hwritten
    | none =>
      apply wp_newDraftPushId hinv hdraw
      intro pushId h' hfree hnamed
      have hunder : m.workspace.QueuesUnder caseUid draftName pushId := by
        rw [Workspace.QueuesUnder, hfind]
        exact ⟨hfree, hnamed⟩
      have hwritten := hwrite reset pushId h' hreset hunder
      rw [Workspace.queuedItem, hfind] at hwritten
      exact hwritten
  · exact hrefused

theorem Queueing.write (hqueueing : Queueing w same after m)
    (hsame : ∀ item, after item → same item)
    (htakes : m.workspace.Takes same later) (hlater : later.Consistent ∧ later.AuditKept)
    (hafter : after later.stored) : Queueing w same after (m.onWorkspace (·.writeItem later)) where
  consistent := hqueueing.consistent.write hlater
  keyed := hqueueing.keyed.write htakes
  requeued := hqueueing.requeued.trans hsame (.write htakes hafter)

theorem requeue_queueOutbound {caseUid draftName : String} {action : OutboundAction}
    {previousAction : Option OutboundAction} (hqueue : w.QueueConsistent) (hkeyed : w.QueueKeyed) :
    let queueing : ProcessFact := fun _ =>
      Queueing w (fun _ => previousAction = some action) (·.target = .draft caseUid draftName)
    Program.wp queueing
      (fun pushId h m => queueing h m ∧ w.QueuedUnder (fun _ => previousAction = some action)
        (·.target = .draft caseUid draftName) m.workspace pushId)
      (fun _ => queueing)
      (queueOutbound host caseUid draftName action previousAction) [] (.start w) := by
  intro queueing
  have hstart : ∀ h, queueing h (.start w) := fun _ => .start hqueue hkeyed
  have hexisting : ∀ item, w.findDraftItem caseUid draftName = some item →
      item.Consistent ∧ item.AuditKept := by
    intro item hfind
    exact (hqueue.of_mem (List.mem_of_find?_eq_some hfind)).2
  apply wp_queueOutbound hstart
  · intro reset pushId h' hreset hunder
    have htakes := takes_draft host.now hqueue hreset hunder
    have hnext : Queueing w (fun _ => previousAction = some action)
        (·.target = .draft caseUid draftName) ((Process.start w).onWorkspace (·.writeItem
          (w.queuedItem host.now caseUid draftName pushId reset))) :=
      ⟨hqueue.write (outboundItem_consistent hexisting), hkeyed.write htakes, .write htakes rfl⟩
    exact ⟨hnext, hnext, htakes.queuedUnder hkeyed rfl⟩
  · exact fun _ _ => hstart []
  · exact fun _ h' _ => hstart h'

theorem not_started_of_checked {action : MessagePushAction}
    (hchecked : (some item).toList.forM (ensureStartedActionUnchanged · action) = .ok ()) :
    item.hasStartedEffects = false := by
  obtain ⟨hensured, _⟩ := Result.seq_ok hchecked
  unfold ensureStartedActionUnchanged at hensured
  rw [ensure_eq_ok_iff, Bool.not_eq_true'] at hensured
  exact hensured

/-- Each of these messages is queued for the action. -/
def Workspace.QueuesMessages (w : Workspace) (action : MessagePushAction) (messageIds : List String) :
    Prop :=
  ∀ messageId ∈ messageIds, ∃ later, w.pushItems[messagePushId messageId]? = some later ∧
    later.message.map (·.action) = some action ∧ later.target = .message messageId

theorem Workspace.QueuesMessages.write {action : MessagePushAction} {messageIds : List String}
    (hqueued : w.QueuesMessages action messageIds) (now : String) (enqueueSeq : Nat)
    (messageId : String) (existing : Option PushItem) :
    (w.writeItem (messageItem now enqueueSeq messageId action existing)).QueuesMessages action
      (messageIds ++ [messageId]) := by
  intro other hmem
  by_cases heq : other = messageId
  · subst heq
    exact ⟨_, Workspace.writeItem_get w _, rfl, rfl⟩
  · have hearlier : other ∈ messageIds := by
      rcases List.mem_append.mp hmem with hold | hnew
      · exact hold
      · exact (heq (List.mem_singleton.mp hnew)).elim
    obtain ⟨later, hget, hlater⟩ := hqueued other hearlier
    refine ⟨later, ?_, hlater⟩
    change (w.pushItems.insert (messagePushId messageId) _)[messagePushId other]? = some later
    rw [Std.ExtTreeMap.getElem?_insert, if_neg]
    · exact hget
    · rw [Std.LawfulEqCmp.compare_eq_iff_eq]
      exact fun hid => heq (messagePushId_injective hid).symm

theorem requeue_queueMessageItem {messageId : String} {action : MessagePushAction}
    {done : List String} (hqueueing : Queueing w same after m)
    (hdone : m.workspace.QueuesMessages action done)
    (hsame : same = fun item => item.message.map (·.action) = some action)
    (hafter : ∀ item, after item → same item)
    (hmessage : ∀ now seq existing, after (messageItem now seq messageId action existing).stored) :
    let queueing : ProcessFact := fun _ =>
      Queueing w same after
    Program.wp queueing
      (fun _ h m => queueing h m ∧ m.workspace.QueuesMessages action (done ++ [messageId]))
      (fun _ => queueing) (queueMessageItem host action messageId) h m := by
  intro queueing
  have hexisting : ∀ item, m.workspace.findMessageItem messageId = some item →
      item.Consistent ∧ item.AuditKept ∧
        ∃ message, item.message = some message ∧ message.messageId = messageId :=
    fun _ hfind => hqueueing.consistent.findMessageItem hfind
  have hwrite : (∀ item, m.workspace.findMessageItem messageId = some item →
      actionChanged (some item) action = true → item.hasStartedEffects = false) →
      Program.wp queueing
      (fun _ h m => queueing h m ∧ m.workspace.QueuesMessages action (done ++ [messageId]))
      (fun _ => queueing)
      (writeWorkspace (·.writeItem (messageItem host.now
        (((m.workspace.findMessageItem messageId).map (·.enqueueSeq)).getD
          m.workspace.nextEnqueueSeq) messageId action
        (m.workspace.findMessageItem messageId)))) h m := by
    intro hchecked
    have htakes := takes_message host.now hqueueing.consistent hqueueing.keyed hchecked
    rw [← hsame] at htakes
    have hnext := hqueueing.write hafter htakes (messageItem_consistent hexisting) (hmessage _ _ _)
    exact ⟨hnext, hnext, hdone.write _ _ messageId _⟩
  unfold queueMessageItem
  apply wp_workspace_bind.mpr
  dsimp only
  split
  · rename_i hchanged
    apply wp_check_bind
    · intro _ hchecked
      apply hwrite
      intro item hfind _
      rw [hfind] at hchecked
      exact not_started_of_checked hchecked
    · intro error _
      exact hqueueing
  · rename_i hunchanged
    apply hwrite
    intro item hfind hchanged
    rw [hfind] at hunchanged
    exact (hunchanged hchanged).elim

/-- What queueing an action for these messages comes to under the ids it returns. -/
def Workspace.QueuedAction (w : Workspace) (action : MessagePushAction) (messageIds : List String)
    (locations : List PushLocation) (steps : List ActionStep) (w' : Workspace)
    (pushIds : List String) : Prop :=
  steps ≠ [] → ∀ messageId ∈ messageIds, (∃ location ∈ locations, location.messageId = messageId) →
    messagePushId messageId ∈ pushIds ∧
      w.QueuedUnder (fun item => item.message.map (·.action) = some action)
        (fun later => later.message.map (·.action) = some action ∧
          later.target = .message messageId) w' (messagePushId messageId)

theorem requeue_queueActionSteps {action : MessagePushAction} {messageIds : List String}
    {locations : List PushLocation} {steps : List ActionStep} (hqueue : w.QueueConsistent)
    (hkeyed : w.QueueKeyed) :
    let queueing : ProcessFact := fun _ =>
      Queueing w (fun item => item.message.map (·.action) = some action)
        (fun later => later.message.map (·.action) = some action ∧
          ∃ messageId ∈ messageIds, later.target = .message messageId)
    Program.wp queueing
      (fun pushIds h m => queueing h m ∧
        w.QueuedAction action messageIds locations steps m.workspace pushIds)
      (fun _ => queueing)
      (queueActionSteps host action messageIds locations steps) [] (.start w) := by
  intro queueing
  have hstart : queueing [] (.start w) := .start hqueue hkeyed
  unfold queueActionSteps
  split
  · rename_i hempty
    refine ⟨hstart, ?_⟩
    intro hsteps messageId hmem ⟨location, hlocation, _⟩
    simp only [Bool.or_eq_true, List.isEmpty_iff] at hempty
    rcases hempty with (hnil | hnil) | hnil
    · exact (List.ne_nil_of_mem hmem hnil).elim
    · exact (hsteps hnil).elim
    · exact (List.ne_nil_of_mem hlocation hnil).elim
  · apply wp_then
    apply Program.wp_mono (Program.wp_forEach_done
      (fun done h m => queueing h m ∧ m.workspace.QueuesMessages action done) []
      ⟨hstart, List.forall_mem_nil _⟩ ?_)
    · intro _ h' m' ⟨hqueueing, hdone⟩
      refine ⟨hqueueing, ?_⟩
      intro _ messageId hmem ⟨location, hlocation, hat⟩
      have hqueued : messageId ∈
          messageIds.filter fun messageId => locations.any (·.messageId == messageId) := by
        rw [List.mem_filter, List.any_eq_true]
        exact ⟨hmem, location, hlocation, beq_iff_eq.mpr hat⟩
      refine ⟨List.mem_map_of_mem hqueued, ?_⟩
      obtain ⟨later, hget, hlater⟩ := hdone messageId hqueued
      exact hqueueing.requeued.queuedUnder hqueueing.keyed hget hlater.1 hlater
    · exact fun _ _ _ h => h
    · intro messageId hmem done h' m' ⟨hloop, hdone⟩
      apply requeue_queueMessageItem hloop hdone rfl (fun _ hafter => hafter.1)
      intro now seq existing
      exact ⟨rfl, messageId, (List.mem_filter.mp hmem).1, rfl⟩

end Queueing

section Runs
variable {events : List RemoteEvent} {host : Host} {process : Process}

theorem queueOutbound_queueing {caseUid draftName : String} {action : OutboundAction}
    {previousAction : Option OutboundAction} {outcome : Outcome AppError String}
    (hqueue : w.QueueConsistent) (hkeyed : w.QueueKeyed)
    (hexec : Exec (queueOutbound host caseUid draftName action previousAction) (.start w) events
      outcome process) :
    Queueing w (fun _ => previousAction = some action) (·.target = .draft caseUid draftName)
      process ∧
    ∀ pushId, outcome = .returned pushId →
      w.QueuedUnder (fun _ => previousAction = some action) (·.target = .draft caseUid draftName)
        process.workspace pushId := by
  obtain ⟨hqueueing, houtcome⟩ := Program.wp_sound hexec (.start hqueue hkeyed)
    (requeue_queueOutbound hqueue hkeyed)
  refine ⟨hqueueing, ?_⟩
  intro pushId hreturned
  rw [hreturned] at houtcome
  exact houtcome.2

theorem queueActionSteps_queueing {action : MessagePushAction} {messageIds : List String}
    {locations : List PushLocation} {steps : List ActionStep}
    {outcome : Outcome AppError (List String)}
    (hqueue : w.QueueConsistent) (hkeyed : w.QueueKeyed)
    (hexec : Exec (queueActionSteps host action messageIds locations steps) (.start w) events
      outcome process) :
    Queueing w (fun item => item.message.map (·.action) = some action)
      (fun later => later.message.map (·.action) = some action ∧
        ∃ messageId ∈ messageIds, later.target = .message messageId) process ∧
    ∀ pushIds, outcome = .returned pushIds →
      w.QueuedAction action messageIds locations steps process.workspace pushIds := by
  obtain ⟨hqueueing, houtcome⟩ := Program.wp_sound hexec (.start hqueue hkeyed)
    (requeue_queueActionSteps hqueue hkeyed)
  refine ⟨hqueueing, ?_⟩
  intro pushIds hreturned
  rw [hreturned] at houtcome
  exact houtcome.2

/-- A record that is there as it was, or one of whose steps was settled. -/
def PushItem.SameOrSettled (later item : PushItem) : Prop :=
  later = item ∨
    ∃ settled now settle, PushItem.Settled settled item now settle ∧ later = settled.stored

theorem PushItem.SameOrSettled.identity (hsame : later.SameOrSettled item) :
    later.SameIdentity item := by
  rcases hsame with rfl | ⟨settled, _, _, hsettled, rfl⟩
  · exact .refl later
  · exact .trans (.stored settled)
      (.of_payload hsettled.pushId hsettled.enqueueSeq hsettled.payload)

theorem Workspace.Settles.queueFrom {related : PushItem → PushItem → Prop}
    (hsettles : w.Settles kind later w') (hsame : w.QueueFrom related w)
    (hlater : w.ItemFrom related later.stored) : w.QueueFrom related w' := by
  cases hsettles with
  | untouched | recording | audited => exact hsame
  | written => exact Workspace.QueueFrom.writeItem hsame hlater

theorem Workspace.Settles.recordsEnded (hsettles : w.Settles kind later w') : w.RecordsEnded w' := by
  cases hsettles with
  | untouched => exact .refl w
  | recording | audited => exact .of_kept fun _ _ hget => Option.isSome_of_eq_some hget
  | written =>
    apply Workspace.RecordsEnded.writeItem
    exact .of_kept fun _ _ hget => Option.isSome_of_eq_some hget

theorem recover_queueFrom {pushId : String} {confirmed : Option RecoveryPlan}
    {settle : Option SendSettlement} {outcome : Outcome AppError RecoveryPlan}
    (hqueue : w.QueueConsistent)
    (hexec : Exec (recover host pushId confirmed settle) (.start w) events outcome process) :
    w.QueueFrom PushItem.SameOrSettled process.workspace ∧ w.RecordsEnded process.workspace := by
  have hsame : w.QueueFrom PushItem.SameOrSettled w := .refl (fun _ => .inl rfl) w
  have hnamed : w.QueueNamed := fun pushId item hget => (hqueue pushId item hget).pushId
  have hunchanged (heq : process.workspace = w) :
      w.QueueFrom PushItem.SameOrSettled process.workspace ∧ w.RecordsEnded process.workspace := by
    rw [heq]
    exact ⟨hsame, .refl w⟩
  rcases recover_ends hexec with ⟨heq, _⟩ | ⟨item, hfind, hends⟩
  · exact hunchanged heq
  rcases hends.settles with heq | ⟨kind, _, later, hsettled, hsettles⟩
  · exact hunchanged heq
  obtain ⟨record, hget, rfl⟩ := hnamed.of_find hfind
  refine ⟨hsettles.queueFrom hsame ⟨record, ?_, .inr ⟨later, _, _, hsettled.of_stored, rfl⟩⟩,
    hsettles.recordsEnded⟩
  rw [PushItem.stored_pushId, hsettled.pushId, PushItem.stored_pushId, hnamed pushId record hget]
  exact hget

theorem removal_queueFrom {program : Command α} {outcome : Outcome AppError α}
    (hqueue : w.QueueConsistent)
    (hprogram : ∀ inv : ProcessFact, inv [] (.start w) →
      w.Discards inv → Program.wp inv (fun _ => inv) (fun _ => inv) program [] (.start w))
    (hexec : Exec program (.start w) events outcome process) :
    w.QueueFrom Eq process.workspace ∧ w.RecordsEnded process.workspace := by
  let removing : ProcessFact := fun _ m =>
    w.QueueFrom Eq m.workspace ∧ w.RecordsEnded m.workspace
  have hstart : removing [] (.start w) := ⟨.refl (fun _ => rfl) w, .refl w⟩
  have hdelete : w.Discards removing := by
    intro _ m item hmem hnot ⟨hfrom, hleft⟩
    refine ⟨Workspace.QueueFrom.deleteItem hfrom item.pushId, hleft.deleteItem ?_⟩
    intro found hget
    obtain ⟨record, hrecord, rfl⟩ := hqueue.record hmem
    cases hrecord.symm.trans hget
    exact .unstarted hnot
  exact Program.session_invariant hexec hstart (hprogram removing hstart hdelete)

/-- The commands that take records back from the queue. -/
inductive RemovalCommand : {α : Type} → Command α → Prop
  | draft (caseUid draftName : String) :
      RemovalCommand (removeOutboundForDraft caseUid draftName)
  | message (messageId : String) (action : MessagePushAction) :
      RemovalCommand (removePendingMessagePushes messageId action)

theorem RemovalCommand.queueFrom {program : Command α} {outcome : Outcome AppError α}
    (hcommand : RemovalCommand program) (hqueue : w.QueueConsistent)
    (hexec : Exec program (.start w) events outcome process) :
    w.QueueFrom Eq process.workspace ∧ w.RecordsEnded process.workspace := by
  apply removal_queueFrom hqueue _ hexec
  intro inv hstart hdelete
  cases hcommand with
  | draft => exact wp_removeOutboundForDraft hstart hdelete
  | message => exact wp_removePendingMessagePushes hstart hdelete

theorem Workspace.QueueFrom.identity (hfrom : w.QueueFrom Eq w') :
    w.QueueFrom PushItem.SameIdentity w' := by
  apply hfrom.mono
  intro later item heq
  rw [heq]
  exact .refl item

theorem QueueCommand.keeps {program : Command α} {outcome : Outcome AppError α}
    (hcommand : QueueCommand program) (hqueue : w.QueueConsistent)
    (hkeyed : w.QueueKeyed) (hexec : Exec program (.start w) events outcome process) :
    process.workspace.QueueKeyed ∧ w.RecordsEnded process.workspace := by
  cases hcommand with
  | queueOutbound =>
    have hqueueing := (queueOutbound_queueing hqueue hkeyed hexec).1
    exact ⟨hqueueing.keyed, hqueueing.requeued.recordsEnded⟩
  | queueActionSteps =>
    have hqueueing := (queueActionSteps_queueing hqueue hkeyed hexec).1
    exact ⟨hqueueing.keyed, hqueueing.requeued.recordsEnded⟩
  | removeOutboundForDraft caseUid draftName =>
    obtain ⟨hfrom, hleft⟩ := (RemovalCommand.draft caseUid draftName).queueFrom hqueue hexec
    exact ⟨hkeyed.of_from hfrom.identity, hleft⟩
  | removePendingMessagePushes messageId action =>
    obtain ⟨hfrom, hleft⟩ := (RemovalCommand.message messageId action).queueFrom hqueue hexec
    exact ⟨hkeyed.of_from hfrom.identity, hleft⟩
  | recover =>
    obtain ⟨hfrom, hleft⟩ := recover_queueFrom hqueue hexec
    exact ⟨hkeyed.of_from (hfrom.mono fun _ _ hsame => hsame.identity), hleft⟩

theorem QueueSession.keeps (hqueue : w.QueueConsistent) (hkeyed : w.QueueKeyed)
    (hsession : QueueSession w events w') : w'.QueueKeyed ∧ w.RecordsEnded w' := by
  cases hsession with
  | push hpush =>
    have hcontinues := (hpush.queueContinues hqueue).mono fun _ _ hlater => hlater.identity
    exact ⟨hkeyed.of_from hcontinues, hpush.recordsEnded hqueue⟩
  | command hcommand hexec => exact hcommand.keeps hqueue hkeyed hexec
  | other hsame =>
    refine ⟨hkeyed.of_from (Workspace.QueueFrom.congr (.refl PushItem.SameIdentity.refl w) hsame),
      .of_kept ?_⟩
    intro pushId item hget
    rw [hsame]
    exact Option.isSome_of_eq_some hget

theorem queueKeyed_of_run (hempty : w.pushItems = ∅) (hrun : Run QueueSession w events w') :
    w'.QueueConsistent ∧ w'.QueueKeyed := by
  have hnone : ∀ (pushId : String) item, w.pushItems[pushId]? ≠ some item := by
    intro pushId item hget
    rw [hempty, Std.ExtTreeMap.getElem?_empty] at hget
    cases hget
  have hsessions : ∀ (_ : List RemoteEvent) w more w', w.QueueConsistent ∧ w.QueueKeyed →
      QueueSession w more w' → w'.QueueConsistent ∧ w'.QueueKeyed := by
    intro _ w more w' ⟨hqueue, hkeyed⟩ hsession
    exact ⟨hsession.queueConsistent hqueue, (hsession.keeps hqueue hkeyed).1⟩
  refine hrun.invariant ?_ hsessions
  refine ⟨queueConsistent_of_empty hempty, ?_, ?_, ?_⟩
  · exact fun pushId item hget => (hnone pushId item hget).elim
  · exact fun pushId _ item _ hget => (hnone pushId item hget).elim
  · exact fun pushId _ item _ hget => (hnone pushId item hget).elim

/-- The rules that queueing follows in a workspace: there is one record for a draft or a message
at most, and their numbers differ. Queueing again, wherever it is cut off, keeps each record
with its number; it keeps the progress of one that has the same action, and gives no other
record an action unless nothing of it was started, when the progress there was is dropped.
When it returns, what it was asked for is queued, in the record that there was. A push goes on
from the progress it finds, a recovery settles one step, and no record is gone but one that was
not started or that has been done. -/
structure Workspace.RequeueRules (w : Workspace) : Prop where
  keyed : w.QueueKeyed
  drafts : ∀ host caseUid draftName action previousAction events outcome process,
    Exec (queueOutbound host caseUid draftName action previousAction) (.start w) events outcome
        process →
      w.Requeued (fun _ => previousAction = some action) (·.target = .draft caseUid draftName)
        process.workspace ∧
      ∀ pushId, outcome = .returned pushId →
        w.QueuedUnder (fun _ => previousAction = some action) (·.target = .draft caseUid draftName)
          process.workspace pushId
  messages : ∀ host action messageIds locations steps events outcome process,
    Exec (queueActionSteps host action messageIds locations steps) (.start w) events outcome
        process →
      w.Requeued (fun item => item.message.map (·.action) = some action)
        (fun later => later.message.map (·.action) = some action ∧
          ∃ messageId ∈ messageIds, later.target = .message messageId)
        process.workspace ∧
      ∀ pushIds, outcome = .returned pushIds →
        w.QueuedAction action messageIds locations steps process.workspace pushIds
  pushes : ∀ events w', PushSession w events w' → w.QueueContinues w'
  recoveries : ∀ host pushId confirmed settle events outcome process,
    Exec (recover host pushId confirmed settle) (.start w) events outcome process →
      w.QueueFrom PushItem.SameOrSettled process.workspace
  removals : ∀ (α : Type) (program : Command α) events outcome process, RemovalCommand program →
    Exec program (.start w) events outcome process → w.QueueFrom Eq process.workspace
  ended : ∀ events w', QueueSession w events w' → w.RecordsEnded w'

end Runs
end AgentFirstMail
