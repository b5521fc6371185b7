import AgentFirstMail.Cloudflare.SpoolCoverage
import AgentFirstMail.Data.Growth

namespace AgentFirstMail.Spool
open Effect Indexing Program Relation

/-- What the events keep of one key; the one that makes it may rely on the others not to touch it. -/
def spoolAccord (worker : Worker) (key : String) : Accord SpoolQuota Bucket SpoolOp SpoolEvent SpoolOp.Reply where
  inv := Inv worker key
  rely event w w' := Keeps worker key w w' ∧ (event.Draws key → Spares worker key w w')
  guar event w w' := Keeps worker key w w' ∧ (¬event.Draws key → Spares worker key w w')
  apart event other := ¬(event.Draws key ∧ other.Draws key)

variable {worker : Worker} {key other : String}
  {event : SpoolEvent} {w w' w'' start : SpoolWorld} {object : StoredObject}
  {fact fact' : SpoolWorld → Prop} {knows : Prop} {α β : Type}

/-- The terms of one event. -/
abbrev spoolTerms (worker : Worker) (key : String) (event : SpoolEvent) :
    Terms SpoolQuota Bucket SpoolOp SpoolEvent SpoolOp.Reply :=
  (spoolAccord worker key).terms event

/-- A triple under the terms of one event. -/
abbrev SpoolTriple (worker : Worker) (key : String) (event : SpoolEvent)
    (pre : SpoolWorld → Prop) (p : SpoolProgram α) (post : α → SpoolWorld → Prop)
    (abort : SpoolWorld → Prop) : Prop :=
  Triple worker.platform.service (spoolTerms worker key event) pre p post abort

theorem guar_refl (w : SpoolWorld) : (spoolTerms worker key event).guar w w :=
  ⟨.refl w, fun _ => .refl w⟩

theorem guar_trans (h : (spoolTerms worker key event).guar w w')
    (h' : (spoolTerms worker key event).guar w' w'') :
    (spoolTerms worker key event).guar w w'' :=
  ⟨h.1.trans h'.1, fun hdraws => (h.2 hdraws).trans h.1 (h'.2 hdraws)⟩

theorem Moves.rely (h : Moves worker key w w') :
    (spoolTerms worker key event).rely w w' :=
  ⟨h.keeps, fun _ => h.spares⟩

theorem Moves.guar (h : Moves worker key w w') :
    (spoolTerms worker key event).guar w w' :=
  ⟨h.keeps, fun _ => h.spares⟩

theorem stable_of_keeps (h : ∀ w w', Keeps worker key w w' → fact w → fact w') :
    (spoolTerms worker key event).Stable fact :=
  fun w w' hrely => h w w' hrely.1

theorem allows_moves {move : SpoolWorld → SpoolWorld}
    (hstable : (spoolTerms worker key event).Stable fact)
    (h : ∀ w, Inv worker key w → fact w → Moves worker key w (move w)) :
    (spoolTerms worker key event).Allows fact move fact := by
  intro w hinv hfact
  have hmoves := h w hinv hfact
  exact ⟨hmoves.inv, fun _ hguar => guar_trans hguar hmoves.guar,
    hstable w (move w) hmoves.rely hfact⟩

section Stable

theorem stable_known : (spoolTerms worker key event).Stable (Known worker key) :=
  stable_of_keeps fun _ _ h => h.known

theorem stable_settled :
    (spoolTerms worker key event).Stable (Settled worker key) :=
  stable_of_keeps fun _ _ h => h.settled

theorem stable_gone : (spoolTerms worker key event).Stable (Gone worker key) :=
  stable_of_keeps fun _ _ h => h.gone

theorem stable_sized {size : Nat} :
    (spoolTerms worker key event).Stable (Sized worker key size) :=
  stable_of_keeps fun _ _ h hw => ⟨h.settled hw.toSettled, fun object hreal =>
    hw.bounded object (h.real (.inl hw.toSettled) object hreal)⟩

theorem stable_named : (spoolTerms worker key event).Stable (Named worker key) :=
  stable_of_keeps fun _ _ h => h.named

theorem stable_asked : (spoolTerms worker key event).Stable (Asked key) :=
  stable_of_keeps fun _ _ h ⟨op, hop, hkey⟩ => ⟨op, h.requests.subset hop, hkey⟩

theorem stable_initialized :
    (spoolTerms worker key event).Stable fun w => w.state.initialized = true :=
  stable_of_keeps fun _ _ h => h.initialized

theorem stable_idle : (spoolTerms worker key event).Stable fun w =>
    Known worker key w ∧ key ∉ w.state.writing :=
  stable_of_keeps fun _ _ h ⟨hknown, hidle⟩ => ⟨h.known hknown, h.writing hknown hidle⟩

theorem stable_adopts {page : Page} :
    (spoolTerms worker key event).Stable (Adopts worker key page) := by
  apply stable_of_keeps
  intro w w' h hw
  refine ⟨fun size hmem => ?_, fun hinit object hreal => ?_⟩
  · have hsized := hw.listed size hmem
    exact ⟨h.settled hsized.toSettled, fun object hreal =>
      hsized.bounded object (h.real (.inl hsized.toSettled) object hreal)⟩
  · have hbefore : w.state.initialized = false := by
      cases heq : w.state.initialized with
      | false => rfl
      | true =>
        rw [h.initialized heq] at hinit
        cases hinit
    exact (hw.complete hbefore object (h.real (.inr hinit) object hreal)).imp_left h.covers

end Stable

/-! ### Programs that leave the key alone -/

/-- A program keeps whatever the others leave alone. It may ask about the key where that is
known. -/
def Leaves (worker : Worker) (key : String) (event : SpoolEvent) (knows : Prop)
    (p : SpoolProgram α) : Prop :=
  ∀ fact, (spoolTerms worker key event).Stable fact →
    (knows → ∀ w, fact w → Known worker key w) →
    SpoolTriple worker key event fact p (fun _ => fact) fact

namespace Leaves

theorem ret {value : α} : Leaves worker key event knows (.ret value) :=
  fun _ _ _ => .ret fun _ _ hfact => hfact

theorem fail {error : SpoolError} :
    Leaves worker key event knows (.fail error : SpoolProgram α) :=
  fun _ _ _ => .fail fun _ _ hfact => hfact

theorem ofExcept {result : Except SpoolError α} :
    Leaves worker key event knows (Program.ofExcept result) :=
  fun _ _ _ => .ofExcept (fun _ _ _ _ hfact => hfact) fun _ _ _ _ hfact => hfact

theorem bind {p : SpoolProgram α} {f : α → SpoolProgram β}
    (h : Leaves worker key event knows p)
    (hf : ∀ value, Leaves worker key event knows (f value)) :
    Leaves worker key event knows (p.bind f) :=
  fun fact hstable hknows => .bind (h fact hstable hknows) fun value =>
    hf value fact hstable hknows

theorem tryCatch {p : SpoolProgram α} {handle : SpoolError → SpoolProgram α}
    (h : Leaves worker key event knows p)
    (hhandle : ∀ error, Leaves worker key event knows (handle error)) :
    Leaves worker key event knows (p.tryCatch handle) :=
  fun fact hstable hknows => .tryCatch (h fact hstable hknows) fun error =>
    hhandle error fact hstable hknows

theorem read {f : SpoolQuota → SpoolProgram α}
    (h : ∀ quota, Leaves worker key event knows (f quota)) :
    Leaves worker key event knows (Program.read.bind f) :=
  fun fact hstable hknows => .read fun quota =>
    (h quota fact hstable hknows).before fun _ _ hfact => hfact.1

theorem write {f : SpoolQuota → SpoolQuota} (h : ∀ quota, SameAt key quota (f quota)) :
    Leaves worker key event knows (Program.write f) :=
  fun _ hstable _ => .write (allows_moves hstable fun w hinv _ =>
    (beside_change (h w.state)).moves hinv fun _ => (known_change (h w.state)).mp)

end Leaves

section Ask
variable {op : SpoolOp} {learned : op.Reply → SpoolWorld → Prop} {abort : SpoolWorld → Prop}
  (hstable : (spoolTerms worker key event).Stable fact)
  (hcreates : ∀ w, fact w → op.creates key = true → ¬op.IsOriginal key ∧ key ∉ w.state.writing)
  (hremoves : op = .delete key → ∀ w, fact w → Removable worker key w)
  (hknown : op.key? = some key → ∀ w, fact w → Known worker key w)
  (hlearned : ∀ later ticket value served,
    later.Served worker.platform.service ticket op value served →
    Inv worker key later → Inv worker key served → fact later → fact served → learned value served)
  (hlasting : ∀ value, (spoolTerms worker key event).Stable (learned value))

include hstable hcreates hremoves hknown hlearned hlasting

/-- An operation other than the write of a message under the key is asked for under a stable
fact. -/
theorem triple_ask :
    SpoolTriple worker key event fact (Program.ask op)
      (Replied (fun value w => fact w ∧ (op.key? = some key → Asked key w) ∧ learned value w) fact)
      abort := by
  have hask : SpoolTriple worker key event fact (Program.ask op)
      (Replied (fun value w => (∃ _ticket : Nat, fact w ∧ (op.key? = some key → Asked key w)) ∧
        learned value w) fact) abort := by
    apply Triple.ask (F := fun _ w => fact w ∧ (op.key? = some key → Asked key w)) _
      (fun _ => hstable.and stable_asked.imp) _ hlasting _ guar_refl
    · intro w hinv hfact
      have hmoves : Moves worker key w (w.send op) := by
        apply (beside_send (hcreates w hfact) fun heq => hremoves heq w hfact).moves hinv
        intro _ hafter
        by_cases heq : op.key? = some key
        · exact hknown heq w hfact
        · exact known_send heq hafter
      refine ⟨hmoves.inv, fun _ hguar => guar_trans hguar hmoves.guar,
        hstable w _ hmoves.rely hfact, fun hkey => ⟨op, ?_, hkey⟩⟩
      rw [World.requests_send]
      exact List.mem_append_right _ (List.mem_singleton_self _)
    · exact fun later ticket value served h hinv hinv' hfact hfact' =>
        hlearned later ticket value served h hinv hinv' hfact.1 hfact'.1
    · intro later ticket hinv hfact
      have hmoves : Moves worker key later (later.abandon ticket) :=
        beside_abandon.moves hinv fun _ => known_abandon
      exact ⟨hmoves.inv, hmoves.guar, hstable _ _ hmoves.rely hfact.1⟩
  apply hask.after
  intro reply w _ hpost
  cases reply with
  | ok value =>
    obtain ⟨⟨_, hfact, hasked⟩, hvalue⟩ := hpost
    exact ⟨hfact, hasked, hvalue⟩
  | error error => exact hpost

theorem triple_run :
    SpoolTriple worker key event fact op.run
      (fun value w => fact w ∧ (op.key? = some key → Asked key w) ∧ learned value w) fact :=
  Triple.perform (triple_ask hstable hcreates hremoves hknown hlearned hlasting)

end Ask

theorem creates_of_key_ne {op : SpoolOp} (h : op.key? ≠ some key) : op.creates key = false := by
  cases op with
  | create other object =>
    rw [SpoolOp.creates, decide_eq_false_iff_not]
    exact fun heq => h (congrArg some heq)
  | _ => rfl

section Leaves
variable {size nowMs : Nat} {source : Option String} {ingress : Bool} {target : String}

theorem leaves_ask {op : SpoolOp} (hkey : op.key? ≠ some key) :
    Leaves worker key event knows (Program.ask op) := by
  intro fact hstable _
  have htriple : SpoolTriple worker key event fact (Program.ask op)
      (Replied (fun _ w => fact w ∧ (op.key? = some key → Asked key w) ∧ True) fact) fact :=
    triple_ask hstable (fun _ _ h => by rw [creates_of_key_ne hkey] at h; cases h)
      (fun heq => (hkey (by rw [heq]; rfl)).elim) (fun heq => (hkey heq).elim) (fun _ _ _ _ _ _ _ _ _ => trivial) fun _ => Terms.Stable.true
  apply htriple.after
  intro reply w _ hpost
  cases reply with
  | ok value => exact hpost.1
  | error error => exact hpost

theorem leaves_run {op : SpoolOp} (hkey : op.key? ≠ some key) :
    Leaves worker key event knows op.run := by
  intro fact hstable _
  have htriple : SpoolTriple worker key event fact op.run
      (fun _ w => fact w ∧ (op.key? = some key → Asked key w) ∧ True) fact :=
    triple_run hstable (fun _ _ h => by rw [creates_of_key_ne hkey] at h; cases h)
      (fun heq => (hkey (by rw [heq]; rfl)).elim) (fun heq => (hkey heq).elim) (fun _ _ _ _ _ _ _ _ _ => trivial) fun _ => Terms.Stable.true
  exact htriple.after fun _ _ _ hpost => hpost.1

theorem leaves_asks {op : SpoolOp} (hcreates : op.creates key = false)
    (hremoves : op ≠ .delete key) :
    Leaves worker key event True op.run := by
  intro fact hstable hknows
  have htriple : SpoolTriple worker key event fact op.run
      (fun _ w => fact w ∧ (op.key? = some key → Asked key w) ∧ True) fact :=
    triple_run hstable (fun _ _ h => by rw [hcreates] at h; cases h)
      (fun heq => (hremoves heq).elim) (fun _ => hknows trivial) (fun _ _ _ _ _ _ _ _ _ => trivial)
      fun _ => Terms.Stable.true
  exact htriple.after fun _ _ _ hpost => hpost.1

theorem leaves_turn : Leaves worker key event knows WorkerEnv.turn :=
  leaves_run fun heq => (by cases heq)

theorem leaves_schedule : Leaves worker key event knows WorkerEnv.schedule := by
  unfold WorkerEnv.schedule
  simp only [bind_eq]
  apply (leaves_run fun heq => (by cases heq)).bind
  intro scheduled
  split
  · exact (leaves_run fun heq => (by cases heq)).bind fun _ => leaves_turn
  · exact leaves_turn

theorem leaves_readBody {body : Bytes} {maxBytes : SpoolProgram Nat}
    (h : Leaves worker key event knows maxBytes) :
    Leaves worker key event knows (WorkerEnv.readBody body maxBytes) := by
  unfold WorkerEnv.readBody
  simp only [bind_eq, pure_eq]
  apply h.bind
  intro bound
  apply (leaves_run fun heq => (by cases heq)).bind
  intro chunks
  exact Leaves.ofExcept.bind fun _ => leaves_turn.bind fun _ => .ret

theorem leaves_maxMessageBytes :
    Leaves worker key event knows worker.env.maxMessageBytes := by
  unfold WorkerEnv.maxMessageBytes
  simp only [bind_eq, pure_eq]
  exact Leaves.ofExcept.bind fun _ => .ret

theorem sameAt_release (h : key ≠ other) (quota : SpoolQuota) :
    SameAt key quota (quota.release other) :=
  ⟨getElem?_erase_ne h, .rfl, rfl, rfl⟩

theorem entry_modify_ne {quota : SpoolQuota} {f : Entry → Entry} (h : key ≠ other) :
    (quota.objects.modify other f)[key]? = quota.objects[key]? := by
  rw [Std.ExtTreeMap.getElem?_modify, if_neg]
  rw [Std.LawfulEqCmp.compare_eq_iff_eq]
  exact h.symm

theorem sameAt_committed (h : key ≠ other) (quota : SpoolQuota) :
    SameAt key quota (quota.committed other) :=
  ⟨entry_modify_ne h, .rfl, rfl, rfl⟩

theorem sameAt_observed (h : key ≠ other) (quota : SpoolQuota) :
    SameAt key quota (quota.observed other size) :=
  ⟨entry_modify_ne h, .rfl, rfl, rfl⟩

theorem sameAt_startWriting (h : key ≠ other) (quota : SpoolQuota) :
    SameAt key quota (quota.startWriting other) := by
  refine ⟨rfl, ?_, rfl, rfl⟩
  simp [SpoolQuota.startWriting, h]

theorem sameAt_stopWriting (h : key ≠ other) (quota : SpoolQuota) :
    SameAt key quota (quota.stopWriting other) := by
  refine ⟨rfl, ?_, rfl, rfl⟩
  simp [SpoolQuota.stopWriting, h]

theorem countAdmission_eq {quota quota' : SpoolQuota} {policy : Limits}
    (h : quota.countAdmission policy nowMs = some quota') :
    quota'.objects = quota.objects ∧ quota'.writing = quota.writing ∧
      quota'.initialized = quota.initialized ∧ quota'.initialCursor = quota.initialCursor := by
  simp only [SpoolQuota.countAdmission, Option.ite_none_left_eq_some, Option.some.injEq] at h
  obtain ⟨_, rfl⟩ := h
  exact ⟨rfl, rfl, rfl, rfl⟩

theorem reserved_eq {quota quota' : SpoolQuota} {policy : Limits}
    (h : quota.reserved policy nowMs other size source ingress = some quota') :
    quota.entry other = none ∧
      quota'.objects = quota.objects.insert other ⟨size, .reserved, source⟩ ∧
      quota'.writing = quota.writing ∧ quota'.initialized = quota.initialized ∧
      quota'.initialCursor = quota.initialCursor := by
  simp only [SpoolQuota.reserved, Option.ite_none_left_eq_some] at h
  obtain ⟨hroom, h⟩ := h
  rw [Bool.or_eq_true, Bool.or_eq_true, not_or, not_or, Option.not_isSome_iff_eq_none] at hroom
  obtain ⟨counted, hcounted, rfl⟩ := Option.map_eq_some_iff.mp h
  refine ⟨hroom.1.1, ?_⟩
  cases ingress with
  | false =>
    cases hcounted
    exact ⟨rfl, rfl, rfl, rfl⟩
  | true =>
    obtain ⟨hobjects, hrest⟩ := countAdmission_eq hcounted
    exact ⟨by rw [hobjects], hrest⟩

theorem leaves_reserve (h : key ≠ other) :
    Leaves worker key event knows (worker.env.reserve nowMs other size source ingress) := by
  unfold WorkerEnv.reserve
  simp only [bind_eq, pure_eq]
  apply Leaves.ofExcept.bind
  intro policy fact hstable _
  apply Triple.read
  intro quota
  cases hreserved : quota.reserved policy nowMs other size source ingress with
  | none => exact .ret fun _ _ hfact => hfact.1
  | some quota' =>
    obtain ⟨_, hobjects, hwriting, hinitialized, hcursor⟩ := reserved_eq hreserved
    have hsame : SameAt key quota quota' := by
      refine ⟨?_, ?_, hinitialized, hcursor⟩
      · unfold SpoolQuota.entry
        rw [hobjects, getElem?_insert_ne h]
      · rw [hwriting]
    refine Triple.bind (?_ : SpoolTriple worker key event _ _ (fun _ => fact) _) ?_
    · apply Triple.write
      rintro w hinv ⟨hfact, rfl⟩
      have hmoves : Moves worker key w (w.change fun _ => quota') :=
        (beside_change hsame).moves hinv fun _ => (known_change hsame).mp
      exact ⟨hmoves.inv, fun _ hguar => guar_trans hguar hmoves.guar,
        hstable w _ hmoves.rely hfact⟩
    · exact fun _ => .ret fun _ _ hfact => hfact

theorem leaves_settleUncertain (h : key ≠ other) :
    Leaves worker key event knows (WorkerEnv.settleUncertain other) := by
  have hother : some other ≠ some key := fun heq => h (Option.some.inj heq).symm
  unfold WorkerEnv.settleUncertain
  simp only [bind_eq, pure_eq]
  refine Leaves.bind (leaves_run hother) ?_
  intro fenced
  split
  · refine Leaves.bind (leaves_run hother) ?_
    intro object
    cases object with
    | some object => exact .write (sameAt_observed h)
    | none => exact .ret
  · exact Leaves.bind (leaves_run hother) fun _ => .write (sameAt_release h)

theorem leaves_reconcile {row : String × Entry} (h : key ≠ row.1) :
    Leaves worker key event knows (WorkerEnv.reconcile row) := by
  have hother : some row.1 ≠ some key := fun heq => h (Option.some.inj heq).symm
  unfold WorkerEnv.reconcile
  simp only [bind_eq, pure_eq]
  refine Leaves.bind (leaves_run hother) ?_
  intro object
  cases object with
  | some object =>
    dsimp only
    split
    · exact Leaves.bind (leaves_run hother) fun _ => .write (sameAt_release h)
    · exact .write (sameAt_observed h)
  | none =>
    dsimp only
    split
    · exact .write (sameAt_release h)
    · apply Leaves.read
      intro quota
      split
      · exact (leaves_settleUncertain h).bind fun _ => leaves_turn
      · exact .ret

theorem leaves_write (h : key ≠ other) :
    Leaves worker key event knows (WorkerEnv.write other object) := by
  have hother : some other ≠ some key := fun heq => h (Option.some.inj heq).symm
  unfold WorkerEnv.write
  simp only [bind_eq]
  refine Leaves.bind (leaves_ask hother) fun outcome => ?_
  exact (Leaves.write (sameAt_stopWriting h)).bind fun _ => leaves_turn.bind fun _ => .ofExcept

theorem leaves_storeMessage {raw : Bytes} {metadata : List (String × String)} (h : key ≠ other) :
    Leaves worker key event knows (WorkerEnv.storeMessage other raw metadata) := by
  unfold WorkerEnv.storeMessage
  simp only [bind_eq, pure_eq]
  apply (leaves_write h).bind
  intro written
  split
  · exact (Leaves.write (sameAt_release h)).bind fun _ => .ret
  · exact (Leaves.write (sameAt_committed h)).bind fun _ => .ret

theorem leaves_writeCopy (h : key ≠ target) :
    Leaves worker key event knows (WorkerEnv.writeCopy target object) := by
  unfold WorkerEnv.writeCopy
  simp only [bind_eq, pure_eq]
  apply Leaves.tryCatch
  · apply (leaves_write h).bind
    intro written
    split
    · exact .ret
    · exact (Leaves.write (sameAt_committed h)).bind fun _ => .ret
  · exact fun _ => .ret

theorem leaves_isConfirmed {prior : Option Entry} (h : key ≠ target) :
    Leaves worker key event knows (WorkerEnv.isConfirmed prior target) := by
  have hother : some target ≠ some key := fun heq => h (Option.some.inj heq).symm
  unfold WorkerEnv.isConfirmed
  cases prior with
  | none => exact .ret
  | some entry =>
    simp only [bind_eq, pure_eq]
    exact Leaves.bind (leaves_run hother) fun _ => .ret

theorem leaves_releaseVanished {prior : Option Entry} (h : key ≠ target) :
    Leaves worker key event knows (WorkerEnv.releaseVanished prior target) := by
  unfold WorkerEnv.releaseVanished
  split
  · exact .write (sameAt_release h)
  · exact .ret

/-- An archive copy stands under another key than a message, which it only reads. -/
theorem leaves_archiveCopy (h : key ≠ target)
    (hget : Leaves worker key event knows (SpoolOp.get other).run) :
    Leaves worker key event knows (worker.env.archiveCopy nowMs other target) := by
  unfold WorkerEnv.archiveCopy
  simp only [bind_eq, pure_eq]
  apply Leaves.read
  intro quota
  split
  · exact .ret
  · apply (leaves_isConfirmed h).bind
    intro confirmed
    split
    · exact (Leaves.write (sameAt_committed h)).bind fun _ => .ret
    · apply (leaves_releaseVanished h).bind
      intro _
      apply hget.bind
      intro object
      cases object with
      | none => exact .ret
      | some object =>
        apply Leaves.bind
        · unfold WorkerEnv.reserveCopy
          simp only [bind_eq, pure_eq]
          apply Leaves.read
          intro quota
          split
          · exact .ret
          · exact leaves_reserve h
        · intro admitted
          split
          · exact .ret
          · exact (Leaves.write (sameAt_startWriting h)).bind fun _ =>
              leaves_schedule.bind fun _ => leaves_writeCopy h

theorem leaves_discard (h : key ≠ other) :
    Leaves worker key event knows (WorkerEnv.discard other) := by
  have hother : some other ≠ some key := fun heq => h (Option.some.inj heq).symm
  unfold WorkerEnv.discard
  simp only [bind_eq, pure_eq]
  apply Leaves.tryCatch
  · exact Leaves.bind (leaves_run hother) fun _ => (Leaves.write (sameAt_release h)).bind fun _ => .ret
  · exact fun _ => .ret

end Leaves

/-! ### The programs at the key -/

section Key
variable {size nowMs : Nat}

theorem looked {value : Option StoredObject} (hinv : Inv worker key w)
    (hvalue : value = w.service[key]?) :
    ∀ object, value = some object → (object.isFence = true → Gone worker key w) ∧
      Sized worker key object.size w := by
  rintro object rfl
  cases hfence : object.isFence with
  | true =>
    have hgone := hinv.fenced object hvalue.symm hfence
    exact ⟨fun _ => hgone, hgone.sized⟩
  | false =>
    refine ⟨fun heq => (by cases heq), hinv.real object ⟨hvalue.symm, hfence⟩, ?_⟩
    rintro other ⟨hother, _⟩
    rw [← hvalue] at hother
    cases hother
    exact Nat.le_refl _

theorem gone_of_absent (hsettled : Settled worker key w) (h : w.service[key]? = none) :
    Gone worker key w := by
  refine ⟨hsettled, ?_⟩
  rintro object ⟨hobject, _⟩
  rw [h] at hobject
  cases hobject

theorem triple_release (hstable : (spoolTerms worker key event).Stable fact)
    {abort : SpoolWorld → Prop} :
    SpoolTriple worker key event
      (fun w => fact w ∧ Asked key w ∧ Gone worker key w)
      (Program.write (SpoolQuota.release key)) (fun _ => fact) abort := by
  apply Triple.write
  rintro w hinv ⟨hfact, hasked, hgone⟩
  have hmoves := moves_release hinv hgone hasked
  exact ⟨hmoves.inv, fun _ hguar => guar_trans hguar hmoves.guar, hstable _ _ hmoves.rely hfact⟩

theorem triple_observed (hstable : (spoolTerms worker key event).Stable fact)
    {abort : SpoolWorld → Prop} :
    SpoolTriple worker key event
      (fun w => fact w ∧ Asked key w ∧ Sized worker key size w)
      (Program.write (SpoolQuota.observed key size)) (fun _ => fact) abort := by
  apply Triple.write
  rintro w hinv ⟨hfact, hasked, hsized⟩
  have hmoves := moves_observed hinv hsized.toSettled hasked hsized.bounded
  exact ⟨hmoves.inv, fun _ hguar => guar_trans hguar hmoves.guar, hstable _ _ hmoves.rely hfact⟩

theorem triple_delete (hstable : (spoolTerms worker key event).Stable fact)
    (hsettled : ∀ w, fact w → Settled worker key w)
    (hremovable : ∀ w, fact w → Removable worker key w) :
    SpoolTriple worker key event fact (SpoolOp.delete key).run
      (fun _ w => fact w ∧ Asked key w ∧ Gone worker key w) fact := by
  have htriple : SpoolTriple worker key event fact (SpoolOp.delete key).run
      (fun _ w => fact w ∧ (some key = some key → Asked key w) ∧ Gone worker key w) fact := by
    apply triple_run hstable (fun _ _ h => by cases h) (fun _ => hremovable)
      (fun _ w hfact => (hsettled w hfact).known)
    · intro later ticket value served h hinv hinv' _ hfact
      apply gone_of_absent (hsettled served hfact)
      rw [show served.service = later.service.erase key from answers_served h,
        Std.ExtTreeMap.getElem?_erase_self]
    · exact fun _ => stable_gone
  exact htriple.after fun _ _ _ ⟨hfact, hasked, hgone⟩ => ⟨hfact, hasked rfl, hgone⟩

/-- A look at the key; nothing is there any more if it was settled. -/
theorem triple_head {settled : Prop}
    (hstable : (spoolTerms worker key event).Stable fact)
    (hknown : ∀ w, fact w → Known worker key w)
    (hsettled : settled → ∀ w, fact w → Settled worker key w) :
    SpoolTriple worker key event fact (SpoolOp.head key).run
      (fun value w => fact w ∧ Asked key w ∧
        (∀ object, value = some object → (object.isFence = true → Gone worker key w) ∧
          Sized worker key object.size w) ∧
        (value = none → settled → Gone worker key w)) fact := by
  have htriple : SpoolTriple worker key event fact (SpoolOp.head key).run
      (fun value w => fact w ∧ (some key = some key → Asked key w) ∧
        (∀ object, value = some object → (object.isFence = true → Gone worker key w) ∧
          Sized worker key object.size w) ∧
        (value = none → settled → Gone worker key w)) fact := by
    apply triple_run hstable (fun _ _ h => by cases h) (fun heq => by cases heq) (fun _ => hknown)
    · intro later ticket value served h hinv hinv' _ hfact
      obtain ⟨hvalue, hservice⟩ := answers_served h
      rw [← hservice] at hvalue
      refine ⟨looked hinv' hvalue, ?_⟩
      rintro rfl hs
      exact gone_of_absent (hsettled hs served hfact) hvalue.symm
    · intro value
      apply Terms.Stable.and
      · intro w w' hrely hw object heq
        obtain ⟨hgone, hsized⟩ := hw object heq
        exact ⟨fun hfence => stable_gone w w' hrely (hgone hfence),
          stable_sized w w' hrely hsized⟩
      · exact stable_gone.imp.imp
  exact htriple.after fun _ _ _ ⟨hfact, hasked, hlooked⟩ => ⟨hfact, hasked rfl, hlooked⟩

theorem triple_settleUncertain (hstable : (spoolTerms worker key event).Stable fact) :
    SpoolTriple worker key event
      (fun w => fact w ∧ Known worker key w ∧ key ∉ w.state.writing)
      (WorkerEnv.settleUncertain key) (fun _ => fact) fact := by
  have hidle : (spoolTerms worker key event).Stable fun w =>
      fact w ∧ Known worker key w ∧ key ∉ w.state.writing := hstable.and stable_idle
  have hfence : SpoolTriple worker key event
      (fun w => fact w ∧ Known worker key w ∧ key ∉ w.state.writing)
      (SpoolOp.create key WorkerEnv.fence).run
      (fun fenced w => (fact w ∧ Known worker key w ∧ key ∉ w.state.writing) ∧
        (some key = some key → Asked key w) ∧ (fenced = true → Gone worker key w))
      (fun w => fact w ∧ Known worker key w ∧ key ∉ w.state.writing) := by
    apply triple_run hidle
    · rintro w ⟨_, _, hwriting⟩ _
      refine ⟨?_, hwriting⟩
      rintro ⟨object, heq, hreal⟩
      cases heq
      cases hreal
    · exact fun heq => (by cases heq)
    · exact fun _ w hw => hw.2.1
    · intro later ticket value served h hinv hinv' _ _ hvalue
      have hanswers := answers_served h
      change (if key ∈ later.service then value = false ∧ served.service = later.service
        else value = true ∧ served.service = later.service.insert key WorkerEnv.fence) at hanswers
      by_cases hmem : key ∈ later.service
      · rw [if_pos hmem, hvalue] at hanswers
        cases hanswers.1
      · rw [if_neg hmem] at hanswers
        apply hinv'.fenced WorkerEnv.fence _ rfl
        rw [hanswers.2, Std.ExtTreeMap.getElem?_insert_self]
    · exact fun _ => stable_gone.imp
  have habort : ∀ w, fact w ∧ Known worker key w ∧ key ∉ w.state.writing → fact w :=
    fun w hw => hw.1
  unfold WorkerEnv.settleUncertain
  simp only [bind_eq, pure_eq]
  apply Triple.bind (hfence.weaken (fun _ _ h => h) (fun _ _ _ h => h) fun w _ => habort w)
  intro fenced
  cases fenced with
  | false =>
    rw [if_pos (show (!false) = true from rfl)]
    have hknown : (spoolTerms worker key event).Stable fun w =>
        fact w ∧ Known worker key w := hstable.and stable_known
    have hhead := triple_head hknown (fun w hw => hw.2) fun h : False => h.elim
    apply Triple.bind (hhead.weaken (fun w _ hw => ⟨hw.1.1, hw.1.2.1⟩) (fun _ _ _ h => h)
      fun w _ hw => hw.1)
    intro object
    cases object with
    | some object =>
      apply (triple_observed hstable).before
      exact fun w _ ⟨hfact, hasked, hlooked, _⟩ => ⟨hfact.1, hasked, (hlooked object rfl).2⟩
    | none => exact .ret fun w _ hw => hw.1.1
  | true =>
    rw [if_neg (by decide)]
    have hgone : (spoolTerms worker key event).Stable fun w =>
        fact w ∧ Gone worker key w := hstable.and stable_gone
    have hdelete := triple_delete hgone (fun w hw => hw.2.toSettled) fun w hw => .inl hw.2
    apply Triple.bind (hdelete.weaken (fun w _ hw => ⟨hw.1.1, hw.2.2 rfl⟩) (fun _ _ _ h => h)
      fun w _ hw => hw.1)
    intro _
    exact (triple_release hstable).before fun w _ ⟨hfact, hasked, hgone⟩ => ⟨hfact.1, hasked, hgone⟩

/-- One row is brought in line with the bucket. -/
theorem triple_reconcile {row : String × Entry}
    (hstable : (spoolTerms worker key event).Stable fact)
    (hknown : row.1 = key → ∀ w, fact w → Known worker key w)
    (hsettled : row.1 = key → row.2.state = .stored → ∀ w, fact w → Settled worker key w) :
    SpoolTriple worker key event fact (WorkerEnv.reconcile row) (fun _ => fact) fact := by
  by_cases heq : row.1 = key
  · obtain ⟨name, entry⟩ := row
    change name = key at heq
    subst name
    have hhead := triple_head hstable (hknown rfl) (hsettled rfl)
    unfold WorkerEnv.reconcile
    simp only [bind_eq, pure_eq]
    apply hhead.bind
    intro object
    cases object with
    | some object =>
      dsimp only
      split
      · rename_i hfence
        have hgone : (spoolTerms worker key event).Stable fun w =>
            fact w ∧ Gone worker key w := hstable.and stable_gone
        have hdelete := triple_delete hgone (fun w hw => hw.2.toSettled) fun w hw => .inl hw.2
        apply Triple.bind (hdelete.weaken (fun w _ ⟨hfact, _, hlooked, _⟩ =>
          ⟨hfact, (hlooked object rfl).1 hfence⟩) (fun _ _ _ h => h) fun w _ hw => hw.1)
        intro _
        exact (triple_release hstable).before fun w _ ⟨hfact, hasked, hgone⟩ =>
          ⟨hfact.1, hasked, hgone⟩
      · exact (triple_observed hstable).before fun w _ ⟨hfact, hasked, hlooked, _⟩ =>
          ⟨hfact, hasked, (hlooked object rfl).2⟩
    | none =>
      dsimp only
      split
      · rename_i hstored
        exact (triple_release hstable).before fun w _ ⟨hfact, hasked, _, hgone⟩ =>
          ⟨hfact, hasked, hgone rfl hstored⟩
      · apply Triple.read
        intro quota
        split
        · rename_i hidle
          apply Triple.bind ((triple_settleUncertain hstable).before ?_)
          · exact fun _ => leaves_turn fact hstable fun h : False => h.elim
          · rintro w _ ⟨⟨hfact, _⟩, rfl⟩
            exact ⟨hfact, hknown rfl w hfact, hidle⟩
        · exact .ret fun w _ hw => hw.1.1
  · exact leaves_reconcile (Ne.symm heq) fact hstable fun h : False => h.elim

/-- What a listing after a cursor may leave out is in the ledger already. -/
def Ahead (worker : Worker) (key : String) (cursor : Option String) (w : SpoolWorld) : Prop :=
  w.state.initialized = false → ∀ object, RealAt key w object →
    Covers key w ∨ comesAfter worker.platform.after cursor key = true

theorem stable_ahead {cursor : Option String} :
    (spoolTerms worker key event).Stable (Ahead worker key cursor) := by
  apply stable_of_keeps
  intro w w' h hw hinit object hreal
  have hbefore : w.state.initialized = false := by
    cases heq : w.state.initialized with
    | false => rfl
    | true =>
      rw [h.initialized heq] at hinit
      cases hinit
  exact (hw hbefore object (h.real (.inr hinit) object hreal)).imp_left h.covers

theorem ahead_of_inv (hinv : Inv worker key w) :
    Ahead worker key w.state.initialCursor w := by
  intro _ object hreal
  rcases hinv.charged object hreal with hcharged | ⟨_, _, hahead⟩
  · refine .inl fun other hother => ?_
    have heq := hother.1
    rw [hreal.1] at heq
    cases heq
    exact hcharged
  · exact .inr hahead

theorem adopts_of_lists {cursor : Option String} {limit : Nat} {page : Page}
    (hinv : Inv worker key w) (hahead : Ahead worker key cursor w)
    (hlists : Lists worker.platform.after cursor limit w.service page) : Adopts worker key page w := by
  refine ⟨fun size hmem => ?_, fun hinit object hreal => ?_⟩
  · obtain ⟨object, hobject, rfl⟩ := hlists.listed key size hmem
    exact (looked hinv hobject.symm object rfl).2
  · rcases hahead hinit object hreal with hcovers | hafter
    · exact .inl hcovers
    · exact .inr (hlists.complete key object hreal.1 hafter)

theorem triple_adoptPage (hstable : (spoolTerms worker key event).Stable fact) :
    SpoolTriple worker key event fact WorkerEnv.adoptPage
      (fun ready w => fact w ∧ (ready = true → w.state.initialized = true)) fact := by
  unfold WorkerEnv.adoptPage
  simp only [bind_eq, pure_eq]
  apply Triple.read
  intro quota
  split
  · rename_i hinit
    refine .ret ?_
    rintro w _ ⟨hfact, rfl⟩
    exact ⟨hfact, fun _ => hinit⟩
  · have hlist : SpoolTriple worker key event
        (fun w => fact w ∧ Ahead worker key quota.initialCursor w)
        (SpoolOp.list quota.initialCursor 1000).run
        (fun page w => (fact w ∧ Ahead worker key quota.initialCursor w) ∧
          (none = some key → Asked key w) ∧ Adopts worker key page w)
        (fun w => fact w ∧ Ahead worker key quota.initialCursor w) := by
      apply triple_run (hstable.and stable_ahead) (fun _ _ h => by cases h)
        (fun heq => by cases heq) (fun heq => by cases heq)
      · intro later ticket page served h _ hinv' _ hfact
        obtain ⟨hlists, hservice⟩ := answers_served h
        rw [← hservice] at hlists
        exact adopts_of_lists hinv' hfact.2 hlists
      · exact fun _ => stable_adopts
    have hready : ∀ page : Page, (spoolTerms worker key event).Stable fun w =>
        fact w ∧ (page.cursor = none → w.state.initialized = true) :=
      fun _ => hstable.and stable_initialized.imp
    apply Triple.bind (hlist.weaken _ (fun _ _ _ h => h) fun w _ hw => hw.1)
    · intro page
      have hadopt : SpoolTriple worker key event
          (fun w => (fact w ∧ Ahead worker key quota.initialCursor w) ∧
            (none = some key → Asked key w) ∧ Adopts worker key page w)
          (Program.write (SpoolQuota.adopt page))
          (fun _ w => fact w ∧ (page.cursor = none → w.state.initialized = true)) fact := by
        apply Triple.write
        rintro w hinv ⟨⟨hfact, _⟩, _, hadopts⟩
        have hmoves := moves_adopt hinv hadopts
        refine ⟨hmoves.inv, fun _ hguar => guar_trans hguar hmoves.guar,
          hstable _ _ hmoves.rely hfact, fun hnone => ?_⟩
        change (w.state.adopt page).initialized = true
        simp only [SpoolQuota.adopt, hnone]
      apply hadopt.bind
      · intro _
        have hret : SpoolTriple worker key event
            (fun w => fact w ∧ (page.cursor = none → w.state.initialized = true))
            (Program.ret page.cursor.isNone)
            (fun ready w => fact w ∧ (ready = true → w.state.initialized = true)) fact :=
          .ret fun w _ hw => ⟨hw.1, fun heq => hw.2 (Option.isNone_iff_eq_none.mp heq)⟩
        split
        · apply Triple.bind ((leaves_schedule _ (hready page) fun h : False => h.elim).weaken
            (fun _ _ h => h) (fun _ _ _ h => h) fun w _ hw => hw.1)
          exact fun _ => hret
        · exact hret
    · rintro w hinv ⟨hfact, rfl⟩
      exact ⟨hfact, ahead_of_inv hinv⟩

theorem triple_initialization (hstable : (spoolTerms worker key event).Stable fact) :
    SpoolTriple worker key event fact WorkerEnv.initialization
      (fun ready w => fact w ∧ (ready = true → w.state.initialized = true)) fact := by
  unfold WorkerEnv.initialization
  simp only [bind_eq, pure_eq]
  apply Triple.read
  intro quota
  split
  · rename_i hinit
    have hinitialized : (spoolTerms worker key event).Stable fun w =>
        fact w ∧ w.state.initialized = true := hstable.and stable_initialized
    apply Triple.bind ((leaves_turn _ hinitialized fun h : False => h.elim).weaken _
      (fun _ _ _ h => h) fun w _ hw => hw.1)
    · exact fun _ => .ret fun w _ hw => ⟨hw.1, fun _ => hw.2⟩
    · rintro w _ ⟨hfact, rfl⟩
      exact ⟨hfact, hinit⟩
  · apply Triple.bind ((leaves_turn _ hstable fun h : False => h.elim).before fun w _ hw => hw.1)
    intro _
    apply (triple_adoptPage hstable).bind
    intro ready
    have hready : (spoolTerms worker key event).Stable fun w =>
        fact w ∧ (ready = true → w.state.initialized = true) := hstable.and stable_initialized.imp
    apply Triple.bind ((leaves_turn _ hready fun h : False => h.elim).weaken (fun _ _ h => h)
      (fun _ _ _ h => h) fun w _ hw => hw.1)
    exact fun _ => .ret fun _ _ hw => hw

/-- The alarm goes through the rows that it found when it began. -/
theorem triple_alarm :
    SpoolTriple worker key event (fun _ => True) WorkerEnv.alarm (fun _ _ => True)
      fun _ => True := by
  unfold WorkerEnv.alarm
  simp only [bind_eq, pure_eq]
  apply (triple_initialization Terms.Stable.true).bind
  intro ready
  split
  · apply Triple.read
    intro quota
    have hrows : (spoolTerms worker key event).Stable fun w => ∀ row ∈ quota.reconcilable,
        row.1 = key → Known worker key w ∧
          (row.2.state = .stored → Settled worker key w) := by
      intro w w' hrely hw row hrow heq
      obtain ⟨hknown, hsettled⟩ := hw row hrow heq
      exact ⟨stable_known w w' hrely hknown, fun hstored =>
        stable_settled w w' hrely (hsettled hstored)⟩
    have hloop : SpoolTriple worker key event
        (fun w => ∀ row ∈ quota.reconcilable, row.1 = key → Known worker key w ∧
          (row.2.state = .stored → Settled worker key w))
        (Program.forEach quota.reconcilable WorkerEnv.reconcile)
        (fun _ w => ∀ row ∈ quota.reconcilable, row.1 = key → Known worker key w ∧
          (row.2.state = .stored → Settled worker key w))
        (fun w => ∀ row ∈ quota.reconcilable, row.1 = key → Known worker key w ∧
          (row.2.state = .stored → Settled worker key w)) := by
      apply Triple.forEach
      intro row hrow
      exact triple_reconcile hrows (fun heq w hw => (hw row hrow heq).1)
        fun heq hstored w hw => (hw row hrow heq).2 hstored
    apply Triple.bind (hloop.weaken _ (fun _ _ _ _ => trivial) fun _ _ _ => trivial)
    · intro _
      have hrest : Leaves worker key event False
          ((Program.write fun current : SpoolQuota =>
            { current with
              reconcileCursor :=
                if quota.reconcilable.length = 50 then quota.reconcilable.getLast?.map (·.1)
                else some "" }).bind fun _ => Program.read.bind fun quota =>
              if quota.usage.objectCount ≠ 0 then WorkerEnv.schedule else .ret ()) := by
        refine Leaves.bind (Leaves.write fun _ => ⟨rfl, .rfl, rfl, rfl⟩) fun _ => ?_
        apply Leaves.read
        intro quota
        split
        · exact leaves_schedule
        · exact .ret
      exact hrest (fun _ => True) Terms.Stable.true fun h => h.elim
    · rintro w hinv ⟨_, rfl⟩ ⟨name, entry⟩ hrow heq
      change name = key at heq
      subst name
      have hmem := (List.mem_filter.mp (List.mem_of_mem_take hrow)).1
      have hentry : w.state.entry key = some entry :=
        Std.ExtTreeMap.mem_toList_iff_getElem?_eq_some.mp hmem
      exact ⟨.inr (.inl (mem_of_getElem? hentry)), hinv.stored entry hentry⟩
  · exact .ret fun _ _ _ => trivial

/-! ### The acknowledgement of the key -/

theorem settled_of_unreserved (hinv : Inv worker key w)
    (hknown : Known worker key w)
    (h : (w.state.entry key).any (fun entry => entry.state = .reserved) = false) :
    Settled worker key w := by
  have hnone : ∀ size, ¬w.state.Reserves key size := by
    rintro size ⟨entry, hentry, hstate, _⟩
    rw [hentry, Option.any_some, hstate] at h
    cases h
  refine ⟨hknown, fun sent hsent object hlanding => ?_, fun hwriting => ?_⟩
  · exact hnone _ (hinv.landing sent hsent object hlanding).1
  · by_contra hissued
    exact hnone 0 (hinv.reserved hwriting hissued)

theorem triple_discard :
    SpoolTriple worker key event
      (fun w => Settled worker key w ∧ Named worker key w) (WorkerEnv.discard key)
      (fun _ _ => True) fun _ => True := by
  have hstable : (spoolTerms worker key event).Stable fun w =>
      Settled worker key w ∧ Named worker key w := stable_settled.and stable_named
  have hdelete := triple_delete hstable (fun w hw => hw.1) fun w hw => .inr hw.2
  unfold WorkerEnv.discard
  simp only [bind_eq, pure_eq]
  apply Triple.tryCatch
  · apply Triple.bind (hdelete.weaken (fun _ _ h => h) (fun _ _ _ h => h) fun _ _ _ => trivial)
    intro _
    apply (triple_release hstable).bind
    exact fun _ => .ret fun _ _ _ => trivial
  · exact fun _ => .ret fun _ _ _ => trivial

theorem archive_ne {archive : String} (h : worker.env.archivePrefix = .ok archive)
    (hinbox : hasPrefix "inbox/" key = true) (rest : List Char) :
    key ≠ String.ofList (archive.toList ++ rest) := by
  intro heq
  have hkey : key.toList = archive.toList ++ rest := by
    rw [heq, String.toList_ofList]
  simp only [WorkerEnv.archivePrefix] at h
  split at h
  · cases h
  · rename_i hvalid
    cases h
    simp only [Bool.or_eq_true, not_or] at hvalid
    obtain ⟨⟨⟨_, hinside⟩, houtside⟩, _⟩ := hvalid
    rw [hasPrefix, List.isPrefixOf_iff_prefix] at hinbox hinside houtside
    have harchive : (worker.env.policy.archivePrefix.getD "imported/").toList <+: key.toList := by
      rw [hkey]
      exact List.prefix_append _ _
    rcases List.prefix_or_prefix_of_prefix hinbox harchive with hprefix | hprefix
    · exact hinside hprefix
    · exact houtside hprefix

theorem triple_archive (hinbox : hasPrefix "inbox/" key = true) {archive : String}
    (harchive : worker.env.archivePrefix = .ok archive) :
    SpoolTriple worker key event
      (fun w => Settled worker key w ∧ Named worker key w)
      ((worker.env.archiveCopy nowMs key (String.ofList (archive.toList ++
        key.toList.drop "inbox/".toList.length))).bind fun refused =>
          match refused with
          | some response => .ret response
          | none => WorkerEnv.discard key) (fun _ _ => True) fun _ => True := by
  have hcopy : Leaves worker key event True (worker.env.archiveCopy nowMs key
      (String.ofList (archive.toList ++ key.toList.drop "inbox/".toList.length))) :=
    leaves_archiveCopy (archive_ne harchive hinbox _) (leaves_asks rfl fun heq => (by cases heq))
  have hstable : (spoolTerms worker key event).Stable fun w =>
      Settled worker key w ∧ Named worker key w := stable_settled.and stable_named
  apply Triple.bind ((hcopy _ hstable fun _ _ h => h.1.known).weaken (fun _ _ h => h)
    (fun _ _ _ h => h) fun _ _ _ => trivial)
  intro refused
  cases refused with
  | some response => exact .ret fun _ _ _ => trivial
  | none => exact triple_discard

theorem triple_acknowledgeKey {archiveKey : Option Json} (hinbox : hasPrefix "inbox/" key = true) :
    SpoolTriple worker key event (Named worker key)
      (worker.env.acknowledgeKey nowMs key archiveKey) (fun _ _ => True) fun _ => True := by
  unfold WorkerEnv.acknowledgeKey
  simp only [bind_eq, pure_eq]
  cases harchive : worker.env.archivePrefix with
  | error error => exact .fail fun _ _ _ => trivial
  | ok archive =>
    change SpoolTriple worker key event (Named worker key) (if _ then _ else _) _ _
    split
    · exact .ret fun _ _ _ => trivial
    · apply Triple.read
      intro quota
      split
      · exact .ret fun _ _ _ => trivial
      · rename_i hunreserved
        rw [Bool.not_eq_true] at hunreserved
        have hsettled : ∀ w, Inv worker key w →
            Named worker key w ∧ w.state = quota → Settled worker key w ∧ Named worker key w := by
          rintro w hinv ⟨hnamed, rfl⟩
          exact ⟨settled_of_unreserved hinv hnamed.known hunreserved, hnamed⟩
        cases archiveKey with
        | none => exact triple_discard.before hsettled
        | some target =>
          dsimp only
          split
          · exact .ret fun _ _ _ => trivial
          · exact (triple_archive hinbox harchive).before hsettled

theorem leaves_acknowledgeKey {archiveKey : Option Json} (hinbox : hasPrefix "inbox/" key = true)
    (h : key ≠ other) :
    Leaves worker key event knows (worker.env.acknowledgeKey nowMs other archiveKey) := by
  have hother : some other ≠ some key := fun heq => h (Option.some.inj heq).symm
  unfold WorkerEnv.acknowledgeKey
  simp only [bind_eq, pure_eq]
  cases harchive : worker.env.archivePrefix with
  | error error => exact .fail
  | ok archive =>
    change Leaves worker key event knows (if _ then _ else _)
    split
    · exact .ret
    · apply Leaves.read
      intro quota
      split
      · exact .ret
      · cases archiveKey with
        | none => exact leaves_discard h
        | some target =>
          dsimp only
          split
          · exact .ret
          · have hget : Leaves worker key event knows (SpoolOp.get other).run :=
              leaves_run hother
            apply (leaves_archiveCopy (archive_ne harchive hinbox _) hget).bind
            intro refused
            cases refused with
            | some response => exact .ret
            | none => exact leaves_discard h

theorem readChunks_eq_ok {maxBytes size : Nat} {chunks read : List Bytes}
    (h : readChunks maxBytes size chunks = .ok read) : read = chunks := by
  induction chunks generalizing size read with
  | nil =>
    cases h
    rfl
  | cons value rest ih =>
    rw [readChunks] at h
    split at h
    · cases h
    · cases hrest : readChunks maxBytes (size + value.length) rest with
      | error error =>
        rw [hrest] at h
        cases h
      | ok others =>
        rw [hrest] at h
        cases h
        rw [ih hrest]

theorem readBounded_eq_ok {maxBytes : Nat} {chunks : List Bytes} {raw : Bytes}
    (h : readBounded chunks maxBytes = .ok raw) : raw = chunks.flatten := by
  unfold readBounded at h
  cases hread : readChunks maxBytes 0 chunks with
  | error error =>
    rw [hread] at h
    cases h
  | ok read =>
    rw [hread] at h
    cases h
    rw [readChunks_eq_ok hread]

theorem triple_readBody {body : Bytes} {maxBytes : SpoolProgram Nat}
    (hstable : (spoolTerms worker key event).Stable fact)
    (hmax : Leaves worker key event False maxBytes) :
    SpoolTriple worker key event fact (WorkerEnv.readBody body maxBytes)
      (fun raw w => fact w ∧ raw = body) fact := by
  unfold WorkerEnv.readBody
  simp only [bind_eq, pure_eq]
  apply Triple.bind (hmax fact hstable fun h => h.elim)
  intro bound
  have hread : SpoolTriple worker key event fact (SpoolOp.readStream body).run
      (fun chunks w => fact w ∧ (none = some key → Asked key w) ∧ List.flatten chunks = body)
      fact := by
    apply triple_run hstable (fun _ _ h => by cases h) (fun heq => by cases heq)
      (fun heq => by cases heq)
    · exact fun _ _ _ _ h _ _ _ _ => (answers_served h).1
    · exact fun _ => Terms.Stable.const
  apply hread.bind
  intro chunks
  have hraw : SpoolTriple worker key event
      (fun w => fact w ∧ (none = some key → Asked key w) ∧ List.flatten chunks = body)
      (Program.ofExcept (readBounded chunks bound)) (fun raw w => fact w ∧ raw = body) fact := by
    apply Triple.ofExcept
    · exact fun raw hok w _ hw => ⟨hw.1, (readBounded_eq_ok hok).trans hw.2.2⟩
    · exact fun _ _ _ _ hw => hw.1
  apply hraw.bind
  intro raw
  have hbody : (spoolTerms worker key event).Stable fun w => fact w ∧ raw = body :=
    hstable.and Terms.Stable.const
  apply Triple.bind ((leaves_turn _ hbody fun h : False => h.elim).weaken (fun _ _ h => h)
    (fun _ _ _ h => h) fun _ _ hw => hw.1)
  exact fun _ => .ret fun _ _ hw => hw

theorem stable_came {other : SpoolEvent} :
    (spoolTerms worker key event).Stable fun w => other ∈ w.came :=
  stable_of_keeps fun _ _ h hw => h.came hw

/-- Whoever acknowledges a key has named it. -/
theorem triple_acknowledge {request : Request} {draw : Draw}
    (hinbox : hasPrefix "inbox/" key = true) :
    SpoolTriple worker key event (fun w => SpoolEvent.control request draw ∈ w.came)
      (worker.env.acknowledge nowMs request) (fun _ _ => True) fun _ => True := by
  unfold WorkerEnv.acknowledge
  cases hbody : request.body with
  | none => exact .ret fun _ _ _ => trivial
  | some bytes =>
    simp only [bind_eq, pure_eq]
    apply Triple.bind ((triple_readBody stable_came .ret).weaken (fun _ _ h => h)
      (fun _ _ _ h => h) fun _ _ _ => trivial)
    intro raw
    cases hparsed : worker.env.parseJson raw with
    | error error => exact .fail fun _ _ _ => trivial
    | ok parsed =>
      dsimp only [Program.ofExcept, Program.bind]
      split
      · rename_i name hname
        by_cases heq : key = name
        · subst heq
          apply (triple_acknowledgeKey hinbox).before
          rintro w _ ⟨hcame, rfl⟩
          exact ⟨_, hcame, raw, parsed, hbody, hparsed, hname⟩
        · have hleaves : Leaves worker key event False
              (worker.env.acknowledgeKey nowMs name parsed.archiveKey) := leaves_acknowledgeKey hinbox heq
          exact (hleaves (fun _ => True) Terms.Stable.true fun h => h.elim).before
            fun _ _ _ => trivial
      · exact .ret fun _ _ _ => trivial

/-! ### The event that made the key -/

theorem stable_issued : (spoolTerms worker key event).Stable (Issued key) := by
  apply stable_of_keeps
  rintro w w' h ⟨op, hop, horiginal⟩
  obtain ⟨hmem, hcreates⟩ := List.mem_filter.mp hop
  exact ⟨op, List.mem_filter.mpr ⟨h.requests.subset hmem, hcreates⟩, horiginal⟩

theorem Issued.asked (h : Issued key w) : Asked key w := by
  obtain ⟨op, hop, object, rfl, _⟩ := h
  exact ⟨_, (List.mem_filter.mp hop).1, rfl⟩

/-- Where at most the first of some items has a property, its place is determined. -/
theorem index_unique {p : α → Bool} {P : α → Prop} (hp : ∀ item, P item → p item = true)
    {items : List α} (h : ∀ item ∈ (items.filter p).tail, ¬P item) {i j : Nat} {a b : α}
    (hi : items[i]? = some a) (hj : items[j]? = some b) (ha : P a) (hb : P b) : i = j := by
  induction items generalizing i j with
  | nil => cases hi
  | cons first rest ih =>
    by_cases hfirst : p first = true
    · rw [List.filter_cons_of_pos hfirst, List.tail_cons] at h
      have hrest : ∀ index item, rest[index]? = some item → ¬P item := fun index item hindex hP =>
        h item (List.mem_filter.mpr ⟨List.mem_of_getElem? hindex, hp item hP⟩) hP
      cases i with
      | zero =>
        cases j with
        | zero => rfl
        | succ j => exact (hrest j b hj hb).elim
      | succ i => exact (hrest i a hi ha).elim
    · rw [List.filter_cons_of_neg hfirst] at h
      cases i with
      | zero =>
        cases hi
        exact (hfirst (hp _ ha)).elim
      | succ i =>
        cases j with
        | zero =>
          cases hj
          exact (hfirst (hp _ hb)).elim
        | succ j => rw [ih h hi hj]

theorem unawaited_abandon {ticket : Nat} (hinv : Inv worker key w)
    (hreal : object.isFence = false) (hticket : w.requests[ticket]? = some (.create key object))
    {sent : Sent SpoolOp SpoolOp.Reply} (hsent : sent ∈ (w.abandon ticket).sent)
    {other : StoredObject} (hlanding : Landing key other sent) : sent.awaited = false := by
  obtain ⟨index, hindex⟩ := List.mem_iff_getElem?.mp hsent
  have hrequest : w.requests[index]? = some (.create key other) := by
    rw [← World.requests_abandon w ticket, World.requests, List.getElem?_map, hindex,
      Option.map_some, hlanding.request]
  have heq : index = ticket := index_unique (fun _ => SpoolOp.creates_of_isOriginal) hinv.first
    hrequest hticket ⟨other, rfl, hlanding.real⟩ ⟨object, rfl, hreal⟩
  subst heq
  rw [World.abandon, List.getElem?_modify_eq] at hindex
  obtain ⟨prior, _, rfl⟩ := Option.map_eq_some_iff.mp hindex
  rfl

theorem gone_of_refused {ticket : Nat} (hinv : Inv worker key w)
    (h : w.Served worker.platform.service ticket (.create key object) false w')
    (hreal : object.isFence = false) : Gone worker key w' := by
  refine ⟨settled_created hinv h (.inr hreal), ?_⟩
  intro other hother
  have hanswers := answers_served h
  change (if key ∈ w.service then false = false ∧ w'.service = w.service
    else false = true ∧ w'.service = w.service.insert key object) at hanswers
  by_cases hmem : key ∈ w.service
  · rw [if_pos hmem] at hanswers
    have hbefore : RealAt key w other := by
      rw [RealAt, ← hanswers.2]
      exact hother
    exact (reserves_created hinv h hreal).2.1 (hinv.real other hbefore)
  · rw [if_neg hmem] at hanswers
    cases hanswers.1

theorem triple_writeOriginal (hdraws : event.Draws key) (hreal : object.isFence = false)
    (hsize : object.size ≤ size) :
    SpoolTriple worker key event (Owned key size) (WorkerEnv.write key object)
      (fun written w => Asked key w ∧ Settled worker key w ∧
        (written = false → Gone worker key w)) fun _ => True := by
  have hask : SpoolTriple worker key event (Owned key size)
      (Program.ask (SpoolOp.create key object))
      (Replied (fun (written : Bool) w => (∃ ticket : Nat, Issued key w ∧
          w.requests[ticket]? = some (.create key object)) ∧ Settled worker key w ∧
          (written = false → Gone worker key w))
        fun w => Issued key w ∧ ∀ sent ∈ w.sent, ∀ other, Landing key other sent →
          sent.awaited = false) (fun _ => True) := by
    apply Triple.ask (F := fun ticket w =>
      Issued key w ∧ w.requests[ticket]? = some (.create key object)) _ _ _ _ _ guar_refl
    · intro w hinv howned
      obtain ⟨hinv', hkeeps⟩ := send_original hinv howned hreal hsize
      refine ⟨hinv', fun _ hguar => guar_trans hguar ⟨hkeeps, fun h => (h hdraws).elim⟩, ?_, ?_⟩
      · refine ⟨.create key object, List.mem_filter.mpr ⟨?_, decide_eq_true rfl⟩, object, rfl, hreal⟩
        rw [World.requests_send]
        exact List.mem_append_right _ (List.mem_singleton_self _)
      · have hlength : w.requests.length = w.sent.length := List.length_map _
        rw [World.requests_send, ← hlength, List.getElem?_concat_length]
    · intro ticket
      apply stable_issued.and
      apply stable_of_keeps
      intro w w' h hw
      obtain ⟨rest, hrest⟩ := h.requests
      rw [← hrest, List.getElem?_append_left (List.getElem?_eq_some_iff.mp hw).1]
      exact hw
    · intro later ticket written served h hinv _ _ _
      refine ⟨settled_created hinv h (.inr hreal), ?_⟩
      rintro rfl
      exact gone_of_refused hinv h hreal
    · exact fun _ => stable_settled.and stable_gone.imp
    · rintro later ticket hinv ⟨hissued, hticket⟩
      have hmoves : Moves worker key later (later.abandon ticket) :=
        beside_abandon.moves hinv fun _ => known_abandon
      have hstable : (spoolTerms worker key event).Stable (Issued key) := stable_issued
      refine ⟨hmoves.inv, hmoves.guar, hstable _ _ hmoves.rely hissued, ?_⟩
      exact fun sent hsent other => unawaited_abandon hinv hreal hticket hsent
  unfold WorkerEnv.write
  simp only [bind_eq]
  apply hask.bind
  intro outcome
  -- However the write ended, this instance awaits it no longer.
  have hforget : SpoolTriple worker key event
      (Replied (fun (written : Bool) w => (∃ ticket : Nat, Issued key w ∧
          w.requests[ticket]? = some (.create key object)) ∧ Settled worker key w ∧
          (written = false → Gone worker key w))
        (fun w => Issued key w ∧ ∀ sent ∈ w.sent, ∀ other, Landing key other sent →
          sent.awaited = false) outcome)
      (Program.write (SpoolQuota.stopWriting key))
      (fun _ => Replied (fun (written : Bool) w => Asked key w ∧ Settled worker key w ∧
        (written = false → Gone worker key w)) (fun _ => True) outcome) fun _ => True := by
    apply Triple.write
    intro w hinv hw
    cases outcome with
    | ok written =>
      obtain ⟨⟨_, hissued, _⟩, hsettled, hgone⟩ := hw
      have hmoves := moves_stopWriting hinv hissued fun sent hsent other hlanding =>
        (hsettled.landed sent hsent other hlanding).elim
      exact ⟨hmoves.inv, fun _ hguar => guar_trans hguar hmoves.guar, hissued.asked,
        hmoves.keeps.settled hsettled, fun heq => hmoves.keeps.gone (hgone heq)⟩
    | error error =>
      have hmoves := moves_stopWriting hinv hw.1 hw.2
      exact ⟨hmoves.inv, fun _ hguar => guar_trans hguar hmoves.guar, trivial⟩
  apply hforget.bind
  intro _
  have hstable : (spoolTerms worker key event).Stable
      (Replied (fun (written : Bool) w => Asked key w ∧ Settled worker key w ∧
        (written = false → Gone worker key w)) (fun _ => True) outcome) := by
    cases outcome with
    | ok written => exact stable_asked.and (stable_settled.and stable_gone.imp)
    | error error => exact Terms.Stable.true
  apply Triple.bind ((leaves_turn _ hstable fun h : False => h.elim).weaken (fun _ _ h => h)
    (fun _ _ _ h => h) fun _ _ _ => trivial)
  intro _
  apply Triple.ofExcept
  · rintro written rfl w _ hw
    exact hw
  · exact fun _ _ _ _ _ => trivial

theorem triple_committed {abort : SpoolWorld → Prop} :
    SpoolTriple worker key event
      (fun w => Asked key w ∧ Settled worker key w)
      (Program.write (SpoolQuota.committed key)) (fun _ _ => True) abort := by
  apply Triple.write
  rintro w hinv ⟨hasked, hsettled⟩
  have hmoves := moves_committed hinv hsettled hasked
  exact ⟨hmoves.inv, fun _ hguar => guar_trans hguar hmoves.guar, trivial⟩

theorem triple_storeMessage {raw : Bytes} {metadata : List (String × String)}
    (hdraws : event.Draws key)
    (hfence : (metadata.filter (·.1 ≠ "quota_managed") ++ [("quota_managed", "true")]).lookup
      "spool_fence" = none) :
    SpoolTriple worker key event (Owned key raw.length)
      (WorkerEnv.storeMessage key raw metadata) (fun _ _ => True) fun _ => True := by
  unfold WorkerEnv.storeMessage
  simp only [bind_eq, pure_eq]
  have hwrite : SpoolTriple worker key event (Owned key raw.length)
      (WorkerEnv.write key ⟨raw, some "message/rfc822",
        metadata.filter (·.1 ≠ "quota_managed") ++ [("quota_managed", "true")]⟩)
      (fun written w => Asked key w ∧ Settled worker key w ∧
        (written = false → Gone worker key w)) fun _ => True :=
    triple_writeOriginal hdraws (by rw [StoredObject.isFence, hfence]; rfl) (Nat.le_refl _)
  apply hwrite.bind
  intro written
  cases written with
  | false =>
    rw [if_pos (show (!false) = true from rfl)]
    apply Triple.bind ((triple_release Terms.Stable.true).before fun w _ ⟨hasked, _, hgone⟩ =>
      ⟨trivial, hasked, hgone rfl⟩)
    exact fun _ => .ret fun _ _ _ => trivial
  | true =>
    rw [if_neg (by decide)]
    apply Triple.bind (triple_committed.before fun w _ ⟨hasked, hsettled, _⟩ => ⟨hasked, hsettled⟩)
    exact fun _ => .ret fun _ _ _ => trivial

theorem stable_unknown (hdraws : event.Draws key) :
    (spoolTerms worker key event).Stable fun w =>
      Drawn key w ∧ ¬Known worker key w :=
  fun _ _ hrely hw => ⟨hrely.1.drawn hw.1, (hrely.2 hdraws).unknown hw.1 hw.2⟩

theorem stable_owned (hdraws : event.Draws key) :
    (spoolTerms worker key event).Stable fun w => Drawn key w ∧ Owned key size w :=
  fun _ _ hrely hw => ⟨hrely.1.drawn hw.1, (hrely.2 hdraws).owned hw.1 size hw.2⟩

/-- The reservation of a new key, and what goes on with it in the same step. -/
theorem triple_reserve {α : Type} {refused : SpoolProgram α} {rest : SpoolProgram α}
    (hdraws : event.Draws key)
    (hrefused : SpoolTriple worker key event (fun _ => True) refused (fun _ _ => True)
      fun _ => True)
    (hrest : SpoolTriple worker key event
      (fun w => Drawn key w ∧ Owned key size w) rest (fun _ _ => True) fun _ => True) :
    SpoolTriple worker key event
      (fun w => (Drawn key w ∧ ¬Known worker key w) ∧ w.state.initialized = true)
      ((worker.env.reserve nowMs key size none true).bind fun admitted =>
        if !admitted then refused
        else (Program.write (SpoolQuota.startWriting key)).bind fun _ => rest)
      (fun _ _ => True) fun _ => True := by
  unfold WorkerEnv.reserve
  simp only [bind_eq, pure_eq, bind_assoc]
  have hpolicy : SpoolTriple worker key event
      (fun w => (Drawn key w ∧ ¬Known worker key w) ∧ w.state.initialized = true)
      (Program.ofExcept (limits worker.env.number worker.env.policy))
      (fun _ w => (Drawn key w ∧ ¬Known worker key w) ∧ w.state.initialized = true)
      fun _ => True := Triple.ofExcept (fun _ _ _ _ h => h) fun _ _ _ _ _ => trivial
  apply hpolicy.bind
  intro policy
  apply Triple.read
  intro quota
  cases hreserved : quota.reserved policy nowMs key size none true with
  | none =>
    change SpoolTriple worker key event _ refused _ _
    exact hrefused.before fun _ _ _ => trivial
  | some quota' =>
    intro start now hat
    obtain ⟨⟨⟨hdrawn, hunknown⟩, hinitialized⟩, rfl⟩ := hat.fact
    obtain ⟨_, hobjects, hwriting, hinit, _⟩ := reserved_eq hreserved
    have hrow : (SpoolQuota.startWriting key quota').Reserves key size := by
      refine ⟨⟨size, .reserved, none⟩, ?_, rfl, Nat.le_refl _⟩
      change quota'.objects[key]? = _
      rw [hobjects, Std.ExtTreeMap.getElem?_insert_self]
    obtain ⟨hinv, hkeeps, howned⟩ := reserve_unknown hat.inv hunknown hrow List.mem_cons_self
      (hinit.trans hinitialized)
    apply hrest start (now.change fun _ => SpoolQuota.startWriting key quota')
    exact ⟨hinv, guar_trans hat.guar ⟨hkeeps, fun h => (h hdraws).elim⟩, hdrawn, howned⟩

theorem leaves_putBody {body : Bytes} :
    Leaves worker key event knows
      (((WorkerEnv.readBody body worker.env.maxMessageBytes).bind fun raw => .ret (some raw)).tryCatch
        fun error => if error = .limitExceeded then .ret none else .fail error) := by
  apply Leaves.tryCatch
  · exact (leaves_readBody leaves_maxMessageBytes).bind fun _ => .ret
  · intro error
    split
    · exact .ret
    · exact .fail

/-- The event that makes the key stores one message under it. -/
theorem triple_put {message : EmailMessage} {draw : Draw} (hdraws : event.Draws draw.key) :
    SpoolTriple worker draw.key event
      (fun w => (Drawn draw.key w ∧ ¬Known worker draw.key w) ∧ w.state.initialized = true)
      (worker.env.put draw (WorkerEnv.spoolRequest message)) (fun _ _ => True) fun _ => True := by
  have hnew : (spoolTerms worker draw.key event).Stable fun w =>
      (Drawn draw.key w ∧ ¬Known worker draw.key w) ∧ w.state.initialized = true :=
    (stable_unknown hdraws).and stable_initialized
  unfold WorkerEnv.put WorkerEnv.spoolRequest
  simp only [bind_eq, pure_eq, throw_eq]
  apply Triple.bind ((leaves_putBody _ hnew fun h : False => h.elim).weaken (fun _ _ h => h)
    (fun _ _ _ h => h) fun _ _ _ => trivial)
  intro raw?
  cases raw? with
  | none => exact .ret fun _ _ _ => trivial
  | some raw =>
    dsimp only [Program.ofExcept, Program.bind]
    apply triple_reserve hdraws
    · exact .ret fun _ _ _ => trivial
    · apply Triple.bind ((leaves_schedule _ (stable_owned hdraws) fun h : False => h.elim).weaken
        (fun _ _ h => h) (fun _ _ _ h => h) fun _ _ _ => trivial)
      intro _
      apply Triple.tryCatch ((triple_storeMessage hdraws (by simp)).before fun _ _ hw => hw.2)
      exact fun _ => .ret fun _ _ _ => trivial

theorem leaves_put {request : Request} {draw : Draw} (h : key ≠ draw.key) :
    Leaves worker key event knows (worker.env.put draw request) := by
  unfold WorkerEnv.put
  cases request.body with
  | none => exact .ret
  | some body =>
    simp only [bind_eq, pure_eq, throw_eq]
    apply leaves_putBody.bind
    intro raw?
    cases raw? with
    | none => exact .ret
    | some raw =>
      apply Leaves.ofExcept.bind
      intro metadata
      apply (leaves_reserve h).bind
      intro admitted
      split
      · exact .ret
      · refine Leaves.bind (.write (sameAt_startWriting h)) fun _ => leaves_schedule.bind fun _ => ?_
        exact (leaves_storeMessage h).tryCatch fun _ => .ret

theorem triple_fetch {request : Request} {draw : Draw}
    (hstable : (spoolTerms worker key event).Stable fact)
    (hput : request.method = "POST" ∧ request.path = "/put" →
      SpoolTriple worker key event (fun w => fact w ∧ w.state.initialized = true)
        (worker.env.put draw request) (fun _ _ => True) fun _ => True)
    (hack : request.method = "POST" ∧ request.path = "/v1/ack" →
      SpoolTriple worker key event fact (worker.env.acknowledge draw.nowMs request)
        (fun _ _ => True) fun _ => True) :
    SpoolTriple worker key event fact (worker.env.fetch draw request) (fun _ _ => True)
      fun _ => True := by
  unfold WorkerEnv.fetch
  simp only [bind_eq, pure_eq]
  have hpolicy : SpoolTriple worker key event fact
      (Program.ofExcept (limits worker.env.number worker.env.policy)) (fun _ => fact) fun _ => True :=
    Triple.ofExcept (fun _ _ _ _ h => h) fun _ _ _ _ _ => trivial
  apply Triple.tryCatch
  · apply hpolicy.bind
    intro policy
    apply Triple.bind ((triple_initialization hstable).weaken (fun _ _ h => h) (fun _ _ _ h => h)
      fun _ _ _ => trivial)
    intro ready
    split
    · exact .ret fun _ _ _ => trivial
    · rename_i hready
      rw [Bool.not_eq_true', Bool.not_eq_false] at hready
      split
      · rename_i hroute
        exact (hput hroute).before fun w _ hw => ⟨hw.1, hw.2 hready⟩
      · split
        · rename_i hroute
          exact (hack hroute).before fun w _ hw => hw.1
        · split
          · apply Triple.read
            exact fun _ => .ret fun _ _ _ => trivial
          · exact .ret fun _ _ _ => trivial
  · exact fun _ => .ret fun _ _ _ => trivial

end Key

/-! ### Whole runs -/

/-- What an event comes with: it is there, and nobody knows the key that it makes. -/
def Arrived (worker : Worker) (key : String) (event : SpoolEvent)
    (w : SpoolWorld) : Prop :=
  event ∈ w.came ∧ (event.Draws key → Drawn key w ∧ ¬Known worker key w)

theorem triple_email {message : EmailMessage} {draw : Draw} :
    SpoolTriple worker key (.email message draw)
      (Arrived worker key (.email message draw))
      (worker.env.fetch draw (WorkerEnv.spoolRequest message)) (fun _ _ => True) fun _ => True := by
  have hnot : ∀ {p : Prop}, ("POST" = "POST" ∧ "/put" = "/v1/ack") → p := by
    intro p h
    simp at h
  by_cases heq : key = draw.key
  · subst heq
    have hdraws : SpoolEvent.Draws draw.key (.email message draw) := rfl
    apply Triple.before (triple_fetch (stable_unknown hdraws) (fun _ => triple_put hdraws) hnot)
    exact fun w _ hw => hw.2 hdraws
  · have hput : Leaves worker key (.email message draw) False
        (worker.env.put draw (WorkerEnv.spoolRequest message)) := leaves_put heq
    have htrue := hput (fun _ => True) Terms.Stable.true fun h => h.elim
    apply Triple.before (triple_fetch Terms.Stable.true
      (fun _ => htrue.before fun _ _ _ => trivial) hnot)
    exact fun _ _ _ => trivial

theorem triple_control {request : Request} {draw : Draw} (hinbox : hasPrefix "inbox/" key = true)
    (hcontrol : WorkerEnv.isControl request = true) :
    SpoolTriple worker key (.control request draw)
      (Arrived worker key (.control request draw)) (worker.env.fetch draw request)
      (fun _ _ => True) fun _ => True := by
  apply Triple.before (triple_fetch stable_came _ fun _ => triple_acknowledge hinbox)
  · exact fun w _ hw => hw.1
  · rintro ⟨_, hpath⟩
    simp [WorkerEnv.isControl, hpath] at hcontrol

theorem triple_handler (hinbox : hasPrefix "inbox/" key = true) :
    SpoolTriple worker key event (Arrived worker key event)
      (SpoolEvent.handler worker.env event) (fun _ _ => True) fun _ => True := by
  cases event with
  | email message draw => exact triple_email.bind fun _ => .ret fun _ _ _ => trivial
  | control request draw =>
    simp only [SpoolEvent.handler]
    by_cases hcontrol : WorkerEnv.isControl request = true
    · rw [if_pos hcontrol]
      exact (triple_control hinbox hcontrol).bind fun _ => .ret fun _ _ _ => trivial
    · rw [if_neg hcontrol]
      exact .ret fun _ _ _ => trivial
  | alarm =>
    apply (triple_alarm.before fun _ _ _ => trivial).bind
    exact fun _ => .ret fun _ _ _ => trivial

theorem arrives (hinv : Inv worker key w) (hadmits : Admits worker event w) :
    (spoolTerms worker key event).At (Arrived worker key event) w
      (w.arrive event) := by
  have hbeside : Beside worker key w (w.arrive event) := beside_arrive
  have hmem : event ∈ (w.arrive event).came :=
    List.mem_append_right _ (List.mem_singleton_self _)
  have hknown : Known worker key (w.arrive event) →
      Known worker key w ∨ event.Names worker.env key := by
    rintro (h | h | h | h | ⟨other, hother, hnames⟩)
    · exact .inl (.inl h)
    · exact .inl (.inr (.inl h))
    · exact .inl (.inr (.inr (.inl h)))
    · exact .inl (.inr (.inr (.inr (.inl h))))
    · rcases List.mem_append.mp hother with hother | hother
      · exact .inl (.inr (.inr (.inr (.inr ⟨other, hother, hnames⟩))))
      · rw [List.mem_singleton] at hother
        rw [← hother]
        exact .inr hnames
  refine ⟨hbeside.inv hinv, ⟨hbeside.keeps, fun _ => hbeside.spares ?_⟩, hmem, ?_⟩
  · intro hdrawn hafter
    rcases hknown hafter with hbefore | hnames
    · exact hbefore
    · exact hadmits.2 key hnames hdrawn
  · intro hdraws
    refine ⟨⟨event, hmem, hdraws⟩, fun hafter => ?_⟩
    rcases hknown hafter with hbefore | hnames
    · exact (hadmits.1 key hdraws).1 hbefore
    · cases event with
      | email message draw => exact hnames
      | control request draw => exact hdraws
      | alarm => exact hdraws

theorem spoolAccord_holds (hinbox : hasPrefix "inbox/" key = true) :
    (spoolAccord worker key).Holds (spoolHost worker) where
  refl _ w := ⟨.refl w, fun _ => .refl w⟩
  trans _ _ _ _ h h' := ⟨h.1.trans h'.1, fun hdraws => (h.2 hdraws).trans h.1 (h'.2 hdraws)⟩
  served _ _ _ _ _ hinv h := by
    have hmoves := moves_served hinv h
    exact ⟨hmoves.inv, fun _ => hmoves.rely⟩
  drifted w _ hinv h := by
    obtain ⟨other, rfl⟩ := worker.platform.outside _ _ h
    have hmoves : Moves worker key w { w with service := w.service.erase other } :=
      beside_drift.moves hinv fun _ hafter => hafter
    exact ⟨hmoves.inv, fun _ => hmoves.rely⟩
  rebooted _ hinv := inv_reboot hinv
  granted _ _ _ _ hapart _ _ h :=
    ⟨h.1, fun hother => h.2 fun hdraws => hapart ⟨hdraws, hother⟩⟩
  admitted _ _ hadmits other hother := by
    have hapart : ¬(_ ∧ other.Draws key) := fun hboth =>
      (hadmits.1 key hboth.1).2 other hother hboth.2
    exact ⟨hapart, fun hboth => hapart hboth.symm⟩
  handled _ w hinv hadmits := by
    apply (triple_handler hinbox w _ (arrives hinv hadmits)).mono
    · exact fun _ _ _ hat => ⟨hat.inv, hat.guar⟩
    · exact fun _ _ _ hat => ⟨hat.inv, hat.guar⟩

theorem inv_unadopted : Inv worker key (unadopted worker) := by
  have hnone : (unadopted worker).state.entry key = none := Std.ExtTreeMap.getElem?_empty
  have hsettled : ∀ object : StoredObject, worker.initial[key]? = some object →
      Settled worker key (unadopted worker) := fun object hobject =>
    ⟨.inl (mem_of_getElem? hobject), fun _ hsent => (by cases hsent), fun h => (by cases h)⟩
  refine ⟨fun object _ => .inr ⟨hnone, rfl, rfl⟩, fun object hreal => hsettled object hreal.1, ?_,
    ?_, fun _ hsent => (by cases hsent), fun h => (by cases h), ?_, fun _ h => (by cases h),
    fun _ h => (by cases h), fun h => (by cases h)⟩
  · intro object hobject hfence
    refine ⟨hsettled object hobject, ?_⟩
    rintro other ⟨hother, hreal⟩
    have hsame : other = object := Option.some.inj (hother.symm.trans hobject)
    rw [hsame, hfence] at hreal
    cases hreal
  · intro entry hentry
    rw [hnone] at hentry
    cases hentry
  · rintro (h | ⟨_, hop, _⟩)
    · cases h
    · cases hop

section Reached
variable {pool pool' : SpoolPool}

theorem inv_reached (hinbox : hasPrefix "inbox/" key = true)
    (h : Pool.Reaches (spoolHost worker) (unadopted worker) pool) :
    Inv worker key pool.world :=
  (Pool.Reaches.sound (spoolAccord_holds hinbox) inv_unadopted h).inv

theorem mem_inboxMail {bucket : Bucket} {row : String × StoredObject} (h : row ∈ inboxMail bucket) :
    hasPrefix "inbox/" row.1 = true ∧ bucket[row.1]? = some row.2 ∧ row.2.isFence = false := by
  obtain ⟨hrow, hmail⟩ := List.mem_filter.mp h
  rw [Bool.and_eq_true, Bool.not_eq_true'] at hmail
  exact ⟨hmail.1, Std.ExtTreeMap.mem_toList_iff_getElem?_eq_some.mp hrow, hmail.2⟩

theorem nodup_inboxMail (bucket : Bucket) : ((inboxMail bucket).map Prod.fst).Nodup := by
  have hkeys : (bucket.toList.map Prod.fst).Nodup := by
    rw [Std.ExtTreeMap.map_fst_toList_eq_keys]
    exact bucket.nodup_keys
  exact hkeys.sublist (List.filter_sublist.map Prod.fst)

/-- What stood under the key is gone though no operation was carried out. -/
def RemovedOutside (key : String) (before next : SpoolPool) : Prop :=
  key ∈ before.world.service ∧ key ∉ next.world.service ∧ next.world.sent = before.world.sent

/-- A step by which nobody else removes what stands under the key. -/
def StepBeside (worker : Worker) (key : String) (before next : SpoolPool) : Prop :=
  Pool.Step (spoolHost worker) before next ∧ ¬RemovedOutside key before next

theorem not_removedOutside (h : pool'.world.service = pool.world.service) :
    ¬RemovedOutside key pool pool' :=
  fun ⟨hmem, hgone, _⟩ => hgone (by rwa [h])

theorem reaches_beside (h : Pool.Reaches (spoolHost worker) w pool)
    (hrun : ReflTransGen (StepBeside worker key) pool pool') :
    Pool.Reaches (spoolHost worker) w pool' := by
  induction hrun with
  | refl => exact h
  | tail _ hstep ih => exact ih.step hstep.1

theorem beside_refl (key : String) (_ : Pool.Reaches (spoolHost worker) w pool) :
    ReflTransGen (StepBeside worker key) pool pool :=
  .refl

theorem beside_reply {first : SpoolPool} {t : Bucket}
    {task : Task SpoolQuota SpoolOp SpoolEvent SpoolOp.Reply SpoolError (Option Response)}
    (hrun : ReflTransGen (StepBeside worker key) first pool) (value : task.request.Reply)
    (htasks : pool.tasks = [task])
    (hsent : pool.world.sent = pool.world.sent.take task.ticket ++
      ⟨task.request, none, true, false⟩ :: pool.world.sent.drop (task.ticket + 1))
    (hanswers : worker.platform.service.answers task.request pool.world.service value t) :
    ReflTransGen (StepBeside worker key) first (Pool.resumed task.label
      ((task.next (.ok value)).advance (pool.world.answer worker.platform.service task.ticket
        task.request value true t)) [] []) := by
  have hreply : _ ∧ Pool.Step (spoolHost worker) _ _ ∧ _ :=
    Pool.Step.reply value htasks hsent hanswers
  obtain ⟨hserved, hstep, hresumed⟩ := hreply
  exact (hrun.tail ⟨hstep, fun h => hserved.sent_ne h.2.2⟩).tail
    ⟨hresumed, not_removedOutside (Program.service_advance _ _)⟩

/-! ### The run of a letter -/

/-- If the fence is created the original can no longer commit. -/
def fencesOff : (op : SpoolOp) → op.Reply → SpoolOp → Bool
  | .create key object, written, .create other _ => written && object.isFence && other == key
  | _, _, _ => false

/-- A platform that does all that one may. -/
def strictPlatform : Platform where
  after cursor key := decide (cursor < key)
  service :=
    { answers := answers fun cursor key => decide (cursor < key)
      rulesOut := fencesOff
      drifts := fun bucket bucket' => ∃ key : String, bucket' = bucket.erase key }
  consistent _ _ _ _ h := h
  fenced key fence object h := by simp [fencesOff, h]
  outside _ _ h := h

/-- The worker as it is configured by default, before an empty bucket. All bodies are read as
acknowledgements of the letter. -/
def defaultWorker : Worker where
  env :=
    { policy := {}
      number := fun _ => none
      parseJson := fun _ => .ok ⟨some (.string "inbox/t-u.eml"), none⟩ }
  platform := strictPlatform
  initial := ∅

def letter : SpoolEvent :=
  .email ⟨"a@x.org", "b@y.org", "2026-01-01T00:00:00Z", [0x41]⟩ ⟨"t", "u", 0⟩

def acknowledgement : SpoolEvent :=
  .control ⟨"POST", "/v1/ack", some [0x7b], .ok []⟩ ⟨"v", "w", 1⟩

def letterObject : StoredObject where
  body := [0x41]
  contentType := some "message/rfc822"
  customMetadata := [("envelope_from", "a@x.org"), ("envelope_to", "b@y.org"),
    ("received_rfc3339", "2026-01-01T00:00:00Z"), ("quota_managed", "true")]

def letterBucket : Bucket := (∅ : Bucket).insert "inbox/t-u.eml" letterObject

theorem admits_letter : Admits defaultWorker letter (unadopted defaultWorker) := by
  refine ⟨fun key _ => ⟨?_, fun _ hother => (by cases hother)⟩, fun _ hnames => (by cases hnames)⟩
  rintro (h | h | h | ⟨_, h, _⟩ | ⟨_, h, _⟩)
  · exact Std.ExtTreeMap.not_mem_empty h
  · exact Std.ExtTreeMap.not_mem_empty h
  · cases h
  · cases h
  · cases h

theorem admits_alarm : Admits worker .alarm w :=
  ⟨fun _ hdraws => (by cases hdraws), fun _ hnames => (by cases hnames)⟩

theorem admits_acknowledgement (h : SpoolOp.create "inbox/t-u.eml" letterObject ∈ w.requests) :
    Admits defaultWorker acknowledgement w := by
  refine ⟨fun _ hdraws => (by cases hdraws), ?_⟩
  rintro _ ⟨_, _, _, hparsed, hkey⟩ _
  cases hparsed
  cases hkey
  exact .inr (.inr (.inr (.inl ⟨_, h, rfl⟩)))

/-- The reply of the write is lost, and the alarm sees no object before the write is carried out
after all; so its fence is refused and the letter stays charged, until it is acknowledged. -/
theorem letter_runs : ∃ landed settled acknowledged : SpoolPool,
    Pool.Reaches (spoolHost defaultWorker) (unadopted defaultWorker) landed ∧
    landed.world.service = letterBucket ∧
    ReflTransGen (StepBeside defaultWorker "inbox/t-u.eml") landed settled ∧
    settled.world.service = letterBucket ∧ settled.world.state.initialized = true ∧
    settled.world.came = [letter, .alarm] ∧
    ReflTransGen (StepBeside defaultWorker "inbox/t-u.eml") settled acknowledged ∧
    acknowledged.world.service = letterBucket.erase "inbox/t-u.eml" := by
  have harrived : Pool.Reaches (spoolHost defaultWorker) (unadopted defaultWorker) _ :=
    Pool.Reaches.start.step (.arrived admits_letter)
  have hempty : Lists strictPlatform.after none 1000 ∅ ⟨[], none⟩ :=
    ⟨fun _ _ h => (by cases h), fun _ _ h => (by cases h), Nat.zero_le _⟩
  have hinitialize := harrived.reply () rfl rfl rfl
  have hlisted := hinitialize.reply (Page.mk [] none) rfl rfl (by exact ⟨hempty, rfl⟩)
  have hready := hlisted.reply () rfl rfl rfl
  have hread := hready.reply [[0x41]] rfl rfl (by exact ⟨rfl, rfl⟩)
  have hreserved := hread.reply () rfl rfl rfl
  have hscheduled := hreserved.reply (some 0) rfl rfl rfl
  have hwriting := hscheduled.reply () rfl rfl rfl
  have hlost := hwriting.step (show Pool.Step _ ⟨_, [] ++ _ :: []⟩ _ from
    .failed (.thrown "Network connection lost."))
  have hunknown := hlost.reply () rfl rfl rfl
  have halarm := hunknown.step (.arrived admits_alarm)
  have hentries := halarm.reply () rfl rfl rfl
  have hmissing := hentries.reply none rfl rfl (by exact ⟨rfl, rfl⟩)
  have hcreated : strictPlatform.service.answers (.create "inbox/t-u.eml" letterObject) ∅ true
      letterBucket := by
    simp [strictPlatform, answers, letterBucket]
  have hlanded := hmissing.step (.served (World.served_answer 7
    (SpoolOp.create "inbox/t-u.eml" letterObject) true rfl (by exact hcreated)))
  have hrefused : strictPlatform.service.answers (.create "inbox/t-u.eml" WorkerEnv.fence)
      letterBucket false letterBucket := by
    simp [strictPlatform, answers, letterBucket]
  have hfound : some letterObject = letterBucket["inbox/t-u.eml"]? :=
    Std.ExtTreeMap.getElem?_insert_self.symm
  have hfenced := beside_reply (beside_refl "inbox/t-u.eml" hlanded) false rfl rfl
    (by exact hrefused)
  have hobserved := beside_reply hfenced (some letterObject) rfl rfl (by exact ⟨hfound, rfl⟩)
  have hturned := beside_reply hobserved () rfl rfl rfl
  have hrescheduled := beside_reply hturned (some 0) rfl rfl rfl
  have hsettled := beside_reply hrescheduled () rfl rfl rfl
  have hasked := (beside_refl "inbox/t-u.eml" (reaches_beside hlanded hsettled)).tail
    ⟨.arrived (admits_acknowledgement (List.mem_of_getElem? (i := 7) rfl)),
      not_removedOutside (Program.service_advance _ _)⟩
  have hinitialized := beside_reply hasked () rfl rfl rfl
  have hbody := beside_reply hinitialized [[0x7b]] rfl rfl (by exact ⟨rfl, rfl⟩)
  have hkey := beside_reply hbody () rfl rfl rfl
  have hdeleted := beside_reply hkey () rfl rfl rfl
  exact ⟨_, _, _, hlanded, rfl, hsettled, rfl, rfl, rfl, hdeleted, rfl⟩

/-- Once the bucket is taken over the ledger accounts for all mail in the inbox, in every order
of events, answers, failures and restarts. -/
theorem inbox_charged (h : Pool.Reaches (spoolHost worker) (unadopted worker) pool)
    (hinitialized : pool.world.state.initialized = true) :
    (∀ row ∈ inboxMail pool.world.service, pool.world.state.Charges row.1 row.2) ∧
      (inboxMail pool.world.service).length ≤ pool.world.state.usage.objectCount ∧
      ((inboxMail pool.world.service).map fun row => row.2.size).sum ≤
        pool.world.state.usage.usedBytes := by
  have hcharges : ∀ row ∈ inboxMail pool.world.service, pool.world.state.Charges row.1 row.2 := by
    intro row hrow
    obtain ⟨hinbox, hreal⟩ := mem_inboxMail hrow
    rcases (inv_reached hinbox h).charged row.2 hreal with hcharges | ⟨_, hnot, _⟩
    · exact hcharges
    · rw [hinitialized] at hnot
      cases hnot
  have hdistinct := nodup_inboxMail pool.world.service
  exact ⟨hcharges, Growth.length_le_of_matched hdistinct hcharges,
    Growth.sum_le_of_matched hdistinct hcharges⟩

/-- The letter is charged though the reply of its write was lost. -/
theorem inbox_charged_letter : ∃ pool,
    Pool.Reaches (spoolHost defaultWorker) (unadopted defaultWorker) pool ∧
    inboxMail pool.world.service = [("inbox/t-u.eml", letterObject)] ∧
    1 ≤ pool.world.state.usage.objectCount ∧ 1 ≤ pool.world.state.usage.usedBytes := by
  obtain ⟨_, pool, _, hlanded, _, hrun, hservice, hinitialized, _⟩ := letter_runs
  have hreached := reaches_beside hlanded hrun
  have hmail : inboxMail pool.world.service = [("inbox/t-u.eml", letterObject)] := by
    rw [hservice, inboxMail, letterBucket, toList_insert_empty]
    rfl
  obtain ⟨_, hcount, hbytes⟩ := inbox_charged hreached hinitialized
  rw [hmail] at hcount hbytes
  exact ⟨pool, hreached, hmail, hcount, hbytes⟩

/-- One step takes mail away only where it was acknowledged, or from outside. -/
theorem mail_stays_step (hinbox : hasPrefix "inbox/" key = true)
    (h : Pool.Reaches (spoolHost worker) (unadopted worker) pool)
    (hstep : Pool.Step (spoolHost worker) pool pool') (houtside : ¬RemovedOutside key pool pool')
    (hreal : RealAt key pool.world object) :
    RealAt key pool'.world object ∨ Named worker key pool.world := by
  have hsame : pool'.world.service[key]? = pool.world.service[key]? →
      RealAt key pool'.world object := fun heq => ⟨heq.trans hreal.1, hreal.2⟩
  rcases hstep.service_cases with ⟨ticket, op, value, hserved⟩ | ⟨bucket, hdrifts, hworld⟩ | hservice
  · have hanswers := answers_served hserved
    have hkept : pool'.world.service = pool.world.service → RealAt key pool'.world object :=
      fun heq => hsame (by rw [heq])
    cases op with
    | turn => exact .inl (hkept hanswers)
    | readStream body => exact .inl (hkept hanswers.2)
    | getAlarm => exact .inl (hkept hanswers)
    | setAlarm delayMs => exact .inl (hkept hanswers)
    | list cursor limit => exact .inl (hkept hanswers.2)
    | head other => exact .inl (hkept hanswers.2)
    | get other => exact .inl (hkept hanswers.2)
    | create other created =>
      change (if other ∈ pool.world.service
        then value = false ∧ pool'.world.service = pool.world.service
        else value = true ∧ pool'.world.service = pool.world.service.insert other created)
        at hanswers
      by_cases hmem : other ∈ pool.world.service
      · rw [if_pos hmem] at hanswers
        exact .inl (hkept hanswers.2)
      · rw [if_neg hmem] at hanswers
        have hne : key ≠ other := by
          rintro rfl
          exact hmem (mem_of_getElem? hreal.1)
        exact .inl (hsame (by rw [hanswers.2, getElem?_insert_ne hne]))
    | delete other =>
      have herased : pool'.world.service = pool.world.service.erase other := hanswers
      by_cases heq : key = other
      · subst heq
        obtain ⟨before, awaited, rest, hsent, _⟩ := hserved.split
        have hrequest : SpoolOp.delete key ∈ pool.world.requests := by
          rw [World.requests, hsent]
          simp
        rcases (inv_reached hinbox h).removed hrequest with hgone | hnamed
        · exact (hgone.absent object hreal).elim
        · exact .inr hnamed
      · exact .inl (hsame (by rw [herased, getElem?_erase_ne heq]))
  · obtain ⟨other, rfl⟩ := worker.platform.outside _ _ hdrifts
    have hne : key ≠ other := by
      rintro rfl
      rw [RemovedOutside, hworld] at houtside
      exact houtside ⟨mem_of_getElem? hreal.1, by simp, rfl⟩
    exact .inl (hsame (by rw [hworld, getElem?_erase_ne hne]))
  · exact .inl (hsame (by rw [hservice]))

/-- Mail that came to stand in the inbox stays there as it is through whatever follows, until its
acknowledgement is asked for or it is removed from outside. -/
theorem mail_stays (hinbox : hasPrefix "inbox/" key = true)
    (h : Pool.Reaches (spoolHost worker) (unadopted worker) pool)
    (hreal : RealAt key pool.world object)
    (hrun : ReflTransGen (StepBeside worker key) pool pool') :
    RealAt key pool'.world object ∨ Named worker key pool'.world := by
  induction hrun with
  | refl => exact .inl hreal
  | tail hrun hstep ih =>
    rcases ih with hreal | hnamed
    · exact (mail_stays_step hinbox (reaches_beside h hrun) hstep.1 hstep.2 hreal).imp_right
        (Named.mono hstep.1.came_subset)
    · exact .inr (hnamed.mono hstep.1.came_subset)

/-- The letter stays when the fence is refused, and goes only once it is acknowledged. -/
theorem mail_stays_letter : ∃ landed settled acknowledged : SpoolPool,
    Pool.Reaches (spoolHost defaultWorker) (unadopted defaultWorker) landed ∧
    ReflTransGen (StepBeside defaultWorker "inbox/t-u.eml") landed settled ∧
    RealAt "inbox/t-u.eml" settled.world letterObject ∧
    ReflTransGen (StepBeside defaultWorker "inbox/t-u.eml") settled acknowledged ∧
    Named defaultWorker "inbox/t-u.eml" acknowledged.world := by
  obtain ⟨landed, settled, acknowledged, hlanded, hservice, hrun, _, _, hcame, hrun', hgone⟩ :=
    letter_runs
  have hreal : RealAt "inbox/t-u.eml" landed.world letterObject := by
    refine ⟨?_, rfl⟩
    rw [hservice]
    exact Std.ExtTreeMap.getElem?_insert_self
  have hunnamed : ¬Named defaultWorker "inbox/t-u.eml" settled.world := by
    rintro ⟨event, hevent, hnames⟩
    rw [hcame] at hevent
    rcases List.mem_cons.mp hevent with rfl | hevent
    · exact hnames
    · rw [List.mem_singleton.mp hevent] at hnames
      exact hnames
  have hstays := (mail_stays rfl hlanded hreal hrun).resolve_right hunnamed
  refine ⟨landed, settled, acknowledged, hlanded, hrun, hstays, hrun', ?_⟩
  apply (mail_stays rfl (reaches_beside hlanded hrun) hstays hrun').resolve_left
  intro hstill
  have hobject := hstill.1
  rw [hgone, Std.ExtTreeMap.getElem?_erase_self] at hobject
  cases hobject

end Reached

end AgentFirstMail.Spool
