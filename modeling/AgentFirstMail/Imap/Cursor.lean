import AgentFirstMail.Imap.Resolve

namespace AgentFirstMail

/-- How many pulls may go by the cursor of a mailbox before it is scanned in full again. -/
def fullReconcileInterval : Nat := 10

def maxU64 : Nat := 2 ^ 64 - 1

structure PullMailboxCursor where
  mailboxId : String
  mailboxName : String
  uidValidity : Nat
  highestUid : Nat
  pullCountSinceFullReconcile : Nat
  updatedRfc3339 : String := ""

structure PullCursorUpdate where
  mailboxId : String
  mailboxName : String
  uidValidity : Nat
  highestUid : Nat

structure PullCursorView where
  uidValidity : Nat
  highestUid : Nat

abbrev PullCursors := Std.ExtTreeMap String PullMailboxCursor

/-- The cursor file: it may not be there, and it may be one that cannot be read. -/
inductive PullCursorFile where
  | missing
  | readable (mailboxes : PullCursors)
  | unreadable (reason : String)

/-- The cursors that are read of a file. -/
def PullCursorFile.mailboxes : PullCursorFile → PullCursors
  | readable mailboxes => mailboxes
  | _ => ∅

/-- The cursor a pull goes by; none means a full scan of the mailbox. -/
def pullCursorForTarget (cursors : PullCursors) (target : PullTarget) : Option PullCursorView :=
  match cursors[target.id]? with
  | none => none
  | some cursor =>
    if cursor.mailboxId != target.id || cursor.mailboxName != target.mailbox then none
    else if fullReconcileInterval ≤ cursor.pullCountSinceFullReconcile then none
    else some ⟨cursor.uidValidity, cursor.highestUid⟩

/-- Enters what a pull found in one mailbox. -/
def PullCursors.update (fullReconcile : Bool) (now : String) (cursors : PullCursors)
    (update : PullCursorUpdate) : PullCursors :=
  let previousCount := (cursors[update.mailboxId]?.map (·.pullCountSinceFullReconcile)).getD 0
  cursors.insert update.mailboxId
    { mailboxId := update.mailboxId
      mailboxName := update.mailboxName
      uidValidity := update.uidValidity
      highestUid := update.highestUid
      pullCountSinceFullReconcile := if fullReconcile then 0 else min (previousCount + 1) maxU64
      updatedRfc3339 := now }

/-- Enters what a pull found; a full scan of any mailbox restarts the counts of them all. -/
def PullCursors.commit (cursors : PullCursors) (updates : List PullCursorUpdate)
    (fullReconcile : Bool) (now : String) : PullCursors :=
  updates.foldl (PullCursors.update fullReconcile now) cursors

/-- The query a mailbox is searched with. -/
inductive UidQuery where
  | after (uid : Nat)
  | since (days : Nat)
  | all

/-- A search that does not go by the UIDs seen before. -/
def UidQuery.full : UidQuery → Bool
  | after _ => false
  | _ => true

/-- The search for one mailbox: by its cursor when it can be used, in full otherwise. -/
def headerQuery (sinceDays : Option Nat) (cursor : Option PullCursorView) (uidValidity : Nat) :
    Option UidQuery :=
  let reset := cursor.any (·.uidValidity != uidValidity)
  let effectiveSinceDays := if reset then none else sinceDays
  match (cursor.filter (·.uidValidity == uidValidity)).map (·.highestUid) with
  | some uid => if uid = maxU64 then none else some (.after uid)
  | none =>
    match effectiveSinceDays with
    | some days => some (.since days)
    | none => some .all

namespace PullCursors
variable {cursors : PullCursors} {updates : List PullCursorUpdate} {fullReconcile : Bool}
  {now mailboxId : String} {count : Nat}

theorem getElem?_update {update : PullCursorUpdate} (h : update.mailboxId ≠ mailboxId) :
    (cursors.update fullReconcile now update)[mailboxId]? = cursors[mailboxId]? := by
  unfold PullCursors.update
  rw [Std.ExtTreeMap.getElem?_insert, if_neg]
  intro heq
  exact h (Std.LawfulEqCmp.compare_eq_iff_eq.mp heq)

theorem getElem?_commit (h : ∀ update ∈ updates, update.mailboxId ≠ mailboxId) :
    (cursors.commit updates fullReconcile now)[mailboxId]? = cursors[mailboxId]? := by
  unfold commit
  induction updates generalizing cursors with
  | nil => rfl
  | cons update rest ih =>
    obtain ⟨hupdate, hrest⟩ := List.forall_mem_cons.mp h
    rw [List.foldl_cons, ih hrest, getElem?_update hupdate]

/-- The mailbox has a cursor that has gone by at least so many pulls. -/
def CountedTo (cursors : PullCursors) (mailboxId : String) (count : Nat) : Prop :=
  ∃ cursor, cursors[mailboxId]? = some cursor ∧ count ≤ cursor.pullCountSinceFullReconcile

theorem CountedTo.mono {count' : Nat} (h : CountedTo cursors mailboxId count')
    (hle : count ≤ count') : CountedTo cursors mailboxId count := by
  obtain ⟨cursor, hcursor, hcount⟩ := h
  exact ⟨cursor, hcursor, Nat.le_trans hle hcount⟩

theorem CountedTo.update (hcount : count < maxU64) (h : CountedTo cursors mailboxId count)
    (update : PullCursorUpdate) (heq : update.mailboxId = mailboxId) :
    CountedTo (cursors.update false now update) mailboxId (count + 1) := by
  subst heq
  obtain ⟨cursor, hcursor, hbefore⟩ := h
  unfold PullCursors.update CountedTo
  rw [Std.ExtTreeMap.getElem?_insert, if_pos Std.ReflCmp.compare_self, hcursor]
  refine ⟨_, rfl, ?_⟩
  change count + 1 ≤ min (cursor.pullCountSinceFullReconcile + 1) maxU64
  omega

theorem CountedTo.keep (hcount : count ≤ maxU64) (h : CountedTo cursors mailboxId count)
    (update : PullCursorUpdate) :
    CountedTo (cursors.update false now update) mailboxId count := by
  by_cases heq : update.mailboxId = mailboxId
  · rcases Nat.lt_or_eq_of_le hcount with hlt | rfl
    · exact (h.update hlt update heq).mono (Nat.le_succ _)
    · cases hpositive : maxU64 with
      | zero => exact (nomatch hpositive)
      | succ previous =>
        have hprevious : CountedTo cursors mailboxId previous :=
          h.mono (by rw [hpositive]; exact Nat.le_succ _)
        exact hprevious.update (by rw [hpositive]; exact Nat.lt_succ_self _) update heq
  · obtain ⟨cursor, hcursor, hbefore⟩ := h
    exact ⟨cursor, (getElem?_update heq).trans hcursor, hbefore⟩

theorem CountedTo.keep_all (hcount : count ≤ maxU64) (h : CountedTo cursors mailboxId count)
    (updates : List PullCursorUpdate) :
    CountedTo (cursors.commit updates false now) mailboxId count := by
  unfold commit
  induction updates generalizing cursors with
  | nil => exact h
  | cons update rest ih => exact ih (h.keep hcount update)

theorem CountedTo.commit (hcount : count < maxU64) (h : CountedTo cursors mailboxId count)
    (hmem : mailboxId ∈ updates.map (·.mailboxId)) :
    CountedTo (cursors.commit updates false now) mailboxId (count + 1) := by
  unfold PullCursors.commit
  induction updates generalizing cursors with
  | nil => exact (List.not_mem_nil hmem).elim
  | cons update rest ih =>
    by_cases heq : update.mailboxId = mailboxId
    · exact (h.update hcount update heq).keep_all hcount rest
    · rcases List.mem_cons.mp hmem with hhead | hrest
      · exact (heq hhead.symm).elim
      · exact ih (h.keep (Nat.le_of_lt hcount) update) hrest

end PullCursors

theorem pullCursorForTarget_isSome {cursors : PullCursors} {target : PullTarget}
    (h : (pullCursorForTarget cursors target).isSome) :
    ∃ cursor, cursors[target.id]? = some cursor ∧
      cursor.pullCountSinceFullReconcile < fullReconcileInterval := by
  unfold pullCursorForTarget at h
  split at h
  · cases h
  · rename_i cursor hcursor
    split at h
    · cases h
    · split at h
      · cases h
      · rename_i hcount
        exact ⟨cursor, hcursor, Nat.lt_of_not_le hcount⟩

end AgentFirstMail
