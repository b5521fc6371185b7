import Mathlib.Tactic.Common

namespace Indexing
variable {α β γ : Type} [Ord α] [Std.TransOrd α] [Std.LawfulEqOrd α]
  [Ord β] [Std.TransOrd β] [Std.LawfulEqOrd β]

section Table
variable {table : Std.ExtTreeMap α γ} {key other : α} {value : γ}

theorem getElem?_insert_ne (h : other ≠ key) : (table.insert key value)[other]? = table[other]? := by
  rw [Std.ExtTreeMap.getElem?_insert, if_neg]
  rw [Std.LawfulEqCmp.compare_eq_iff_eq]
  exact h.symm

theorem getElem?_erase_ne (h : other ≠ key) : (table.erase key)[other]? = table[other]? := by
  rw [Std.ExtTreeMap.getElem?_erase, if_neg]
  rw [Std.LawfulEqCmp.compare_eq_iff_eq]
  exact h.symm

omit [Std.LawfulEqOrd α] in
theorem mem_of_getElem? (h : table[key]? = some value) : key ∈ table := by
  rw [Std.ExtTreeMap.mem_iff_isSome_getElem?, h]
  rfl

omit [Std.LawfulEqOrd α] in
theorem mem_iff_exists : key ∈ table ↔ ∃ value, table[key]? = some value := by
  rw [Std.ExtTreeMap.mem_iff_isSome_getElem?, Option.isSome_iff_exists]

omit [Std.LawfulEqOrd α] in
theorem mem_congr {table' : Std.ExtTreeMap α γ} (h : table'[key]? = table[key]?) :
    key ∈ table' ↔ key ∈ table := by
  rw [Std.ExtTreeMap.mem_iff_isSome_getElem?, Std.ExtTreeMap.mem_iff_isSome_getElem?, h]

theorem toList_insert_empty (key : α) (value : γ) :
    ((∅ : Std.ExtTreeMap α γ).insert key value).toList = [(key, value)] := by
  have hlength : ((∅ : Std.ExtTreeMap α γ).insert key value).toList.length = 1 := by
    rw [Std.ExtTreeMap.length_toList, Std.ExtTreeMap.size_insert, if_neg (by simp)]
    rfl
  obtain ⟨entry, hentry⟩ := List.length_eq_one_iff.mp hlength
  have hmem : (key, value) ∈ ((∅ : Std.ExtTreeMap α γ).insert key value).toList :=
    Std.ExtTreeMap.mem_toList_iff_getElem?_eq_some.mpr Std.ExtTreeMap.getElem?_insert_self
  rw [hentry, List.mem_singleton] at hmem
  rw [hentry, hmem]

theorem erase_insert_empty (key : α) (value : γ) :
    ((∅ : Std.ExtTreeMap α γ).insert key value).erase key = ∅ := by
  apply Std.ExtTreeMap.ext_getElem?
  intro other
  by_cases heq : other = key
  · subst heq
    rw [Std.ExtTreeMap.getElem?_erase_self, Std.ExtTreeMap.getElem?_empty]
  · rw [getElem?_erase_ne heq, getElem?_insert_ne heq]

/-- One entry taken out of a table and put into another. -/
def transfer (tables : Std.ExtTreeMap α γ × Std.ExtTreeMap α γ) (key : α) :
    Std.ExtTreeMap α γ × Std.ExtTreeMap α γ :=
  match tables.2[key]? with
  | none => tables
  | some value => (tables.1.insert key value, tables.2.erase key)

variable [DecidableEq α]

theorem getElem?_transfer (tables : Std.ExtTreeMap α γ × Std.ExtTreeMap α γ) (key other : α) :
    (transfer tables key).1[other]? =
        (if other = key then tables.2[key]?.or tables.1[other]? else tables.1[other]?) ∧
      (transfer tables key).2[other]? = if other = key then none else tables.2[other]? := by
  unfold transfer
  by_cases heq : other = key
  · subst heq
    rw [if_pos rfl, if_pos rfl]
    split
    · rename_i hnone
      rw [hnone]
      exact ⟨rfl, rfl⟩
    · rename_i value hvalue
      rw [hvalue]
      exact ⟨Std.ExtTreeMap.getElem?_insert_self, Std.ExtTreeMap.getElem?_erase_self⟩
  · rw [if_neg heq, if_neg heq]
    split
    · exact ⟨rfl, rfl⟩
    · exact ⟨getElem?_insert_ne heq, getElem?_erase_ne heq⟩

theorem getElem?_foldl_transfer (keys : List α)
    (tables : Std.ExtTreeMap α γ × Std.ExtTreeMap α γ) (other : α) :
    (keys.foldl transfer tables).1[other]? =
        (if other ∈ keys then tables.2[other]?.or tables.1[other]? else tables.1[other]?) ∧
      (keys.foldl transfer tables).2[other]? = if other ∈ keys then none else tables.2[other]? := by
  induction keys generalizing tables with
  | nil => simp
  | cons key rest ih =>
    obtain ⟨hinto, hout⟩ := getElem?_transfer tables key other
    rw [List.foldl_cons, (ih (transfer tables key)).1, (ih (transfer tables key)).2, hinto, hout]
    by_cases heq : other = key
    · subst heq
      simp
    · simp [heq]

theorem getElem?_transfer_keys (dest source : Std.ExtTreeMap α γ) (other : α) :
    (source.keys.foldl transfer (dest, source)).1[other]? = source[other]?.or dest[other]? := by
  rw [(getElem?_foldl_transfer source.keys (dest, source) other).1]
  split
  · rfl
  · rename_i hnot
    rw [Std.ExtTreeMap.mem_keys, Std.ExtTreeMap.mem_iff_isSome_getElem?, Bool.not_eq_true,
      Option.isSome_eq_false_iff, Option.isNone_iff_eq_none] at hnot
    rw [hnot]
    rfl

end Table

/-- A map holds exactly the pairs of a relation. -/
def Maps (map : Std.ExtTreeMap α γ) (pairs : α → γ → Prop) : Prop :=
  ∀ key value, map[key]? = some value ↔ pairs key value

/-- A set holds exactly the members of a predicate. -/
def Holds (set : Std.ExtTreeSet α) (member : α → Prop) : Prop := ∀ key, key ∈ set ↔ member key

/-- Several values under one key. -/
abbrev Multimap (α β : Type) [Ord α] [Ord β] := Std.ExtTreeMap α (Std.ExtTreeSet β)

namespace Multimap

def at_ (map : Multimap α β) (key : α) : Std.ExtTreeSet β := map[key]?.getD ∅

def add (map : Multimap α β) (key : α) (value : β) : Multimap α β :=
  map.alter key fun set => some ((set.getD ∅).insert value)

/-- A key gets a set even when there is nothing to put into it. -/
def addAll (map : Multimap α β) (key : α) (values : List β) : Multimap α β :=
  map.alter key fun set => some ((set.getD ∅).insertMany values)

end Multimap

/-- A multimap holds exactly the pairs of a relation, and no key for nothing. -/
structure Groups (map : Multimap α β) (pairs : α → β → Prop) : Prop where
  mem : ∀ key value, value ∈ map.at_ key ↔ pairs key value
  inhabited : ∀ key : α, map[key]? ≠ some (∅ : Std.ExtTreeSet β)

section Maps
variable {map other : Std.ExtTreeMap α γ} {pairs pairs' : α → γ → Prop}

omit [Std.LawfulEqOrd α] in
theorem Maps.empty : Maps (∅ : Std.ExtTreeMap α γ) fun _ _ => False := by
  intro key value
  simp

omit [Std.LawfulEqOrd α] in
theorem Maps.congr (h : Maps map pairs) (hiff : ∀ key value, pairs key value ↔ pairs' key value) :
    Maps map pairs' := fun key value => (h key value).trans (hiff key value)

theorem Maps.unique (h : Maps map pairs) (hother : Maps other pairs) : map = other := by
  apply Std.ExtTreeMap.ext_getElem?
  intro key
  apply Option.ext
  intro value
  rw [h key value, hother key value]

/-- A new key is added, a key that is there is left to its value. -/
theorem Maps.insertIfNew {key : α} {value : γ} (h : Maps map pairs)
    (hone : ∀ other, pairs key other → other = value) :
    Maps (map.insertIfNew key value) fun k v => pairs k v ∨ k = key ∧ v = value := by
  intro k v
  rw [Std.ExtTreeMap.getElem?_insertIfNew]
  by_cases hkey : key = k
  · subst hkey
    by_cases hmem : key ∈ map
    · rw [if_neg (fun hnew => hnew.2 hmem), h key v]
      constructor
      · exact .inl
      · rintro (hpair | ⟨_, rfl⟩)
        · exact hpair
        · obtain ⟨there, hthere⟩ := Option.isSome_iff_exists.mp
            (Std.ExtTreeMap.mem_iff_isSome_getElem?.mp hmem)
          have hpair := (h key there).mp hthere
          rw [hone there hpair] at hpair
          exact hpair
    · rw [if_pos ⟨Std.ReflCmp.compare_self, hmem⟩, Option.some.injEq]
      constructor
      · intro heq
        exact .inr ⟨rfl, heq.symm⟩
      · rintro (hpair | ⟨_, rfl⟩)
        · exact (hone v hpair).symm
        · rfl
  · rw [if_neg (fun hnew => hkey (Std.LawfulEqCmp.compare_eq_iff_eq.mp hnew.1)), h k v]
    constructor
    · exact .inl
    · rintro (hpair | ⟨rfl, _⟩)
      · exact hpair
      · exact (hkey rfl).elim

theorem Maps.insert {key : α} {value : γ} (h : Maps map pairs)
    (hone : ∀ other, pairs key other → other = value) :
    Maps (map.insert key value) fun k v => pairs k v ∨ k = key ∧ v = value := by
  intro k v
  rw [Std.ExtTreeMap.getElem?_insert]
  by_cases hkey : key = k
  · subst hkey
    rw [if_pos Std.ReflCmp.compare_self, Option.some.injEq]
    constructor
    · intro heq
      exact .inr ⟨rfl, heq.symm⟩
    · rintro (hpair | ⟨_, rfl⟩)
      · exact (hone v hpair).symm
      · rfl
  · rw [if_neg (fun heq => hkey (Std.LawfulEqCmp.compare_eq_iff_eq.mp heq)), h k v]
    constructor
    · exact .inl
    · rintro (hpair | ⟨rfl, _⟩)
      · exact hpair
      · exact (hkey rfl).elim

end Maps

section Holds
variable {set other : Std.ExtTreeSet α} {member member' : α → Prop}

omit [Std.LawfulEqOrd α] in
theorem Holds.empty : Holds (∅ : Std.ExtTreeSet α) fun _ => False := by
  intro key
  simp

omit [Std.LawfulEqOrd α] in
theorem Holds.congr (h : Holds set member) (hiff : ∀ key, member key ↔ member' key) :
    Holds set member' := fun key => (h key).trans (hiff key)

theorem Holds.unique (h : Holds set member) (hother : Holds other member) : set = other := by
  apply Std.ExtTreeSet.ext_mem
  intro key
  rw [h key, hother key]

theorem Holds.insert {key : α} (h : Holds set member) :
    Holds (set.insert key) fun k => member k ∨ k = key := by
  intro k
  rw [Std.ExtTreeSet.mem_insert, h k, Std.LawfulEqCmp.compare_eq_iff_eq, or_comm, eq_comm]

end Holds

section Groups
variable {map other : Multimap α β} {pairs pairs' : α → β → Prop}

omit [Std.LawfulEqOrd α] [Std.LawfulEqOrd β] in
theorem Groups.empty : Groups (∅ : Multimap α β) fun _ _ => False := by
  constructor
  · intro key value
    simp [Multimap.at_]
  · intro key
    simp

omit [Std.LawfulEqOrd α] [Std.LawfulEqOrd β] in
theorem Groups.congr (h : Groups map pairs)
    (hiff : ∀ key value, pairs key value ↔ pairs' key value) : Groups map pairs' :=
  ⟨fun key value => (h.mem key value).trans (hiff key value), h.inhabited⟩

theorem Groups.unique (h : Groups map pairs) (hother : Groups other pairs) : map = other := by
  apply Std.ExtTreeMap.ext_getElem?
  intro key
  have hsets : map.at_ key = other.at_ key := by
    apply Std.ExtTreeSet.ext_mem
    intro value
    rw [h.mem key value, hother.mem key value]
  unfold Multimap.at_ at hsets
  cases hget : map[key]? with
  | none =>
    cases hget' : other[key]? with
    | none => rfl
    | some set =>
      rw [hget, hget'] at hsets
      exact (hother.inhabited key (hget'.trans (congrArg some hsets.symm))).elim
  | some set =>
    cases hget' : other[key]? with
    | none =>
      rw [hget, hget'] at hsets
      exact (h.inhabited key (hget.trans (congrArg some hsets))).elim
    | some set' =>
      rw [hget, hget'] at hsets
      exact congrArg some hsets

theorem Multimap.mem_at_add {key other : α} {value item : β} :
    item ∈ (map.add key value).at_ other ↔ item ∈ map.at_ other ∨ other = key ∧ item = value := by
  unfold Multimap.add Multimap.at_
  rw [Std.ExtTreeMap.getElem?_alter]
  by_cases hkey : key = other
  · subst hkey
    rw [if_pos Std.ReflCmp.compare_self, Option.getD_some, Std.ExtTreeSet.mem_insert,
      Std.LawfulEqCmp.compare_eq_iff_eq]
    constructor
    · rintro (rfl | hmem)
      · exact .inr ⟨rfl, rfl⟩
      · exact .inl hmem
    · rintro (hmem | ⟨_, rfl⟩)
      · exact .inr hmem
      · exact .inl rfl
  · rw [if_neg (fun heq => hkey (Std.LawfulEqCmp.compare_eq_iff_eq.mp heq))]
    constructor
    · exact .inl
    · rintro (hmem | ⟨rfl, _⟩)
      · exact hmem
      · exact (hkey rfl).elim

theorem Groups.add {key : α} {value : β} (h : Groups map pairs) :
    Groups (map.add key value) fun k v => pairs k v ∨ k = key ∧ v = value := by
  constructor
  · intro k v
    rw [← h.mem k v, Multimap.mem_at_add]
  · intro k hempty
    unfold Multimap.add at hempty
    rw [Std.ExtTreeMap.getElem?_alter] at hempty
    by_cases hkey : key = k
    · subst hkey
      rw [if_pos Std.ReflCmp.compare_self, Option.some.injEq] at hempty
      have hmem : value ∈ ((map[key]?).getD ∅).insert value := by simp
      rw [hempty] at hmem
      exact Std.ExtTreeSet.not_mem_empty hmem
    · rw [if_neg (fun heq => hkey (Std.LawfulEqCmp.compare_eq_iff_eq.mp heq))] at hempty
      exact h.inhabited k hempty

end Groups
end Indexing
