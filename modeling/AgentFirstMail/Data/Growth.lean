import Mathlib.Algebra.BigOperators.Group.Finset.Basic
import Mathlib.Algebra.GroupWithZero.Nat
import Mathlib.Algebra.Order.BigOperators.Group.Finset
import Mathlib.Tactic.Common

namespace Growth

variable {α β : Type} [Ord α] [Std.TransOrd α] [Std.LawfulEqOrd α] [DecidableEq α]

/-- What an entry of a table weighs, if it counts at all. -/
def weightAt (weight : β → Option Nat) (table : Std.ExtTreeMap α β) (key : α) : Option Nat :=
  table[key]?.bind weight

/-- The keys that count in one table and did not in an earlier one. -/
def newKeys (weight : β → Option Nat) (before after : Std.ExtTreeMap α β) : Finset α :=
  after.keys.toFinset.filter fun key =>
    (weightAt weight after key).isSome ∧ weightAt weight before key = none

/-- What the new keys weigh together. -/
def newTotal (weight : β → Option Nat) (before after : Std.ExtTreeMap α β) : Nat :=
  ∑ key ∈ newKeys weight before after, (weightAt weight after key).getD 0

variable {weight : β → Option Nat} {before after after' : Std.ExtTreeMap α β} {key : α}

theorem mem_newKeys : key ∈ newKeys weight before after ↔
    (weightAt weight after key).isSome ∧ weightAt weight before key = none := by
  unfold newKeys
  rw [Finset.mem_filter, List.mem_toFinset, Std.ExtTreeMap.mem_keys, and_iff_right_iff_imp]
  rintro ⟨hsome, _⟩
  unfold weightAt at hsome
  rw [Std.ExtTreeMap.mem_iff_isSome_getElem?]
  cases hentry : after[key]? with
  | none =>
    rw [hentry] at hsome
    cases hsome
  | some value => rfl

theorem newKeys_self (table : Std.ExtTreeMap α β) : newKeys weight table table = ∅ := by
  ext key
  rw [mem_newKeys]
  constructor
  · rintro ⟨hsome, hnone⟩
    rw [hnone] at hsome
    cases hsome
  · exact fun h => (Finset.notMem_empty _ h).elim

theorem newTotal_self (table : Std.ExtTreeMap α β) : newTotal weight table table = 0 := by
  unfold newTotal
  rw [newKeys_self, Finset.sum_empty]

theorem newKeys_congr (h : ∀ key, weightAt weight after' key = weightAt weight after key) :
    newKeys weight before after' = newKeys weight before after := by
  ext key
  rw [mem_newKeys, mem_newKeys, h]

theorem newTotal_congr (h : ∀ key, weightAt weight after' key = weightAt weight after key) :
    newTotal weight before after' = newTotal weight before after := by
  unfold newTotal
  rw [newKeys_congr h]
  exact Finset.sum_congr rfl fun key _ => by rw [h]

/-- One entry more counts. -/
def Adds (weight : β → Option Nat) (size : Nat) (after after' : Std.ExtTreeMap α β) : Prop :=
  ∃ key, weightAt weight after key = none ∧ weightAt weight after' key = some size ∧
    ∀ other, other ≠ key → weightAt weight after' other = weightAt weight after other

section Change
variable (before) (hother : ∀ other, other ≠ key →
  weightAt weight after' other = weightAt weight after other)
include hother

theorem newKeys_subset_insert :
    newKeys weight before after' ⊆ insert key (newKeys weight before after) := by
  intro other hmem
  rw [Finset.mem_insert]
  by_cases heq : other = key
  · exact .inl heq
  · rw [mem_newKeys, hother other heq] at hmem
    exact .inr (mem_newKeys.mpr hmem)

theorem card_newKeys_le :
    (newKeys weight before after').card ≤ (newKeys weight before after).card + 1 :=
  (Finset.card_le_card (newKeys_subset_insert before hother)).trans (Finset.card_insert_le _ _)

/-- What the entry weighed before it was changed is not given back. -/
theorem newTotal_le : newTotal weight before after' ≤
    newTotal weight before after + (weightAt weight after' key).getD 0 := by
  have hsubset : newKeys weight before after' ⊆
      insert key ((newKeys weight before after).erase key) := by
    rw [Finset.subset_insert_iff]
    intro other hmem
    obtain ⟨hne, hnew⟩ := Finset.mem_erase.mp hmem
    have hinsert := newKeys_subset_insert before hother hnew
    exact Finset.mem_erase.mpr ⟨hne, (Finset.mem_insert.mp hinsert).resolve_left hne⟩
  have hsame : ∑ other ∈ (newKeys weight before after).erase key,
      (weightAt weight after' other).getD 0 =
      ∑ other ∈ (newKeys weight before after).erase key, (weightAt weight after other).getD 0 := by
    apply Finset.sum_congr rfl
    intro other hmem
    rw [hother other (Finset.ne_of_mem_erase hmem)]
  calc newTotal weight before after'
      ≤ ∑ other ∈ insert key ((newKeys weight before after).erase key),
          (weightAt weight after' other).getD 0 := Finset.sum_le_sum_of_subset hsubset
    _ = (weightAt weight after' key).getD 0 +
          ∑ other ∈ (newKeys weight before after).erase key, (weightAt weight after other).getD 0 := by
        rw [Finset.sum_insert (Finset.notMem_erase _ _), hsame]
    _ ≤ (weightAt weight after' key).getD 0 + newTotal weight before after :=
        Nat.add_le_add_left (Finset.sum_le_sum_of_subset (Finset.erase_subset _ _)) _
    _ = newTotal weight before after + (weightAt weight after' key).getD 0 := Nat.add_comm _ _

end Change

theorem Adds.card_le (before : Std.ExtTreeMap α β) (h : Adds weight size after after') :
    (newKeys weight before after').card ≤ (newKeys weight before after).card + 1 := by
  obtain ⟨key, _, _, hother⟩ := h
  exact card_newKeys_le before hother

theorem Adds.total_le (before : Std.ExtTreeMap α β) (h : Adds weight size after after') :
    newTotal weight before after' ≤ newTotal weight before after + size := by
  obtain ⟨key, _, hsome, hother⟩ := h
  have htotal := newTotal_le before hother
  rw [hsome] at htotal
  exact htotal

section Empty
variable (size : β → Nat) (table : Std.ExtTreeMap α β)

theorem newKeys_empty : newKeys (fun value => some (size value)) ∅ table = table.keys.toFinset := by
  apply Finset.filter_true_of_mem
  intro key hmem
  rw [List.mem_toFinset, Std.ExtTreeMap.mem_keys, Std.ExtTreeMap.mem_iff_isSome_getElem?] at hmem
  obtain ⟨value, hvalue⟩ := Option.isSome_iff_exists.mp hmem
  unfold weightAt
  rw [hvalue, Std.ExtTreeMap.getElem?_empty]
  exact ⟨rfl, rfl⟩

theorem card_newKeys_empty :
    (newKeys (fun value => some (size value)) ∅ table).card = table.keys.length := by
  rw [newKeys_empty, List.toFinset_card_of_nodup table.nodup_keys]

theorem newTotal_empty : newTotal (fun value => some (size value)) ∅ table =
    (table.keys.map fun key =>
      (weightAt (fun value => some (size value)) table key).getD 0).sum := by
  unfold newTotal
  rw [newKeys_empty, List.sum_toFinset _ table.nodup_keys]

end Empty

section Matched
variable {γ : Type} {size : γ → Nat} {charge : β → Nat} {entries : List (α × γ)}
  {table : Std.ExtTreeMap α β}

omit [DecidableEq α] in
theorem sum_toList (charge : β → Nat) (table : Std.ExtTreeMap α β) :
    (table.toList.map fun row => charge row.2).sum =
      (table.keys.map fun key => (table[key]?.map charge).getD 0).sum := by
  rw [← Std.ExtTreeMap.map_fst_toList_eq_keys, List.map_map]
  congr 1
  apply List.map_congr_left
  rintro ⟨key, value⟩ hrow
  have hvalue := Std.ExtTreeMap.mem_toList_iff_getElem?_eq_some.mp hrow
  change charge value = (table[key]?.map charge).getD 0
  rw [hvalue]
  rfl

variable (hdistinct : (entries.map Prod.fst).Nodup) (hmatched : ∀ entry ∈ entries,
  ∃ value, table[entry.1]? = some value ∧ size entry.2 ≤ charge value)
include hdistinct hmatched

omit [DecidableEq α] in
theorem matched_subperm : (entries.map Prod.fst).Subperm table.keys := by
  apply hdistinct.subperm
  intro key hmem
  obtain ⟨entry, hentry, rfl⟩ := List.mem_map.mp hmem
  obtain ⟨value, hvalue, _⟩ := hmatched entry hentry
  rw [Std.ExtTreeMap.mem_keys, Std.ExtTreeMap.mem_iff_isSome_getElem?, hvalue]
  rfl

omit [DecidableEq α] in
theorem length_le_of_matched : entries.length ≤ table.size := by
  have hlength := (matched_subperm hdistinct hmatched).length_le
  rwa [List.length_map, Std.ExtTreeMap.length_keys] at hlength

omit [DecidableEq α] in
theorem sum_le_of_matched :
    (entries.map fun entry => size entry.2).sum ≤
      (table.toList.map fun row => charge row.2).sum := by
  obtain ⟨middle, hperm, hsublist⟩ := matched_subperm hdistinct hmatched
  have hcharged : ∀ entry ∈ entries, size entry.2 ≤ (table[entry.1]?.map charge).getD 0 := by
    intro entry hentry
    obtain ⟨value, hvalue, hle⟩ := hmatched entry hentry
    rw [hvalue]
    exact hle
  calc (entries.map fun entry => size entry.2).sum
      ≤ (entries.map fun entry => (table[entry.1]?.map charge).getD 0).sum :=
        List.sum_le_sum hcharged
    _ = ((entries.map Prod.fst).map fun key => (table[key]?.map charge).getD 0).sum := by
        rw [List.map_map]
        rfl
    _ = (middle.map fun key => (table[key]?.map charge).getD 0).sum := (hperm.map _).sum_eq.symm
    _ ≤ (table.keys.map fun key => (table[key]?.map charge).getD 0).sum :=
        (hsublist.map _).sum_le_sum fun _ _ => Nat.zero_le _
    _ = (table.toList.map fun row => charge row.2).sum := (sum_toList charge table).symm

end Matched

end Growth
