import Mathlib.Tactic.Common

namespace Lists

theorem exists_of_forall₂ {R : α → β → Prop} {items : List α} {values : List β} {value : β}
    (h : List.Forall₂ R items values) (hmem : value ∈ values) : ∃ item ∈ items, R item value := by
  induction h with
  | nil => cases hmem
  | cons hfirst _ ih =>
    obtain rfl | hlater := List.mem_cons.mp hmem
    · exact ⟨_, List.mem_cons_self, hfirst⟩
    · obtain ⟨item, hitem, hrelated⟩ := ih hlater
      exact ⟨item, List.mem_cons_of_mem _ hitem, hrelated⟩

theorem le_foldl_max (numbers : List Nat) (start : Nat) :
    start ≤ numbers.foldl max start ∧ ∀ number ∈ numbers, number ≤ numbers.foldl max start := by
  induction numbers generalizing start with
  | nil => exact ⟨Nat.le_refl start, fun _ hmem => nomatch hmem⟩
  | cons first rest ih =>
    obtain ⟨hstart, hrest⟩ := ih (max start first)
    rw [List.foldl_cons]
    refine ⟨Nat.le_trans (Nat.le_max_left start first) hstart, ?_⟩
    intro number hmem
    rcases List.mem_cons.mp hmem with rfl | hlater
    · exact Nat.le_trans (Nat.le_max_right start number) hstart
    · exact hrest number hlater

theorem foldl_max_lt {numbers : List Nat} {start bound : Nat} (hstart : start < bound)
    (h : ∀ number ∈ numbers, number < bound) : numbers.foldl max start < bound := by
  induction numbers generalizing start with
  | nil => exact hstart
  | cons first rest ih =>
    obtain ⟨hfirst, hrest⟩ := List.forall_mem_cons.mp h
    exact ih (Nat.max_lt.mpr ⟨hstart, hfirst⟩) hrest

end Lists
