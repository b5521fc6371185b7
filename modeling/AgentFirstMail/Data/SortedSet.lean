import Mathlib.Data.List.Sort
import Mathlib.Tactic.Common

namespace AgentFirstMail

def dedupAdjacent [DecidableEq α] : List α → List α
  | a :: b :: rest => if a = b then dedupAdjacent (b :: rest) else a :: dedupAdjacent (b :: rest)
  | short => short

section
variable [DecidableEq α] {items : List α}

@[simp] theorem mem_dedupAdjacent : item ∈ dedupAdjacent items ↔ item ∈ items := by
  fun_induction dedupAdjacent items with
  | case1 a rest ih => rw [ih, List.mem_cons, List.mem_cons, List.mem_cons, or_self_left]
  | case2 a b rest hne ih => rw [List.mem_cons, ih, List.mem_cons (a := item) (b := a)]
  | case3 short _ => rfl

end

section
variable [LE α] {items others : List α}

/-- In order, and each once. -/
def StrictlySorted (items : List α) : Prop := items.Pairwise fun a b => a ≤ b ∧ a ≠ b

variable [Std.IsLinearOrder α]

theorem StrictlySorted.eq_of_mem_iff (hitems : StrictlySorted items)
    (hothers : StrictlySorted others) (h : ∀ item, item ∈ items ↔ item ∈ others) :
    items = others := by
  have : Std.Antisymm fun a b : α => a ≤ b ∧ a ≠ b :=
    ⟨fun a b hab hba => Std.le_antisymm hab.1 hba.1⟩
  have : Std.Irrefl fun a b : α => a ≤ b ∧ a ≠ b := ⟨fun a haa => haa.2 rfl⟩
  exact List.Pairwise.eq_of_mem_iff hitems hothers h

variable [DecidableEq α]

theorem strictlySorted_dedupAdjacent (h : items.Pairwise (· ≤ ·)) :
    StrictlySorted (dedupAdjacent items) := by
  fun_induction dedupAdjacent items with
  | case1 a rest ih => exact ih h.of_cons
  | case2 a b rest hne ih =>
    obtain ⟨hfirst, hrest⟩ := List.pairwise_cons.mp h
    have hab : a ≤ b := hfirst b List.mem_cons_self
    refine List.pairwise_cons.mpr ⟨fun c hc => ?_, ih hrest⟩
    have hmem : c ∈ b :: rest := mem_dedupAdjacent.mp hc
    have hbc : b ≤ c := by
      rcases List.mem_cons.mp hmem with heq | hlater
      · exact heq ▸ Std.le_refl b
      · exact (List.pairwise_cons.mp hrest).1 c hlater
    -- an item that came back later would stand between two that differ
    refine ⟨hfirst c hmem, fun heq => hne ?_⟩
    exact Std.le_antisymm hab (heq ▸ hbc)
  | case3 short hshort =>
    cases short with
    | nil => exact .nil
    | cons first rest =>
      cases rest with
      | nil => exact List.pairwise_singleton _ _
      | cons second rest => exact (hshort first second rest rfl).elim

variable [DecidableLE α]

omit [Std.IsLinearOrder α] in
theorem mem_sortedSet : item ∈ dedupAdjacent (items.insertionSort (· ≤ ·)) ↔ item ∈ items := by
  rw [mem_dedupAdjacent, List.mem_insertionSort]

theorem strictlySorted_sortedSet (items : List α) :
    StrictlySorted (dedupAdjacent (items.insertionSort (· ≤ ·))) :=
  strictlySorted_dedupAdjacent (List.pairwise_insertionSort _ items)

end
end AgentFirstMail
