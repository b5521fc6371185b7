import Mathlib.Data.List.Infix
import Mathlib.Tactic.Common

namespace Search
variable {α : Type} [DecidableEq α]

/-- What stands before and after the first occurrence of a pattern. -/
def breakOn (pattern : List α) : List α → Option (List α × List α)
  | [] => if pattern = [] then some ([], []) else none
  | first :: rest =>
    if pattern <+: first :: rest then some ([], (first :: rest).drop pattern.length)
    else (breakOn pattern rest).map fun found => (first :: found.1, found.2)

variable {pattern text before after : List α} {stop : α}

theorem breakOn_eq_some (h : breakOn pattern text = some (before, after)) :
    text = before ++ pattern ++ after := by
  induction text generalizing before with
  | nil =>
    unfold breakOn at h
    split at h
    · rename_i hempty
      cases h
      rw [hempty]
      rfl
    · cases h
  | cons first rest ih =>
    unfold breakOn at h
    split at h
    · rename_i hstarts
      cases h
      exact List.prefix_iff_eq_append.mp hstarts |>.symm
    · obtain ⟨found, hfound, heq⟩ := Option.map_eq_some_iff.mp h
      cases heq
      rw [ih hfound]
      rfl

theorem breakOn_eq_none_iff : breakOn pattern text = none ↔ ¬ pattern <:+: text := by
  induction text with
  | nil =>
    rw [List.infix_nil]
    by_cases hempty : pattern = [] <;> simp [breakOn, hempty]
  | cons first rest ih =>
    rw [List.infix_cons_iff, not_or, ← ih]
    by_cases hstarts : pattern <+: first :: rest
    · rw [breakOn, if_pos hstarts]
      simp [hstarts]
    · rw [breakOn.eq_2, if_neg hstarts]
      simp [hstarts]

theorem breakOn_of_match (hpattern : pattern ≠ []) (h : pattern <+: text) :
    breakOn pattern text = some ([], text.drop pattern.length) := by
  cases text with
  | nil => exact (hpattern (List.prefix_nil.mp h)).elim
  | cons first rest => rw [breakOn, if_pos h]

/-- The first occurrence does not depend on what follows it. -/
theorem breakOn_replace (h : breakOn pattern text = some (before, after)) (other : List α) :
    breakOn pattern (before ++ pattern ++ other) = some (before, other) := by
  induction text generalizing before with
  | nil =>
    unfold breakOn at h
    split at h
    · rename_i hempty
      cases h
      rw [hempty]
      cases other <;> simp [breakOn]
    · cases h
  | cons first rest ih =>
    have hsplit := breakOn_eq_some h
    unfold breakOn at h
    split at h
    · cases h
      rw [List.nil_append]
      by_cases hempty : pattern = []
      · rw [hempty]
        cases other <;> simp [breakOn]
      · rw [breakOn_of_match hempty (List.prefix_append _ _), List.drop_left]
    · rename_i hnot
      obtain ⟨found, hfound, heq⟩ := Option.map_eq_some_iff.mp h
      cases heq
      have hnone : ¬ pattern <+: first :: (found.1 ++ pattern ++ other) := by
        intro hstarts
        apply hnot
        rw [hsplit]
        have hfront : pattern <+: first :: (found.1 ++ pattern) := by
          apply List.prefix_of_prefix_length_le hstarts
            ((List.prefix_append (first :: (found.1 ++ pattern)) other))
          simp only [List.length_cons, List.length_append]
          omega
        exact hfront.trans (List.prefix_append (first :: (found.1 ++ pattern)) _)
      rw [List.cons_append, List.cons_append, breakOn, if_neg hnone, ih hfound]
      rfl

/-- A pattern without a stop is not found across one. -/
theorem breakOn_append_of_stop (hstop : stop ∉ pattern) (hfree : ¬ pattern <:+: before)
    (hline : before = [] ∨ ∃ front, before = front ++ [stop]) (other : List α) :
    breakOn pattern (before ++ pattern ++ other) = some (before, other) := by
  have hpattern : pattern ≠ [] := by
    rintro rfl
    exact hfree (List.nil_infix)
  induction before with
  | nil =>
    rw [List.nil_append, breakOn_of_match hpattern (List.prefix_append _ _), List.drop_left]
  | cons first rest ih =>
    have hstopped : stop ∈ first :: rest := by
      obtain hnil | ⟨front, hfront⟩ := hline
      · cases hnil
      · rw [hfront]
        exact List.mem_append_right _ List.mem_cons_self
    have hnone : ¬ pattern <+: first :: rest ++ (pattern ++ other) := by
      intro hstarts
      rcases Nat.le_total pattern.length (first :: rest).length with hle | hle
      · exact hfree (List.prefix_of_prefix_length_le hstarts (List.prefix_append _ _) hle).isInfix
      · have hbefore := List.prefix_of_prefix_length_le (List.prefix_append _ _) hstarts hle
        exact hstop (hbefore.subset hstopped)
    have hrest : rest = [] ∨ ∃ front, rest = front ++ [stop] := by
      obtain hnil | ⟨front, hfront⟩ := hline
      · cases hnil
      · cases front with
        | nil =>
          cases hfront
          exact .inl rfl
        | cons head front =>
          cases hfront
          exact .inr ⟨front, rfl⟩
    rw [List.append_assoc, List.cons_append, breakOn, if_neg (by simpa using hnone),
      ← List.append_assoc, ih (fun hinfix => hfree (List.infix_cons hinfix)) hrest]
    rfl

theorem breakOn_of_not_mem (h : stop ∉ before) (after : List α) :
    breakOn [stop] (before ++ stop :: after) = some (before, after) := by
  induction before with
  | nil => exact breakOn_of_match (List.cons_ne_nil _ _) ⟨after, rfl⟩
  | cons first rest ih =>
    rw [List.mem_cons, not_or] at h
    have hnone : ¬ [stop] <+: first :: (rest ++ stop :: after) := by
      intro hstarts
      exact h.1 (List.cons_prefix_cons.mp hstarts).1
    rw [List.cons_append, breakOn, if_neg hnone, ih h.2]
    rfl

theorem not_mem_of_breakOn (h : breakOn [stop] text = some (before, after)) : stop ∉ before := by
  induction text generalizing before with
  | nil => simp [breakOn] at h
  | cons first rest ih =>
    rw [breakOn] at h
    split at h
    · cases h
      exact List.not_mem_nil
    · rename_i hnone
      obtain ⟨found, hfound, heq⟩ := Option.map_eq_some_iff.mp h
      cases heq
      rw [List.mem_cons, not_or]
      refine ⟨?_, ih hfound⟩
      rintro rfl
      exact hnone ⟨rest, rfl⟩

end Search
