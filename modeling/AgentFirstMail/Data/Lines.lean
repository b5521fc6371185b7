import Mathlib.Tactic.Common

/-! Text that arrives in parts, cut into lines by a reader that keeps no more of a line than a
limit. -/

namespace Lines
variable {α : Type} [DecidableEq α]

/-- The lines that end in some text, after what came of the first one before. -/
def complete (newline : α) : List α → List α → List (List α)
  | _, [] => []
  | begun, c :: rest =>
    if c = newline then (begun ++ [c]) :: complete newline [] rest
    else complete newline (begun ++ [c]) rest

/-- The line that is left unfinished. -/
def unfinished (newline : α) : List α → List α → List α
  | begun, [] => begun
  | begun, c :: rest =>
    if c = newline then unfinished newline [] rest else unfinished newline (begun ++ [c]) rest

theorem complete_append (newline : α) (begun first second : List α) :
    complete newline begun (first ++ second) =
      complete newline begun first ++
        complete newline (unfinished newline begun first) second := by
  induction first generalizing begun with
  | nil => rfl
  | cons c rest ih =>
    rw [List.cons_append, complete, complete, unfinished]
    split
    · rw [ih, List.cons_append]
    · exact ih _

theorem unfinished_append (newline : α) (begun first second : List α) :
    unfinished newline begun (first ++ second) =
      unfinished newline (unfinished newline begun first) second := by
  induction first generalizing begun with
  | nil => rfl
  | cons c rest ih =>
    rw [List.cons_append, unfinished, unfinished]
    split
    · exact ih _
    · exact ih _

/-- A line is what stands before the first newline, with it. -/
def IsLine (newline : α) (line : List α) : Prop :=
  ∃ text, newline ∉ text ∧ line = text ++ [newline]

theorem complete_line {newline : α} {begun text : List α} (h : newline ∉ text) :
    complete newline begun (text ++ [newline]) = [begun ++ text ++ [newline]] ∧
      unfinished newline begun (text ++ [newline]) = [] := by
  induction text generalizing begun with
  | nil =>
    rw [List.nil_append, complete, unfinished, if_pos rfl, if_pos rfl, List.append_nil]
    exact ⟨rfl, rfl⟩
  | cons c rest ih =>
    rw [List.mem_cons, not_or] at h
    rw [List.cons_append, complete, unfinished, if_neg (Ne.symm h.1), if_neg (Ne.symm h.1),
      List.append_cons begun c rest]
    exact ih h.2

theorem complete_flatten {newline : α} {lines : List (List α)}
    (h : ∀ line ∈ lines, IsLine newline line) :
    complete newline [] lines.flatten = lines ∧ unfinished newline [] lines.flatten = [] := by
  induction lines with
  | nil => exact ⟨rfl, rfl⟩
  | cons line rest ih =>
    obtain ⟨hline, hrest⟩ := List.forall_mem_cons.mp h
    obtain ⟨text, hnot, rfl⟩ := hline
    obtain ⟨hcomplete, hunfinished⟩ := @complete_line α _ newline [] text hnot
    rw [List.flatten_cons, complete_append, unfinished_append newline [] (text ++ [newline]),
      hcomplete, hunfinished]
    exact ⟨congrArg _ (ih hrest).1, (ih hrest).2⟩

end Lines
