import Mathlib.Data.List.DropRight
import AgentFirstMail.Data.Text

namespace Text
variable {remove : Char → Bool} {text lead trail : List Char}

theorem trimMatches_eq (text : List Char) :
    trimMatches remove text = (text.dropWhile remove).rdropWhile remove := rfl

/-- A text with nothing to trim. -/
structure Trimmed (remove : Char → Bool) (text : List Char) : Prop where
  first : ∀ c ∈ text.head?, remove c = false
  last : ∀ c ∈ text.getLast?, remove c = false

theorem last_rdropWhile (text : List Char) :
    ∀ c ∈ (text.rdropWhile remove).getLast?, remove c = false := by
  intro c hmem
  have hne : text.rdropWhile remove ≠ [] := by
    intro hempty
    rw [hempty] at hmem
    cases hmem
  rw [List.getLast?_eq_some_getLast hne, Option.mem_some_iff] at hmem
  rw [← hmem]
  exact Bool.eq_false_iff.mpr (List.rdropWhile_last_not remove text hne)

theorem rdropWhile_of_last (h : ∀ c ∈ text.getLast?, remove c = false) :
    text.rdropWhile remove = text := by
  rw [List.rdropWhile_eq_self_iff]
  intro hne
  rw [h _ (List.getLast?_eq_some_getLast hne)]
  exact Bool.false_ne_true

theorem dropWhile_of_first (h : ∀ c ∈ text.head?, remove c = false) :
    text.dropWhile remove = text := by
  cases text with
  | nil => rfl
  | cons c rest => rw [List.dropWhile_cons, if_neg (by rw [h c rfl]; exact Bool.false_ne_true)]

theorem dropWhile_append_of_all (h : ∀ c ∈ lead, remove c = true) (text : List Char) :
    (lead ++ text).dropWhile remove = text.dropWhile remove := by
  rw [List.dropWhile_append, if_pos (by rw [List.dropWhile_eq_nil_iff.mpr h]; rfl)]

theorem rdropWhile_append_of_all (h : ∀ c ∈ trail, remove c = true) (text : List Char) :
    (text ++ trail).rdropWhile remove = text.rdropWhile remove := by
  rw [List.rdropWhile, List.reverse_append,
    dropWhile_append_of_all fun c hmem => h c (List.mem_reverse.mp hmem)]
  rfl

theorem rdropWhile_append_of_ne_nil (h : text.rdropWhile remove ≠ []) (front : List Char) :
    (front ++ text).rdropWhile remove = front ++ text.rdropWhile remove := by
  have hstays : text.reverse.dropWhile remove ≠ [] := fun hempty =>
    h (congrArg List.reverse hempty)
  rw [List.rdropWhile, List.rdropWhile, List.reverse_append, List.dropWhile_append,
    if_neg (by rwa [List.isEmpty_iff]), List.reverse_append, List.reverse_reverse]

theorem first_dropWhile (text : List Char) :
    ∀ c ∈ (text.dropWhile remove).head?, remove c = false := by
  intro c hmem
  have hfirst := List.head?_dropWhile_not remove text
  rw [Option.mem_def.mp hmem] at hfirst
  exact hfirst

theorem Trimmed.trimMatches (text : List Char) : Trimmed remove (trimMatches remove text) where
  first c hmem := by
    obtain ⟨after, hafter⟩ := List.rdropWhile_prefix remove (text.dropWhile remove)
    refine first_dropWhile text c ?_
    rw [← hafter, ← trimMatches_eq, List.head?_append, Option.mem_def.mp hmem]
    rfl
  last := last_rdropWhile _

theorem dropWhile_trimMatches (text : List Char) :
    (trimMatches remove text).dropWhile remove = trimMatches remove text :=
  dropWhile_of_first (Trimmed.trimMatches text).first

theorem trimMatches_trimMatches (text : List Char) :
    trimMatches remove (trimMatches remove text) = trimMatches remove text := by
  rw [trimMatches_eq, dropWhile_trimMatches, trimMatches_eq, List.rdropWhile_idempotent]

theorem trimMatches_around (hlead : ∀ c ∈ lead, remove c = true)
    (htrail : ∀ c ∈ trail, remove c = true) (h : Trimmed remove text) :
    trimMatches remove (lead ++ text ++ trail) = text := by
  rw [trimMatches_eq, List.append_assoc, dropWhile_append_of_all hlead]
  cases text with
  | nil =>
    rw [List.nil_append, List.dropWhile_eq_nil_iff.mpr htrail]
    rfl
  | cons c rest =>
    rw [List.cons_append, List.dropWhile_cons,
      if_neg (by rw [h.first c rfl]; exact Bool.false_ne_true), ← List.cons_append,
      rdropWhile_append_of_all htrail, rdropWhile_of_last h.last]

theorem trimMatches_append (hlead : ∀ c ∈ lead, remove c = true)
    (htrail : ∀ c ∈ trail, remove c = true) (text : List Char) :
    trimMatches remove (lead ++ text ++ trail) = trimMatches remove text := by
  rw [trimMatches_eq, trimMatches_eq, List.append_assoc, dropWhile_append_of_all hlead,
    List.dropWhile_append]
  split
  · rename_i hempty
    rw [List.isEmpty_iff.mp hempty, List.dropWhile_eq_nil_iff.mpr htrail]
  · rw [rdropWhile_append_of_all htrail]

theorem trimMatches_split (remove : Char → Bool) (text : List Char) :
    ∃ trail, text = text.takeWhile remove ++ trimMatches remove text ++ trail ∧
      ∀ c ∈ trail, remove c = true := by
  refine ⟨(text.dropWhile remove).rtakeWhile remove, ?_, fun c => List.mem_rtakeWhile_imp⟩
  rw [List.append_assoc, trimMatches_eq, List.rdropWhile_append_rtakeWhile,
    List.takeWhile_append_dropWhile]

def trimStart (text : List Char) : List Char := text.dropWhile isWhitespace

def trimEnd (text : List Char) : List Char := text.rdropWhile isWhitespace

section TrimEnd
variable {front : List Char}

@[simp] theorem trimEnd_trimEnd (text : List Char) : trimEnd (trimEnd text) = trimEnd text :=
  List.rdropWhile_idempotent _ _

theorem trimEnd_eq_nil_iff : trimEnd text = [] ↔ ∀ c ∈ text, isWhitespace c = true :=
  List.rdropWhile_eq_nil_iff

theorem trimEnd_append (h : trimEnd text ≠ []) (front : List Char) :
    trimEnd (front ++ text) = front ++ trimEnd text := rdropWhile_append_of_ne_nil h front

theorem trimEnd_append_of_blank (h : trimEnd text = []) (front : List Char) :
    trimEnd (front ++ text) = trimEnd front :=
  rdropWhile_append_of_all (trimEnd_eq_nil_iff.mp h) front

theorem trimEnd_append_of_last (h : ∀ c ∈ front.getLast?, isWhitespace c = false)
    (text : List Char) : trimEnd (front ++ text) = front ++ trimEnd text := by
  by_cases hblank : trimEnd text = []
  · rw [trimEnd_append_of_blank hblank, hblank, List.append_nil]
    exact rdropWhile_of_last h
  · exact trimEnd_append hblank front

theorem trim_eq_nil_iff : trim text = [] ↔ ∀ c ∈ text, isWhitespace c = true := by
  rw [trim, trimMatches_eq, List.rdropWhile_eq_nil_iff]
  constructor
  · intro h c hmem
    obtain hfirst | hrest := List.mem_append.mp
      (List.takeWhile_append_dropWhile (p := isWhitespace) (l := text) ▸ hmem)
    · exact List.mem_takeWhile_imp hfirst
    · exact h c hrest
  · intro h c hmem
    exact h c ((List.dropWhile_sublist isWhitespace).subset hmem)

theorem trim_eq_nil_iff_trimEnd : trim text = [] ↔ trimEnd text = [] := by
  rw [trim_eq_nil_iff, trimEnd_eq_nil_iff]

end TrimEnd
end Text
