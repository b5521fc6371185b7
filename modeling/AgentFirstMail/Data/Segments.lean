import Mathlib.Data.List.Basic
import AgentFirstMail.Data.Lines

/-! Text cut behind each newline. The last segment may have none. -/

namespace Lines
variable {α : Type} {newline : α} {text front back : List α}

section Closed

/-- A text that no segment goes beyond: what comes next starts a new one. -/
def Closed (newline : α) (text : List α) : Prop := ∀ c ∈ text.getLast?, c = newline

theorem Closed.nil : Closed newline [] := fun _ hmem => nomatch hmem

theorem Closed.append_newline (text : List α) : Closed newline (text ++ [newline]) := by
  intro c hmem
  rw [List.getLast?_append, List.getLast?_singleton] at hmem
  exact (Option.mem_some_iff.mp hmem).symm

theorem Closed.append (hfront : Closed newline front) (hback : Closed newline back) :
    Closed newline (front ++ back) := by
  cases back with
  | nil =>
    rw [List.append_nil]
    exact hfront
  | cons c rest =>
    intro d hmem
    rw [List.getLast?_append_cons] at hmem
    exact hback d hmem

theorem Closed.of_append (h : Closed newline (front ++ back)) : Closed newline back := by
  intro c hmem
  refine h c ?_
  rw [List.getLast?_append, Option.mem_def.mp hmem]
  rfl

theorem Closed.eq_append (h : Closed newline text) (hne : text ≠ []) :
    ∃ front, text = front ++ [newline] := by
  refine ⟨text.dropLast, ?_⟩
  have hlast := h _ (List.getLast?_eq_some_getLast hne)
  rw [← hlast, List.dropLast_concat_getLast hne]

theorem IsLine.closed {line : List α} (h : IsLine newline line) : Closed newline line := by
  obtain ⟨text, _, rfl⟩ := h
  exact .append_newline text

theorem IsLine.ne_nil {line : List α} (h : IsLine newline line) : line ≠ [] := by
  obtain ⟨text, _, rfl⟩ := h
  exact List.append_ne_nil_of_right_ne_nil _ (List.cons_ne_nil _ _)

theorem closed_flatten {lines : List (List α)} (h : ∀ line ∈ lines, IsLine newline line) :
    Closed newline lines.flatten := by
  induction lines with
  | nil => exact .nil
  | cons line rest ih =>
    rw [List.flatten_cons]
    exact (h line List.mem_cons_self).closed.append
      (ih fun other hmem => h other (List.mem_cons_of_mem _ hmem))

end Closed

/-- What is left unfinished is a segment unless it is empty. -/
def lastSegment (rest : List α) : List (List α) := if rest = [] then [] else [rest]

@[simp] theorem lastSegment_nil : lastSegment ([] : List α) = [] := rfl

@[simp] theorem flatten_lastSegment (rest : List α) : (lastSegment rest).flatten = rest := by
  rw [lastSegment]
  split
  · rename_i hempty
    rw [hempty]
    rfl
  · rw [List.flatten_singleton]

variable [DecidableEq α]

def splitInclusive (newline : α) (text : List α) : List (List α) :=
  complete newline [] text ++ lastSegment (unfinished newline [] text)

theorem flatten_complete (newline : α) (begun text : List α) :
    (complete newline begun text).flatten ++ unfinished newline begun text = begun ++ text := by
  induction text generalizing begun with
  | nil => rw [complete, unfinished, List.flatten_nil, List.nil_append, List.append_nil]
  | cons c rest ih =>
    rw [complete, unfinished]
    split
    · rw [List.flatten_cons, List.append_assoc, ih, List.nil_append, List.append_assoc]
      rfl
    · rw [ih, List.append_assoc]
      rfl

@[simp] theorem flatten_splitInclusive (newline : α) (text : List α) :
    (splitInclusive newline text).flatten = text := by
  rw [splitInclusive, List.flatten_append, flatten_lastSegment, flatten_complete, List.nil_append]

theorem not_mem_unfinished {begun : List α} (h : newline ∉ begun) :
    newline ∉ unfinished newline begun text := by
  induction text generalizing begun with
  | nil => exact h
  | cons c rest ih =>
    rw [unfinished]
    split
    · exact ih List.not_mem_nil
    · rename_i hne
      refine ih ?_
      rw [List.mem_append, List.mem_singleton, not_or]
      exact ⟨h, Ne.symm hne⟩

theorem isLine_of_mem_complete {begun line : List α} (h : newline ∉ begun)
    (hmem : line ∈ complete newline begun text) : IsLine newline line := by
  induction text generalizing begun with
  | nil => cases hmem
  | cons c rest ih =>
    rw [complete] at hmem
    split at hmem
    · rename_i hstop
      obtain rfl | hrest := List.mem_cons.mp hmem
      · exact ⟨begun, h, by rw [hstop]⟩
      · exact ih List.not_mem_nil hrest
    · rename_i hne
      refine ih ?_ hmem
      rw [List.mem_append, List.mem_singleton, not_or]
      exact ⟨h, Ne.symm hne⟩

theorem splitInclusive_flatten {lines : List (List α)} {rest : List α}
    (hlines : ∀ line ∈ lines, IsLine newline line) (hrest : newline ∉ rest) :
    splitInclusive newline (lines.flatten ++ rest) = lines ++ lastSegment rest := by
  obtain ⟨hcomplete, hunfinished⟩ := complete_flatten hlines
  have htail (begun : List α) : complete newline begun rest = [] ∧
      unfinished newline begun rest = begun ++ rest := by
    clear hcomplete hunfinished hlines
    induction rest generalizing begun with
    | nil => exact ⟨rfl, (List.append_nil _).symm⟩
    | cons c rest ih =>
      rw [List.mem_cons, not_or] at hrest
      rw [complete, unfinished, if_neg (Ne.symm hrest.1), if_neg (Ne.symm hrest.1),
        List.append_cons begun c rest]
      exact ih hrest.2 _
  rw [splitInclusive, complete_append, unfinished_append, hcomplete, hunfinished, (htail []).1,
    (htail []).2, List.append_nil, List.nil_append]

theorem unfinished_of_closed (h : Closed newline front) : unfinished newline [] front = [] := by
  by_cases hne : front = []
  · rw [hne]
    rfl
  · obtain ⟨text, rfl⟩ := h.eq_append hne
    rw [unfinished_append, unfinished, if_pos rfl, unfinished]

theorem isLine_of_closed {line : List α} (h : Closed newline text)
    (hmem : line ∈ splitInclusive newline text) : IsLine newline line := by
  rw [splitInclusive, unfinished_of_closed h, lastSegment_nil, List.append_nil] at hmem
  exact isLine_of_mem_complete List.not_mem_nil hmem

theorem splitInclusive_append (h : Closed newline front) (back : List α) :
    splitInclusive newline (front ++ back) =
      splitInclusive newline front ++ splitInclusive newline back := by
  rw [splitInclusive, splitInclusive, splitInclusive, complete_append, unfinished_append,
    unfinished_of_closed h, lastSegment_nil, List.append_nil, List.append_assoc]

theorem splitInclusive_of_not_mem (hne : text ≠ []) (h : newline ∉ text) :
    splitInclusive newline text = [text] := by
  have hsplit := @splitInclusive_flatten α newline _ [] text (fun _ hmem => nomatch hmem) h
  rwa [List.flatten_nil, List.nil_append, List.nil_append, lastSegment, if_neg hne] at hsplit

theorem splitInclusive_of_isLine {line : List α} (h : IsLine newline line) :
    splitInclusive newline line = [line] := by
  have hsplit := @splitInclusive_flatten α newline _ [line] []
    (fun _ hmem => List.mem_singleton.mp hmem ▸ h) List.not_mem_nil
  rwa [List.flatten_singleton, List.append_nil, lastSegment_nil, List.append_nil] at hsplit

theorem ne_nil_of_mem_splitInclusive {segment : List α}
    (h : segment ∈ splitInclusive newline text) : segment ≠ [] := by
  obtain hline | hlast := List.mem_append.mp h
  · exact (isLine_of_mem_complete List.not_mem_nil hline).ne_nil
  · rw [lastSegment] at hlast
    split at hlast
    · cases hlast
    · rename_i hne
      rw [List.mem_singleton.mp hlast]
      exact hne

theorem exists_last_segment (hne : text ≠ []) (h : ∀ c ∈ text.getLast?, c ≠ newline) :
    ∃ before last, text = before ++ last ∧ Closed newline before ∧ last ≠ [] ∧ newline ∉ last := by
  have hflat := flatten_complete newline [] text
  have hlines : ∀ line ∈ complete newline [] text, IsLine newline line :=
    fun line hmem => isLine_of_mem_complete List.not_mem_nil hmem
  have hclosed := closed_flatten hlines
  refine ⟨_, _, hflat.symm, hclosed, ?_, not_mem_unfinished List.not_mem_nil⟩
  intro hempty
  rw [hempty, List.append_nil, List.nil_append] at hflat
  rw [hflat] at hclosed
  have hlast := List.getLast?_eq_some_getLast hne
  exact h _ hlast (hclosed _ hlast)

theorem isLine_of_splitInclusive {before after : List (List α)} {segment line : List α}
    (h : splitInclusive newline text = before ++ segment :: after) (hmem : line ∈ before) :
    IsLine newline line := by
  have hbefore : before <+: complete newline [] text := by
    have hwhole : before ++ [segment] <+: splitInclusive newline text := by
      rw [h, List.append_cons before segment after]
      exact List.prefix_append _ _
    refine List.prefix_of_prefix_length_le ((List.prefix_append before [segment]).trans hwhole)
      (List.prefix_append _ _) ?_
    have hlength := hwhole.length_le
    rw [splitInclusive, List.length_append, List.length_append, lastSegment,
      List.length_singleton] at hlength
    split at hlength
    · rw [List.length_nil] at hlength
      omega
    · rw [List.length_singleton] at hlength
      omega
  exact isLine_of_mem_complete List.not_mem_nil (hbefore.subset hmem)

theorem splitInclusive_cut {before after : List (List α)}
    (h : splitInclusive newline text = before ++ after) (hne : after ≠ []) :
    Closed newline before.flatten ∧ splitInclusive newline before.flatten = before ∧
      splitInclusive newline after.flatten = after := by
  obtain ⟨segment, rest, rfl⟩ := List.exists_cons_of_ne_nil hne
  have hlines : ∀ line ∈ before, IsLine newline line :=
    fun line hmem => isLine_of_splitInclusive h hmem
  have hclosed := closed_flatten hlines
  have hbefore : splitInclusive newline before.flatten = before := by
    have hsplit := splitInclusive_flatten hlines (List.not_mem_nil (a := newline))
    rwa [List.append_nil, lastSegment_nil, List.append_nil] at hsplit
  refine ⟨hclosed, hbefore, ?_⟩
  have htext : text = before.flatten ++ (segment :: rest).flatten := by
    rw [← flatten_splitInclusive newline text, h, List.flatten_append]
  rw [htext, splitInclusive_append hclosed, hbefore] at h
  exact List.append_cancel_left h

end Lines
