import AgentFirstMail.Drafts.Documents
import AgentFirstMail.Drafts.Extensions

namespace AgentFirstMail
open Lines Text
variable {body text tail inner : List Char}

/-- A compose section from its marker line on, with a marker in it. -/
structure Split (inner : List Char) : Prop where
  closed : Closed '\n' inner
  first : inner.head? = some '<'
  marks : ∃ marks, marks ≠ [] ∧ markers inner = .composeStart :: marks

/-- A text with markers in its compose section. Nothing that is added around it makes it valid. -/
def Torn (text : List Char) : Prop :=
  ∃ front inner, Closed '\n' front ∧ Split inner ∧
    Extends (front ++ inner ++ Marker.composeEnd.chars) text

theorem Torn.not_parsed (h : Torn text) {content : DraftContent} :
    parseDraftContent text ≠ .ok content := by
  obtain ⟨front, inner, hfront, hinner, tail, rfl, hbegins⟩ := h
  obtain ⟨marks, hne, hmarks⟩ := hinner.marks
  obtain ⟨rest, hrest⟩ := markers_marker .composeEnd hbegins
  have hmarkers : markers (front ++ inner ++ Marker.composeEnd.chars ++ tail) =
      markers front ++ (.composeStart :: (marks ++ [.composeEnd])) ++ rest := by
    rw [List.append_assoc, markers_append (hfront.append hinner.closed), markers_append hfront,
      hmarks, hrest]
    simp
  intro hparse
  refine not_wellMarked_of_inner hne ?_ (parses_iff.mp ⟨content, hparse⟩)
  rw [hmarkers]
  exact ⟨markers front, rest, rfl⟩

section Changes

theorem Torn.ensure (h : Torn text) (raw : Option (List Char)) :
    Torn (ensureIdentityFooter text raw) := by
  obtain ⟨front, inner, hfront, hinner, hextends⟩ := h
  exact ⟨front, inner, hfront, hinner, hextends.ensure raw⟩

theorem Torn.remove (h : Torn text) {raw : Option (List Char)}
    (hfooter : ∀ footer, normalizeIdentityFooter raw = some footer →
      .composeEnd ∉ markers footer) : Torn (removeIdentityFooter text raw) := by
  obtain ⟨front, inner, hfront, hinner, hextends⟩ := h
  exact ⟨front, inner, hfront, hinner, hextends.remove (hfront.append hinner.closed) hfooter⟩

theorem Torn.behind {kept : List Char} (hkept : Closed '\n' kept) (h : Torn text) :
    Torn (kept ++ text) := by
  obtain ⟨front, inner, hfront, hinner, tail, rfl, hbegins⟩ := h
  exact ⟨kept ++ front, inner, hkept.append hfront, hinner, tail, by simp, hbegins⟩

theorem Begins.append_newline (h : Begins tail) : Begins (tail ++ ['\n']) := by
  obtain rfl | hbreaks := h
  · exact .inr (.inr ⟨['\r', '\n'], [], .inr rfl, rfl⟩)
  · exact .inr (hbreaks.append [])

theorem Torn.append_newline (h : Torn text) : Torn (text ++ ['\n']) := by
  obtain ⟨front, inner, hfront, hinner, tail, rfl, hbegins⟩ := h
  exact ⟨front, inner, hfront, hinner, _, List.append_assoc .., hbegins.append_newline⟩

theorem Torn.trimStart (h : Torn text) : Torn (trimStart text) := by
  obtain ⟨front, inner, hfront, hinner, tail, rfl, hbegins⟩ := h
  have hrest : Text.trimStart (inner ++ (Marker.composeEnd.chars ++ tail)) =
      inner ++ (Marker.composeEnd.chars ++ tail) := by
    refine dropWhile_of_first fun c hmem => ?_
    rw [List.head?_append, hinner.first, Option.some_or, Option.mem_some_iff] at hmem
    rw [← hmem]
    decide
  have hfrontTrim : Closed '\n' (Text.trimStart front) := by
    rw [← List.takeWhile_append_dropWhile (p := isWhitespace) (l := front)] at hfront
    exact hfront.of_append
  refine ⟨Text.trimStart front, inner, hfrontTrim, hinner, tail, ?_, hbegins⟩
  simp only [List.append_assoc]
  rw [Text.trimStart, List.dropWhile_append]
  split
  · rename_i hblank
    rw [Text.trimStart, List.isEmpty_iff.mp hblank]
    exact hrest
  · rfl

theorem Torn.documentBody (h : Torn text) : Torn (documentBody text) := by
  rw [AgentFirstMail.documentBody]
  split
  · rw [List.append_nil]
    exact h.trimStart
  · exact h.trimStart.append_newline

theorem Torn.read_back {φ : Type} {format : MarkdownFormat φ} {source rendered : List Char}
    {frontmatter : φ} {doc : MarkdownDoc} (h : Torn body)
    (hedit : editFrontmatter format source frontmatter body = .ok rendered)
    (hread : splitFrontmatter rendered = .ok doc) : Torn doc.body := by
  obtain ⟨split, hsplit, hbody⟩ | ⟨yaml, rfl⟩ := editFrontmatter_eq_ok hedit
  · rw [hsplit] at hread
    cases hread
    rw [hbody]
    exact h
  · obtain ⟨kept, hkept, hbody⟩ := body_of_rendered hread
    rw [hbody]
    exact h.documentBody.behind hkept

end Changes

namespace Sections
variable (sections : Sections body)

theorem isLine_composeStart : IsLine '\n' sections.composeStart := by
  have heq := sections.eq
  obtain ⟨next, rest, hnext⟩ := List.exists_cons_of_ne_nil
    (List.append_ne_nil_of_right_ne_nil sections.compose
      (List.cons_ne_nil sections.composeEnd sections.rest))
  rw [List.append_cons, hnext] at heq
  exact isLine_of_splitInclusive heq (List.mem_append_right _ (List.mem_singleton_self _))

theorem head_composeStart : sections.composeStart.head? = some '<' := by
  obtain ⟨tail, heq, _⟩ := sections.cutStart.begins
  have hne := sections.isLine_composeStart.ne_nil
  obtain ⟨first, rest, hcons⟩ := List.exists_cons_of_ne_nil hne
  have hhead := congrArg List.head? heq
  rw [hcons] at hhead ⊢
  exact hhead

theorem torn (h : markers (trimLineEnds text) ≠ []) :
    Torn (sections.front ++ (sections.written text ++ sections.back)) := by
  obtain ⟨tail, htail, hbegins⟩ := sections.cutEnd.begins
  have hline := sections.isLine_composeStart
  have hheading : Closed '\n' sections.heading.flatten :=
    closed_flatten fun line hmem => isLine_of_splitInclusive sections.eq hmem
  have hmarkers : markers (sections.composeStart ++ sections.written text) =
      .composeStart :: markers (trimLineEnds text) := by
    rw [markers_append hline.closed, sections.markers_written, markers,
      splitInclusive_of_isLine hline, markersOf_cons_some sections.start_marker]
    rfl
  refine ⟨sections.heading.flatten, sections.composeStart ++ sections.written text, hheading,
    ⟨hline.closed.append (sections.closed_written text), ?_, _, h, hmarkers⟩, tail, ?_, hbegins⟩
  · rw [List.head?_append, sections.head_composeStart]
    rfl
  · rw [List.append_assoc _ _ tail, ← htail, front, back]
    simp only [List.append_assoc]

end Sections
end AgentFirstMail
