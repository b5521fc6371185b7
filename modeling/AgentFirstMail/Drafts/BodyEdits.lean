import AgentFirstMail.Data.Trims
import AgentFirstMail.Drafts.Sections

namespace AgentFirstMail
open Lines Text
variable {body text ending : List Char} {content : DraftContent}

def IsLineEnding (ending : List Char) : Prop := ending = ['\n'] ∨ ending = ['\r', '\n']

theorem IsLineEnding.isLineEnd (h : IsLineEnding ending) : ∀ c ∈ ending, isLineEnd c = true := by
  obtain rfl | rfl := h <;> simp [isLineEnd]

theorem IsLineEnding.closed (h : IsLineEnding ending) (text : List Char) :
    Closed '\n' (text ++ ending) := by
  obtain rfl | rfl := h
  · exact .append_newline text
  · rw [List.append_cons]
    exact .append_newline _

section LineText

theorem stripSuffix_of_last {c : Char} (h : ∀ d ∈ text.getLast?, d ≠ c) :
    stripSuffix c text = text := by
  rw [stripSuffix, if_neg fun hlast : text.getLast? = some c => h c hlast rfl]

@[simp] theorem stripSuffix_append (c : Char) (text : List Char) :
    stripSuffix c (text ++ [c]) = text := by
  rw [stripSuffix, if_pos (List.getLast?_concat ..), List.dropLast_concat]

variable (h : ∀ c ∈ text.getLast?, isLineEnd c = false)
include h

theorem lineText_of_last : lineText text = text := by
  have hstrip (c : Char) (hc : isLineEnd c = true) : stripSuffix c text = text := by
    refine stripSuffix_of_last fun d hmem hd => ?_
    rw [hd] at hmem
    exact Bool.false_ne_true ((h c hmem).symm.trans hc)
  rw [lineText, hstrip '\n' rfl, hstrip '\r' rfl]

theorem lineText_append (hending : IsLineEnding ending) : lineText (text ++ ending) = text := by
  obtain rfl | rfl := hending
  · have hstrip := lineText_of_last h
    rw [lineText, stripSuffix_append, stripSuffix_of_last]
    intro c hmem hc
    rw [hc] at hmem
    exact Bool.false_ne_true (h '\r' hmem).symm
  · rw [lineText, List.append_cons, stripSuffix_append, stripSuffix_append]

/-- A line ending at the end of a text changes no line. -/
theorem markers_append_ending (hending : IsLineEnding ending) :
    markers (text ++ ending) = markers text := by
  by_cases hne : text = []
  · rw [hne]
    obtain rfl | rfl := hending <;> rfl
  · have hnewline (c : Char) (hmem : c ∈ text.getLast?) : c ≠ '\n' := by
      rintro rfl
      exact Bool.false_ne_true (h '\n' hmem).symm
    obtain ⟨before, last, rfl, hclosed, hlastNe, hfree⟩ := exists_last_segment hne hnewline
    rw [List.getLast?_append_of_ne_nil before hlastNe] at h
    have hline : IsLine '\n' (last ++ ending) := by
      obtain rfl | rfl := hending
      · exact ⟨last, hfree, rfl⟩
      · refine ⟨last ++ ['\r'], ?_, List.append_cons ..⟩
        simp [hfree]
    rw [List.append_assoc, markers, markers, splitInclusive_append hclosed,
      splitInclusive_append hclosed, splitInclusive_of_isLine hline,
      splitInclusive_of_not_mem hlastNe hfree, markersOf_append, markersOf_append]
    refine congrArg (markersOf (splitInclusive '\n' before) ++ ·) ?_
    have hmarker : markerOf (last ++ ending) = markerOf last := by
      rw [markerOf, markerOf, lineText_append h hending, lineText_of_last h]
    rw [markersOf, markersOf, List.filterMap_cons, List.filterMap_cons, hmarker]

end LineText

theorem isLineEnding_markerLineEnding (body : List Char) (line : MarkerLine) :
    IsLineEnding (markerLineEnding body line) := by
  rw [markerLineEnding]
  split
  · exact .inr rfl
  · exact .inl rfl

/-- A text without its marker lines. -/
def withoutMarkerLines (text : List Char) : List Char :=
  ((splitInclusive '\n' text).filter fun segment => (markerOf segment).isNone).flatten

theorem removeSchemaMarkerLines_eq (h : .composeStart ∉ markers text) :
    removeSchemaMarkerLines text = withoutMarkerLines text := by
  refine congrArg List.flatten (List.filter_congr fun segment hmem => ?_)
  cases hmarker : markerOf segment with
  | none =>
    have hother (marker : Marker) : (lineText segment == marker.chars) = false := by
      refine beq_eq_false_iff_ne.mpr fun heq => ?_
      rw [markerOf_eq_some_iff.mpr heq] at hmarker
      cases hmarker
    simp [hother]
  | some marker =>
    have hline := markerOf_eq_some_iff.mp hmarker
    cases marker with
    | composeStart => exact (h (mem_markersOf.mpr ⟨segment, hmem, hmarker⟩)).elim
    | composeEnd | quoteStart | quoteEnd => simp [hline]

namespace Sections
variable (sections : Sections body)

theorem compose_eq (h : parseDraftContent body = .ok content) :
    content.compose = sections.authored := by
  obtain ⟨hbody, hstart, hend⟩ := sections.eq_of_parse h
  rw [DraftContent.compose, hbody, hstart, hend]
  exact sections.slice_authored

/-- The compose section that a text makes. -/
def written (text : List Char) : List Char :=
  trimLineEnds text ++ markerLineEnding body sections.startPlace

theorem closed_written (text : List Char) : Closed '\n' (sections.written text) :=
  (isLineEnding_markerLineEnding ..).closed _

theorem markers_written (text : List Char) :
    markers (sections.written text) = markers (trimLineEnds text) :=
  markers_append_ending (Trimmed.trimMatches text).last (isLineEnding_markerLineEnding ..)

theorem replace_eq (text : List Char) : replaceAuthoredText body text =
    .ok (sections.front ++ (sections.written text ++ sections.back)) := by
  obtain ⟨quote, hparse⟩ := sections.parse
  rw [replaceAuthoredText, hparse]
  simp only [bind, Except.bind, pure, Except.pure]
  rw [sections.take_afterLine, sections.drop_lineStart, written]
  simp only [List.append_assoc]

theorem outbound_eq : outboundBody body =
    .ok (trimLineEnds (sections.authored ++ withoutMarkerLines sections.back)) := by
  obtain ⟨quote, hparse⟩ := sections.parse
  have hmarkers : .composeStart ∉ markers (sections.authored ++ sections.back) := by
    rw [markers, sections.split_authored_back.2]
    exact sections.cutStart.notAfter
  have hcompose : sections.compose.filter (fun segment => (markerOf segment).isNone) =
      sections.compose := by
    refine List.filter_eq_self.mpr fun segment hmem => ?_
    rw [List.filterMap_eq_nil_iff.mp sections.compose_plain segment hmem]
    rfl
  have hsplit : withoutMarkerLines (sections.authored ++ sections.back) =
      sections.authored ++ withoutMarkerLines sections.back := by
    obtain ⟨hclosed, hauthored, _⟩ := sections.split_authored
    rw [withoutMarkerLines, splitInclusive_append hclosed, hauthored, List.filter_append, hcompose,
      List.flatten_append]
    rfl
  rw [outboundBody, hparse]
  simp only [bind, Except.bind, pure, Except.pure]
  rw [sections.drop_afterLine, removeSchemaMarkerLines_eq hmarkers, hsplit]

/-- The range of the authored text is that of the compose section without the line endings
around it. -/
theorem slice_authoredTextRange (h : parseDraftContent body = .ok content) :
    slice body content.authoredTextRange.1 content.authoredTextRange.2 =
      trimLineEnds sections.authored := by
  obtain ⟨_, hstart, _⟩ := sections.eq_of_parse h
  obtain ⟨trail, hsplit, _⟩ := trimMatches_split isLineEnd sections.authored
  rw [← trimLineEnds] at hsplit
  have hleading : sections.authored.length - (sections.authored.dropWhile isLineEnd).length =
      (sections.authored.takeWhile isLineEnd).length := by
    have hlength := congrArg List.length
      (List.takeWhile_append_dropWhile (p := isLineEnd) (l := sections.authored))
    rw [List.length_append] at hlength
    omega
  have hbody : body = sections.front ++ sections.authored.takeWhile isLineEnd ++
      trimLineEnds sections.authored ++ (trail ++ sections.back) := by
    have hwhole := sections.body_eq
    conv at hwhole =>
      rhs
      rw [hsplit]
    simpa only [List.append_assoc] using hwhole
  rw [DraftContent.authoredTextRange]
  dsimp only
  rw [sections.compose_eq h, hstart, hleading, ← sections.length_front, ← List.length_append,
    ← List.length_append, slice, (congrArg (List.take _) hbody).trans List.take_left]
  exact List.drop_left

end Sections
end AgentFirstMail
