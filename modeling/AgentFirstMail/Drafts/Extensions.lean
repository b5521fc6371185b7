import AgentFirstMail.Drafts.BodyEdits
import AgentFirstMail.Drafts.Footers

namespace AgentFirstMail
open Lines Text
variable {body text tail core inner : List Char} {marker : Marker}

/-- A text that ends a line before it, if it is not empty. -/
def Breaks (tail : List Char) : Prop :=
  tail = [] ∨ ∃ ending rest, IsLineEnding ending ∧ tail = ending ++ rest

/-- A text behind a marker that leaves it a line of its own. -/
def Begins (tail : List Char) : Prop := tail = ['\r'] ∨ Breaks tail

/-- A text that goes on behind its last marker. -/
def Extends (core text : List Char) : Prop := ∃ tail, text = core ++ tail ∧ Begins tail

section MarkerLines

theorem Marker.newline_not_mem_chars (marker : Marker) : '\n' ∉ marker.chars :=
  fun hmem => Bool.false_ne_true (Marker.not_isLineEnd_of_mem_chars hmem).symm

theorem Marker.chars_ne_nil (marker : Marker) : marker.chars ≠ [] := by
  cases marker <;> decide

theorem Marker.last_chars (marker : Marker) (front : List Char) :
    ∀ c ∈ (front ++ marker.chars).getLast?, isWhitespace c = false ∧ isLineEnd c = false := by
  intro c hmem
  rw [List.getLast?_append_of_ne_nil front marker.chars_ne_nil] at hmem
  have hlast : marker.chars.getLast? = some '>' := by
    cases marker <;> decide
  rw [hlast] at hmem
  cases hmem
  decide

theorem lineText_chars_append (marker : Marker) {ending : List Char} (h : IsLineEnding ending) :
    lineText (marker.chars ++ ending) = marker.chars :=
  lineText_append (fun c hmem => (marker.last_chars [] c hmem).2) h

theorem isLine_chars_append (marker : Marker) {ending : List Char} (h : IsLineEnding ending) :
    IsLine '\n' (marker.chars ++ ending) := by
  obtain rfl | rfl := h
  · exact ⟨marker.chars, marker.newline_not_mem_chars, rfl⟩
  · refine ⟨marker.chars ++ ['\r'], ?_, List.append_cons ..⟩
    simp [marker.newline_not_mem_chars]

/-- A marker is a line of its own wherever its line ends. -/
theorem splitInclusive_marker (marker : Marker) (h : Begins tail) :
    ∃ line rest, splitInclusive '\n' (marker.chars ++ tail) = line :: rest ∧
      markerOf line = some marker := by
  have hlast (c : Char) (hmem : c ∈ marker.chars.getLast?) : isLineEnd c = false :=
    (marker.last_chars [] c hmem).2
  obtain rfl | rfl | ⟨ending, rest, hending, rfl⟩ := h
  · refine ⟨marker.chars ++ ['\r'], [], splitInclusive_of_not_mem ?_ ?_, ?_⟩
    · exact List.append_ne_nil_of_left_ne_nil marker.chars_ne_nil _
    · simp [marker.newline_not_mem_chars]
    · have hkeep : stripSuffix '\n' (marker.chars ++ ['\r']) = marker.chars ++ ['\r'] := by
        refine stripSuffix_of_last fun c hmem => ?_
        rw [List.getLast?_concat, Option.mem_some_iff] at hmem
        rw [← hmem]
        decide
      rw [markerOf_eq_some_iff, lineText, hkeep, stripSuffix_append]
  · refine ⟨marker.chars, [], ?_, ?_⟩
    · rw [List.append_nil]
      exact splitInclusive_of_not_mem marker.chars_ne_nil marker.newline_not_mem_chars
    · rw [markerOf_eq_some_iff]
      exact lineText_of_last hlast
  · refine ⟨marker.chars ++ ending, splitInclusive '\n' rest, ?_, ?_⟩
    · rw [← List.append_assoc, splitInclusive_append (hending.closed _),
        splitInclusive_of_isLine (isLine_chars_append marker hending)]
      rfl
    · rw [markerOf_eq_some_iff, lineText_chars_append marker hending]

theorem markers_marker (marker : Marker) (h : Begins tail) :
    ∃ rest, markers (marker.chars ++ tail) = marker :: rest := by
  obtain ⟨line, rest, hsplit, hline⟩ := splitInclusive_marker marker h
  exact ⟨markersOf rest, by rw [markers, hsplit, markersOf_cons_some hline]⟩

theorem stripSuffix_split (c : Char) (text : List Char) :
    text = stripSuffix c text ∨ text = stripSuffix c text ++ [c] := by
  rw [stripSuffix]
  split
  · rename_i hlast
    exact .inr (List.dropLast_append_getLast? c hlast).symm
  · exact .inl rfl

/-- What follows a marker in a body leaves it a line of its own. -/
theorem Cut.begins {before after : List (List Char)} {segment : List Char}
    (h : Cut body marker before segment after) :
    ∃ tail, segment ++ after.flatten = marker.chars ++ tail ∧ Begins tail := by
  have hline := markerOf_eq_some_iff.mp h.here
  have hlast : after ≠ [] → Closed '\n' segment := by
    intro hne
    obtain ⟨next, others, rfl⟩ := List.exists_cons_of_ne_nil hne
    have heq := h.eq
    rw [List.append_cons] at heq
    exact (isLine_of_splitInclusive heq (List.mem_append_right _ (List.mem_singleton_self _))).closed
  have hflat (hopen : ¬ Closed '\n' segment) : after.flatten = [] := by
    rw [Classical.byContradiction fun hne => hopen (hlast hne)]
    rfl
  obtain hnewline | hnewline := stripSuffix_split '\n' segment
  · have hreturn := stripSuffix_split '\r' (stripSuffix '\n' segment)
    rw [← lineText, ← hnewline, hline] at hreturn
    have hopen : ¬ Closed '\n' segment := by
      intro hclosed
      obtain ⟨front, hfront⟩ := hclosed.eq_append fun hempty => by
        rw [hempty] at hline
        exact marker.chars_ne_nil hline.symm
      rw [hfront, stripSuffix_append] at hnewline
      have hlength := congrArg List.length hnewline
      rw [List.length_append, List.length_singleton] at hlength
      omega
    rw [hflat hopen, List.append_nil]
    obtain heq | heq := hreturn
    · exact ⟨[], by rw [List.append_nil]; exact heq, .inr (.inl rfl)⟩
    · exact ⟨['\r'], heq, .inl rfl⟩
  · have hreturn := stripSuffix_split '\r' (stripSuffix '\n' segment)
    rw [← lineText, hline] at hreturn
    obtain heq | heq := hreturn
    · refine ⟨['\n'] ++ after.flatten, ?_, .inr (.inr ⟨['\n'], _, .inl rfl, rfl⟩)⟩
      conv_lhs => rw [hnewline, heq]
      rw [List.append_assoc]
    · refine ⟨['\r', '\n'] ++ after.flatten, ?_, .inr (.inr ⟨['\r', '\n'], _, .inr rfl, rfl⟩)⟩
      conv_lhs => rw [hnewline, heq]
      simp only [List.append_assoc]
      rfl

end MarkerLines

section Trimming

theorem IsLineEnding.blank {ending : List Char} (h : IsLineEnding ending) :
    ∀ c ∈ ending, isWhitespace c = true := by
  obtain rfl | rfl := h <;> simp [isWhitespace]

theorem Breaks.of_trimEnd {before : List Char} (h : Begins tail) (hbefore : before <+: tail) :
    Breaks (trimEnd before) := by
  have hblank (hall : ∀ c ∈ before, isWhitespace c = true) : Breaks (trimEnd before) :=
    .inl (trimEnd_eq_nil_iff.mpr hall)
  obtain rfl | rfl | ⟨ending, rest, hending, rfl⟩ := h
  · refine hblank fun c hmem => ?_
    rw [List.mem_singleton.mp (hbefore.subset hmem)]
    decide
  · exact hblank fun c hmem => nomatch hbefore.subset hmem
  · obtain ⟨after, hafter⟩ := hbefore
    obtain ⟨more, hmore, _⟩ | ⟨more, rfl, _⟩ := List.append_eq_append_iff.mp hafter
    · refine hblank fun c hmem => hending.blank c ?_
      rw [hmore]
      exact List.mem_append_left _ hmem
    · by_cases hrest : trimEnd more = []
      · rw [trimEnd_append_of_blank hrest]
        exact .inl (trimEnd_eq_nil_iff.mpr hending.blank)
      · rw [trimEnd_append hrest]
        exact .inr ⟨ending, _, hending, rfl⟩

theorem Breaks.append {tail : List Char} (h : Breaks tail) (rest : List Char) :
    Breaks (tail ++ ('\n' :: rest)) := by
  obtain rfl | ⟨ending, more, hending, rfl⟩ := h
  · exact .inr ⟨['\n'], rest, .inl rfl, rfl⟩
  · exact .inr ⟨ending, _, hending, List.append_assoc ..⟩

theorem Extends.trimEnd_eq (h : Extends (inner ++ marker.chars) text) :
    ∃ tail, trimEnd text = inner ++ marker.chars ++ tail ∧ Breaks tail := by
  obtain ⟨tail, rfl, hbegins⟩ := h
  exact ⟨_, trimEnd_append_of_last (fun c hmem => (marker.last_chars inner c hmem).1) tail,
    .of_trimEnd hbegins (List.prefix_refl _)⟩

theorem Extends.trimEnd (h : Extends (inner ++ marker.chars) text) :
    Extends (inner ++ marker.chars) (trimEnd text) := by
  obtain ⟨tail, heq, hbreaks⟩ := h.trimEnd_eq
  exact ⟨tail, heq, .inr hbreaks⟩

theorem Extends.ne_blank (h : Extends (inner ++ marker.chars) text) : trim text ≠ [] := by
  rw [ne_eq, trim_eq_nil_iff_trimEnd]
  obtain ⟨tail, heq, _⟩ := h.trimEnd_eq
  rw [heq]
  simp [marker.chars_ne_nil]

theorem Extends.ensure (h : Extends (inner ++ marker.chars) text) (raw : Option (List Char)) :
    Extends (inner ++ marker.chars) (ensureIdentityFooter text raw) := by
  cases hfooter : normalizeIdentityFooter raw with
  | none =>
    rw [ensureIdentityFooter_none hfooter]
    exact h
  | some footer =>
    rw [ensureIdentityFooter_some hfooter]
    split
    · exact h
    · obtain ⟨tail, heq, hbreaks⟩ := h.trimEnd_eq
      rw [appendIdentityFooter, if_neg h.ne_blank, heq, List.append_assoc]
      exact ⟨_, rfl, .inr (hbreaks.append ('\n' :: footer))⟩

end Trimming

section Removing
variable {footer : List Char}

theorem mem_markers_of_extends {front : List Char} (hclosed : Closed '\n' front) (h : Begins tail) :
    marker ∈ markers (front ++ (marker.chars ++ tail)) := by
  obtain ⟨rest, hrest⟩ := markers_marker marker h
  rw [markers_append hclosed, hrest]
  exact List.mem_append_right _ List.mem_cons_self

theorem exists_of_suffix {front before shared : List Char} (hclosed : Closed '\n' front)
    (heq : front ++ marker.chars = before ++ ('\n' :: '\n' :: shared)) :
    ∃ middle, shared = middle ++ marker.chars ∧ Closed '\n' middle := by
  obtain ⟨more, _, hchars⟩ | ⟨more, rfl, hnewlines⟩ := List.append_eq_append_iff.mp heq
  · refine absurd ?_ marker.newline_not_mem_chars
    rw [hchars]
    exact List.mem_append_right _ List.mem_cons_self
  · have hfree (rest : List Char) : marker.chars ≠ '\n' :: rest := fun h =>
      marker.newline_not_mem_chars (h ▸ List.mem_cons_self)
    match more with
    | [] => exact (hfree _ hnewlines.symm).elim
    | [_] =>
      obtain ⟨_, hrest⟩ := List.cons.inj hnewlines
      exact (hfree _ hrest.symm).elim
    | first :: second :: middle =>
      obtain ⟨_, hrest⟩ := List.cons.inj hnewlines
      obtain ⟨_, hshared⟩ := List.cons.inj hrest
      have hmiddle : Closed '\n' ((before ++ [first, second]) ++ middle) := by
        rwa [List.append_assoc]
      exact ⟨middle, hshared, hmiddle.of_append⟩

theorem Extends.remove (hclosed : Closed '\n' inner) (h : Extends (inner ++ marker.chars) text)
    {raw : Option (List Char)}
    (hfooter : ∀ footer, normalizeIdentityFooter raw = some footer → marker ∉ markers footer) :
    Extends (inner ++ marker.chars) (removeIdentityFooter text raw) := by
  cases hraw : normalizeIdentityFooter raw with
  | none =>
    rw [removeIdentityFooter_none hraw]
    exact h
  | some footer =>
    by_cases hends : EndsInFooter text footer
    · obtain ⟨tail, heq, hbreaks⟩ := h.trimEnd_eq
      have hfree := hfooter footer hraw
      obtain halone | ⟨before, hbefore⟩ := endsInFooter_iff.mp hends
      · refine (hfree ?_).elim
        rw [← halone, heq, List.append_assoc]
        exact mem_markers_of_extends hclosed (.inr hbreaks)
      · rw [removeIdentityFooter_append hraw hbefore]
        rw [heq] at hbefore
        obtain ⟨more, rfl, htail⟩ | ⟨more, hcore, hfooterEq⟩ := List.append_eq_append_iff.mp hbefore
        · exact ⟨_, trimEnd_append_of_last (fun c hmem => (marker.last_chars inner c hmem).1) more,
            .inr (.of_trimEnd (.inr hbreaks) ⟨_, htail.symm⟩)⟩
        · match more with
          | [] =>
            rw [List.append_nil] at hcore
            rw [← hcore]
            exact Extends.trimEnd ⟨[], (List.append_nil _).symm, .inr (.inl rfl)⟩
          | [c] =>
            obtain ⟨rfl, _⟩ := List.cons.inj hfooterEq
            have hlast := (marker.last_chars inner '\n' (by rw [hcore]; exact List.getLast?_concat ..)).2
            exact (Bool.false_ne_true hlast.symm).elim
          | first :: second :: shared =>
            obtain ⟨rfl, hrest⟩ := List.cons.inj hfooterEq
            obtain ⟨rfl, hshared⟩ := List.cons.inj hrest
            obtain ⟨middle, rfl, hmiddle⟩ := exists_of_suffix hclosed hcore
            refine (hfree ?_).elim
            have hshared : footer = middle ++ marker.chars ++ tail := hshared
            rw [hshared, List.append_assoc]
            exact mem_markers_of_extends hmiddle (.inr hbreaks)
    · rw [removeIdentityFooter_absent hraw hends]
      exact h

end Removing

namespace Sections
variable (sections : Sections body)

theorem extends_ : Extends (sections.front ++ sections.authored ++ Marker.composeEnd.chars) body := by
  obtain ⟨tail, htail, hbegins⟩ := sections.cutEnd.begins
  refine ⟨tail, ?_, hbegins⟩
  rw [List.append_assoc _ _ tail, ← htail]
  exact sections.body_eq_append

theorem closed_inner : Closed '\n' (sections.front ++ sections.authored) :=
  sections.split_authored_back.1.append sections.split_authored.1

/-- What goes on like an accepted body and is accepted itself has the same compose section. -/
theorem extended (h : Extends (sections.front ++ sections.authored ++ Marker.composeEnd.chars) text)
    (hwell : WellMarked (markers text)) :
    ∃ other : Sections text, other.authored = sections.authored := by
  obtain ⟨tail, rfl, hbegins⟩ := h
  obtain ⟨line, rest, hsplit, hline⟩ := splitInclusive_marker .composeEnd hbegins
  have heq : splitInclusive '\n'
      (sections.front ++ sections.authored ++ Marker.composeEnd.chars ++ tail) =
      sections.heading ++ sections.composeStart :: (sections.compose ++ line :: rest) := by
    rw [List.append_assoc, splitInclusive_append sections.closed_inner,
      splitInclusive_append sections.split_authored_back.1, sections.split_front,
      sections.split_authored.2.1, hsplit]
    simp only [List.append_assoc]
    rfl
  have hmarkers : markers (sections.front ++ sections.authored ++ Marker.composeEnd.chars ++ tail) =
      .composeStart :: .composeEnd :: markersOf rest := by
    rw [markers, heq, markersOf_append, sections.heading_plain,
      markersOf_cons_some sections.start_marker, markersOf_append, sections.compose_plain,
      markersOf_cons_some hline]
    rfl
  have hquoted : markersOf rest = [] ∨ markersOf rest = [.quoteStart, .quoteEnd] := by
    rw [hmarkers] at hwell
    simpa [WellMarked] using hwell
  exact ⟨⟨sections.heading, sections.composeStart, sections.compose, line, rest, heq,
    sections.heading_plain, sections.start_marker, sections.compose_plain, hline, hquoted⟩, rfl⟩

end Sections
end AgentFirstMail
