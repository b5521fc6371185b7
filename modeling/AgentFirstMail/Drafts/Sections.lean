import AgentFirstMail.Drafts.Content

namespace AgentFirstMail
open Lines Text

/-- The sequences of markers that a draft body may have. -/
def WellMarked (marks : List Marker) : Prop :=
  marks = [.composeStart, .composeEnd] ∨
    marks = [.composeStart, .composeEnd, .quoteStart, .quoteEnd]

instance : Decidable (WellMarked marks) :=
  inferInstanceAs (Decidable (_ ∨ _))

/-- The lines of a body that is accepted. -/
structure Sections (body : List Char) where
  heading : List (List Char)
  composeStart : List Char
  compose : List (List Char)
  composeEnd : List Char
  rest : List (List Char)
  eq : splitInclusive '\n' body = heading ++ composeStart :: (compose ++ composeEnd :: rest)
  heading_plain : markersOf heading = []
  start_marker : markerOf composeStart = some .composeStart
  compose_plain : markersOf compose = []
  end_marker : markerOf composeEnd = some .composeEnd
  rest_quoted : markersOf rest = [] ∨ markersOf rest = [.quoteStart, .quoteEnd]

theorem ensureOrder_eq_ok {start end_ : MarkerLine} {startName endName : Marker} {done : Unit}
    (h : ensureOrder start end_ startName endName = .ok done) : start.afterLine ≤ end_.lineStart := by
  rw [ensureOrder] at h
  split at h
  · cases h
  · omega

theorem ensureOrder_of_le {start end_ : MarkerLine} {startName endName : Marker}
    (h : start.afterLine ≤ end_.lineStart) : ensureOrder start end_ startName endName = .ok () := by
  rw [ensureOrder, if_neg (by omega)]

theorem placed_append_le (before : List (List Char)) (segment : List Char)
    (between : List (List Char)) (later : List Char) :
    (placed before segment).afterLine ≤
      (placed (before ++ segment :: between) later).lineStart := by
  simp only [placed, List.flatten_append, List.flatten_cons, List.length_append]
  omega

theorem markersOf_eq_nil {segments : List (List Char)}
    (hcomposeStart : .composeStart ∉ markersOf segments)
    (hcomposeEnd : .composeEnd ∉ markersOf segments)
    (hquoteStart : .quoteStart ∉ markersOf segments)
    (hquoteEnd : .quoteEnd ∉ markersOf segments) : markersOf segments = [] := by
  refine List.eq_nil_iff_forall_not_mem.mpr fun marker => ?_
  cases marker with
  | composeStart => exact hcomposeStart
  | composeEnd => exact hcomposeEnd
  | quoteStart => exact hquoteStart
  | quoteEnd => exact hquoteEnd

section Parsing
variable {body : List Char} {content : DraftContent}

theorem quoteSection_eq_ok {composeEnd : MarkerLine} {start end_ : Option MarkerLine}
    {quote : Option (MarkerLine × MarkerLine)}
    (h : quoteSection composeEnd start end_ = .ok quote) :
    (start = none ∧ end_ = none) ∨ ∃ first last, start = some first ∧ end_ = some last ∧
      first.afterLine ≤ last.lineStart ∧ composeEnd.afterLine ≤ first.lineStart := by
  cases start with
  | none =>
    cases end_ with
    | none => exact .inl ⟨rfl, rfl⟩
    | some last => cases h
  | some first =>
    cases end_ with
    | none => cases h
    | some last =>
      obtain ⟨_, horder, h⟩ := Result.bind_ok h
      dsimp only at h
      split at h
      · cases h
      · exact .inr ⟨first, last, rfl, rfl, ensureOrder_eq_ok horder, by omega⟩

section Cuts
variable {heading compose rest between quoted tail : List (List Char)}
  {startLine endLine quoteStartLine quoteEndLine : List Char}

theorem Sections.of_unquoted
    (hstart : Cut body .composeStart heading startLine (compose ++ endLine :: rest))
    (hend : Cut body .composeEnd (heading ++ startLine :: compose) endLine rest)
    (hquoteStart : .quoteStart ∉ markers body) (hquoteEnd : .quoteEnd ∉ markers body) :
    Nonempty (Sections body) := by
  have hstartOut := hstart.notAfter
  have hendOut := hend.notBefore
  rw [markers, hstart.eq] at hquoteStart hquoteEnd
  simp only [markersOf_append, markersOf_cons_some hstart.here, markersOf_cons_some hend.here,
    List.mem_append, List.mem_cons, not_or] at hstartOut hendOut hquoteStart hquoteEnd
  obtain ⟨hstartCompose, -, hstartRest⟩ := hstartOut
  obtain ⟨hendHeading, -, hendCompose⟩ := hendOut
  obtain ⟨hheadingStart, -, hcomposeStart, -, hrestStart⟩ := hquoteStart
  obtain ⟨hheadingEnd, -, hcomposeEnd, -, hrestEnd⟩ := hquoteEnd
  exact ⟨{ heading, composeStart := startLine, compose, composeEnd := endLine, rest
           eq := hstart.eq
           heading_plain := markersOf_eq_nil hstart.notBefore hendHeading hheadingStart hheadingEnd
           start_marker := hstart.here
           compose_plain := markersOf_eq_nil hstartCompose hendCompose hcomposeStart hcomposeEnd
           end_marker := hend.here
           rest_quoted := .inl (markersOf_eq_nil hstartRest hend.notAfter hrestStart hrestEnd) }⟩

theorem Sections.of_quoted
    (hstart : Cut body .composeStart heading startLine
      (compose ++ endLine :: (between ++ quoteStartLine :: (quoted ++ quoteEndLine :: tail))))
    (hend : Cut body .composeEnd (heading ++ startLine :: compose) endLine
      (between ++ quoteStartLine :: (quoted ++ quoteEndLine :: tail)))
    (hquoteStart : Cut body .quoteStart (heading ++ startLine :: compose ++ endLine :: between)
      quoteStartLine (quoted ++ quoteEndLine :: tail))
    (hquoteEnd : Cut body .quoteEnd
      (heading ++ startLine :: compose ++ endLine :: between ++ quoteStartLine :: quoted)
      quoteEndLine tail) : Nonempty (Sections body) := by
  have hstartOut := hstart.notAfter
  have hendBefore := hend.notBefore
  have hendAfter := hend.notAfter
  have hquoteStartBefore := hquoteStart.notBefore
  have hquoteStartAfter := hquoteStart.notAfter
  have hquoteEndOut := hquoteEnd.notBefore
  simp only [markersOf_append, markersOf_cons_some hstart.here, markersOf_cons_some hend.here,
    markersOf_cons_some hquoteStart.here, markersOf_cons_some hquoteEnd.here,
    List.mem_append, List.mem_cons, not_or]
    at hstartOut hendBefore hendAfter hquoteStartBefore hquoteStartAfter hquoteEndOut
  obtain ⟨hstartCompose, -, hstartBetween, -, hstartQuoted, -, hstartTail⟩ := hstartOut
  obtain ⟨hendHeading, -, hendCompose⟩ := hendBefore
  obtain ⟨hendBetween, -, hendQuoted, -, hendTail⟩ := hendAfter
  obtain ⟨⟨hfirstHeading, -, hfirstCompose⟩, -, hfirstBetween⟩ := hquoteStartBefore
  obtain ⟨hfirstQuoted, -, hfirstTail⟩ := hquoteStartAfter
  obtain ⟨⟨⟨hlastHeading, -, hlastCompose⟩, -, hlastBetween⟩, -, hlastQuoted⟩ := hquoteEndOut
  have hbetween := markersOf_eq_nil hstartBetween hendBetween hfirstBetween hlastBetween
  have hquoted := markersOf_eq_nil hstartQuoted hendQuoted hfirstQuoted hlastQuoted
  have htail := markersOf_eq_nil hstartTail hendTail hfirstTail hquoteEnd.notAfter
  refine ⟨{ heading, composeStart := startLine, compose, composeEnd := endLine, rest := _
            eq := hstart.eq
            heading_plain := markersOf_eq_nil hstart.notBefore hendHeading hfirstHeading hlastHeading
            start_marker := hstart.here
            compose_plain := markersOf_eq_nil hstartCompose hendCompose hfirstCompose hlastCompose
            end_marker := hend.here
            rest_quoted := .inr ?_ }⟩
  rw [markersOf_append, hbetween, markersOf_cons_some hquoteStart.here, markersOf_append, hquoted,
    markersOf_cons_some hquoteEnd.here, htail]
  rfl

end Cuts

theorem quoteSection_of_le {composeEnd first last : MarkerLine}
    (horder : first.afterLine ≤ last.lineStart) (hbehind : composeEnd.afterLine ≤ first.lineStart) :
    quoteSection composeEnd (some first) (some last) = .ok (some (first, last)) := by
  rw [quoteSection, ensureOrder_of_le horder]
  simp only [bind, Except.bind]
  rw [if_neg (by omega)]
  rfl

theorem Sections.of_parse (h : parseDraftContent body = .ok content) : Nonempty (Sections body) := by
  obtain ⟨start, hstart, h⟩ := Result.bind_ok h
  obtain ⟨end_, hend, h⟩ := Result.bind_ok h
  obtain ⟨_, horder, h⟩ := Result.bind_ok h
  obtain ⟨quoteStart, hquoteStart, h⟩ := Result.bind_ok h
  obtain ⟨quoteEnd, hquoteEnd, h⟩ := Result.bind_ok h
  obtain ⟨quote, hquote, _⟩ := Result.bind_ok h
  obtain ⟨heading, composeStart, _, hcutStart, rfl⟩ := requiredMarker_eq_ok hstart
  obtain ⟨_, composeEnd, rest, hcutEnd, rfl⟩ := requiredMarker_eq_ok hend
  obtain ⟨compose, rfl, rfl⟩ := hcutStart.follows hcutEnd (ensureOrder_eq_ok horder)
  have hquotes := quoteSection_eq_ok hquote
  obtain ⟨rfl, hnoStart⟩ | ⟨_, firstLine, _, hcutFirst, rfl⟩ := findUniqueMarker_eq_ok hquoteStart
  · obtain ⟨rfl, hnoEnd⟩ | ⟨_, lastLine, tail, hcutLast, rfl⟩ := findUniqueMarker_eq_ok hquoteEnd
    · exact Sections.of_unquoted hcutStart hcutEnd hnoStart hnoEnd
    · obtain ⟨_, hnone⟩ | ⟨_, _, hsome, _⟩ := hquotes
      · cases hnone
      · cases hsome
  · obtain ⟨hnone, _⟩ | ⟨first, last, hfirst, hlast, horder', hbehind⟩ := hquotes
    · cases hnone
    · obtain ⟨rfl, hnoEnd⟩ | ⟨_, lastLine, tail, hcutLast, rfl⟩ := findUniqueMarker_eq_ok hquoteEnd
      · cases hlast
      · cases hfirst
        cases hlast
        obtain ⟨between, rfl, rfl⟩ := hcutEnd.follows hcutFirst hbehind
        obtain ⟨quoted, rfl, rfl⟩ := hcutFirst.follows hcutLast horder'
        exact Sections.of_quoted hcutStart hcutEnd hcutFirst hcutLast

end Parsing

namespace Sections
variable {body : List Char} (sections : Sections body)

/-- What stands before the compose section, with its marker line. -/
def front : List Char := sections.heading.flatten ++ sections.composeStart

def authored : List Char := sections.compose.flatten

/-- What stands behind the compose section, from its marker line on. -/
def back : List Char := sections.composeEnd ++ sections.rest.flatten

theorem cutStart : Cut body .composeStart sections.heading sections.composeStart
    (sections.compose ++ sections.composeEnd :: sections.rest) where
  eq := sections.eq
  here := sections.start_marker
  notBefore := by simp [sections.heading_plain]
  notAfter := by
    rw [markersOf_append, sections.compose_plain, markersOf_cons_some sections.end_marker]
    obtain hrest | hrest := sections.rest_quoted <;> simp [hrest]

theorem cutEnd : Cut body .composeEnd (sections.heading ++ sections.composeStart :: sections.compose)
    sections.composeEnd sections.rest where
  eq := by
    rw [sections.eq, List.append_assoc]
    rfl
  here := sections.end_marker
  notBefore := by
    simp [sections.heading_plain, markersOf_cons_some sections.start_marker, sections.compose_plain]
  notAfter := by
    obtain hrest | hrest := sections.rest_quoted <;> simp [hrest]

theorem markers_eq : markers body =
    .composeStart :: .composeEnd :: markersOf sections.rest := by
  rw [markers, sections.eq, markersOf_append, sections.heading_plain,
    markersOf_cons_some sections.start_marker, markersOf_append, sections.compose_plain,
    markersOf_cons_some sections.end_marker]
  rfl

def startPlace : MarkerLine := placed sections.heading sections.composeStart

def endPlace : MarkerLine :=
  placed (sections.heading ++ sections.composeStart :: sections.compose) sections.composeEnd

theorem parse_of_quote {start end_ : Option MarkerLine} {quote : Option (MarkerLine × MarkerLine)}
    (hstart : findUniqueMarker body .quoteStart = .ok start)
    (hend : findUniqueMarker body .quoteEnd = .ok end_)
    (hquote : quoteSection sections.endPlace start end_ = .ok quote) :
    parseDraftContent body =
      .ok { body, composeStart := sections.startPlace, composeEnd := sections.endPlace, quote } := by
  have horder : ensureOrder sections.startPlace sections.endPlace .composeStart .composeEnd =
      .ok () := ensureOrder_of_le (placed_append_le ..)
  rw [parseDraftContent, sections.cutStart.required, sections.cutEnd.required, hstart, hend]
  simp only [bind, Except.bind]
  rw [← startPlace, ← endPlace, horder, hquote]
  rfl

/-- The quote section of a body that has one. -/
theorem cutQuote (hrest : markersOf sections.rest = [.quoteStart, .quoteEnd]) :
    ∃ between firstLine quoted lastLine tail,
      Cut body .quoteStart (sections.heading ++ sections.composeStart :: sections.compose ++
        sections.composeEnd :: between) firstLine (quoted ++ lastLine :: tail) ∧
      Cut body .quoteEnd (sections.heading ++ sections.composeStart :: sections.compose ++
        sections.composeEnd :: between ++ firstLine :: quoted) lastLine tail := by
  obtain ⟨between, firstLine, others, hothers, hbetween, hfirst, hlater⟩ :=
    List.filterMap_eq_cons_iff.mp hrest
  obtain ⟨quoted, lastLine, tail, rfl, hquoted, hlast, hnone⟩ :=
    List.filterMap_eq_cons_iff.mp hlater
  have hbetween : markersOf between = [] := List.filterMap_eq_nil_iff.mpr hbetween
  have hquoted : markersOf quoted = [] := List.filterMap_eq_nil_iff.mpr hquoted
  have hnone : markersOf tail = [] := hnone
  have hfront : markersOf (sections.heading ++ sections.composeStart :: sections.compose ++
      sections.composeEnd :: between) = [.composeStart, .composeEnd] := by
    simp [sections.heading_plain, markersOf_cons_some sections.start_marker,
      sections.compose_plain, markersOf_cons_some sections.end_marker, hbetween]
  have heq : splitInclusive '\n' body = sections.heading ++ sections.composeStart ::
      sections.compose ++ sections.composeEnd :: between ++
        firstLine :: (quoted ++ lastLine :: tail) := by
    rw [sections.cutEnd.eq, hothers, List.append_assoc _ (_ :: between)]
    rfl
  refine ⟨between, firstLine, quoted, lastLine, tail, ⟨heq, hfirst, ?_, ?_⟩, ⟨?_, hlast, ?_, ?_⟩⟩
  · rw [hfront]
    decide
  · rw [markersOf_append, hquoted, markersOf_cons_some hlast, hnone]
    decide
  · rw [heq, List.append_assoc _ (_ :: quoted)]
    rfl
  · rw [markersOf_append, hfront, markersOf_cons_some hfirst, hquoted]
    decide
  · rw [hnone]
    exact List.not_mem_nil

theorem parse : ∃ quote, parseDraftContent body =
    .ok { body, composeStart := sections.startPlace, composeEnd := sections.endPlace, quote } := by
  obtain hrest | hrest := sections.rest_quoted
  · have habsent (marker : Marker) (hmarker : marker ≠ .composeStart ∧ marker ≠ .composeEnd) :
        findUniqueMarker body marker = .ok none := by
      refine findUniqueMarker_absent ?_
      rw [sections.markers_eq, hrest]
      simpa using hmarker
    exact ⟨none, sections.parse_of_quote (habsent .quoteStart (by decide))
      (habsent .quoteEnd (by decide)) rfl⟩
  · obtain ⟨between, firstLine, quoted, lastLine, tail, hfirst, hlast⟩ := sections.cutQuote hrest
    exact ⟨_, sections.parse_of_quote hfirst.find hlast.find
      (quoteSection_of_le (placed_append_le ..) (placed_append_le ..))⟩

theorem eq_of_parse {content : DraftContent} (h : parseDraftContent body = .ok content) :
    content.body = body ∧ content.composeStart = sections.startPlace ∧
      content.composeEnd = sections.endPlace := by
  obtain ⟨quote, hparse⟩ := sections.parse
  rw [hparse] at h
  cases h
  exact ⟨rfl, rfl, rfl⟩

section Text

theorem split_authored_back : Closed '\n' sections.front ∧
    splitInclusive '\n' (sections.authored ++ sections.back) =
      sections.compose ++ sections.composeEnd :: sections.rest := by
  have heq := sections.eq
  rw [List.append_cons] at heq
  have hcut := splitInclusive_cut heq (List.append_ne_nil_of_right_ne_nil _ (List.cons_ne_nil _ _))
  simp only [List.flatten_append, List.flatten_cons, List.flatten_nil, List.append_nil] at hcut
  exact ⟨hcut.1, hcut.2.2⟩

theorem split_authored : Closed '\n' sections.authored ∧
    splitInclusive '\n' sections.authored = sections.compose ∧
    splitInclusive '\n' sections.back = sections.composeEnd :: sections.rest := by
  have hcut := splitInclusive_cut sections.split_authored_back.2 (List.cons_ne_nil _ _)
  rwa [List.flatten_cons] at hcut

theorem split_front :
    splitInclusive '\n' sections.front = sections.heading ++ [sections.composeStart] := by
  have heq := sections.eq
  rw [List.append_cons] at heq
  have hcut := splitInclusive_cut heq (List.append_ne_nil_of_right_ne_nil _ (List.cons_ne_nil _ _))
  simp only [List.flatten_append, List.flatten_cons, List.flatten_nil, List.append_nil] at hcut
  exact hcut.2.1

theorem body_eq : body = sections.front ++ (sections.authored ++ sections.back) := by
  have hflat := flatten_splitInclusive '\n' body
  rw [sections.eq] at hflat
  simp only [List.flatten_append, List.flatten_cons] at hflat
  rw [front, List.append_assoc]
  exact hflat.symm

theorem body_eq_append : body = sections.front ++ sections.authored ++ sections.back := by
  rw [List.append_assoc]
  exact sections.body_eq

theorem length_front : sections.front.length = sections.startPlace.afterLine := by
  rw [front, List.length_append]
  rfl

theorem length_front_authored :
    (sections.front ++ sections.authored).length = sections.endPlace.lineStart := by
  rw [front, authored, endPlace, placed]
  simp only [List.flatten_append, List.flatten_cons, List.append_assoc]

theorem take_afterLine : body.take sections.startPlace.afterLine = sections.front := by
  rw [← sections.length_front]
  exact (congrArg (List.take _) sections.body_eq).trans List.take_left

theorem drop_afterLine :
    body.drop sections.startPlace.afterLine = sections.authored ++ sections.back := by
  rw [← sections.length_front]
  exact (congrArg (List.drop _) sections.body_eq).trans List.drop_left

theorem drop_lineStart : body.drop sections.endPlace.lineStart = sections.back := by
  rw [← sections.length_front_authored]
  exact (congrArg (List.drop _) sections.body_eq_append).trans List.drop_left

theorem slice_authored :
    slice body sections.startPlace.afterLine sections.endPlace.lineStart = sections.authored := by
  rw [slice, ← sections.length_front_authored, ← sections.length_front,
    (congrArg (List.take _) sections.body_eq_append).trans List.take_left]
  exact List.drop_left

end Text

/-- A body stays accepted when its compose section changes to one without markers. -/
def replaced {authored : List Char} (h : Closed '\n' authored) (hplain : markers authored = []) :
    Sections (sections.front ++ (authored ++ sections.back)) where
  heading := sections.heading
  composeStart := sections.composeStart
  compose := splitInclusive '\n' authored
  composeEnd := sections.composeEnd
  rest := sections.rest
  eq := by
    rw [splitInclusive_append sections.split_authored_back.1, splitInclusive_append h,
      sections.split_front, sections.split_authored.2.2, List.append_assoc]
    rfl
  heading_plain := sections.heading_plain
  start_marker := sections.start_marker
  compose_plain := hplain
  end_marker := sections.end_marker
  rest_quoted := sections.rest_quoted

end Sections

section WellMarked
variable {body : List Char} {marks inner outer : List Marker}

theorem Sections.of_wellMarked (h : WellMarked (markers body)) : Nonempty (Sections body) := by
  have build {quotes : List Marker}
      (hmarks : markers body = .composeStart :: .composeEnd :: quotes)
      (hquotes : quotes = [] ∨ quotes = [.quoteStart, .quoteEnd]) : Nonempty (Sections body) := by
    obtain ⟨heading, startLine, others, heq, hheading, hstart, hothers⟩ :=
      List.filterMap_eq_cons_iff.mp hmarks
    obtain ⟨compose, endLine, rest, rfl, hcompose, hend, hrest⟩ :=
      List.filterMap_eq_cons_iff.mp hothers
    have hrest : markersOf rest = quotes := hrest
    exact ⟨⟨heading, startLine, compose, endLine, rest, heq, List.filterMap_eq_nil_iff.mpr hheading,
      hstart, List.filterMap_eq_nil_iff.mpr hcompose, hend, hrest ▸ hquotes⟩⟩
  obtain hmarks | hmarks := h
  · exact build hmarks (.inl rfl)
  · exact build hmarks (.inr rfl)

theorem parses_iff :
    (∃ content, parseDraftContent body = .ok content) ↔ WellMarked (markers body) := by
  constructor
  · intro ⟨content, h⟩
    obtain ⟨sections⟩ := Sections.of_parse h
    rw [sections.markers_eq]
    obtain hrest | hrest := sections.rest_quoted
    · exact .inl (by rw [hrest])
    · exact .inr (by rw [hrest])
  · intro h
    obtain ⟨sections⟩ := Sections.of_wellMarked h
    obtain ⟨quote, hparse⟩ := sections.parse
    exact ⟨_, hparse⟩

theorem not_wellMarked_of_inner (h : inner ≠ [])
    (hinner : .composeStart :: (inner ++ [.composeEnd]) <:+: marks) : ¬ WellMarked marks := by
  obtain ⟨first, rest, rfl⟩ := List.exists_cons_of_ne_nil h
  obtain ⟨before, after, hmarks⟩ := hinner
  intro hwell
  have hfacts : marks.Nodup ∧ marks[0]? = some .composeStart ∧ marks[1]? = some .composeEnd := by
    obtain rfl | rfl := hwell <;> decide
  obtain ⟨hnodup, hfirst, hsecond⟩ := hfacts
  rw [← hmarks] at hnodup hfirst hsecond
  cases before with
  | nil =>
    cases hsecond
    simp at hnodup
  | cons head tail =>
    cases hfirst
    simp at hnodup

end WellMarked
end AgentFirstMail
