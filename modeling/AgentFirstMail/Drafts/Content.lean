import AgentFirstMail.Data.Search
import AgentFirstMail.Data.Segments
import AgentFirstMail.Data.Text
import AgentFirstMail.Error

namespace AgentFirstMail
open Lines Search Text

/-- The lines that a draft body is cut at. -/
inductive Marker where
  | composeStart | composeEnd | quoteStart | quoteEnd
deriving DecidableEq

def Marker.asStr : Marker → String
  | composeStart => "<!-- afmail:compose:start -->"
  | composeEnd => "<!-- afmail:compose:end -->"
  | quoteStart => "<!-- afmail:quote:start -->"
  | quoteEnd => "<!-- afmail:quote:end -->"

def Marker.chars (marker : Marker) : List Char := marker.asStr.toList

inductive DraftContentError where
  | missingMarker (marker : Marker)
  | duplicateMarker (marker : Marker)
  | invalidMarkerOrder (start end_ : Marker)
  | quoteBeforeComposeEnd
deriving DecidableEq

def DraftContentError.toString : DraftContentError → String
  | missingMarker marker => s!"draft content is missing required marker: {marker.asStr}"
  | duplicateMarker marker => s!"draft content contains duplicate marker: {marker.asStr}"
  | invalidMarkerOrder start end_ =>
    s!"draft content marker {start.asStr} must appear before {end_.asStr}"
  | quoteBeforeComposeEnd => "draft quote section must appear after the compose section"

/-- Where a marker line starts, and where the next line does. -/
structure MarkerLine where
  lineStart : Nat
  afterLine : Nat
deriving DecidableEq

structure DraftContent where
  body : List Char
  composeStart : MarkerLine
  composeEnd : MarkerLine
  quote : Option (MarkerLine × MarkerLine)
deriving DecidableEq

def slice (text : List Char) (first last : Nat) : List Char := (text.take last).drop first

def isLineEnd (c : Char) : Bool := c == '\r' || c == '\n'

/-- A text without the line endings around it. -/
def trimLineEnds (text : List Char) : List Char := trimMatches isLineEnd text

def DraftContent.compose (content : DraftContent) : List Char :=
  slice content.body content.composeStart.afterLine content.composeEnd.lineStart

def DraftContent.authoredTextRange (content : DraftContent) : Nat × Nat :=
  let raw := content.compose
  let leading := raw.length - (raw.dropWhile isLineEnd).length
  let start := content.composeStart.afterLine + leading
  (start, start + (trimLineEnds raw).length)

def stripSuffix (c : Char) (text : List Char) : List Char :=
  if text.getLast? = some c then text.dropLast else text

/-- A segment without its line ending. -/
def lineText (segment : List Char) : List Char := stripSuffix '\r' (stripSuffix '\n' segment)

/-- Looks through the segments that are left, the first of which starts at `lineStart`. -/
def scanMarker (marker : Marker) :
    List (List Char) → Nat → Option MarkerLine → Except DraftContentError (Option MarkerLine)
  | [], _, found => .ok found
  | segment :: rest, lineStart, found =>
    let afterLine := lineStart + segment.length
    if lineText segment = marker.chars then
      if found.isSome then .error (.duplicateMarker marker)
      else scanMarker marker rest afterLine (some { lineStart, afterLine })
    else scanMarker marker rest afterLine found

def findUniqueMarker (body : List Char) (marker : Marker) :
    Except DraftContentError (Option MarkerLine) :=
  scanMarker marker (splitInclusive '\n' body) 0 none

def requiredMarker (body : List Char) (marker : Marker) : Except DraftContentError MarkerLine :=
  match findUniqueMarker body marker with
  | .error error => .error error
  | .ok none => .error (.missingMarker marker)
  | .ok (some line) => .ok line

def ensureOrder (start end_ : MarkerLine) (startName endName : Marker) :
    Except DraftContentError Unit :=
  if start.afterLine > end_.lineStart then .error (.invalidMarkerOrder startName endName)
  else .ok ()

def quoteSection (composeEnd : MarkerLine) :
    Option MarkerLine → Option MarkerLine →
      Except DraftContentError (Option (MarkerLine × MarkerLine))
  | none, none => .ok none
  | none, some _ => .error (.missingMarker .quoteStart)
  | some _, none => .error (.missingMarker .quoteEnd)
  | some start, some end_ => do
    ensureOrder start end_ .quoteStart .quoteEnd
    if start.lineStart < composeEnd.afterLine then throw .quoteBeforeComposeEnd
    return some (start, end_)

def parseDraftContent (body : List Char) : Except DraftContentError DraftContent := do
  let composeStart ← requiredMarker body .composeStart
  let composeEnd ← requiredMarker body .composeEnd
  ensureOrder composeStart composeEnd .composeStart .composeEnd
  let quoteStart ← findUniqueMarker body .quoteStart
  let quoteEnd ← findUniqueMarker body .quoteEnd
  let quote ← quoteSection composeEnd quoteStart quoteEnd
  return { body, composeStart, composeEnd, quote }

def markerLineEnding (body : List Char) (marker : MarkerLine) : List Char :=
  if ['\r', '\n'] <:+ slice body marker.lineStart marker.afterLine then ['\r', '\n'] else ['\n']

def replaceAuthoredText (body authoredText : List Char) : Except DraftContentError (List Char) := do
  let parsed ← parseDraftContent body
  return body.take parsed.composeStart.afterLine ++ trimLineEnds authoredText ++
    markerLineEnding body parsed.composeStart ++ body.drop parsed.composeEnd.lineStart

def removeSchemaMarkerLines (input : List Char) : List Char :=
  ((splitInclusive '\n' input).filter fun segment =>
    !([Marker.composeEnd, .quoteStart, .quoteEnd].any (lineText segment == ·.chars))).flatten

def outboundBody (body : List Char) : Except DraftContentError (List Char) := do
  let parsed ← parseDraftContent body
  return trimLineEnds (removeSchemaMarkerLines (body.drop parsed.composeStart.afterLine))

def draftContentError (error : DraftContentError) : AppError :=
  { errorCode := "draft_invalid", message := error.toString }

def checkedDraftContent (body : List Char) : Result DraftContent :=
  (parseDraftContent body).mapError draftContentError

inductive DraftCompleteness where
  | complete | incomplete
deriving DecidableEq

/-- What is seen of a line outside of comments, and whether a comment goes on behind it. -/
def stripHtmlComments (line : List Char) (inComment : Bool) : List Char × Bool :=
  if inComment then
    match _h : breakOn "-->".toList line with
    | none => ([], true)
    | some (_, rest) => stripHtmlComments rest false
  else
    match _h : breakOn "<!--".toList line with
    | none => (line, false)
    | some (before, rest) =>
      let stripped := stripHtmlComments rest true
      (before ++ stripped.1, stripped.2)
termination_by line.length
decreasing_by
  all_goals
    rw [breakOn_eq_some _h]
    simp only [List.length_append]
    have hpattern : 0 < "-->".toList.length ∧ 0 < "<!--".toList.length := by decide
    omega

/-- A line as an iteration over lines gives it. -/
def linesItem (segment : List Char) : List Char :=
  if segment.getLast? = some '\n' then lineText segment else segment

def anyVisible : List (List Char) → Bool → Bool
  | [], _ => false
  | line :: rest, inComment =>
    let stripped := stripHtmlComments line inComment
    trim stripped.1 != [] || anyVisible rest stripped.2

def containsAuthoredText (compose : List Char) : Bool :=
  anyVisible ((splitInclusive '\n' compose).map linesItem) false

def DraftContent.completeness (content : DraftContent) : DraftCompleteness :=
  if containsAuthoredText content.compose then .complete else .incomplete

section Markers
variable {segment : List Char} {segments : List (List Char)} {marker : Marker}

/-- The marker that a line is. -/
def markerOf (segment : List Char) : Option Marker :=
  [Marker.composeStart, .composeEnd, .quoteStart, .quoteEnd].find? (lineText segment == ·.chars)

def markersOf (segments : List (List Char)) : List Marker := segments.filterMap markerOf

/-- The markers of a text, line by line. -/
def markers (text : List Char) : List Marker := markersOf (splitInclusive '\n' text)

theorem Marker.chars_injective : Function.Injective Marker.chars := by
  intro left right h
  cases left <;> cases right <;> first | rfl | exact absurd h (by decide)

theorem Marker.not_isLineEnd_of_mem_chars {c : Char} (h : c ∈ marker.chars) :
    isLineEnd c = false := by
  have hall : marker.chars.all (!isLineEnd ·) = true := by
    cases marker <;> decide
  simpa using List.all_eq_true.mp hall c h

theorem markerOf_eq_some_iff : markerOf segment = some marker ↔ lineText segment = marker.chars := by
  rw [markerOf]
  constructor
  · intro h
    exact beq_iff_eq.mp (List.find?_some (p := fun other : Marker => lineText segment == other.chars) h)
  · intro h
    have heq (other : Marker) : (lineText segment == other.chars) = decide (other = marker) := by
      rw [h, Bool.eq_iff_iff, beq_iff_eq, decide_eq_true_iff, eq_comm]
      exact Marker.chars_injective.eq_iff
    simp only [heq]
    cases marker <;> rfl

theorem mem_markersOf : marker ∈ markersOf segments ↔
    ∃ segment ∈ segments, markerOf segment = some marker := List.mem_filterMap

@[simp] theorem markersOf_append (front back : List (List Char)) :
    markersOf (front ++ back) = markersOf front ++ markersOf back := List.filterMap_append

theorem markers_append {front : List Char} (h : Closed '\n' front) (back : List Char) :
    markers (front ++ back) = markers front ++ markers back := by
  rw [markers, splitInclusive_append h, markersOf_append, ← markers, ← markers]

theorem markersOf_cons_some (h : markerOf segment = some marker) :
    markersOf (segment :: segments) = marker :: markersOf segments := List.filterMap_cons_some h

end Markers

section Scanning
variable {body : List Char} {segments before after : List (List Char)} {segment : List Char}
  {marker : Marker}

theorem scanMarker_append (h : marker ∉ markersOf before) (rest : List (List Char)) (lineStart : Nat)
    (found : Option MarkerLine) :
    scanMarker marker (before ++ rest) lineStart found =
      scanMarker marker rest (lineStart + before.flatten.length) found := by
  induction before generalizing lineStart with
  | nil => rfl
  | cons first others ih =>
    have hother : ¬ lineText first = marker.chars := by
      intro heq
      exact h (mem_markersOf.mpr ⟨first, List.mem_cons_self, markerOf_eq_some_iff.mpr heq⟩)
    have hothers : marker ∉ markersOf others := by
      intro hmem
      obtain ⟨later, hlater, hmarker⟩ := mem_markersOf.mp hmem
      exact h (mem_markersOf.mpr ⟨later, List.mem_cons_of_mem _ hlater, hmarker⟩)
    rw [List.cons_append, scanMarker, if_neg hother, ih hothers, List.flatten_cons,
      List.length_append, Nat.add_assoc]

theorem scanMarker_absent (h : marker ∉ markersOf segments) (lineStart : Nat)
    (found : Option MarkerLine) : scanMarker marker segments lineStart found = .ok found := by
  have hscan := scanMarker_append h [] lineStart found
  rwa [List.append_nil] at hscan

/-- The one line of a body that is a marker. -/
structure Cut (body : List Char) (marker : Marker) (before : List (List Char))
    (segment : List Char) (after : List (List Char)) : Prop where
  eq : splitInclusive '\n' body = before ++ segment :: after
  here : markerOf segment = some marker
  notBefore : marker ∉ markersOf before
  notAfter : marker ∉ markersOf after

/-- The place of a line behind others. -/
def placed (before : List (List Char)) (segment : List Char) : MarkerLine :=
  ⟨before.flatten.length, before.flatten.length + segment.length⟩

theorem Cut.find (h : Cut body marker before segment after) :
    findUniqueMarker body marker = .ok (some (placed before segment)) := by
  rw [findUniqueMarker, h.eq, scanMarker_append h.notBefore, scanMarker,
    if_pos (markerOf_eq_some_iff.mp h.here), Option.isSome_none, if_neg Bool.false_ne_true,
    Nat.zero_add, scanMarker_absent h.notAfter]
  rfl

theorem findUniqueMarker_absent (h : marker ∉ markers body) :
    findUniqueMarker body marker = .ok none := scanMarker_absent h 0 none

theorem exists_first (h : marker ∈ markersOf segments) :
    ∃ before segment after, segments = before ++ segment :: after ∧
      markerOf segment = some marker ∧ marker ∉ markersOf before := by
  induction segments with
  | nil => cases h
  | cons first rest ih =>
    by_cases hfirst : markerOf first = some marker
    · exact ⟨[], first, rest, rfl, hfirst, List.not_mem_nil⟩
    · obtain ⟨line, hline, hmarker⟩ := mem_markersOf.mp h
      obtain rfl | hrest := List.mem_cons.mp hline
      · exact (hfirst hmarker).elim
      · obtain ⟨before, segment, after, rfl, hsegment, hbefore⟩ :=
          ih (mem_markersOf.mpr ⟨line, hrest, hmarker⟩)
        refine ⟨first :: before, segment, after, rfl, hsegment, ?_⟩
        intro hmem
        obtain ⟨other, hother, heq⟩ := mem_markersOf.mp hmem
        obtain rfl | hlater := List.mem_cons.mp hother
        · exact hfirst heq
        · exact hbefore (mem_markersOf.mpr ⟨other, hlater, heq⟩)

theorem findUniqueMarker_eq_ok {found : Option MarkerLine}
    (h : findUniqueMarker body marker = .ok found) :
    (found = none ∧ marker ∉ markers body) ∨
      ∃ before segment after, Cut body marker before segment after ∧
        found = some (placed before segment) := by
  by_cases hmem : marker ∈ markers body
  · obtain ⟨before, segment, after, heq, hhere, hbefore⟩ := exists_first hmem
    by_cases hafter : marker ∈ markersOf after
    · obtain ⟨between, second, others, hsecond, hagain, hbetween⟩ := exists_first hafter
      rw [findUniqueMarker, heq, scanMarker_append hbefore, scanMarker,
        if_pos (markerOf_eq_some_iff.mp hhere), Option.isSome_none, if_neg Bool.false_ne_true,
        hsecond, scanMarker_append hbetween, scanMarker, if_pos (markerOf_eq_some_iff.mp hagain),
        Option.isSome_some, if_pos rfl] at h
      cases h
    · have hcut : Cut body marker before segment after := ⟨heq, hhere, hbefore, hafter⟩
      rw [hcut.find] at h
      cases h
      exact .inr ⟨before, segment, after, hcut, rfl⟩
  · rw [findUniqueMarker_absent hmem] at h
    cases h
    exact .inl ⟨rfl, hmem⟩

theorem requiredMarker_eq_ok {line : MarkerLine} (h : requiredMarker body marker = .ok line) :
    ∃ before segment after, Cut body marker before segment after ∧
      line = placed before segment := by
  rw [requiredMarker] at h
  split at h
  · cases h
  · cases h
  · rename_i found hfound
    cases h
    obtain ⟨hnone, _⟩ | ⟨before, segment, after, hcut, hplace⟩ := findUniqueMarker_eq_ok hfound
    · cases hnone
    · cases hplace
      exact ⟨before, segment, after, hcut, rfl⟩

theorem Cut.required (h : Cut body marker before segment after) :
    requiredMarker body marker = .ok (placed before segment) := by
  rw [requiredMarker, h.find]

/-- Of two marker lines the one that ends before the other starts comes first. -/
theorem Cut.follows {later : Marker} {before' after' : List (List Char)} {segment' : List Char}
    (h : Cut body marker before segment after) (h' : Cut body later before' segment' after')
    (hle : (placed before segment).afterLine ≤ (placed before' segment').lineStart) :
    ∃ between, before' = before ++ segment :: between ∧ after = between ++ segment' :: after' := by
  have hne : segment ≠ [] := by
    have hmem : segment ∈ splitInclusive '\n' body := by
      rw [h.eq]
      exact List.mem_append_right _ List.mem_cons_self
    exact ne_nil_of_mem_splitInclusive hmem
  have hpos := List.length_pos_iff.mpr hne
  simp only [placed] at hle
  obtain ⟨more, hbefore, hafter⟩ | ⟨more, hbefore, _⟩ :=
    List.append_eq_append_iff.mp (h.eq.symm.trans h'.eq)
  · cases more with
    | nil =>
      rw [List.append_nil] at hbefore
      rw [hbefore] at hle
      omega
    | cons first between =>
      rw [List.cons_append, List.cons.injEq] at hafter
      obtain ⟨rfl, hafter⟩ := hafter
      exact ⟨between, hbefore, hafter⟩
  · rw [hbefore, List.flatten_append, List.length_append] at hle
    omega

end Scanning
end AgentFirstMail
