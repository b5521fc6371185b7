import AgentFirstMail.Data.Search
import AgentFirstMail.Data.Text

namespace AgentFirstMail
open Search Text

/-- Control characters of a text that stay: line feeds and tabs. -/
def isKept (c : Char) : Bool := c == '\n' || c == '\t' || !isControl c

/-- `\r\n` becomes one line feed. -/
def replaceCrlf : List Char → List Char
  | [] => []
  | '\r' :: '\n' :: rest => '\n' :: replaceCrlf rest
  | c :: rest => c :: replaceCrlf rest

def normalizedText (input : List Char) : List Char :=
  ((replaceCrlf input).map fun c => if c = '\r' then '\n' else c).filter isKept

def charFromU32 (value : Nat) : Option Char :=
  if value < 0xD800 ∨ 0xDFFF < value ∧ value < 0x110000 then some (Char.ofNat value) else none

def decodeNumericHtmlEntity : List Char → Option Char
  | '#' :: 'x' :: hex | '#' :: 'X' :: hex => fromStrRadix 16 hex >>= charFromU32
  | '#' :: decimal => fromStrRadix 10 decimal >>= charFromU32
  | _ => none

def namedHtmlEntities : List (List Char × Char) :=
  [("amp".toList, '&'), ("apos".toList, '\''), ("gt".toList, '>'), ("lt".toList, '<'),
    ("nbsp".toList, ' '), ("quot".toList, '"')]

def decodeHtmlEntity (entity : List Char) : Option Char :=
  match namedHtmlEntities.lookup entity with
  | some c => some c
  | none => decodeNumericHtmlEntity entity

/-- What is written for what stands between an ampersand and a semicolon. -/
def shownEntity (entity : List Char) : List Char :=
  match decodeHtmlEntity entity with
  | some c => [c]
  | none => '&' :: entity ++ [';']

def decodeCommonHtmlEntities (rest : List Char) : List Char :=
  match _hstart : breakOn ['&'] rest with
  | none => rest
  | some (before, afterAmp) =>
    match _hend : breakOn [';'] afterAmp with
    | none => rest
    | some (entity, after) => before ++ shownEntity entity ++ decodeCommonHtmlEntities after
termination_by rest.length
decreasing_by
  rw [breakOn_eq_some _hstart, breakOn_eq_some _hend]
  simp only [List.length_append, List.length_cons, List.length_nil]
  omega

def cleanBodyText (input : List Char) : List Char := decodeCommonHtmlEntities (normalizedText input)

/-- An entity that a text holds: from an ampersand to the next semicolon, and not within another. -/
inductive HoldsEntity : List Char → List Char → Prop
  | here : '&' ∉ before → ';' ∉ entity → HoldsEntity (before ++ '&' :: entity ++ ';' :: after) entity
  | later : '&' ∉ before → ';' ∉ other → HoldsEntity after entity →
      HoldsEntity (before ++ '&' :: other ++ ';' :: after) entity

/-- An output shows an input in its order: what is not shown was filtered out, and what is shown
as something else is a carriage return or an entity, which filtered characters may stand within. -/
inductive ShownAs : List Char → List Char → Prop
  | nil : ShownAs [] []
  | drop : isKept c = false → ShownAs input output → ShownAs (c :: input) output
  | newline : ShownAs input output → ShownAs ('\r' :: input) ('\n' :: output)
  | keep : ShownAs input output → ShownAs (c :: input) (c :: output)
  | entity : spelled.filter isKept = '&' :: name ++ [';'] → decodeHtmlEntity name = some c →
      ShownAs input output → ShownAs (spelled ++ input) (c :: output)

/-- A text is shown, and without control characters but line feeds and tabs. -/
structure ShownClean (input output : List Char) : Prop where
  shows : ShownAs input output
  clean : ∀ c ∈ output, isControl c = true → c = '\n' ∨ c = '\t'

/-- What the first pass does with each character. -/
inductive Normalizes : List Char → List Char → Prop
  | nil : Normalizes [] []
  | drop : isKept c = false → Normalizes input text → Normalizes (c :: input) text
  | newline : Normalizes input text → Normalizes ('\r' :: input) ('\n' :: text)
  | keep : isKept c = true → Normalizes input text → Normalizes (c :: input) (c :: text)

section Normalizing
variable {input text front back : List Char} {c : Char}

theorem normalizes (input : List Char) : Normalizes input (normalizedText input) := by
  induction input using replaceCrlf.induct with
  | case1 => exact .nil
  | case2 rest ih => exact .drop (by decide) (.keep (by decide) ih)
  | case3 c rest hcrlf ih =>
    have hstep (shown : Char) (hshown : (if c = '\r' then '\n' else c) = shown) :
        normalizedText (c :: rest) =
          if isKept shown then shown :: normalizedText rest else normalizedText rest := by
      rw [normalizedText, replaceCrlf.eq_3 _ _ hcrlf, List.map_cons, List.filter_cons, hshown]
      rfl
    by_cases hreturn : c = '\r'
    · rw [hstep '\n' (if_pos hreturn), if_pos (by decide), hreturn]
      exact .newline ih
    · rw [hstep c (if_neg hreturn)]
      split
      · rename_i hkept
        exact .keep hkept ih
      · rename_i hdrop
        exact .drop (Bool.eq_false_iff.mpr hdrop) ih

theorem Normalizes.shows (h : Normalizes input text) : ShownAs input text := by
  induction h with
  | nil => exact .nil
  | drop hdrop _ ih => exact .drop hdrop ih
  | newline _ ih => exact .newline ih
  | keep _ _ ih => exact .keep ih

/-- What a text starts with comes from what the input starts with. -/
theorem Normalizes.split (h : Normalizes input (front ++ back)) :
    ∃ first last, input = first ++ last ∧ Normalizes first front ∧ Normalizes last back := by
  generalize htext : front ++ back = text at h
  induction h generalizing front with
  | nil =>
    obtain ⟨rfl, rfl⟩ := List.append_eq_nil_iff.mp htext
    exact ⟨[], [], rfl, .nil, .nil⟩
  | @drop c input text hdrop _ ih =>
    obtain ⟨first, last, rfl, hfirst, hlast⟩ := ih htext
    exact ⟨c :: first, last, rfl, .drop hdrop hfirst, hlast⟩
  | @newline input text hrest ih =>
    cases front with
    | nil =>
      rw [List.nil_append] at htext
      exact ⟨[], _, rfl, .nil, htext ▸ .newline hrest⟩
    | cons head front =>
      obtain ⟨rfl, htail⟩ := List.cons.inj htext
      obtain ⟨first, last, rfl, hfirst, hlast⟩ := ih htail
      exact ⟨'\r' :: first, last, rfl, .newline hfirst, hlast⟩
  | @keep c input text hkept hrest ih =>
    cases front with
    | nil =>
      rw [List.nil_append] at htext
      exact ⟨[], _, rfl, .nil, htext ▸ .keep hkept hrest⟩
    | cons head front =>
      obtain ⟨rfl, htail⟩ := List.cons.inj htext
      obtain ⟨first, last, rfl, hfirst, hlast⟩ := ih htail
      exact ⟨head :: first, last, rfl, .keep hkept hfirst, hlast⟩

theorem Normalizes.filter (h : Normalizes input text) (hline : '\n' ∉ text) :
    input.filter isKept = text := by
  induction h with
  | nil => rfl
  | drop hdrop _ ih =>
    rw [List.filter_cons, if_neg (by rw [hdrop]; exact Bool.false_ne_true)]
    exact ih hline
  | newline _ _ => exact absurd List.mem_cons_self hline
  | keep hkept _ ih =>
    rw [List.filter_cons, if_pos hkept, ih fun hmem => hline (List.mem_cons_of_mem _ hmem)]

theorem isKept_of_mem_normalizedText (h : c ∈ normalizedText input) : isKept c = true :=
  (List.mem_filter.mp h).2

end Normalizing

section Decoding
variable {input output input' output' text entity : List Char} {c : Char}

theorem ShownAs.append (h : ShownAs input output) (h' : ShownAs input' output') :
    ShownAs (input ++ input') (output ++ output') := by
  induction h with
  | nil => exact h'
  | drop hdrop _ ih => exact .drop hdrop ih
  | newline _ ih => exact .newline ih
  | keep _ ih => exact .keep ih
  | entity hspelled hdecoded _ ih =>
    rw [List.append_assoc]
    exact .entity hspelled hdecoded ih

theorem toDigit_newline (radix : Nat) : toDigit radix '\n' = none := by
  simp [toDigit]

theorem not_mem_of_fromStrRadix (h : fromStrRadix radix text = some value) : '\n' ∉ text := by
  have hdigits (digits : List Char) (start : Nat)
      (h : digits.foldlM (fun value c => do
        let digit ← toDigit radix c
        if value * radix + digit < 2 ^ 32 then some (value * radix + digit) else none) start =
          some value) : '\n' ∉ digits := by
    induction digits generalizing start with
    | nil => exact List.not_mem_nil
    | cons c rest ih =>
      obtain ⟨next, hnext, hrest⟩ := Option.bind_eq_some_iff.mp h
      obtain ⟨digit, hdigit, _⟩ := Option.bind_eq_some_iff.mp hnext
      rw [List.mem_cons, not_or]
      refine ⟨?_, ih next hrest⟩
      rintro rfl
      rw [toDigit_newline] at hdigit
      cases hdigit
  rw [fromStrRadix.eq_def] at h
  dsimp only at h
  split at h
  · split at h
    · cases h
    · rw [List.mem_cons, not_or]
      exact ⟨by decide, hdigits _ 0 h⟩
  · split at h
    · cases h
    · exact hdigits _ 0 h

theorem not_mem_of_decodeHtmlEntity (h : decodeHtmlEntity entity = some c) : '\n' ∉ entity := by
  rw [decodeHtmlEntity] at h
  split at h
  · rename_i found hnamed
    obtain ⟨before, after, hlist, _⟩ := List.lookup_eq_some_iff.mp hnamed
    have hall : ∀ named ∈ namedHtmlEntities, '\n' ∉ named.1 := by decide
    have hmem : (entity, found) ∈ namedHtmlEntities := by
      rw [hlist]
      exact List.mem_append_right _ List.mem_cons_self
    exact hall _ hmem
  · have hfree {lead digits : List Char} {radix : Nat} (hlead : '\n' ∉ lead)
        (h : fromStrRadix radix digits >>= charFromU32 = some c) : '\n' ∉ lead ++ digits := by
      obtain ⟨value, hvalue, _⟩ := Option.bind_eq_some_iff.mp h
      rw [List.mem_append, not_or]
      exact ⟨hlead, not_mem_of_fromStrRadix hvalue⟩
    rw [decodeNumericHtmlEntity.eq_def] at h
    split at h
    · exact @hfree ['#', 'x'] _ _ (by decide) h
    · exact @hfree ['#', 'X'] _ _ (by decide) h
    · exact @hfree ['#'] _ _ (by decide) h
    · cases h

theorem decode_found (hbefore : '&' ∉ before) (hentity : ';' ∉ entity) (after : List Char) :
    decodeCommonHtmlEntities (before ++ '&' :: entity ++ ';' :: after) =
      before ++ shownEntity entity ++ decodeCommonHtmlEntities after := by
  have hstart := breakOn_of_not_mem hbefore (entity ++ ';' :: after)
  have hend := breakOn_of_not_mem hentity after
  rw [List.append_assoc, List.cons_append, decodeCommonHtmlEntities]
  split
  · rename_i hnone
    rw [hstart] at hnone
    cases hnone
  · rename_i hsome
    rw [hstart] at hsome
    cases hsome
    split
    · rename_i hnone
      rw [hend] at hnone
      cases hnone
    · rename_i hsome
      rw [hend] at hsome
      cases hsome
      rfl

theorem decode_cases (text : List Char) : decodeCommonHtmlEntities text = text ∨
    ∃ before entity after, text = before ++ '&' :: entity ++ ';' :: after ∧ '&' ∉ before ∧
      ';' ∉ entity := by
  rw [decodeCommonHtmlEntities]
  split
  · exact .inl rfl
  · rename_i before afterAmp hstart
    split
    · exact .inl rfl
    · rename_i entity after hend
      refine .inr ⟨before, entity, after, ?_, not_mem_of_breakOn hstart, not_mem_of_breakOn hend⟩
      rw [breakOn_eq_some hstart, breakOn_eq_some hend]
      simp

theorem entities_induction {P : List Char → Prop}
    (plain : ∀ text, decodeCommonHtmlEntities text = text → P text)
    (found : ∀ before entity after, '&' ∉ before → ';' ∉ entity → P after →
      P (before ++ '&' :: entity ++ ';' :: after)) (text : List Char) : P text := by
  induction hlength : text.length using Nat.strong_induction_on generalizing text with
  | h length ih =>
    obtain hsame | ⟨before, entity, after, rfl, hbefore, hentity⟩ := decode_cases text
    · exact plain text hsame
    · refine found before entity after hbefore hentity (ih after.length ?_ after rfl)
      rw [← hlength]
      simp only [List.length_append, List.length_cons]
      omega

theorem shownAs_shownEntity (h : Normalizes input ('&' :: entity ++ [';'])) :
    ShownAs input (shownEntity entity) := by
  rw [shownEntity]
  split
  · rename_i c hdecoded
    have hline : '\n' ∉ '&' :: entity ++ [';'] := by
      have hentity := not_mem_of_decodeHtmlEntity hdecoded
      simp [hentity]
    have hshown := ShownAs.entity (h.filter hline) hdecoded .nil
    rwa [List.append_nil] at hshown
  · exact h.shows

theorem shows_decode (h : Normalizes input text) : ShownAs input (decodeCommonHtmlEntities text) := by
  induction text using entities_induction generalizing input with
  | plain text hsame =>
    rw [hsame]
    exact h.shows
  | found before entity after hbefore hentity ih =>
    rw [decode_found hbefore hentity]
    have hparts : before ++ '&' :: entity ++ ';' :: after =
        before ++ (('&' :: entity ++ [';']) ++ after) := by simp
    rw [hparts] at h
    obtain ⟨first, rest, rfl, hfirst, hrest⟩ := h.split
    obtain ⟨middle, last, rfl, hmiddle, hlast⟩ := hrest.split
    rw [List.append_assoc]
    exact hfirst.shows.append ((shownAs_shownEntity hmiddle).append (ih hlast))

theorem HoldsEntity.mem_decode (h : HoldsEntity text entity) (hdecoded : decodeHtmlEntity entity = some c) :
    c ∈ decodeCommonHtmlEntities text := by
  induction h with
  | here hbefore hentity =>
    rw [decode_found hbefore hentity, shownEntity, hdecoded]
    simp
  | later hbefore hother _ ih =>
    rw [decode_found hbefore hother]
    exact List.mem_append_right _ (ih hdecoded)

theorem mem_shownEntity (h : c ∈ shownEntity entity) :
    c ∈ '&' :: entity ++ [';'] ∨ decodeHtmlEntity entity = some c := by
  rw [shownEntity] at h
  split at h
  · rename_i found hfound
    rw [List.mem_singleton.mp h]
    exact .inr hfound
  · exact .inl h

theorem mem_decode (h : c ∈ decodeCommonHtmlEntities text) :
    c ∈ text ∨ ∃ entity, HoldsEntity text entity ∧ decodeHtmlEntity entity = some c := by
  induction text using entities_induction with
  | plain text hsame =>
    rw [hsame] at h
    exact .inl h
  | found before entity after hbefore hentity ih =>
    have hparts : before ++ '&' :: entity ++ ';' :: after =
        before ++ (('&' :: entity ++ [';']) ++ after) := by simp
    rw [decode_found hbefore hentity, List.mem_append, List.mem_append] at h
    obtain (hlead | hshown) | hrest := h
    · exact .inl (by simp [hlead])
    · obtain hkept | hdecoded := mem_shownEntity hshown
      · rw [hparts]
        exact .inl (List.mem_append_right _ (List.mem_append_left _ hkept))
      · exact .inr ⟨entity, .here hbefore hentity, hdecoded⟩
    · obtain hkept | ⟨other, hholds, hdecoded⟩ := ih hrest
      · exact .inl (by simp [hkept])
      · exact .inr ⟨other, .later hbefore hentity hholds, hdecoded⟩

end Decoding

/-- A text is cleaned but for the control characters that its entities denote. -/
theorem cleanBodyText_iff (input : List Char) : ShownClean input (cleanBodyText input) ↔
    ∀ entity c, HoldsEntity (normalizedText input) entity → decodeHtmlEntity entity = some c →
      isKept c = true := by
  constructor
  · intro h entity c hholds hdecoded
    have hclean := h.clean c (hholds.mem_decode hdecoded)
    by_cases hcontrol : isControl c = true
    · obtain rfl | rfl := hclean hcontrol
      · decide
      · decide
    · simp [isKept, hcontrol]
  · intro h
    refine ⟨shows_decode (normalizes input), fun c hmem hcontrol => ?_⟩
    have hkept : isKept c = true := by
      obtain hin | ⟨entity, hholds, hdecoded⟩ := mem_decode hmem
      · exact isKept_of_mem_normalizedText hin
      · exact h entity c hholds hdecoded
    simpa [isKept, hcontrol] using hkept

/-- An escape that is spelled as a number is shown. -/
theorem cleanBodyText_escape :
    ¬ShownClean "&#27;".toList (cleanBodyText "&#27;".toList) := by
  intro h
  have htext : normalizedText "&#27;".toList = [] ++ '&' :: "#27".toList ++ ';' :: [] := by decide
  have hmem : Char.ofNat 27 ∈ cleanBodyText "&#27;".toList := by
    rw [cleanBodyText, htext]
    exact (HoldsEntity.here (by decide) (by decide)).mem_decode (by decide)
  obtain heq | heq := h.clean _ hmem (by decide)
  · cases heq
  · cases heq

end AgentFirstMail
