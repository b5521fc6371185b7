import AgentFirstMail.Data.Segments

/-! Header fields of a mail as bytes: how they are written in front of a content, and which of
them a reader of the bytes finds. -/

namespace Mime
open Lines

def crlf : List UInt8 := [13, 10]

def isBlank (c : UInt8) : Bool := c == 32 || c == 9

def lowerAscii (c : UInt8) : UInt8 := if 65 ≤ c ∧ c ≤ 90 then c + 32 else c

/-- The name of a header field: neither empty nor with a colon, a blank or a line break in it. -/
structure FieldName where
  text : List UInt8
  valid : text ≠ [] ∧ ∀ c ∈ text, c ≠ 58 ∧ isBlank c = false ∧ c ≠ 13 ∧ c ≠ 10

/-- The body of a field, in one line and further ones, each of which starts with a blank. -/
structure FieldBody where
  first : List UInt8
  more : List (List UInt8) := []
  unbroken : 10 ∉ first
  folded : ∀ line ∈ more, 10 ∉ line ∧ ∃ c ∈ line.head?, isBlank c = true

structure Field where
  name : FieldName
  body : FieldBody

namespace Field

/-- The lines that a field is written in. -/
def lines (field : Field) : List (List UInt8) :=
  (field.name.text ++ 58 :: 32 :: field.body.first ++ crlf) :: field.body.more.map (· ++ crlf)

def render (field : Field) : List UInt8 := field.lines.flatten

end Field

/-- Fields, and an empty line before what they are about. -/
def renderMessage (fields : List Field) (content : List UInt8) : List UInt8 :=
  fields.flatMap Field.render ++ (crlf ++ content)

/-- The lines of a message before the first empty one. -/
def headerLines (message : List UInt8) : List (List UInt8) :=
  (splitInclusive 10 message).takeWhile fun line => line != crlf && line != [10]

/-- A line that starts with a name and a colon; letter case does not matter. -/
def startsField (name line : List UInt8) : Bool :=
  line.contains 58 && (line.takeWhile (· != 58)).map lowerAscii == name.map lowerAscii

/-- Whether a reader finds a field of a name among the header fields of a message. -/
def holdsField (name : FieldName) (message : List UInt8) : Bool :=
  (headerLines message).any (startsField name.text)

section Reading
variable {name : FieldName} {field : Field} {fields : List Field} {line text : List UInt8}

theorem isLine_append_crlf (h : 10 ∉ text) : IsLine 10 (text ++ crlf) := by
  refine ⟨text ++ [13], ?_, ?_⟩
  · rw [List.mem_append, not_or]
    exact ⟨h, by decide⟩
  · rw [List.append_assoc]
    rfl

namespace Field

theorem isLine_of_mem_lines (h : line ∈ field.lines) : IsLine 10 line := by
  obtain rfl | hmore := List.mem_cons.mp h
  · refine isLine_append_crlf ?_
    simp only [List.mem_append, List.mem_cons, not_or]
    refine ⟨fun hmem => (field.name.valid.2 10 hmem).2.2.2 rfl, ?_, ?_, field.body.unbroken⟩
    · decide
    · decide
  · obtain ⟨more, hmem, rfl⟩ := List.mem_map.mp hmore
    exact isLine_append_crlf (field.body.folded more hmem).1

theorem splitInclusive_render (field : Field) : splitInclusive 10 field.render = field.lines := by
  have hsplit := splitInclusive_flatten (fun _ => field.isLine_of_mem_lines)
    (List.not_mem_nil (a := (10 : UInt8)))
  rwa [List.append_nil, lastSegment_nil, List.append_nil] at hsplit

theorem mem_lines (h : line ∈ field.lines) :
    (∃ rest, line = field.name.text ++ 58 :: rest) ∨ ∃ c rest, line = c :: rest ∧ isBlank c = true := by
  obtain rfl | hmore := List.mem_cons.mp h
  · exact .inl ⟨_, by rw [List.append_assoc]; rfl⟩
  · obtain ⟨more, hmem, rfl⟩ := List.mem_map.mp hmore
    obtain ⟨c, hhead, hblank⟩ := (field.body.folded more hmem).2
    obtain ⟨rest, rfl⟩ := List.head?_eq_some_iff.mp hhead
    exact .inr ⟨c, rest ++ crlf, rfl, hblank⟩

end Field

theorem startsField_name (rest : List UInt8) :
    startsField name.text (field.name.text ++ 58 :: rest) = true ↔
      field.name.text.map lowerAscii = name.text.map lowerAscii := by
  have hname : ∀ c ∈ field.name.text, (c != 58) = true := fun c hmem =>
    bne_iff_ne.mpr (field.name.valid.2 c hmem).1
  have htake : (field.name.text ++ 58 :: rest).takeWhile (· != 58) = field.name.text := by
    rw [List.takeWhile_append_of_pos hname]
    simp
  rw [startsField, htake]
  simp

theorem isBlank_eq_false (c : UInt8) (h : 33 ≤ c.toNat) : isBlank c = false := by
  rw [isBlank, Bool.or_eq_false_iff, beq_eq_false_iff_ne, beq_eq_false_iff_ne]
  constructor
  · rintro rfl
    exact absurd h (by decide)
  · rintro rfl
    exact absurd h (by decide)

theorem isBlank_lowerAscii (c : UInt8) : isBlank (lowerAscii c) = isBlank c := by
  rw [lowerAscii]
  split
  · rename_i hupper
    have hlow : 65 ≤ c.toNat := UInt8.le_iff_toNat_le.mp hupper.1
    have hhigh : c.toNat ≤ 90 := UInt8.le_iff_toNat_le.mp hupper.2
    have hsum : (c + 32).toNat = c.toNat + 32 := by
      rw [UInt8.toNat_add]
      exact Nat.mod_eq_of_lt (by change c.toNat + 32 < 256; omega)
    rw [isBlank_eq_false _ (by omega), isBlank_eq_false _ (by omega)]
  · rfl

theorem not_startsField_blank {c : UInt8} (h : isBlank c = true) (rest : List UInt8) :
    startsField name.text (c :: rest) = false := by
  have hcolon : (c != 58) = true := by
    rw [bne_iff_ne]
    intro heq
    rw [heq] at h
    cases h
  rw [startsField, List.takeWhile_cons, if_pos hcolon, List.map_cons, Bool.and_eq_false_iff]
  refine .inr (beq_eq_false_iff_ne.mpr fun heq => ?_)
  obtain ⟨first, more, hname⟩ := List.exists_cons_of_ne_nil name.valid.1
  rw [hname, List.map_cons, List.cons.injEq] at heq
  have hblank := isBlank_lowerAscii c
  rw [heq.1, isBlank_lowerAscii, h] at hblank
  have hfirst := (name.valid.2 first (by simp [hname])).2.1
  rw [hblank] at hfirst
  cases hfirst

theorem mem_startsField (hmem : line ∈ field.lines) (hstarts : startsField name.text line = true) :
    field.name.text.map lowerAscii = name.text.map lowerAscii := by
  obtain ⟨rest, rfl⟩ | ⟨c, rest, rfl, hblank⟩ := Field.mem_lines hmem
  · exact (startsField_name rest).mp hstarts
  · rw [not_startsField_blank hblank] at hstarts
    cases hstarts

theorem not_empty_of_mem_lines (h : line ∈ field.lines) : (line != crlf && line != [10]) = true := by
  have hne (c : UInt8) (hc : c ≠ 13 ∧ c ≠ 10) (rest : List UInt8) :
      (c :: rest != crlf && c :: rest != [10]) = true := by
    simp [crlf, hc]
  obtain ⟨rest, rfl⟩ | ⟨c, rest, rfl, hblank⟩ := Field.mem_lines h
  · obtain ⟨first, more, hname⟩ := List.exists_cons_of_ne_nil field.name.valid.1
    have hfirst := field.name.valid.2 first (by simp [hname])
    rw [hname]
    exact hne first hfirst.2.2 _
  · refine hne c ⟨?_, ?_⟩ rest
    · rintro rfl
      cases hblank
    · rintro rfl
      cases hblank

theorem headerLines_renderMessage (fields : List Field) (content : List UInt8) :
    headerLines (renderMessage fields content) = fields.flatMap Field.lines := by
  have hempty : IsLine 10 crlf := @isLine_append_crlf [] List.not_mem_nil
  induction fields with
  | nil =>
    rw [headerLines, renderMessage, List.flatMap_nil, List.nil_append,
      splitInclusive_append hempty.closed, splitInclusive_of_isLine hempty]
    rfl
  | cons field rest ih =>
    have hclosed : Closed 10 field.render := closed_flatten fun _ => field.isLine_of_mem_lines
    rw [headerLines, renderMessage, List.flatMap_cons, List.append_assoc,
      splitInclusive_append hclosed, field.splitInclusive_render, List.takeWhile_append_of_pos,
      List.flatMap_cons]
    · exact congrArg _ ih
    · exact fun _ hmem => not_empty_of_mem_lines hmem

theorem holdsField_renderMessage (content : List UInt8) :
    holdsField name (renderMessage fields content) = true ↔
      ∃ field ∈ fields, field.name.text.map lowerAscii = name.text.map lowerAscii := by
  rw [holdsField, headerLines_renderMessage, List.any_eq_true]
  constructor
  · intro ⟨line, hmem, hstarts⟩
    obtain ⟨field, hfield, hline⟩ := List.mem_flatMap.mp hmem
    exact ⟨field, hfield, mem_startsField hline hstarts⟩
  · intro ⟨field, hfield, hname⟩
    refine ⟨_, List.mem_flatMap.mpr ⟨field, hfield, List.mem_cons_self⟩, ?_⟩
    rw [List.append_assoc]
    exact (startsField_name _).mpr hname

end Reading
end Mime
