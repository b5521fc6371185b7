import Mathlib.Data.List.Forall2
import Mathlib.Data.List.Nodup
import AgentFirstMail.Data.Documents
import AgentFirstMail.Data.Lists


/-- A field of a record: what it is without being given, and whether it is left out then. -/
structure FieldSpec where
  name : String
  default : Option Json := none
  skipped : Bool := false

/-- What values of a type are read of and written as. -/
inductive Schema where
  | bool
  | number (limit : Nat)
  | string
  | variant (names : List String)
  | optional (inner : Schema)
  | list (inner : Schema)
  | map (inner : Schema)
  | record (fields : List (FieldSpec × Schema))

namespace Schema
open Json Fields

@[elab_as_elim] theorem induct {motive : Schema → Prop} (bool : motive .bool)
    (number : ∀ limit, motive (.number limit)) (string : motive .string)
    (variant : ∀ names, motive (.variant names))
    (optional : ∀ inner, motive inner → motive (.optional inner))
    (list : ∀ inner, motive inner → motive (.list inner))
    (map : ∀ inner, motive inner → motive (.map inner))
    (record : ∀ fields, (∀ field ∈ fields, motive field.2) → motive (.record fields))
    (schema : Schema) : motive schema :=
  @Schema.rec motive (fun fields => ∀ field ∈ fields, motive field.2) (fun field => motive field.2)
    bool number string variant optional list map record (List.forall_mem_nil _)
    (fun _ _ hfield hrest => List.forall_mem_cons.mpr ⟨hfield, hrest⟩) (fun _ _ h => h) schema

/-- What a field is that an object does not name. -/
def absent : Schema → Option Json
  | .optional _ => some .null
  | _ => none

/-- The name of a variant: a string, or the one key of an object without a value. -/
def variantName : Json → Option String
  | .string name => some name
  | .object [(name, .null)] => some name
  | _ => none

end Schema

def FieldSpec.skips (spec : FieldSpec) (value : Json) : Bool := spec.skipped && spec.default == some value

/-- What is written of a field, unless it is left out. -/
def written (entry : FieldSpec × Json) : Option (String × Json) :=
  if entry.1.skips entry.2 then none else some (entry.1.name, entry.2)

/-- The object that the fields of a record are written in. -/
def writeRecord (entries : List (FieldSpec × Json)) : Json :=
  .object (Fields.ofList (entries.filterMap written))

namespace Schema
open Json Fields

mutual
/-- Reads a value of a type, and writes it. A record is read of an object with no other keys, or of
an array of its fields in their order. -/
def read : Schema → Json → Option Json
  | .bool, value =>
    match value with
    | .bool value => some (.bool value)
    | _ => none
  | .number limit, value =>
    match value with
    | .number value => if value < limit then some (.number value) else none
    | _ => none
  | .string, value =>
    match value with
    | .string value => some (.string value)
    | _ => none
  | .variant names, value => do
    let name ← variantName value
    if name ∈ names then some (.string name) else none
  | .optional inner, value =>
    match value with
    | .null => some .null
    | value => read inner value
  | .list inner, value =>
    match value with
    | .array items => (items.mapM (read inner)).map .array
    | _ => none
  | .map inner, value =>
    match value with
    | .object given =>
      (given.mapM fun field => (read inner field.2).map (field.1, ·)).map (.object ∘ ofList)
    | _ => none
  | .record fields, value =>
    match value with
    | .object given =>
      if given.all fun field => fields.any (·.1.name == field.1) then
        (readFields given fields).map writeRecord
      else none
    | .array items => (readItems fields items).map writeRecord
    | _ => none
termination_by structural schema => schema

def readFields (given : List (String × Json)) :
    List (FieldSpec × Schema) → Option (List (FieldSpec × Json))
  | [] => some []
  | field :: rest => do
    let value ← readField (given.lookup field.1.name) true field
    let entries ← readFields given rest
    return (field.1, value) :: entries
termination_by structural fields => fields

def readItems : List (FieldSpec × Schema) → List Json → Option (List (FieldSpec × Json))
  | [], items => if items.isEmpty then some [] else none
  | field :: rest, items => do
    let value ← readField items.head? false field
    let entries ← readItems rest items.tail
    return (field.1, value) :: entries
termination_by structural fields => fields

def readField (given : Option Json) (named : Bool) : FieldSpec × Schema → Option Json
  | (spec, schema) =>
    match given with
    | some value => read schema value
    | none => spec.default.or (if named then schema.absent else none)
termination_by structural field => field
end

mutual
/-- The names of a record's fields are apart, and their defaults are read as what they are. -/
def sound : Schema → Bool
  | .optional inner => sound inner
  | .list inner => sound inner
  | .map inner => sound inner
  | .record fields => (fields.map (·.1.name)).Nodup && soundFields fields
  | _ => true
termination_by structural schema => schema

def soundFields : List (FieldSpec × Schema) → Bool
  | [] => true
  | field :: rest => soundField field && soundFields rest
termination_by structural fields => fields

def soundField : FieldSpec × Schema → Bool
  | (spec, schema) => sound schema && spec.default.all fun value => read schema value == some value
termination_by structural field => field
end

mutual
/-- No field is left out, but in lists. -/
def plain : Schema → Bool
  | .optional inner => plain inner
  | .map inner => plain inner
  | .record fields => plainFields fields
  | _ => true
termination_by structural schema => schema

def plainFields : List (FieldSpec × Schema) → Bool
  | [] => true
  | field :: rest => plainField field && plainFields rest
termination_by structural fields => fields

def plainField : FieldSpec × Schema → Bool
  | (spec, schema) => !spec.skipped && plain schema
termination_by structural field => field
end

mutual
/-- No record is written as an array, but in lists. -/
def inObjects : Schema → Json → Bool
  | .optional inner, value => inObjects inner value
  | .map inner, value =>
    match value with
    | .object given => given.all fun field => inObjects inner field.2
    | _ => true
  | .record fields, value =>
    match value with
    | .object given => inObjectsFields given fields
    | .array _ => false
    | _ => true
  | _, _ => true
termination_by structural schema => schema

def inObjectsFields (given : List (String × Json)) : List (FieldSpec × Schema) → Bool
  | [] => true
  | field :: rest => inObjectsField given field && inObjectsFields given rest
termination_by structural fields => fields

def inObjectsField (given : List (String × Json)) : FieldSpec × Schema → Bool
  | (spec, schema) => (given.lookup spec.name).all fun value => inObjects schema value
termination_by structural field => field
end

section Equations

-- The equations of these recursive readers are derived here, once and before the proofs that
-- unfold them; proofs that are checked side by side would otherwise wait for one another.
attribute [local simp] read readFields readItems readField sound soundFields soundField
  plain plainFields plainField inObjects inObjectsFields inObjectsField

end Equations

section Records
variable {fields : List (FieldSpec × Schema)} {entries : List (FieldSpec × Json)}
  {given : List (String × Json)} {value found : Json}

theorem mapM_eq_some {f : α → Option β} {items : List α} {values : List β} :
    items.mapM f = some values ↔ List.Forall₂ (fun item value => f item = some value) items values := by
  induction items generalizing values with
  | nil =>
    rw [List.mapM_nil, List.forall₂_nil_left_iff]
    exact ⟨fun h => (Option.some.inj h).symm, fun h => congrArg some h.symm⟩
  | cons item rest ih =>
    rw [List.mapM_cons, List.forall₂_cons_left_iff]
    constructor
    · intro h
      obtain ⟨first, hfirst, h⟩ := Option.bind_eq_some_iff.mp h
      obtain ⟨others, hothers, h⟩ := Option.bind_eq_some_iff.mp h
      cases h
      exact ⟨first, others, hfirst, ih.mp hothers, rfl⟩
    · intro ⟨first, others, hfirst, hothers, heq⟩
      rw [hfirst, ih.mpr hothers, heq]
      rfl

/-- An entry is read of what an object gives for a field. -/
def GivenAs (given : List (String × Json)) (field : FieldSpec × Schema) (entry : FieldSpec × Json) :
    Prop :=
  entry.1 = field.1 ∧ readField (given.lookup field.1.name) true field = some entry.2

/-- An entry is read of something for a field. -/
def ReadAs (field : FieldSpec × Schema) (entry : FieldSpec × Json) : Prop :=
  entry.1 = field.1 ∧ ∃ value, field.2.read value = some entry.2

theorem readFields_eq_some :
    readFields given fields = some entries ↔ List.Forall₂ (GivenAs given) fields entries := by
  induction fields generalizing entries with
  | nil =>
    rw [readFields, List.forall₂_nil_left_iff]
    exact ⟨fun h => (Option.some.inj h).symm, fun h => congrArg some h.symm⟩
  | cons field rest ih =>
    rw [readFields, List.forall₂_cons_left_iff]
    constructor
    · intro h
      obtain ⟨value, hvalue, h⟩ := Option.bind_eq_some_iff.mp h
      obtain ⟨others, hothers, h⟩ := Option.bind_eq_some_iff.mp h
      cases h
      exact ⟨(field.1, value), others, ⟨rfl, hvalue⟩, ih.mp hothers, rfl⟩
    · intro ⟨⟨spec, value⟩, others, ⟨hspec, hvalue⟩, hothers, heq⟩
      dsimp only at hspec hvalue
      rw [hvalue, ih.mpr hothers, heq, hspec]
      rfl

/-- What holds of a field whose type is sound. -/
structure SoundField (field : FieldSpec × Schema) : Prop where
  schema : sound field.2 = true
  default : ∀ value, field.1.default = some value → read field.2 value = some value

theorem soundField_iff {field : FieldSpec × Schema} : soundField field = true ↔ SoundField field := by
  rw [soundField, Bool.and_eq_true, Option.all_eq_true]
  simp only [beq_iff_eq]
  exact ⟨fun h => ⟨h.1, h.2⟩, fun h => ⟨h.schema, h.default⟩⟩

theorem soundFields_iff : soundFields fields = true ↔ ∀ field ∈ fields, SoundField field := by
  induction fields with
  | nil => exact ⟨fun _ => List.forall_mem_nil _, fun _ => rfl⟩
  | cons field rest ih =>
    rw [soundFields, Bool.and_eq_true, soundField_iff, ih, List.forall_mem_cons]

theorem sound_record (h : sound (.record fields) = true) :
    (fields.map (·.1.name)).Nodup ∧ ∀ field ∈ fields, SoundField field := by
  rw [sound, Bool.and_eq_true, decide_eq_true_eq, soundFields_iff] at h
  exact h

theorem SoundField.readAs {field : FieldSpec × Schema} {item : Option Json} {named : Bool}
    (h : SoundField field) (hread : readField item named field = some value) :
    ReadAs field (field.1, value) := by
  obtain ⟨spec, schema⟩ := field
  refine ⟨rfl, ?_⟩
  cases item with
  | some item => exact ⟨item, hread⟩
  | none =>
    have hread : spec.default.or (if named then schema.absent else none) = some value := hread
    cases hdefault : spec.default with
    | some default =>
      rw [hdefault] at hread
      cases hread
      exact ⟨value, h.default value hdefault⟩
    | none =>
      rw [hdefault, Option.none_or, Option.ite_none_right_eq_some] at hread
      cases schema with
      | optional inner =>
        cases hread.2
        exact ⟨.null, rfl⟩
      | _ => cases hread.2

theorem GivenAs.readAs {field : FieldSpec × Schema} {entry : FieldSpec × Json}
    (h : GivenAs given field entry) (hsound : SoundField field) : ReadAs field entry := by
  obtain ⟨hspec, hread⟩ := h
  obtain ⟨_, hvalue⟩ := hsound.readAs hread
  exact ⟨hspec, hvalue⟩

theorem readItems_readAs {items : List Json} (hsound : ∀ field ∈ fields, SoundField field)
    (h : readItems fields items = some entries) : List.Forall₂ ReadAs fields entries := by
  induction fields generalizing items entries with
  | nil =>
    rw [readItems, Option.ite_none_right_eq_some] at h
    cases h.2
    exact .nil
  | cons field rest ih =>
    obtain ⟨hfield, hrest⟩ := List.forall_mem_cons.mp hsound
    rw [readItems] at h
    obtain ⟨value, hvalue, h⟩ := Option.bind_eq_some_iff.mp h
    obtain ⟨others, hothers, h⟩ := Option.bind_eq_some_iff.mp h
    cases h
    exact .cons (hfield.readAs hvalue) (ih hrest hothers)

theorem read_record_object (h : read (.record fields) (.object given) = some found) :
    ∃ entries, List.Forall₂ (GivenAs given) fields entries ∧ found = writeRecord entries := by
  rw [read, Option.ite_none_right_eq_some] at h
  obtain ⟨entries, hentries, heq⟩ := Option.map_eq_some_iff.mp h.2
  exact ⟨entries, readFields_eq_some.mp hentries, heq.symm⟩

theorem read_record (hsound : sound (.record fields) = true)
    (h : read (.record fields) value = some found) :
    ∃ entries, List.Forall₂ ReadAs fields entries ∧ found = writeRecord entries := by
  obtain ⟨_, hfields⟩ := sound_record hsound
  cases value with
  | object given =>
    obtain ⟨entries, hentries, hfound⟩ := read_record_object h
    have hboth := (List.forall₂_and_left fields entries).mpr ⟨hfields, hentries⟩
    exact ⟨entries, hboth.imp fun _ _ h => h.2.readAs h.1, hfound⟩
  | array items =>
    obtain ⟨entries, hentries, heq⟩ := Option.map_eq_some_iff.mp h
    exact ⟨entries, readItems_readAs hfields hentries, heq.symm⟩
  | _ => cases h

theorem written_eq_some {entry : FieldSpec × Json} {field : String × Json} :
    written entry = some field ↔
      entry.1.skips entry.2 = false ∧ entry.1.name = field.1 ∧ entry.2 = field.2 := by
  rw [written, Option.ite_none_left_eq_some, Bool.not_eq_true, Option.some.injEq, Prod.ext_iff]

theorem keys_written_sublist :
    ((entries.filterMap written).map (·.1)).Sublist (entries.map (·.1.name)) := by
  induction entries with
  | nil => exact .slnil
  | cons entry rest ih =>
    cases hwritten : written entry with
    | none =>
      rw [List.filterMap_cons_none hwritten]
      exact ih.cons _
    | some field =>
      rw [List.filterMap_cons_some hwritten, List.map_cons, List.map_cons,
        (written_eq_some.mp hwritten).2.1]
      exact ih.cons_cons _

theorem mem_of_lookup_written {key : String}
    (h : (ofList (entries.filterMap written)).lookup key = some value) :
    ∃ entry ∈ entries, entry.1.skips entry.2 = false ∧ entry.1.name = key ∧ entry.2 = value := by
  rw [lookup_ofList] at h
  obtain ⟨entry, hmem, hwritten⟩ := List.mem_filterMap.mp (mem_of_lookup h)
  exact ⟨entry, hmem, written_eq_some.mp hwritten⟩

theorem lookup_written {entry : FieldSpec × Json} (hnames : (entries.map (·.1.name)).Nodup)
    (hmem : entry ∈ entries) : (ofList (entries.filterMap written)).lookup entry.1.name =
      if entry.1.skips entry.2 then none else some entry.2 := by
  rw [lookup_ofList]
  have hnodup := keys_written_sublist.nodup hnames
  split
  · rename_i hskips
    refine lookup_eq_none.mpr fun hkey => ?_
    obtain ⟨field, hfield, hname⟩ := List.mem_map.mp hkey
    obtain ⟨other, hother, hwritten⟩ := List.mem_filterMap.mp hfield
    obtain ⟨hkept, hsame, _⟩ := written_eq_some.mp hwritten
    cases List.inj_on_of_nodup_map hnames hother hmem (hsame.trans hname)
    cases hkept.symm.trans hskips
  · rename_i hkept
    have hwritten : written entry = some (entry.1.name, entry.2) := if_neg hkept
    exact lookup_of_mem hnodup (List.mem_filterMap.mpr ⟨entry, hmem, hwritten⟩)

end Records

section Reading
variable {schema : Schema} {value found : Json}

theorem read_optional {inner : Schema} : read (.optional inner) value = some found ↔
    value = .null ∧ found = .null ∨ value ≠ .null ∧ read inner value = some found := by
  cases value with
  | null => simp [read, eq_comm]
  | _ => simp [read]

theorem read_list {inner : Schema} (h : read (.list inner) value = some found) :
    ∃ items values, value = .array items ∧ found = .array values ∧
      List.Forall₂ (fun item value => read inner item = some value) items values := by
  cases value with
  | array items =>
    obtain ⟨values, hvalues, rfl⟩ := Option.map_eq_some_iff.mp h
    exact ⟨items, values, rfl, rfl, mapM_eq_some.mp hvalues⟩
  | _ => cases h

theorem read_map {inner : Schema} (h : read (.map inner) value = some found) :
    ∃ given pairs, value = .object given ∧ found = .object (ofList pairs) ∧
      List.Forall₂ (fun field pair => field.1 = pair.1 ∧ read inner field.2 = some pair.2)
        given pairs := by
  cases value with
  | object given =>
    obtain ⟨pairs, hpairs, rfl⟩ := Option.map_eq_some_iff.mp h
    refine ⟨given, pairs, rfl, rfl, (mapM_eq_some.mp hpairs).imp fun field pair hread => ?_⟩
    obtain ⟨value, hvalue, rfl⟩ := Option.map_eq_some_iff.mp hread
    exact ⟨rfl, hvalue⟩
  | _ => cases h

theorem read_variant {names : List String} (h : read (.variant names) value = some found) :
    ∃ name ∈ names, found = .string name := by
  rw [read] at h
  obtain ⟨name, _, h⟩ := Option.bind_eq_some_iff.mp h
  obtain ⟨hmem, heq⟩ := Option.ite_none_right_eq_some.mp h
  exact ⟨name, hmem, (Option.some.inj heq).symm⟩

theorem forall₂_imp_mem {R S : α → β → Prop} {items : List α} {values : List β}
    (h : List.Forall₂ R items values)
    (himp : ∀ item ∈ items, ∀ value ∈ values, R item value → S item value) :
    List.Forall₂ S items values := by
  induction h with
  | nil => exact .nil
  | cons hfirst _ ih =>
    refine .cons (himp _ List.mem_cons_self _ List.mem_cons_self hfirst) (ih ?_)
    exact fun item hitem value hvalue =>
      himp item (List.mem_cons_of_mem _ hitem) value (List.mem_cons_of_mem _ hvalue)

theorem names_of_readAs {fields : List (FieldSpec × Schema)} {entries : List (FieldSpec × Json)}
    (h : List.Forall₂ ReadAs fields entries) :
    fields.map (·.1.name) = entries.map (·.1.name) := by
  induction h with
  | nil => rfl
  | cons hfirst _ ih => rw [List.map_cons, List.map_cons, ih, hfirst.1]

/-- What is read has its objects in order. -/
theorem ordered_read (hsound : sound schema = true) (h : read schema value = some found) :
    Ordered found := by
  induction schema using induct generalizing value found with
  | bool =>
    cases value with
    | bool value =>
      cases h
      exact .leaf fun _ heq => nomatch heq
    | _ => cases h
  | number limit =>
    cases value with
    | number value =>
      rw [read, Option.ite_none_right_eq_some] at h
      cases h.2
      exact .leaf fun _ heq => nomatch heq
    | _ => cases h
  | string =>
    cases value with
    | string value =>
      cases h
      exact .leaf fun _ heq => nomatch heq
    | _ => cases h
  | variant names =>
    obtain ⟨name, _, rfl⟩ := read_variant h
    exact .leaf fun _ heq => nomatch heq
  | optional inner ih =>
    obtain ⟨_, rfl⟩ | ⟨_, h⟩ := read_optional.mp h
    · exact .leaf fun _ heq => nomatch heq
    · exact ih hsound h
  | list inner ih =>
    obtain ⟨items, values, _, rfl, _⟩ := read_list h
    exact .leaf fun _ heq => nomatch heq
  | map inner ih =>
    obtain ⟨given, pairs, _, rfl, hpairs⟩ := read_map h
    refine .object (sorted_ofList pairs) fun key child hchild => ?_
    rw [lookup_ofList] at hchild
    obtain ⟨field, _, _, hread⟩ := Lists.exists_of_forall₂ hpairs (mem_of_lookup hchild)
    exact ih hsound hread
  | record fields ih =>
    obtain ⟨_, hfields⟩ := sound_record hsound
    obtain ⟨entries, hentries, rfl⟩ := read_record hsound h
    refine .object (sorted_ofList _) fun key child hchild => ?_
    obtain ⟨entry, hentry, _, _, rfl⟩ := mem_of_lookup_written hchild
    obtain ⟨field, hfield, _, value, hread⟩ := Lists.exists_of_forall₂ hentries hentry
    exact ih field hfield (hfields field hfield).schema hread

theorem ofList_ofList (pairs : List (String × α)) : ofList (ofList pairs) = ofList pairs :=
  (sorted_ofList _).ext (sorted_ofList _) fun key => lookup_ofList _ key

/-- A record that is written is read as what it is, if its fields are. -/
theorem read_writeRecord {fields : List (FieldSpec × Schema)} {entries : List (FieldSpec × Json)}
    (hnames : (fields.map (·.1.name)).Nodup)
    (h : List.Forall₂ (fun field entry => entry.1 = field.1 ∧ read field.2 entry.2 = some entry.2)
      fields entries) : read (.record fields) (writeRecord entries) = some (writeRecord entries) := by
  have hsame := names_of_readAs (h.imp fun _ _ hread => ⟨hread.1, _, hread.2⟩)
  have hgiven : List.Forall₂ (GivenAs (ofList (entries.filterMap written))) fields entries := by
    refine forall₂_imp_mem h fun field _ entry hentry hread => ⟨hread.1, ?_⟩
    obtain ⟨hspec, hvalue⟩ := hread
    rw [← hspec, lookup_written (hsame ▸ hnames) hentry]
    obtain ⟨spec, sub⟩ := field
    cases hskips : entry.1.skips entry.2 with
    | false => exact hvalue
    | true =>
      rw [FieldSpec.skips, Bool.and_eq_true, beq_iff_eq] at hskips
      have hdefault : spec.default = some entry.2 :=
        (congrArg FieldSpec.default hspec).symm.trans hskips.2
      change spec.default.or _ = some entry.2
      rw [hdefault, Option.some_or]
  have hknown : (ofList (entries.filterMap written)).all
      fun given => fields.any (·.1.name == given.1) := by
    refine List.all_eq_true.mpr fun given hmem => ?_
    have hfound := lookup_of_mem (sorted_ofList _).nodup hmem
    obtain ⟨entry, hentry, _, hname, _⟩ := mem_of_lookup_written hfound
    obtain ⟨field, hfield, hspec, _⟩ := Lists.exists_of_forall₂ h hentry
    exact List.any_eq_true.mpr ⟨field, hfield, beq_iff_eq.mpr (hspec ▸ hname)⟩
  rw [writeRecord, read, if_pos hknown, readFields_eq_some.mpr hgiven]
  rfl

/-- What is read is read as what it is. -/
theorem read_read (hsound : sound schema = true) (h : read schema value = some found) :
    read schema found = some found := by
  induction schema using induct generalizing value found with
  | bool =>
    cases value with
    | bool value =>
      cases h
      rfl
    | _ => cases h
  | number limit =>
    cases value with
    | number value =>
      rw [read, Option.ite_none_right_eq_some] at h
      cases h.2
      rw [read, if_pos h.1]
    | _ => cases h
  | string =>
    cases value with
    | string value =>
      cases h
      rfl
    | _ => cases h
  | variant names =>
    obtain ⟨name, hmem, rfl⟩ := read_variant h
    exact if_pos hmem
  | optional inner ih =>
    obtain ⟨_, rfl⟩ | ⟨_, h⟩ := read_optional.mp h
    · rfl
    · by_cases hnull : found = .null
      · exact read_optional.mpr (.inl ⟨hnull, hnull⟩)
      · exact read_optional.mpr (.inr ⟨hnull, ih hsound h⟩)
  | list inner ih =>
    obtain ⟨items, values, _, rfl, hvalues⟩ := read_list h
    have hsame : List.Forall₂ (fun item value => read inner item = some value) values values :=
      List.forall₂_same.mpr fun value hmem => by
        obtain ⟨item, _, hread⟩ := Lists.exists_of_forall₂ hvalues hmem
        exact ih hsound hread
    exact Option.map_eq_some_iff.mpr ⟨values, mapM_eq_some.mpr hsame, rfl⟩
  | map inner ih =>
    obtain ⟨given, pairs, _, rfl, hpairs⟩ := read_map h
    have hsame : ∀ pair ∈ ofList pairs, (read inner pair.2).map (pair.1, ·) = some pair := by
      intro pair hmem
      have hfound := lookup_of_mem (sorted_ofList pairs).nodup hmem
      rw [lookup_ofList] at hfound
      obtain ⟨field, _, _, hread⟩ := Lists.exists_of_forall₂ hpairs (mem_of_lookup hfound)
      rw [ih hsound hread]
      rfl
    refine Option.map_eq_some_iff.mpr ⟨ofList pairs, mapM_eq_some.mpr (List.forall₂_same.mpr hsame), ?_⟩
    rw [Function.comp_apply, ofList_ofList]
  | record fields ih =>
    obtain ⟨hnames, hfields⟩ := sound_record hsound
    obtain ⟨entries, hentries, rfl⟩ := read_record hsound h
    refine read_writeRecord hnames <| forall₂_imp_mem hentries fun field hfield entry _ hread => ?_
    obtain ⟨hspec, value, hvalue⟩ := hread
    exact ⟨hspec, ih field hfield (hfields field hfield).schema hvalue⟩

end Reading

section Objects
variable {schema : Schema} {value found default above : Json} {fields : List (FieldSpec × Schema)}
  {given : List (String × Json)}

theorem inObjectsFields_iff : inObjectsFields given fields = true ↔
    ∀ field ∈ fields, ∀ child, given.lookup field.1.name = some child →
      inObjects field.2 child = true := by
  induction fields with
  | nil => exact ⟨fun _ => List.forall_mem_nil _, fun _ => rfl⟩
  | cons field rest ih =>
    rw [inObjectsFields, Bool.and_eq_true, inObjectsField, Option.all_eq_true, ih, List.forall_mem_cons]

theorem inObjects_map {inner : Schema} (h : Sorted given) :
    inObjects (.map inner) (.object given) = true ↔
      ∀ key child, given.lookup key = some child → inObjects inner child = true := by
  rw [inObjects, List.all_eq_true]
  constructor
  · exact fun hall key child hfound => hall (key, child) (mem_of_lookup hfound)
  · exact fun hall field hmem => hall field.1 field.2 (lookup_of_mem h.nodup hmem)

theorem inObjects_null (schema : Schema) : inObjects schema .null = true := by
  induction schema using induct with
  | optional inner ih => exact ih
  | _ => rfl

/-- What is written is written in objects. -/
theorem inObjects_read (hsound : sound schema = true) (h : read schema value = some found) :
    inObjects schema found = true := by
  induction schema using induct generalizing value found with
  | optional inner ih =>
    obtain ⟨_, rfl⟩ | ⟨_, h⟩ := read_optional.mp h
    · exact inObjects_null _
    · exact ih hsound h
  | map inner ih =>
    obtain ⟨given, pairs, _, rfl, hpairs⟩ := read_map h
    refine (inObjects_map (sorted_ofList pairs)).mpr fun key child hchild => ?_
    rw [lookup_ofList] at hchild
    obtain ⟨field, _, _, hread⟩ := Lists.exists_of_forall₂ hpairs (mem_of_lookup hchild)
    exact ih hsound hread
  | record fields ih =>
    obtain ⟨hnames, hfields⟩ := sound_record hsound
    obtain ⟨entries, hentries, rfl⟩ := read_record hsound h
    refine inObjectsFields_iff.mpr fun field hfield child hchild => ?_
    obtain ⟨entry, hentry, _, hname, rfl⟩ := mem_of_lookup_written hchild
    obtain ⟨other, hother, hspec, value, hread⟩ := Lists.exists_of_forall₂ hentries hentry
    have hsame : other.1.name = field.1.name := by rw [← hspec, hname]
    cases List.inj_on_of_nodup_map hnames hother hfield hsame
    exact ih field hfield (hfields field hfield).schema hread
  | _ => rfl

theorem inObjects_merge (hdefault : Ordered default) (hover : Ordered above)
    (h : inObjects schema default = true) (h' : inObjects schema above = true) :
    inObjects schema (merge default above) = true := by
  induction schema using induct generalizing default above with
  | optional inner ih => exact ih hdefault hover h h'
  | map inner ih =>
    cases hover with
    | leaf hleaf => rwa [merge_leaf hleaf]
    | @object override hsorted' hchildren' =>
      cases hdefault with
      | leaf hleaf => rwa [merge_over_leaf hleaf]
      | @object base hsorted hchildren =>
        rw [inObjects_map hsorted] at h
        rw [inObjects_map hsorted'] at h'
        refine (inObjects_map (sorted_mergeFields hsorted)).mpr fun key child hchild => ?_
        obtain hheld | hover | ⟨held, above, hheld, hover, rfl⟩ :=
          lookup_mergeFields_eq_some hsorted'.nodup hchild
        · exact h key child hheld
        · exact h' key child hover
        · exact ih (hchildren key held hheld) (hchildren' key above hover) (h key held hheld)
            (h' key above hover)
  | record fields ih =>
    cases hover with
    | leaf hleaf => rwa [merge_leaf hleaf]
    | @object override hsorted' hchildren' =>
      cases hdefault with
      | leaf hleaf => rwa [merge_over_leaf hleaf]
      | @object base hsorted hchildren =>
        have hbase := inObjectsFields_iff.mp h
        have hoverride := inObjectsFields_iff.mp h'
        refine inObjectsFields_iff.mpr fun field hfield child hchild => ?_
        obtain hheld | hover | ⟨held, above, hheld, hover, rfl⟩ :=
          lookup_mergeFields_eq_some hsorted'.nodup hchild
        · exact hbase field hfield child hheld
        · exact hoverride field hfield child hover
        · exact ih field hfield (hchildren _ held hheld) (hchildren' _ above hover)
            (hbase field hfield held hheld) (hoverride field hfield above hover)
  | _ => rfl

theorem plainFields_iff : plainFields fields = true ↔
    ∀ field ∈ fields, field.1.skipped = false ∧ plain field.2 = true := by
  induction fields with
  | nil => exact ⟨fun _ => List.forall_mem_nil _, fun _ => rfl⟩
  | cons field rest ih =>
    rw [plainFields, Bool.and_eq_true, plainField, Bool.and_eq_true, Bool.not_eq_true', ih,
      List.forall_mem_cons]

theorem lookup_of_read_map {inner : Schema} {pairs : List (String × Json)} {key : String}
    {child : Json}
    (hpairs : List.Forall₂ (fun field pair => field.1 = pair.1 ∧ read inner field.2 = some pair.2)
      given pairs) (hchild : given.lookup key = some child) :
    ∃ read_, pairs.lookup key = some read_ ∧ read inner child = some read_ := by
  induction hpairs with
  | nil => cases hchild
  | @cons field pair _ _ hfirst _ ih =>
    rw [lookup_cons] at hchild ⊢
    split at hchild
    · rename_i heq
      cases hchild
      exact ⟨pair.2, if_pos (heq.trans hfirst.1), hfirst.2⟩
    · rename_i hne
      rw [if_neg (hfirst.1 ▸ hne)]
      exact ih hchild

/-- What is read keeps the keys of a value that is written, if what it is read of does. -/
theorem keeps_read (hsound : sound schema = true) (hplain : plain schema = true)
    (hdefault : read schema default = some default) (hordered : Ordered value)
    (hkeeps : keeps default value = true) (hobjects : inObjects schema value = true)
    (h : read schema value = some found) : keeps default found = true := by
  induction schema using induct generalizing default value found with
  | bool =>
    cases value with
    | bool value =>
      cases h
      exact keeps_of_leaf fun _ heq => nomatch heq
    | _ => cases h
  | number limit =>
    cases value with
    | number value =>
      rw [read, Option.ite_none_right_eq_some] at h
      cases h.2
      exact keeps_of_leaf fun _ heq => nomatch heq
    | _ => cases h
  | string =>
    cases value with
    | string value =>
      cases h
      exact keeps_of_leaf fun _ heq => nomatch heq
    | _ => cases h
  | variant names =>
    obtain ⟨name, _, rfl⟩ := read_variant h
    exact keeps_of_leaf fun _ heq => nomatch heq
  | list inner ih =>
    obtain ⟨items, values, _, rfl, _⟩ := read_list h
    exact keeps_of_leaf fun _ heq => nomatch heq
  | optional inner ih =>
    obtain ⟨_, rfl⟩ | ⟨_, h⟩ := read_optional.mp h
    · exact keeps_of_leaf fun _ heq => nomatch heq
    · obtain ⟨rfl, _⟩ | ⟨_, hdefault⟩ := read_optional.mp hdefault
      · exact keeps_over_leaf fun _ heq => nomatch heq
      · exact ih hsound hplain hdefault hordered hkeeps hobjects h
  | map inner ih =>
    obtain ⟨given, pairs, rfl, rfl, hpairs⟩ := read_map h
    obtain ⟨defaults, kept, rfl, hsame, hdefaults⟩ := read_map hdefault
    have hsame := Json.object.inj hsame
    cases hordered with
    | leaf hleaf => exact absurd rfl (hleaf given)
    | object hsorted hchildren =>
      have hsorted' : Sorted defaults := hsame ▸ sorted_ofList kept
      rw [inObjects_map hsorted] at hobjects
      rw [keeps_objects hsorted'] at hkeeps ⊢
      intro key default hfound
      obtain ⟨child, hchild, hkept⟩ := hkeeps key default hfound
      obtain ⟨result, hresult, hread⟩ := lookup_of_read_map hpairs hchild
      obtain ⟨same, hsame', hreadDefault⟩ := lookup_of_read_map hdefaults hfound
      rw [hsame, lookup_ofList] at hfound
      cases hsame'.symm.trans hfound
      refine ⟨result, by rw [lookup_ofList, hresult], ?_⟩
      exact ih hsound hplain hreadDefault (hchildren key child hchild) hkept
        (hobjects key child hchild) hread
  | record fields ih =>
    obtain ⟨hnames, hfields⟩ := sound_record hsound
    have hplain := plainFields_iff.mp hplain
    obtain ⟨kept, hdefaults, rfl⟩ := read_record hsound hdefault
    cases value with
    | array items => cases hobjects
    | object given =>
      obtain ⟨entries, hentries, rfl⟩ := read_record_object h
      have hboth := (List.forall₂_and_left fields entries).mpr ⟨hfields, hentries⟩
      have hsame := names_of_readAs (hboth.imp fun _ _ h => h.2.readAs h.1)
      have hobjects := inObjectsFields_iff.mp hobjects
      cases hordered with
      | leaf hleaf => exact absurd rfl (hleaf given)
      | object hsorted hchildren =>
        have hkeeps := (keeps_objects (sorted_ofList _)).mp hkeeps
        refine (keeps_objects (sorted_ofList _)).mpr fun key default hfound => ?_
        obtain ⟨child, hchild, hkept⟩ := hkeeps key default hfound
        obtain ⟨entry, hentry, _, rfl, rfl⟩ := mem_of_lookup_written hfound
        obtain ⟨field, hfield, hspec, value, hread⟩ := Lists.exists_of_forall₂ hdefaults hentry
        obtain ⟨result, hresult, hspec', hreadField⟩ := Lists.exists_of_forall₂ hentries.flip hfield
        rw [hspec] at hchild
        obtain ⟨spec, sub⟩ := field
        rw [hchild] at hreadField
        have hshown : result.1.skips result.2 = false := by
          rw [FieldSpec.skips, hspec', (hplain _ hfield).1, Bool.false_and]
        refine ⟨result.2, ?_, ?_⟩
        · rw [hspec, ← hspec', lookup_written (hsame ▸ hnames) hresult, hshown]
          rfl
        · have hsound' := (hfields _ hfield).schema
          exact ih _ hfield hsound' (hplain _ hfield).2 (read_read hsound' hread)
            (hchildren _ child hchild) hkept (hobjects _ hfield child hchild) hreadField
    | _ => cases h

end Objects
end Schema
