import Mathlib.Data.String.Basic
import AgentFirstMail.Data.Json


/-! JSON documents whose objects are in the order of their keys: how one is laid over another, and
what of one is not in another. -/

namespace Fields
variable {fields others : List (String × α)} {key other : String} {value : α}

/-- Puts a value under a key. -/
def insert (key : String) (value : α) : List (String × α) → List (String × α)
  | [] => [(key, value)]
  | (other, held) :: rest =>
    if key < other then (key, value) :: (other, held) :: rest
    else if key = other then (key, value) :: rest
    else (other, held) :: insert key value rest

/-- Fields in the order of their keys, one for each. -/
def Sorted (fields : List (String × α)) : Prop := (fields.map (·.1)).Pairwise (· < ·)

theorem lookup_cons (field : String × α) (fields : List (String × α)) :
    (field :: fields).lookup key = if key = field.1 then some field.2 else fields.lookup key := by
  rw [show field = (field.1, field.2) from rfl, List.lookup_cons]
  by_cases heq : key = field.1
  · simp [heq]
  · simp [heq, beq_eq_false_iff_ne.mpr heq]

theorem lookup_insert : (insert key value fields).lookup other =
    if other = key then some value else fields.lookup other := by
  induction fields with
  | nil => rw [insert, lookup_cons]
  | cons field rest ih =>
    rw [insert]
    split
    · rw [lookup_cons]
    · split
      · rename_i heq
        rw [lookup_cons, lookup_cons, ← heq]
        by_cases hother : other = key
        · rw [if_pos hother, if_pos hother]
        · rw [if_neg hother, if_neg hother, if_neg hother]
      · rename_i hne
        rw [lookup_cons, ih, lookup_cons]
        by_cases hother : other = key
        · rw [if_pos hother, if_neg (hother ▸ hne), if_pos hother]
        · rw [if_neg hother, if_neg hother]

theorem mem_keys_insert : other ∈ (insert key value fields).map (·.1) ↔
    other = key ∨ other ∈ fields.map (·.1) := by
  induction fields with
  | nil => simp [insert]
  | cons field rest ih =>
    rw [insert]
    split
    · simp
    · split
      · rename_i heq
        simp [heq]
      · rw [List.map_cons, List.mem_cons, ih, List.map_cons, List.mem_cons, or_left_comm]

theorem Sorted.insert (h : Sorted fields) : Sorted (insert key value fields) := by
  induction fields with
  | nil => exact List.pairwise_singleton _ _
  | cons field rest ih =>
    obtain ⟨hfirst, hrest⟩ := List.pairwise_cons.mp h
    rw [Fields.insert]
    split
    · rename_i hlt
      refine List.pairwise_cons.mpr ⟨fun other hmem => ?_, h⟩
      obtain rfl | hlater := List.mem_cons.mp hmem
      · exact hlt
      · exact hlt.trans (hfirst other hlater)
    · rename_i hnlt
      split
      · rename_i heq
        exact List.pairwise_cons.mpr ⟨fun other hmem => heq ▸ hfirst other hmem, hrest⟩
      · rename_i hne
        refine List.pairwise_cons.mpr ⟨fun other hmem => ?_, ih hrest⟩
        obtain rfl | hlater := mem_keys_insert.mp hmem
        · exact lt_of_le_of_ne (not_lt.mp hnlt) (Ne.symm hne)
        · exact hfirst other hlater

theorem lookup_eq_none : fields.lookup key = none ↔ key ∉ fields.map (·.1) := by
  rw [List.lookup_eq_none_iff, List.mem_map, not_exists]
  exact forall_congr' fun field => by rw [not_and, bne_iff_ne, ne_comm]

theorem mem_of_lookup (h : fields.lookup key = some value) : (key, value) ∈ fields := by
  obtain ⟨_, _, rfl, _⟩ := List.lookup_eq_some_iff.mp h
  exact List.mem_append_right _ List.mem_cons_self

theorem Sorted.nodup (h : Sorted fields) : (fields.map (·.1)).Nodup := h.imp ne_of_lt

theorem lookup_of_mem (hnodup : (fields.map (·.1)).Nodup) (h : (key, value) ∈ fields) :
    fields.lookup key = some value := by
  induction fields with
  | nil => cases h
  | cons field rest ih =>
    obtain ⟨hnew, hrest⟩ := List.nodup_cons.mp hnodup
    rw [lookup_cons]
    obtain rfl | hlater := List.mem_cons.mp h
    · exact if_pos rfl
    · have hne : key ≠ field.1 := by
        intro heq
        exact hnew (List.mem_map.mpr ⟨_, hlater, heq⟩)
      rw [if_neg hne, ih hrest hlater]

/-- Two such fields are the same when the same is found in them. -/
theorem Sorted.ext (h : Sorted fields) (h' : Sorted others)
    (heq : ∀ key, fields.lookup key = others.lookup key) : fields = others := by
  induction fields generalizing others with
  | nil =>
    cases others with
    | nil => rfl
    | cons other rest =>
      have hother := heq other.1
      rw [lookup_cons, if_pos rfl] at hother
      cases hother
  | cons field rest ih =>
    cases others with
    | nil =>
      have hfield := heq field.1
      rw [lookup_cons, if_pos rfl] at hfield
      cases hfield
    | cons other rest' =>
      obtain ⟨hfirst, hrest⟩ := List.pairwise_cons.mp h
      obtain ⟨hfirst', hrest'⟩ := List.pairwise_cons.mp h'
      have hkeys : field.1 = other.1 := by
        by_contra hne
        have hfield := heq field.1
        have hother := heq other.1
        rw [lookup_cons, if_pos rfl, lookup_cons, if_neg hne] at hfield
        rw [lookup_cons, if_neg (Ne.symm hne), lookup_cons, if_pos rfl] at hother
        have hlater := hfirst _ (List.mem_map_of_mem (mem_of_lookup hother))
        have hlater' := hfirst' _ (List.mem_map_of_mem (mem_of_lookup hfield.symm))
        exact lt_asymm hlater hlater'
      have hvalues : field = other := by
        have hfield := heq field.1
        rw [lookup_cons, if_pos rfl, lookup_cons, if_pos hkeys, Option.some.injEq] at hfield
        exact Prod.ext hkeys hfield
      have hnew {key : String} {list : List (String × α)} (hall : ∀ name ∈ list.map (·.1), key < name) :
          list.lookup key = none := lookup_eq_none.mpr fun hmem => lt_irrefl key (hall key hmem)
      refine List.cons_eq_cons.mpr ⟨hvalues, ih hrest hrest' fun key => ?_⟩
      by_cases hkey : key = field.1
      · rw [hkey, hnew hfirst, hkeys, hnew hfirst']
      · have hrests := heq key
        rwa [lookup_cons, if_neg hkey, lookup_cons, if_neg (hkeys ▸ hkey)] at hrests

def ofList (fields : List (String × α)) : List (String × α) :=
  fields.foldr (fun field fields => insert field.1 field.2 fields) []

theorem sorted_ofList (fields : List (String × α)) : Sorted (ofList fields) := by
  induction fields with
  | nil => exact .nil
  | cons field rest ih => exact ih.insert

theorem lookup_ofList (fields : List (String × α)) (key : String) :
    (ofList fields).lookup key = fields.lookup key := by
  induction fields with
  | nil => rfl
  | cons field rest ih => rw [ofList, List.foldr_cons, lookup_insert, lookup_cons, ← ih, ofList]

end Fields

namespace Json
open Fields

mutual
/-- Lays one value over another. -/
def merge (base : Json) : Json → Json
  | .object override =>
    match base with
    | .object fields => .object (mergeFields fields override)
    | _ => .object override
  | override => override
termination_by structural override => override

def mergeFields (base : List (String × Json)) : List (String × Json) → List (String × Json)
  | [] => base
  | field :: rest => mergeFields (Fields.insert field.1 (mergeField base field) base) rest
termination_by structural fields => fields

def mergeField (base : List (String × Json)) : String × Json → Json
  | (key, value) =>
    match base.lookup key with
    | some held => merge held value
    | none => value
termination_by structural field => field
end

mutual
/-- What of a value is not in another one, if anything. -/
def diff (default : Json) : Json → Option Json
  | .object fields =>
    if .object fields = default then none
    else match default with
      | .object defaults =>
        match diffFields defaults fields with
        | [] => none
        | first :: rest => some (.object (first :: rest))
      | _ => some (.object fields)
  | value => if value = default then none else some value
termination_by structural value => value

def diffFields (defaults : List (String × Json)) : List (String × Json) → List (String × Json)
  | [] => []
  | field :: rest =>
    ((diffField defaults field).map (field.1, ·)).toList ++ diffFields defaults rest
termination_by structural fields => fields

def diffField (defaults : List (String × Json)) : String × Json → Option Json
  | (key, child) =>
    match defaults.lookup key with
    | some default => diff default child
    | none => some child
termination_by structural field => field
end

mutual
/-- Objects keep the keys of others, and so do their fields. -/
def keeps : Json → Json → Bool
  | .object defaults, .object fields => keepsFields fields defaults
  | _, _ => true
termination_by structural default => default

def keepsFields (fields : List (String × Json)) : List (String × Json) → Bool
  | [] => true
  | default :: rest => keepsField fields default && keepsFields fields rest
termination_by structural defaults => defaults

def keepsField (fields : List (String × Json)) : String × Json → Bool
  | (key, default) =>
    match fields.lookup key with
    | some child => keeps default child
    | none => false
termination_by structural default => default
end

/-- A value whose objects are in the order of their keys, as far as objects hold objects. -/
inductive Ordered : Json → Prop
  | leaf : (∀ fields, value ≠ .object fields) → Ordered value
  | object : Sorted fields → (∀ key child, fields.lookup key = some child → Ordered child) →
      Ordered (.object fields)

/-- What is found under keys, one below the other. -/
def at_ : List String → Json → Option Json
  | [], value => some value
  | key :: path, .object fields => (fields.lookup key).bind (at_ path)
  | _ :: _, _ => none

theorem at_leaf {value : Json} {key : String} {path : List String}
    (h : ∀ fields, value ≠ .object fields) : at_ (key :: path) value = none := by
  cases value with
  | object fields => exact absurd rfl (h fields)
  | _ => rfl

section Merging
variable {base override : List (String × Json)} {key : String} {under value : Json}

theorem merge_leaf (h : ∀ fields, value ≠ .object fields) : merge under value = value := by
  cases value with
  | object fields => exact absurd rfl (h fields)
  | _ => rfl

theorem merge_over_leaf (h : ∀ fields, under ≠ .object fields) : merge under value = value := by
  cases value with
  | object override =>
    cases under with
    | object fields => exact absurd rfl (h fields)
    | _ => rfl
  | _ => rfl

theorem lookup_mergeFields (h : (override.map (·.1)).Nodup) :
    (mergeFields base override).lookup key =
      (override.lookup key).elim (base.lookup key) fun value =>
        some ((base.lookup key).elim value (merge · value)) := by
  induction override generalizing base with
  | nil => rfl
  | cons field rest ih =>
    obtain ⟨hnew, hrest⟩ := List.nodup_cons.mp h
    have hfield : mergeField base field = (base.lookup field.1).elim field.2 (merge · field.2) := by
      rw [mergeField]
      cases base.lookup field.1 with
      | none => rfl
      | some held => rfl
    rw [mergeFields, ih hrest, lookup_cons, lookup_insert]
    by_cases heq : key = field.1
    · rw [if_pos heq, if_pos heq, heq, lookup_eq_none.mpr hnew, hfield]
      rfl
    · rw [if_neg heq, if_neg heq]

theorem lookup_mergeFields_eq_some (hnodup : (override.map (·.1)).Nodup)
    (h : (mergeFields base override).lookup key = some value) :
    base.lookup key = some value ∨ override.lookup key = some value ∨
      ∃ held above, base.lookup key = some held ∧ override.lookup key = some above ∧
        value = merge held above := by
  rw [lookup_mergeFields hnodup] at h
  cases hover : override.lookup key with
  | none =>
    rw [hover] at h
    exact .inl h
  | some above =>
    cases hheld : base.lookup key with
    | none =>
      rw [hover, hheld] at h
      exact .inr (.inl h)
    | some held =>
      rw [hover, hheld] at h
      exact .inr (.inr ⟨held, above, rfl, rfl, (Option.some.inj h).symm⟩)

theorem sorted_mergeFields (h : Sorted base) : Sorted (mergeFields base override) := by
  induction override generalizing base with
  | nil => exact h
  | cons field rest ih => exact ih h.insert

end Merging

section Diffing
variable {defaults fields : List (String × Json)} {key : String} {default value part : Json}

theorem diff_leaf (h : ∀ fields, value ≠ .object fields) :
    diff default value = if value = default then none else some value := by
  cases value with
  | object fields => exact absurd rfl (h fields)
  | _ => rfl

theorem diff_object (h : .object fields ≠ default) (hdefault : ∀ defaults, default ≠ .object defaults) :
    diff default (.object fields) = some (.object fields) := by
  rw [diff, if_neg h]
  exact hdefault

theorem diff_objects (h : Json.object fields ≠ .object defaults) :
    diff (.object defaults) (.object fields) =
      if diffFields defaults fields = [] then none else some (.object (diffFields defaults fields)) := by
  rw [diff, if_neg h]
  split
  · rename_i hnil
    rw [if_pos hnil]
  · rename_i hcons
    rw [hcons, if_neg (List.cons_ne_nil _ _)]

@[simp] theorem diff_self (value : Json) : diff value value = none := by
  cases value with
  | object fields => rw [diff, if_pos rfl]
  | _ => simp [diff]

theorem keys_diffFields_sublist :
    ((diffFields defaults fields).map (·.1)).Sublist (fields.map (·.1)) := by
  induction fields with
  | nil => exact .slnil
  | cons field rest ih =>
    rw [diffFields]
    cases diffField defaults field with
    | none => exact ih.cons _
    | some part => exact ih.cons_cons _

theorem sorted_diffFields (h : Sorted fields) : Sorted (diffFields defaults fields) :=
  List.Pairwise.sublist keys_diffFields_sublist h

theorem lookup_diffFields (h : (fields.map (·.1)).Nodup) :
    (diffFields defaults fields).lookup key =
      (fields.lookup key).bind fun child =>
        (defaults.lookup key).elim (some child) (diff · child) := by
  induction fields with
  | nil => rfl
  | cons field rest ih =>
    obtain ⟨hnew, hrest⟩ := List.nodup_cons.mp h
    have hfield : diffField defaults field =
        (defaults.lookup field.1).elim (some field.2) (diff · field.2) := by
      rw [diffField]
      cases defaults.lookup field.1 with
      | none => rfl
      | some default => rfl
    rw [Json.diffFields, lookup_cons]
    by_cases heq : key = field.1
    · have hgone : (Json.diffFields defaults rest).lookup key = none :=
        lookup_eq_none.mpr fun hmem => hnew (keys_diffFields_sublist.subset (heq ▸ hmem))
      rw [if_pos heq, Option.bind_some, heq, ← hfield]
      cases diffField defaults field with
      | none => exact heq ▸ hgone
      | some part => exact (lookup_cons _ _).trans (if_pos rfl)
    · rw [if_neg heq, ← ih hrest]
      cases diffField defaults field with
      | none => rfl
      | some part => exact (lookup_cons _ _).trans (if_neg heq)

end Diffing

section Keeping
variable {defaults fields : List (String × Json)} {default value : Json}

theorem keeps_of_leaf (h : ∀ fields, value ≠ .object fields) : keeps default value = true := by
  cases value with
  | object fields => exact absurd rfl (h fields)
  | _ => cases default <;> rfl

theorem keeps_over_leaf (h : ∀ defaults, default ≠ .object defaults) : keeps default value = true := by
  cases default with
  | object defaults => exact absurd rfl (h defaults)
  | _ => cases value <;> rfl

theorem keepsFields_iff : keepsFields fields defaults = true ↔
    ∀ default ∈ defaults, ∃ child, fields.lookup default.1 = some child ∧ keeps default.2 child = true := by
  induction defaults with
  | nil => exact ⟨fun _ => List.forall_mem_nil _, fun _ => rfl⟩
  | cons default rest ih =>
    have hfirst : keepsField fields default = true ↔
        ∃ child, fields.lookup default.1 = some child ∧ keeps default.2 child = true := by
      rw [keepsField]
      cases fields.lookup default.1 with
      | none => simp
      | some child => simp
    rw [keepsFields, Bool.and_eq_true, hfirst, ih, List.forall_mem_cons]

theorem keeps_objects (h : Sorted defaults) : keeps (.object defaults) (.object fields) = true ↔
    ∀ key default, defaults.lookup key = some default →
      ∃ child, fields.lookup key = some child ∧ keeps default child = true := by
  rw [keeps, keepsFields_iff]
  constructor
  · exact fun hall key default hfound => hall (key, default) (mem_of_lookup hfound)
  · exact fun hall default hmem => hall default.1 default.2 (lookup_of_mem h.nodup hmem)

theorem Ordered.keeps_self (h : Ordered value) : keeps value value = true := by
  induction h with
  | leaf h => exact keeps_of_leaf h
  | object hsorted _ ih =>
    exact (keeps_objects hsorted).mpr fun key default hfound => ⟨default, hfound, ih key default hfound⟩

theorem Ordered.merge (h : Ordered default) (hvalue : Ordered value) : Ordered (merge default value) := by
  induction h generalizing value with
  | leaf h => rwa [merge_over_leaf h]
  | object hsorted hchildren ih =>
    cases hvalue with
    | leaf h =>
      rw [merge_leaf h]
      exact .leaf h
    | object hsorted' hchildren' =>
      refine .object (sorted_mergeFields hsorted) fun key child hchild => ?_
      obtain hheld | hover | ⟨held, above, hheld, hover, rfl⟩ :=
        lookup_mergeFields_eq_some hsorted'.nodup hchild
      · exact hchildren key child hheld
      · exact hchildren' key child hover
      · exact ih key held hheld (hchildren' key above hover)

theorem Ordered.keeps_merge (h : Ordered default) (hvalue : Ordered value) :
    keeps default (Json.merge default value) = true := by
  induction h generalizing value with
  | leaf h => exact keeps_over_leaf h
  | object hsorted hchildren ih =>
    cases hvalue with
    | leaf h =>
      rw [merge_leaf h]
      exact keeps_of_leaf h
    | object hsorted' hchildren' =>
      refine (keeps_objects hsorted).mpr fun key default hfound => ?_
      rw [lookup_mergeFields hsorted'.nodup, hfound]
      cases hover : List.lookup key _ with
      | none => exact ⟨default, rfl, (hchildren key default hfound).keeps_self⟩
      | some child => exact ⟨_, rfl, ih key default hfound (hchildren' key child hover)⟩

end Keeping

section Restoring
variable {default value part : Json}

/-- A value as it is given back of what it has beside another one. -/
def restore (default value : Json) : Json := (diff default value).elim default (merge default)

theorem diffFields_self {fields : List (String × Json)} (h : Sorted fields) :
    Json.diffFields fields fields = [] := by
  refine (sorted_diffFields h).ext .nil fun key => ?_
  rw [lookup_diffFields h.nodup]
  cases fields.lookup key with
  | none => rfl
  | some child => exact diff_self child

theorem restore_objects {defaults fields : List (String × Json)} (h : Sorted fields) :
    restore (.object defaults) (.object fields) =
      .object (mergeFields defaults (diffFields defaults fields)) := by
  rw [restore]
  by_cases heq : Json.object fields = .object defaults
  · cases heq
    rw [diff_self, diffFields_self h]
    rfl
  · rw [diff_objects heq]
    split
    · rename_i hnil
      rw [hnil]
      rfl
    · rfl

theorem lookup_restored (defaults : List (String × Json)) {fields : List (String × Json)}
    (h : Sorted fields) (key : String) :
    (mergeFields defaults (diffFields defaults fields)).lookup key =
      match defaults.lookup key, fields.lookup key with
      | some default, some child => some (restore default child)
      | default, none => default
      | none, child => child := by
  rw [lookup_mergeFields (sorted_diffFields h).nodup, lookup_diffFields h.nodup]
  cases defaults.lookup key with
  | none =>
    cases fields.lookup key with
    | none => rfl
    | some child => rfl
  | some default =>
    cases fields.lookup key with
    | none => rfl
    | some child =>
      dsimp only [Option.bind_some, Option.elim_some, restore]
      cases diff default child with
      | none => rfl
      | some part => rfl

/-- A value is given back if it keeps what the other one has. -/
theorem restore_eq_iff (hvalue : Ordered value) (hdefault : Ordered default) :
    restore default value = value ↔ keeps default value = true := by
  induction hvalue generalizing default with
  | leaf h =>
    refine iff_of_true ?_ (keeps_of_leaf h)
    rw [restore, diff_leaf h]
    split
    · rename_i heq
      exact heq.symm
    · exact merge_leaf h
  | @object fields hsorted hchildren ih =>
    cases hdefault with
    | leaf h =>
      refine iff_of_true ?_ (keeps_over_leaf h)
      rw [restore, diff_object (fun heq => h _ heq.symm) h]
      exact merge_over_leaf h
    | @object defaults hsorted' hchildren' =>
      have hlookup := lookup_restored defaults hsorted
      rw [restore_objects hsorted, object.injEq, keeps_objects hsorted']
      constructor
      · intro heq key default hfound
        have hkey := hlookup key
        rw [heq, hfound] at hkey
        cases hchild : fields.lookup key with
        | none =>
          rw [hchild] at hkey
          cases hkey
        | some child =>
          rw [hchild] at hkey
          have hrestored := (Option.some.inj hkey).symm
          exact ⟨child, rfl, (ih key child hchild (hchildren' key default hfound)).mp hrestored⟩
      · intro hkeeps
        refine (sorted_mergeFields hsorted').ext hsorted fun key => ?_
        rw [hlookup]
        cases hfound : defaults.lookup key with
        | none => cases fields.lookup key <;> rfl
        | some default =>
          obtain ⟨child, hchild, hkept⟩ := hkeeps key default hfound
          rw [hchild]
          exact congrArg some ((ih key child hchild (hchildren' key default hfound)).mpr hkept)

/-- What is given back of a value has beside the other one what the value has. -/
theorem diff_restore (hvalue : Ordered value) (hdefault : Ordered default) :
    diff default (restore default value) = diff default value := by
  induction hvalue generalizing default with
  | leaf h =>
    rw [restore, diff_leaf h]
    split
    · exact diff_self default
    · rename_i hne
      rw [Option.elim_some, merge_leaf h, diff_leaf h, if_neg hne]
  | @object fields hsorted hchildren ih =>
    cases hdefault with
    | leaf h =>
      rw [restore, diff_object (fun heq => h _ heq.symm) h, Option.elim_some, merge_over_leaf h,
        diff_object (fun heq => h _ heq.symm) h]
    | @object defaults hsorted' hchildren' =>
      have hrestored : Sorted (mergeFields defaults (diffFields defaults fields)) :=
        sorted_mergeFields hsorted'
      have hsame : diffFields defaults (mergeFields defaults (diffFields defaults fields)) =
          diffFields defaults fields := by
        refine (sorted_diffFields hrestored).ext (sorted_diffFields hsorted) fun key => ?_
        rw [lookup_diffFields hrestored.nodup, lookup_restored _ hsorted,
          lookup_diffFields hsorted.nodup]
        cases hfound : defaults.lookup key with
        | none => cases fields.lookup key <;> rfl
        | some default =>
          cases hchild : fields.lookup key with
          | none => exact diff_self default
          | some child => exact ih key child hchild (hchildren' key default hfound)
      have hdiff {others : List (String × Json)} (hothers : Sorted others) :
          diff (.object defaults) (.object others) =
            if diffFields defaults others = [] then none
            else some (.object (diffFields defaults others)) := by
        by_cases heq : Json.object others = .object defaults
        · cases heq
          rw [diff_self, diffFields_self hothers, if_pos rfl]
        · exact diff_objects heq
      rw [restore_objects hsorted, hdiff hrestored, hdiff hsorted, hsame]

theorem diff_object_eq_some {fields : List (String × Json)}
    (h : diff default (.object fields) = some part) :
    (∀ defaults, default ≠ .object defaults) ∧ part = .object fields ∨
      ∃ defaults, default = .object defaults ∧ diffFields defaults fields ≠ [] ∧
        part = .object (diffFields defaults fields) := by
  have hne : Json.object fields ≠ default := by
    intro heq
    rw [heq, diff_self] at h
    cases h
  by_cases hobject : ∃ defaults, default = .object defaults
  · obtain ⟨defaults, rfl⟩ := hobject
    rw [diff_objects hne, Option.ite_none_left_eq_some] at h
    exact .inr ⟨defaults, rfl, h.1, (Option.some.inj h.2).symm⟩
  · have hleaf := not_exists.mp hobject
    rw [diff_object hne hleaf] at h
    exact .inl ⟨hleaf, (Option.some.inj h).symm⟩

theorem diff_leaf_eq_some (hleaf : ∀ fields, value ≠ .object fields)
    (h : diff default value = some part) : value ≠ default ∧ part = value := by
  rw [diff_leaf hleaf, Option.ite_none_left_eq_some] at h
  exact ⟨h.1, (Option.some.inj h.2).symm⟩

theorem lookup_diffFields_eq_some {defaults fields : List (String × Json)} {key : String} {found : Json}
    (hsorted : Sorted fields) (h : (diffFields defaults fields).lookup key = some found) :
    ∃ child, fields.lookup key = some child ∧ (defaults.lookup key = none ∧ found = child ∨
      ∃ default, defaults.lookup key = some default ∧ diff default child = some found) := by
  rw [lookup_diffFields hsorted.nodup] at h
  obtain ⟨child, hchild, h⟩ := Option.bind_eq_some_iff.mp h
  refine ⟨child, hchild, ?_⟩
  cases hdefault : defaults.lookup key with
  | none =>
    rw [hdefault] at h
    exact .inl ⟨rfl, (Option.some.inj h).symm⟩
  | some default =>
    rw [hdefault] at h
    exact .inr ⟨default, rfl, h⟩

theorem diff_ne (h : Ordered value) (hdiff : diff default value = some part) : part ≠ default := by
  induction h generalizing default part with
  | leaf h =>
    obtain ⟨hne, rfl⟩ := diff_leaf_eq_some h hdiff
    exact hne
  | @object fields hsorted hchildren ih =>
    obtain ⟨hleaf, rfl⟩ | ⟨defaults, rfl, hsome, rfl⟩ := diff_object_eq_some hdiff
    · exact fun heq => hleaf fields heq.symm
    · intro heq
      obtain ⟨⟨key, found⟩, hmem⟩ := List.exists_mem_of_ne_nil _ hsome
      have hfound := lookup_of_mem (sorted_diffFields hsorted).nodup hmem
      obtain ⟨child, hchild, hcase⟩ := lookup_diffFields_eq_some hsorted hfound
      rw [object.inj heq] at hfound
      obtain ⟨hnone, _⟩ | ⟨default, hdefault, hpart⟩ := hcase
      · cases hnone.symm.trans hfound
      · cases hdefault.symm.trans hfound
        exact ih key child hchild hpart rfl

/-- What a value has beside another one is nowhere what the other one has. -/
theorem diff_at (h : Ordered value) (hdiff : diff default value = some part) {path : List String}
    {found : Json} (hfound : at_ path part = some found) : at_ path default ≠ some found := by
  induction h generalizing default part path with
  | leaf h =>
    obtain ⟨hne, rfl⟩ := diff_leaf_eq_some h hdiff
    cases path with
    | nil =>
      cases hfound
      exact fun heq => hne (Option.some.inj heq).symm
    | cons key path =>
      rw [at_leaf h] at hfound
      cases hfound
  | @object fields hsorted hchildren ih =>
    cases path with
    | nil =>
      cases hfound
      exact fun heq => diff_ne (.object hsorted hchildren) hdiff (Option.some.inj heq).symm
    | cons key path =>
      obtain ⟨hleaf, rfl⟩ | ⟨defaults, rfl, _, rfl⟩ := diff_object_eq_some hdiff
      · rw [at_leaf hleaf]
        exact fun heq => nomatch heq
      · obtain ⟨held, hheld, hfound⟩ := Option.bind_eq_some_iff.mp hfound
        obtain ⟨child, hchild, ⟨hnone, _⟩ | ⟨default, hdefault, hpart⟩⟩ :=
          lookup_diffFields_eq_some hsorted hheld
        · rw [at_, hnone]
          exact fun heq => nomatch heq
        · rw [at_, hdefault]
          exact ih key child hchild hpart hfound

/-- What a value has beside another one is all of what it has. -/
theorem diff_diff (h : Ordered value) (hdiff : diff default value = some part) :
    diff default part = some part := by
  induction h generalizing default part with
  | leaf h =>
    obtain ⟨_, rfl⟩ := diff_leaf_eq_some h hdiff
    exact hdiff
  | @object fields hsorted hchildren ih =>
    have hne := diff_ne (.object hsorted hchildren) hdiff
    obtain ⟨_, rfl⟩ | ⟨defaults, rfl, hsome, rfl⟩ := diff_object_eq_some hdiff
    · exact hdiff
    · have hpart : Sorted (diffFields defaults fields) := sorted_diffFields hsorted
      have hsame : diffFields defaults (diffFields defaults fields) = diffFields defaults fields := by
        refine (sorted_diffFields hpart).ext hpart fun key => ?_
        rw [lookup_diffFields hpart.nodup]
        cases hfound : (diffFields defaults fields).lookup key with
        | none => rfl
        | some found =>
          obtain ⟨child, hchild, ⟨hnone, _⟩ | ⟨default, hdefault, hdiff⟩⟩ :=
            lookup_diffFields_eq_some hsorted hfound
          · rw [Option.bind_some, hnone]
            rfl
          · rw [Option.bind_some, hdefault]
            exact ih key child hchild hdiff
      rw [diff_objects hne, hsame, if_neg hsome]

end Restoring
end Json
