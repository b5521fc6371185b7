import Mathlib.Tactic.Common


/-- A JSON value; a number is a natural one. -/
inductive Json
  | null
  | bool (value : Bool)
  | number (value : Nat)
  | string (value : String)
  | array (items : List Json)
  | object (fields : List (String × Json))

/-- A type whose values are told apart by their JSON. -/
class ToJson (α : Type) where
  toJson : α → Json
  injective : Function.Injective toJson

/-- A type none of whose values is written as `null`. -/
class NeverNull (α : Type) [ToJson α] : Prop where
  ne_null (value : α) : ToJson.toJson value ≠ .null

namespace Json
variable {α : Type}

mutual
def decEq (left right : Json) : Decidable (left = right) :=
  if h : left.ctorIdx = right.ctorIdx then
    match left, right, h with
    | .null, .null, _ => .isTrue rfl
    | .bool left, .bool right, _ => decidable_of_iff (left = right) (by rw [bool.injEq])
    | .number left, .number right, _ => decidable_of_iff (left = right) (by rw [number.injEq])
    | .string left, .string right, _ => decidable_of_iff (left = right) (by rw [string.injEq])
    | .array left, .array right, _ =>
      have := decEqItems left right
      decidable_of_iff (left = right) (by rw [array.injEq])
    | .object left, .object right, _ =>
      have := decEqFields left right
      decidable_of_iff (left = right) (by rw [object.injEq])
  else .isFalse fun heq => h (congrArg Json.ctorIdx heq)

def decEqItems (left right : List Json) : Decidable (left = right) :=
  match left, right with
  | [], [] => .isTrue rfl
  | [], _ :: _ => .isFalse nofun
  | _ :: _, [] => .isFalse nofun
  | item :: left, other :: right =>
    have := decEq item other
    have := decEqItems left right
    decidable_of_iff (item = other ∧ left = right) (by rw [List.cons.injEq])

def decEqFields (left right : List (String × Json)) : Decidable (left = right) :=
  match left, right with
  | [], [] => .isTrue rfl
  | [], _ :: _ => .isFalse nofun
  | _ :: _, [] => .isFalse nofun
  | (name, value) :: left, (name', value') :: right =>
    have := decEq value value'
    have := decEqFields left right
    decidable_of_iff ((name = name' ∧ value = value') ∧ left = right)
      (by rw [List.cons.injEq, Prod.mk.injEq])
end

instance : DecidableEq Json := decEq

instance : ToJson Bool where
  toJson := .bool
  injective _ _ h := Json.bool.inj h

instance : ToJson String where
  toJson := .string
  injective _ _ h := Json.string.inj h

instance : ToJson UInt8 where
  toJson value := .number value.toNat
  injective _ _ h := UInt8.toNat.inj (Json.number.inj h)

instance : NeverNull String where
  ne_null _ h := nomatch h

instance : NeverNull UInt8 where
  ne_null _ h := nomatch h

/-- An absent value is `null`. -/
def ofOption [ToJson α] : Option α → Json
  | none => .null
  | some value => ToJson.toJson value

theorem ofOption_injective [ToJson α] [NeverNull α] :
    Function.Injective (ofOption : Option α → Json) := by
  intro left right h
  cases left with
  | none =>
    cases right with
    | none => rfl
    | some value => exact (NeverNull.ne_null value h.symm).elim
  | some value =>
    cases right with
    | none => exact (NeverNull.ne_null value h).elim
    | some other => exact congrArg some (ToJson.injective h)

instance [ToJson α] [NeverNull α] : ToJson (Option α) where
  toJson := ofOption
  injective := ofOption_injective

def ofList [ToJson α] (items : List α) : Json := .array (items.map ToJson.toJson)

theorem ofList_injective [ToJson α] : Function.Injective (ofList : List α → Json) := by
  intro left right h
  exact (List.map_inj_right fun _ _ heq => ToJson.injective heq).mp (Json.array.inj h)

instance [ToJson α] : ToJson (List α) where
  toJson := ofList
  injective := ofList_injective

@[simp] theorem toJson_inj [ToJson α] {left right : α} :
    ToJson.toJson left = ToJson.toJson right ↔ left = right :=
  ToJson.injective.eq_iff

end Json
