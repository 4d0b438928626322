import Mathlib.Data.List.Dedup
import Mathlib.Data.Rat.Defs

/-!
# JSON values

`Json τ` is a decoded document whose strings and member names are of the type `τ`. Integers
and other numbers are kept apart, as a decoder that has both types does. The readers below
are those of a dynamically typed client: `member` is a subscript, which fails where there is
no such member, `truthy` is a test on a value, and `same` is equality as the client sees it.
-/

namespace Framework

/-- A value of JSON, whose strings and keys are of any type. -/
inductive Json (τ : Type)
  | null
  | bool (value : Bool)
  | integer (value : ℤ)
  | decimal (value : ℚ)
  | string (value : τ)
  | array (items : List (Json τ))
  | object (members : List (τ × Json τ))

namespace Json

variable {τ : Type} [DecidableEq τ]

mutual

/-- Equality of values is decidable. -/
protected def decEq : (a b : Json τ) → Decidable (a = b)
  | .null, b => match b with
    | .null => isTrue rfl
    | .bool _ | .integer _ | .decimal _ | .string _ | .array _ | .object _ => isFalse nofun
  | .bool v, b => match b with
    | .bool w => decidable_of_iff (v = w) (by simp)
    | .null | .integer _ | .decimal _ | .string _ | .array _ | .object _ => isFalse nofun
  | .integer v, b => match b with
    | .integer w => decidable_of_iff (v = w) (by simp)
    | .null | .bool _ | .decimal _ | .string _ | .array _ | .object _ => isFalse nofun
  | .decimal v, b => match b with
    | .decimal w => decidable_of_iff (v = w) (by simp)
    | .null | .bool _ | .integer _ | .string _ | .array _ | .object _ => isFalse nofun
  | .string v, b => match b with
    | .string w => decidable_of_iff (v = w) (by simp)
    | .null | .bool _ | .integer _ | .decimal _ | .array _ | .object _ => isFalse nofun
  | .array v, b => match b with
    | .array w =>
      have := Json.decEqItems v w
      decidable_of_iff (v = w) (by simp)
    | .null | .bool _ | .integer _ | .decimal _ | .string _ | .object _ => isFalse nofun
  | .object v, b => match b with
    | .object w =>
      have := Json.decEqMembers v w
      decidable_of_iff (v = w) (by simp)
    | .null | .bool _ | .integer _ | .decimal _ | .string _ | .array _ => isFalse nofun

/-- Equality of arrays is decidable. -/
protected def decEqItems : (a b : List (Json τ)) → Decidable (a = b)
  | [], [] => isTrue rfl
  | [], _ :: _ | _ :: _, [] => isFalse nofun
  | v :: a, w :: b =>
    have := Json.decEq v w
    have := Json.decEqItems a b
    decidable_of_iff (v = w ∧ a = b) (by simp)

/-- Equality of objects is decidable. -/
protected def decEqMembers : (a b : List (τ × Json τ)) → Decidable (a = b)
  | [], [] => isTrue rfl
  | [], _ :: _ | _ :: _, [] => isFalse nofun
  | (k, v) :: a, (l, w) :: b =>
    have := Json.decEq v w
    have := Json.decEqMembers a b
    decidable_of_iff ((k = l ∧ v = w) ∧ a = b) (by simp)

end

instance : DecidableEq (Json τ) := Json.decEq

/-- The member of a name; only an object has one. -/
def member (name : τ) : Json τ → Option (Json τ)
  | .object members => members.lookup name
  | _ => none

/-- The keys of an object, each of them once. -/
def keys : Json τ → List τ
  | .object members => (members.map Prod.fst).dedup
  | _ => []

/-- No key is listed twice. -/
theorem nodup_keys (value : Json τ) : value.keys.Nodup := by
  unfold keys
  split
  · exact List.nodup_dedup _
  · exact List.nodup_nil

/-- The number a value counts as; a truth value counts as 0 or 1. -/
def numeric : Json τ → Option ℚ
  | .bool value => some (if value then 1 else 0)
  | .integer value => some value
  | .decimal value => some value
  | _ => none

/-- Whether a test on the value takes its first branch; `empty` is the empty string. -/
def truthy (empty : τ) : Json τ → Bool
  | .null => false
  | .string value => value ≠ empty
  | .array items => !items.isEmpty
  | .object members => !members.isEmpty
  | value => value.numeric ≠ some 0

/-- The value equals the integer. -/
def equalsInteger (n : ℤ) (value : Json τ) : Bool := value.numeric = some (n : ℚ)

mutual

/-- Equality of decoded values: numbers by value, objects without regard to the order of
their members. -/
def same : Json τ → Json τ → Bool
  | .null, .null => true
  | .string v, .string w => v = w
  | .array v, .array w => sameItems v w
  | .object v, .object w => v.length = w.length && sameMembers v w
  | v, w => v.numeric.isSome && v.numeric = w.numeric

/-- Item by item. -/
def sameItems : List (Json τ) → List (Json τ) → Bool
  | [], [] => true
  | v :: a, w :: b => same v w && sameItems a b
  | _, _ => false

/-- Every member of the first has an equal one in the second. -/
def sameMembers : List (τ × Json τ) → List (τ × Json τ) → Bool
  | [], _ => true
  | (k, v) :: a, b =>
    (match b.lookup k with
      | some w => same v w
      | none => false) && sameMembers a b

end

/-- A string equals itself. -/
theorem same_string (v : τ) : (string v).same (string v) = true :=
  (decide_eq_true rfl : decide (v = v) = true)

end Json
end Framework
