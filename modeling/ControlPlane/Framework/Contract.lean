import ControlPlane.Framework.Json

/-!
# Closed contracts

A *contract* says which JSON documents a program accepts, and turns those into values. It is
closed: an object with a member that is not declared is rejected. Everything that is wrong with
an object is collected, as `Violation`s that say where and of what type.

A decoded string is a `Text`, which may hold unpaired surrogates; `Text.utf8` is its encoding,
if it has one. What a contract accepts, and what it quotes in a violation, has one.

* `Check.string`, `.integer`, `.boolean`, `.oneOf` and `.nullable` check a single value.
* `Checked.required` is a member that must be there, `Checked.optional` one with a default, and
  `Checked.closed` the last look at an object. `Checked.both` is a request with two documents.
-/

namespace Framework

/-! ### Results -/

section Results

variable {ε ε' α β : Type} {x : Except ε α}

/-- A result is not touched by what is done to errors. -/
theorem mapError_eq_ok {f : ε → ε'} {a : α} : x.mapError f = .ok a ↔ x = .ok a := by
  cases x <;> simp [Except.mapError]

/-- An error is that of one that was there. -/
theorem mapError_eq_error {f : ε → ε'} {e' : ε'} :
    x.mapError f = .error e' ↔ ∃ e, x = .error e ∧ f e = e' := by
  cases x <;> simp [Except.mapError]

/-- A result is that of one that was there. -/
theorem map_eq_ok {f : α → β} {b : β} : x.map f = .ok b ↔ ∃ a, x = .ok a ∧ f a = b := by
  cases x <;> simp [Except.map]

end Results

/-! ### Text -/

/-- A code point of a decoded string. -/
inductive CodePoint
  | scalar (c : Char)
  | surrogate (code : ℕ)
deriving DecidableEq

/-- A text as JSON has it, in which a surrogate may stand alone. -/
abbrev Text : Type := List CodePoint

namespace Text

/-- A text without surrogates. -/
def ofString (s : String) : Text := s.toList.map .scalar

/-- The characters of the text, unless it holds a surrogate. -/
def chars : Text → Option (List Char)
  | [] => some []
  | .scalar c :: rest => (chars rest).map (c :: ·)
  | .surrogate _ :: _ => none

/-- The text, unless it holds a surrogate. -/
def utf8 (text : Text) : Option String := text.chars.map String.ofList

end Text

/-- The Unicode property `White_Space`. -/
def isSpace (c : Char) : Bool :=
  (0x9 ≤ c.toNat && c.toNat ≤ 0xD) || (0x2000 ≤ c.toNat && c.toNat ≤ 0x200A) ||
    c.toNat ∈ [0x20, 0x85, 0xA0, 0x1680, 0x2028, 0x2029, 0x202F, 0x205F, 0x3000]

/-- Without white space at both ends. -/
def strip (s : String) : String :=
  String.ofList ((s.toList.dropWhile isSpace).reverse.dropWhile isSpace).reverse

/-! ### Violations -/

/-- Where a document breaks its contract, and how. -/
structure Violation where
  loc : List String
  type : String
deriving DecidableEq

/-- The violation as the enclosing object reports it. -/
def Violation.under (name : String) (violation : Violation) : Violation :=
  { violation with loc := name :: violation.loc }

/-- A document under a contract. -/
abbrev Checked (α : Type) : Type := Except (List Violation) α

/-! ### Values -/

/-- A check of a single value has one type of violation at most. -/
abbrev Check (α : Type) : Type := Json Text → Except String α

namespace Check

/-- A string, stripped, with bounds on its length and a pattern. -/
def string (minLength maxLength : Option ℕ) (pattern : List Char → Bool) : Check String
  | .string text =>
    match text.utf8 with
    | none => .error "string_unicode"
    | some s =>
      if maxLength.any (· < (strip s).length) then .error "string_too_long"
      else if minLength.any ((strip s).length < ·) then .error "string_too_short"
      else if pattern (strip s).toList then .ok (strip s)
      else .error "string_pattern_mismatch"
  | _ => .error "string_type"

/-- An integer that is not given as another kind of number or as a truth value. -/
def integer (least : ℕ) (most : Option ℕ) : Check ℕ
  | .integer n =>
    if most.any fun bound => (bound : ℤ) < n then .error "less_than_equal"
    else if n < least then .error "greater_than_equal"
    else .ok n.toNat
  | _ => .error "int_type"

/-- `bool` -/
def boolean : Check Bool
  | .bool value => .ok value
  | _ => .error "bool_type"

/-- One of the strings, which stand for these values. -/
def oneOf {α : Type} (values : List (String × α)) : Check α
  | .string text =>
    match text.utf8 with
    | none => .error "string_unicode"
    | some s =>
      match values.lookup s with
      | none => .error "literal_error"
      | some value => .ok value
  | _ => .error "literal_error"

/-- `T | None` -/
def nullable {α : Type} (check : Check α) : Check (Option α)
  | .null => .ok none
  | value => (check value).map some

/-- A single value as a document. -/
def single {α : Type} (check : Check α) (value : Json Text) : Checked α :=
  (check value).mapError fun type => [⟨[], type⟩]

/-- A string that is accepted matches its pattern. -/
theorem string_pattern {minLength maxLength : Option ℕ} {pattern : List Char → Bool}
    {value : Json Text} {s : String} (h : string minLength maxLength pattern value = .ok s) :
    pattern s.toList = true := by
  unfold string at h
  split at h
  case h_2 => cases h
  split at h
  · cases h
  split at h
  · cases h
  split at h
  · cases h
  split at h
  next h_pattern =>
    cases h
    exact h_pattern
  next => cases h

/-- A value that is accepted and not `null` was accepted by its check. -/
theorem nullable_eq_some {α : Type} {check : Check α} {value : Json Text} {a : α}
    (h : nullable check value = .ok (some a)) : check value = .ok a := by
  unfold nullable at h
  split at h
  · cases h
  · obtain ⟨a', h_check, h_some⟩ := map_eq_ok.mp h
    rw [h_check, Option.some.inj h_some]

/-- A single value that is accepted was accepted by its check. -/
theorem single_eq_ok {α : Type} {check : Check α} {value : Json Text} {a : α}
    (h : single check value = .ok a) : check value = .ok a := mapError_eq_ok.mp h

end Check

/-! ### Objects -/

namespace Checked

/-- What was found wrong. -/
def violations {α : Type} : Checked α → List Violation
  | .ok _ => []
  | .error found => found

/-- A violation comes from an error. -/
theorem mem_violations {α : Type} {x : Checked α} {violation : Violation} :
    violation ∈ x.violations ↔ ∃ found, x = .error found ∧ violation ∈ found := by
  cases x <;> simp [violations]

/-- A member that must be there. -/
def required {α : Type} (name : String) (check : Json Text → Checked α)
    (members : List (Text × Json Text)) : Checked α :=
  match members.lookup (Text.ofString name) with
  | none => .error [⟨[name], "missing"⟩]
  | some value => (check value).mapError (·.map (Violation.under name))

/-- A member with a default. -/
def optional {α : Type} (name : String) (check : Json Text → Checked α) (default : α)
    (members : List (Text × Json Text)) : Checked α :=
  match members.lookup (Text.ofString name) with
  | none => .ok default
  | some value => (check value).mapError (·.map (Violation.under name))

/-- Two documents of one request, whose violations are reported together. -/
def both {α β : Type} (x : Checked α) (y : Checked β) : Checked (α × β) :=
  match x, y with
  | .ok a, .ok b => .ok (a, b)
  | x, y => .error (x.violations ++ y.violations)

/-- The members that are not declared. -/
def undeclared (declared : List String) (members : List (Text × Json Text)) : List Violation :=
  (members.filter fun member => member.1 ∉ declared.map Text.ofString).filterMap fun member =>
    member.1.utf8.map fun name => ⟨[name], "extra_forbidden"⟩

/-- All violations of an object whose declared members have these. A name that cannot be
encoded ends the check, and nothing else is reported. -/
def closed (declared : List String) (members : List (Text × Json Text))
    (violations : List Violation) : List Violation :=
  if members.any fun member => member.1.utf8.isNone then [⟨[], "string_unicode"⟩]
  else violations ++ undeclared declared members

/-- A required member that is accepted is there. -/
theorem required_eq_ok {α : Type} {name : String} {check : Json Text → Checked α}
    {members : List (Text × Json Text)} {a : α} (h : required name check members = .ok a) :
    ∃ value, check value = .ok a := by
  unfold required at h
  split at h
  · cases h
  next value _ => exact ⟨value, mapError_eq_ok.mp h⟩

/-! ### What a violation quotes -/

/-- The names of an object's members, as far as they can be quoted. -/
def names : Json Text → List String
  | .object members => members.filterMap (·.1.utf8)
  | _ => []

/-- A violation of a single value is at the value itself. -/
theorem mem_single {α : Type} {check : Check α} {value : Json Text} {violation : Violation}
    (h : violation ∈ (Check.single check value).violations) : violation.loc = [] := by
  obtain ⟨found, h_single, h_mem⟩ := mem_violations.mp h
  obtain ⟨type, -, rfl⟩ := mapError_eq_error.mp h_single
  rw [List.mem_singleton.mp h_mem]

/-- A member's violation is one of its value, under its name. -/
theorem mem_required {α : Type} {name : String} {check : Json Text → Checked α}
    {members : List (Text × Json Text)} {violation : Violation}
    (h : violation ∈ (required name check members).violations) :
    violation.loc = [name] ∨ ∃ value inner, members.lookup (Text.ofString name) = some value ∧
      inner ∈ (check value).violations ∧ violation.loc = name :: inner.loc := by
  unfold required at h
  split at h
  · rw [List.mem_singleton.mp h]
    exact .inl rfl
  next value h_lookup =>
    obtain ⟨outer, h_outer, h_mem⟩ := mem_violations.mp h
    obtain ⟨found, h_found, rfl⟩ := mapError_eq_error.mp h_outer
    obtain ⟨inner, h_inner, rfl⟩ := List.mem_map.mp h_mem
    exact .inr ⟨value, inner, h_lookup, mem_violations.mpr ⟨found, h_found, h_inner⟩, rfl⟩

/-- A violation of a closed object is one that was found, or names a member that is there. -/
theorem mem_closed {declared : List String} {members : List (Text × Json Text)}
    {found : List Violation} {violation : Violation}
    (h : violation ∈ closed declared members found) :
    violation ∈ found ∨ ∀ name ∈ violation.loc, name ∈ names (.object members) := by
  unfold closed at h
  split at h
  · rw [List.mem_singleton.mp h]
    exact .inr fun name h_name => absurd h_name List.not_mem_nil
  rcases List.mem_append.mp h with h_found | h_undeclared
  · exact .inl h_found
  · refine .inr fun name h_name => ?_
    obtain ⟨member, h_member, h_quoted⟩ := List.mem_filterMap.mp h_undeclared
    obtain ⟨quoted, h_utf8, rfl⟩ := Option.map_eq_some_iff.mp h_quoted
    rw [List.mem_singleton.mp h_name]
    exact List.mem_filterMap.mpr ⟨member, (List.mem_filter.mp h_member).1, h_utf8⟩

end Checked
end Framework
