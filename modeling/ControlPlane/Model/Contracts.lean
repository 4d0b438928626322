import ControlPlane.Model.Schema

/-!
# The contract of a source event

`SourceEvent` and `Attributes` of `contracts.py`: which JSON bodies are source events, and what
the validation reports about the others. Unknown members are forbidden, strings are stripped,
and an attribute that is given must not be null.

`casefold` is `str.casefold`, a table of Unicode; nothing below depends on what is in it.
-/

namespace ControlPlane.Contract

open Framework

/-! ### Patterns -/

/-- `^[A-Za-z0-9_.:-]+$` -/
def identifierPattern (s : List Char) : Bool :=
  s ≠ [] && s.all fun c => c.isAlphanum || c ∈ ['_', '.', ':', '-']

/-- `^[^\s@]+@[^\s@]+\.[^\s@]+$`: one `@`, and a dot inside what comes after it. -/
def emailPattern (s : List Char) : Bool :=
  s.all (!isSpace ·) &&
    match s.splitOn '@' with
    | [name, domain] => name ≠ [] && '.' ∈ domain.tail.dropLast
    | _ => false

/-- `^\+[1-9][0-9]{7,14}$` -/
def phonePattern : List Char → Bool
  | '+' :: first :: rest => first.isDigit && first ≠ '0' && rest.all Char.isDigit &&
      7 ≤ rest.length && rest.length ≤ 14
  | _ => false

/-! ### `Attributes` -/

def fieldName : Field → String
  | .email => "email"
  | .phone => "phone"
  | .owner => "owner"
  | .lifecycle => "lifecycle"
  | .score => "score"
  | .consent => "consent"
  | .suppressed => "suppressed"

def stageNames : List (String × Stage) :=
  [("Lead", .lead), ("MQL", .mql), ("SQL", .sql), ("Opportunity", .opportunity),
    ("Customer", .customer)]

/-- `normalize_email` -/
def normalizeEmail (casefold : String → String) (value : String) : String :=
  if value = "" then value else casefold value

/-- The check of an attribute that is not null. -/
def checkField (casefold : String → String) : (field : Field) → Check field.Value
  | .email => fun value =>
    (Check.string none (some 254) emailPattern value).map (normalizeEmail casefold)
  | .phone => Check.string none none phonePattern
  | .owner => Check.string (some 1) (some 64) fun _ => true
  | .lifecycle => Check.oneOf stageNames
  | .score => Check.integer 0 (some 100)
  | .consent | .suppressed => Check.boolean

/-- The member of a field, if there is one. -/
def supplied (casefold : String → String) (members : List (Text × Json Text)) (field : Field) :
    Option (Except String (Option field.Value)) :=
  (members.lookup (Text.ofString (fieldName field))).map
    (Check.nullable (checkField casefold field))

/-- The fields whose members break their checks. -/
def wrongFields (casefold : String → String) (members : List (Text × Json Text)) :
    List Violation :=
  Field.all.filterMap fun field =>
    match supplied casefold members field with
    | some (.error type) => some ⟨[fieldName field], type⟩
    | _ => none

/-- `explicit_values`: some attribute is supplied, and none of them is null. -/
def explicitValues (casefold : String → String) (members : List (Text × Json Text)) : Bool :=
  (Field.all.any fun field => (supplied casefold members field).isSome) &&
    Field.all.all fun field =>
      match supplied casefold members field with
      | some (.ok none) => false
      | _ => true

/-- The value of a member that passes its check. -/
def value (casefold : String → String) (members : List (Text × Json Text)) (field : Field) :
    Option field.Value :=
  match supplied casefold members field with
  | some (.ok value) => value
  | _ => none

def attributes (casefold : String → String) : Json Text → Checked (FieldMap Field.Value)
  | .object members =>
    match Checked.closed (Field.all.map fieldName) members (wrongFields casefold members) with
    | [] =>
      if explicitValues casefold members then .ok (.tabulate (value casefold members))
      else .error [⟨[], "value_error"⟩]
    | found => .error found
  | _ => .error [⟨[], "model_attributes_type"⟩]

/-! ### `SourceEvent` -/

/-- `event_id` and `subject` -/
def identifier : Check String := Check.string (some 1) (some 100) identifierPattern

def sourceEvent (casefold : String → String) : Json Text → Checked SourceEvent
  | .object members =>
    let eventId := Checked.required "event_id" (Check.single identifier) members
    let subject := Checked.required "subject" (Check.single identifier) members
    let sequence := Checked.required "sequence" (Check.single (Check.integer 1 none)) members
    let attributes := Checked.required "attributes" (attributes casefold) members
    let found := eventId.violations ++ subject.violations ++ sequence.violations ++
      attributes.violations
    match Checked.closed ["event_id", "subject", "sequence", "attributes"] members found,
      eventId, subject, sequence, attributes with
    | [], .ok eventId, .ok subject, .ok sequence, .ok attributes =>
      .ok ⟨eventId, subject, sequence, attributes⟩
    | found, _, _, _, _ => .error found
  | _ => .error [⟨[], "model_attributes_type"⟩]

/-- The body parameter of `POST /events`. -/
def body (casefold : String → String) : Json Text → Checked SourceEvent
  | .null => .error [⟨["body"], "missing"⟩]
  | document => (sourceEvent casefold document).mapError (·.map (Violation.under "body"))

end ControlPlane.Contract
