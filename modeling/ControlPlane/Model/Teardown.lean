import ControlPlane.Framework.Json

/-!
# The check of a destroy plan

`teardown.py`: `validate_plan` compares a Terraform plan, as `terraform show -json` prints it,
with the approved inventory. Both are decoded JSON documents of any shape; a missing key or a
value of another type raises, as everything else that is not approved, and `none` stands for
any exception.
-/

namespace ControlPlane.Teardown

open Framework

/-- A document of strings. -/
abbrev Document : Type := Json String

def text (s : String) : Document := .string s

/-- `change["change"]["actions"]` -/
def actions (change : Document) : Option Document := do
  let inner ← change.member "change"
  inner.member "actions"

/-- `(change["change"].get("before") or {}).get("id")`, which is null where there is none. -/
def priorId (change : Document) : Option Document := do
  let inner ← change.member "change"
  let before := (inner.member "before").getD .null
  if before.truthy "" then
    match before with
    | .object _ => some ((before.member "id").getD .null)
    | _ => none
  else some .null

/-- The address of a change that deletes what the inventory approves for it. -/
def approvedAddress (expected change : Document) : Option String := do
  -- an address that is not a string is no key of the inventory, or cannot be one
  let .string address ← change.member "address" | none
  let id ← priorId change
  let approved ← expected.member address
  let approvedId ← approved.member "id"
  let type ← change.member "type"
  let approvedType ← approved.member "type"
  if id.same approvedId && type.same approvedType then some address else none

/-- One turn of the loop: the change is skipped, or its address is added to `seen`. -/
def validateChange (expected : Document) (seen : List String) (change : Document) :
    Option (List String) :=
  if change.member "mode" = some (text "data") then some seen
  else if actions change = some (.array [text "no-op"]) then some seen
  else if actions change = some (.array [text "delete"]) then do
    let address ← approvedAddress expected change
    if address ∈ seen then none else some (address :: seen)
  else none

def validateChanges (expected : Document) : List String → List Document → Option (List String)
  | seen, [] => some seen
  | seen, change :: changes => do
    validateChanges expected (← validateChange expected seen change) changes

/-- `plan.get("resource_changes", [])`. Whatever is not a list lists no change or raises. -/
def resourceChanges (plan : Document) : List Document :=
  match plan.member "resource_changes" with
  | some (.array changes) => changes
  | _ => []

/-- `validate_plan(plan, inventory)` -/
def validatePlan (plan inventory : Document) : Option ℕ := do
  guard (inventory.member "environment" = some (text "stage") ∧
    inventory.member "region" = some (text "ca-central-1"))
  guard (inventory.member "disposition" = some (text "discard_isolated_synthetic_state"))
  let expected ← inventory.member "resources"
  -- what is not a dictionary has no key that a change could delete
  guard (expected.keys ≠ [] ∧ expected.keys.length ≤ 300)
  let seen ← validateChanges expected [] (resourceChanges plan)
  guard ((∀ address ∈ seen, address ∈ expected.keys) ∧ ∀ address ∈ expected.keys, address ∈ seen)
  guard (((plan.member "errored").getD .null).truthy "" = false ∧
    plan.member "complete" ≠ some (.bool false))
  return seen.length

end ControlPlane.Teardown
