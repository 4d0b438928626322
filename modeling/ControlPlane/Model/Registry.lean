import ControlPlane.Framework.Json
import ControlPlane.Framework.Table

/-!
# The resource registry

`inventory/registry.json`: the list of everything that the controller and the cleanup have seen
of a run. Its writers read it into a dictionary under `(kind, id)` and write the values back.
-/

namespace ControlPlane.Registry

open Framework

/-- The members of a row but `kind` and `id`. -/
abbrev Fields : Type := List (String × Json String)

structure Entry where
  kind : String
  id : String
  fields : Fields
deriving DecidableEq

/-- `row.get(name)` -/
def Entry.get (entry : Entry) (name : String) : Option (Json String) := entry.fields.lookup name

/-- Equality of dictionaries. -/
def Entry.same (a b : Entry) : Bool :=
  a.kind = b.kind && a.id = b.id && (Json.object a.fields).same (.object b.fields)

/-- The rows under `(kind, id)`. -/
abbrev Rows : Type := Table (String × String) Fields

/-- `merged[(row["kind"], row["id"])] = row` -/
def put (merged : Rows) (row : Entry) : Rows := merged.insert (row.kind, row.id) row.fields

/-- `{(r["kind"], r["id"]): r for r in rows}` -/
def keyed (rows : List Entry) : Rows := rows.foldl put ∅

/-- `list(merged.values())` -/
def values (merged : Rows) : List Entry :=
  merged.entries.map fun entry => ⟨entry.1.1, entry.1.2, entry.2⟩

/-- `{**previous, **fields}`, without regard to the order. -/
def overwrite (previous fields : Fields) : Fields :=
  fields ++ previous.filter fun member => (fields.lookup member.1).isNone

/-- The owner secret of a database, as `remember` records it. -/
def managedSecret (arn resource : String) : Entry :=
  ⟨"secret", arn, [("managed", .bool true), ("database_resource_id", .string resource)]⟩

/-- One turn of the loop in `register`; a physical identity that changed raises. -/
def registerRow (merged : Rows) (row : Entry) : Option Rows :=
  match merged.lookup (row.kind, row.id) with
  | none => some (put merged row)
  | some previous =>
    if row.kind = "database" &&
        previous.lookup "resource_id" ≠ row.fields.lookup "resource_id" then none
    else some (merged.insert (row.kind, row.id) (overwrite previous row.fields))

end ControlPlane.Registry
