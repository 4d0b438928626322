import ControlPlane.Framework.Page
import ControlPlane.Framework.Run
import ControlPlane.Model.Schema
import Mathlib.Logic.Function.Basic

/-!
# Reading exceptions and audit records

`GET /exceptions` and `GET /audit` with `after`, `db.exception` and `db.audit`, row by row. An
`INSERT` takes its id from the sequence of its table at once, whatever becomes of the
transaction; the row is seen by others once the transaction has committed. Transactions are
open side by side, each on its own connection, and insert any records in any order. The
operator passes as `after` the largest id received so far from the endpoint.

The rest of the model takes the rows in the order of their commits and counts them for their
ids; here the ids are those of the sequences.
-/

namespace ControlPlane

open Framework

/-- The two lists that are read page by page. -/
inductive Endpoint
  | exceptions | audit
deriving DecidableEq

/-- A row of `cp.exceptions` or of `cp.audit`. -/
inductive Record
  | exception (row : ExceptionRow)
  | audit (row : AuditRow)
deriving DecidableEq

/-- The endpoint that serves the record. -/
def Record.endpoint : Record → Endpoint
  | exception _ => .exceptions
  | audit _ => .audit

/-- The rows of the two tables, and what the operator has asked for. -/
structure Feed where
  /-- The last value of the identity sequence of each table. -/
  sequence : Endpoint → ℕ
  /-- The rows that are committed, with their ids. -/
  committed : List (ℕ × Record)
  /-- The rows that the open transaction of a connection has inserted. -/
  pending : ℕ → List (ℕ × Record)
  /-- The `after` of the operator's next read. -/
  cursor : Endpoint → ℕ
  /-- The rows that the operator has received. -/
  returned : List (ℕ × Record)

namespace Feed

/-- Empty tables, and an operator who has read nothing. -/
def initial : Feed := ⟨fun _ => 0, [], fun _ => [], fun _ => 0, []⟩

/-- The committed rows of one table. -/
def table (feed : Feed) (endpoint : Endpoint) : List (ℕ × Record) :=
  feed.committed.filter (·.2.endpoint = endpoint)

/-- `LIMIT 100`. -/
def limit : ℕ := 100

/-- What the endpoint answers to the operator. -/
def answer (feed : Feed) (endpoint : Endpoint) : List (ℕ × Record) :=
  page limit (feed.cursor endpoint) (feed.table endpoint)

/-- What can happen next. -/
inductive Action
  | insert (connection : ℕ) (record : Record)
  | commit (connection : ℕ)
  | abort (connection : ℕ)
  | read (endpoint : Endpoint)

/-- A row gets its id when it is inserted, and is visible once it is committed. -/
def step (feed : Feed) : Action → Feed
  | .insert connection record =>
    -- a sequence moves on at once, and is not rolled back
    let id := feed.sequence record.endpoint + 1
    { feed with
      sequence := Function.update feed.sequence record.endpoint id
      pending := Function.update feed.pending connection
        (feed.pending connection ++ [(id, record)]) }
  -- the rows become visible together, whatever their ids
  | .commit connection =>
    { feed with
      committed := feed.committed ++ feed.pending connection
      pending := Function.update feed.pending connection [] }
  | .abort connection => { feed with pending := Function.update feed.pending connection [] }
  | .read endpoint =>
    { feed with
      -- `after` is the last id of the page
      cursor := Function.update feed.cursor endpoint
        (advance (feed.cursor endpoint) (feed.answer endpoint))
      returned := feed.returned ++ feed.answer endpoint }

/-- Several actions, one after the other. -/
abbrev run (feed : Feed) (actions : List Action) : Feed := Framework.run step feed actions

/-- Whether the action is a read of the endpoint. -/
def Action.reads (endpoint : Endpoint) : Action → Bool
  | .read endpoint' => endpoint' = endpoint
  | _ => false

end Feed
end ControlPlane
