import ControlPlane.Framework.Component
import ControlPlane.Model.Statements

/-!
# The ids of the audit records

`cp.audit.id` comes from a sequence. An `INSERT` draws its id when it runs, in a transaction
that commits later than others or never, so the ids need not ascend in the order of the
commits, in which `auditLog` lists the records.

`Chronicle` runs the transactions of any number of clients at once, one statement a step, as
in `Model.Statements`, and keeps the ids. One sequence serves `uuid4` and the ids here: they
are never compared with each other, and a value that one of them uses is a gap for the other,
as a rollback leaves one.
-/

namespace ControlPlane

open Framework

/-- The database, and the ids of its audit records. -/
structure Annals where
  db : Db
  /-- The ids of the records in `db.auditLog`. -/
  ids : List ℕ

namespace Annals

/-- The database in the annals. -/
def data : Component Annals Db where
  get := Annals.db
  set a db := { a with db := db }
  get_set _ _ := rfl
  set_get _ := rfl
  set_set _ _ _ := rfl

instance : Counter Annals where
  advance := data.modify Sequence.advance
  value a := a.db.supply
  value_advance _ := rfl

/-- A write, and the id of the audit record it inserts, if it inserts one. -/
def stamp (id : ℕ) (effect : Db → Db) (a : Annals) : Annals where
  db := effect a.db
  ids := if (effect a.db).auditLog.length = a.db.auditLog.length then a.ids else a.ids ++ [id]

/-- The `source_decision` records of the customer under their ids, as they were committed. -/
def decisions (a : Annals) (customerId : Uuid) : List (ℕ × AuditRow) :=
  (a.ids.zip a.db.auditLog).filter fun entry =>
    entry.2.isDecision && entry.2.subject = .id customerId

/-- `SELECT .. FROM cp.audit WHERE kind='source_decision' AND subject=.. ORDER BY id`. -/
def history (a : Annals) (customerId : Uuid) : List AuditRow :=
  ((a.decisions customerId).mergeSort fun entry entry' => entry.1 ≤ entry'.1).map (·.2)

end Annals

/-- The statements of a transaction, with the draws of the audit ids. -/
def Tx.recorded (now : Time) (tx : Tx) : Script Annals Resource Answer :=
  (tx.script now).stamped Annals.data Annals.stamp

/-! ### The machine -/

/-- The annals, and the transactions that are open on them. -/
structure Chronicle where
  engine : Engine Annals Resource ℕ Answer

namespace Chronicle

/-- No transaction is open, and no audit id is drawn. -/
def initial (db : Db) : Chronicle := ⟨.initial ⟨db, []⟩⟩

/-- The annals as they are. -/
def annals (c : Chronicle) : Annals := c.engine.state

/-- What a client does. -/
inductive Action
  | start (client : ℕ) (now : Time) (tx : Tx)
  | statement (client : ℕ)
  /-- A crash, a lost connection, a deadlock or a timeout. -/
  | abort (client : ℕ)

/-- One client starts a transaction, runs a statement of it or gives it up. -/
def step (c : Chronicle) : Action → Chronicle
  | .start n now tx => ⟨c.engine.start n (tx.recorded now)⟩
  | .statement n => ⟨c.engine.statement n⟩
  | .abort n => ⟨c.engine.abort n⟩

/-- Several actions, one after the other. -/
abbrev run (c : Chronicle) (actions : List Action) : Chronicle := Framework.run step c actions

end Chronicle
end ControlPlane
