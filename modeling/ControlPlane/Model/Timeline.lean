import ControlPlane.Framework.Component
import ControlPlane.Model.Statements

/-!
# The transactions under a running clock

In `Model.Statements` a transaction has one reading of the database clock. Here the clock runs
while transactions are open. The count of `check_backlog` reads it when it runs, and the
inserts of `propose` and the update of a requeued job read it after that; the other
transactions come with the readings they make, whatever these are. The clock of the
application, which `approve` reads, is one of these.

`Timeline` runs the transactions of any number of clients at once, one statement a step, and
lets time pass between any two of them. A client can stop at any point.
-/

namespace ControlPlane

open Framework

/-- The database, and what its clock shows. -/
structure Moment where
  db : Db
  clock : Time

namespace Moment

/-- The database in a moment. -/
def data : Component Moment Db where
  get := Moment.db
  set m db := { m with db := db }
  get_set _ _ := rfl
  set_get _ := rfl
  set_set _ _ _ := rfl

instance : Counter Moment where
  advance := data.modify Sequence.advance
  value m := m.db.supply
  value_advance _ := rfl

end Moment

/-- A transaction that reads the clock of the database statement by statement. -/
abbrev Timed : Type := Script Moment Resource Answer

namespace Timed

/-! ### Statements -/

/-- What follows reads no clock. -/
def ofTransaction (transaction : Transaction) : Timed := transaction.within Moment.data

/-- `SELECT cp.execution_open()`. -/
def executionOpen (next : Bool → Timed) : Timed :=
  .select (fun _ => some (.gate, .shared)) fun m => next m.db.executionOpen

/-- `SELECT .. FOR UPDATE` of a row, or an advisory lock. -/
def lock (resource : Resource) (next : Db → Timed) : Timed :=
  .select (fun _ => some (resource, .exclusive)) fun m => next m.db

def read (next : Moment → Timed) : Timed := .select (fun _ => none) next

/-! ### `capacity.py` -/

/-- `check_backlog`, which counts at the time of its own statement. -/
def checkBacklog (name : String) (route : Destination) (next : Timed) : Timed :=
  lock (.backlog name) fun _ => read fun m =>
  if route.backlogLimit ≤ Capacity.backlog m.db m.clock name then .rollback .raised else next

/-- `admission`, for the owner of the customer. -/
def admission (owner : Option String) (next : Option String → Timed) : Timed :=
  read fun m =>
  if m.db.destinations.entries.isEmpty then next none
  else read fun m =>
    match owner.bind fun owner => m.db.destinationRoutes.lookup owner with
    | none => .rollback .raised
    | some name =>
      match m.db.destinations.lookup name with
      | none => .rollback .raised
      | some route => checkBacklog name route (next (some name))

/-- `readmission`, for a job that was admitted before. -/
def readmission (key : Uuid) (next : Timed) : Timed :=
  read fun m =>
  match m.db.jobRoutes.lookup key with
  | none => next
  | some name =>
    match m.db.destinations.lookup name with
    | none => next
    | some route => checkBacklog name route next

/-! ### `service.py` -/

/-- `propose`, with the clock read by each statement. -/
def propose (actor : Actor) (command : Contract.Proposal) : Timed :=
  executionOpen fun isOpen =>
  if isOpen = false then .commit .done
  else lock (.customer command.customerId) fun db =>
    match db.customers.lookup command.customerId with
    | none => .rollback .raised
    | some row =>
      lock (.request command.requestId) fun _ => read fun m =>
      match m.db.proposals.lookup command.requestId with
      | some previous =>
        if previous.hash ≠ digest command ∨ previous.actor ≠ actor then
          ofTransaction <| modify (fun db => (db.exception m.clock .proposalIdempotencyConflict
            (.id command.requestId) (.proposalConflict actor)).audit m.clock actor
              (.id command.requestId) .proposalConflict) (.commit .done)
        else .commit .done
      | none =>
        let decision := actionDecision command.action row.state row.revision
          command.expectedRevision
        let admitted := fun destination => read fun m => ofTransaction <|
          Service.enqueueScript m.clock actor command row decision destination
        if decision.1 ≠ .deny then admission row.state.owner admitted else admitted none

/-- The requeue branch of `resolve`, up to the update of the exception. -/
def requeue (row : ExceptionRow) (next : Time → Transaction) : Timed :=
  if row.category ≠ .retryExhausted ∧ row.category ≠ .remoteRejected then .rollback .raised
  else
    match row.subject with
    | .text _ | .exception _ => .rollback .raised
    | .id key =>
      lock (.job key) fun db =>
      match db.jobs.lookup key with
      | none => .rollback .raised
      | some job =>
        if job.status ≠ .dead then .rollback .raised
        else readmission key <| read fun m => ofTransaction <|
          modify (Db.updateJob key (Service.requeued m.clock)) (next m.clock)

/-- `resolve`, with the clock read by each statement. -/
def resolve (actor : Actor) (id : ℕ) (command : Contract.Resolution) : Timed :=
  lock (.exception id) fun db =>
  match Service.exceptionRow db id with
  | none => .rollback .raised
  | some row =>
    if row.status ≠ .opened then .rollback .raised
    else
      let close := fun (status : ExceptionStatus) (now : Time) =>
        modify (Service.closeException id row status) <|
        modify (fun db => db.audit now actor (.exception id) (.exceptionResolution command)) <|
        .commit .done
      match command.disposition with
      | .acknowledge => read fun m => ofTransaction (close .acknowledged m.clock)
      | .requeue => requeue row (close .requeued)

end Timed

/-- The statements of a transaction; `now` is what the clock reads in one that has no use for
a later reading. -/
def Tx.timed (now : Time) : Tx → Timed
  | .propose actor command => Timed.propose actor command
  | .resolve actor id command => Timed.resolve actor id command
  | tx => .ofTransaction (tx.script now)

/-! ### The machine -/

/-- Clients that run transactions on one database, under one clock. -/
structure Timeline where
  engine : Engine Moment Resource ℕ Answer

namespace Timeline

/-- No client has started. -/
def initial (db : Db) (clock : Time) : Timeline := ⟨.initial ⟨db, clock⟩⟩

/-- The database and the clock as they are. -/
def moment (t : Timeline) : Moment := t.engine.state

/-- What can happen next. -/
inductive Action
  | start (client : ℕ) (now : Time) (tx : Tx)
  | statement (client : ℕ)
  /-- A crash, a lost connection, a deadlock or a timeout. -/
  | abort (client : ℕ)
  /-- Time passes. -/
  | pass (duration : ℕ)

/-- The clock moves only while time passes. -/
def step (t : Timeline) : Action → Timeline
  | .start n now tx => ⟨t.engine.start n (tx.timed now)⟩
  | .statement n => ⟨t.engine.statement n⟩
  | .abort n => ⟨t.engine.abort n⟩
  | .pass duration =>
    ⟨{ t.engine with state := { t.moment with clock := t.moment.clock + duration } }⟩

/-- Several actions, one after the other. -/
abbrev run (t : Timeline) (actions : List Action) : Timeline := Framework.run step t actions

end Timeline
end ControlPlane
