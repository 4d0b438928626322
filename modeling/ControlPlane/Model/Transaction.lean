import ControlPlane.Framework.Run
import ControlPlane.Model.Recovery
import ControlPlane.Model.Worker

/-!
# Transactions and runs of the control database

Every access of the program to the control database is one of the transactions of `Tx`, but
for the report of a body that breaks its contract, which `Model.Api` adds to them.
PostgreSQL serialises the transactions that touch a common row (the customer, proposal,
job, exception and gate rows are all locked before they are written, and the identity
discovery and the request ids by advisory locks), so an interleaving is the list of the
transactions in the order of their commits: an `Entry` is a transaction with the reading
of the database clock in it, `Db.step` commits it, and `Db.run` is a whole run.

The lock protocol itself is the subject of `Locking`.
-/

namespace ControlPlane

open Framework

/-- The transactions of the control plane and of the recovery coordinator. The process
clock is read inside some of them; those readings are arguments. -/
inductive Tx
  | ingest (source : Source) (event : SourceEvent)
  | link (actor : Actor) (command : Contract.Link)
  | propose (actor : Actor) (command : Contract.Proposal)
  | approve (utc utc' : Time) (actor : Actor) (id : Uuid) (command : Contract.Approval)
  | resolve (actor : Actor) (id : ℕ) (command : Contract.Resolution)
  | claim (leaseSeconds : ℤ) (locked : List Uuid)
  | prepare (utc : Time) (id : Uuid) (token : Option Uuid)
  | finish (jitter : Time) (id : Uuid) (token : Option Uuid) (verdict : Worker.Verdict)
  | defer (id : Uuid) (token : Option Uuid) (attempted : Bool)
  | acquire (name : String) (route : Destination) (kind : RequestKind)
  | release (name : String) (token : Uuid) (failed : Bool) (cooldown : ℕ)
  | begin (coordinator : Recovery.Coordinator)
  | verify (coordinator : Recovery.Coordinator) (surroundings : Recovery.Surroundings)
      (sessionId : Uuid)
  | approveRecovery (coordinator : Recovery.Coordinator)
      (surroundings : Recovery.Surroundings) (sessionId proofId : Uuid)
  | resume (coordinator : Recovery.Coordinator) (surroundings : Recovery.Surroundings)
      (sessionId proofId : Uuid)

/-- The state after the transaction, when the database clock reads `now` in it. -/
def Tx.apply (now : Time) (db : Db) : Tx → Db
  | .ingest source event => (Service.ingest now source event db).commit db
  | .link actor command => (Service.link now actor command db).commit db
  | .propose actor command => (Service.propose now actor command db).commit db
  | .approve utc utc' actor id command =>
      (Service.approve now utc utc' actor id command db).commit db
  | .resolve actor id command => (Service.resolve now actor id command db).commit db
  | .claim leaseSeconds locked => (Worker.claim now leaseSeconds locked db).commit db
  | .prepare utc id token => (Worker.prepare now utc id token db).commit db
  | .finish jitter id token verdict => (Worker.settle now jitter id token verdict db).commit db
  | .defer id token attempted => (Capacity.defer now id token attempted db).commit db
  | .acquire name route kind => (Capacity.acquire now name route kind db).commit db
  | .release name token failed cooldown =>
      (Capacity.release now name token failed cooldown db).commit db
  | .begin coordinator => (Recovery.begin now coordinator db).commit db
  | .verify coordinator surroundings sessionId =>
      (Recovery.verify now coordinator surroundings sessionId db).commit db
  | .approveRecovery coordinator surroundings sessionId proofId =>
      (Recovery.approve now coordinator surroundings sessionId proofId db).commit db
  | .resume coordinator surroundings sessionId proofId =>
      (Recovery.resume now coordinator surroundings sessionId proofId db).commit db

/-- A transaction in a run, with the reading of `clock_timestamp()`. -/
structure Entry where
  now : Time
  tx : Tx

def Db.step (db : Db) (entry : Entry) : Db := entry.tx.apply entry.now db

/-- The state after the transactions of a run have committed in order. -/
abbrev Db.run (db : Db) (entries : List Entry) : Db := Framework.run Db.step db entries

/-- What holds of every state a transaction can commit holds of the state after it, as
soon as it holds when the transaction rolls back. -/
theorem Outcome.commit_of {α : Type} {P : Db → Prop} {outcome : Outcome α} {db : Db}
    (h_ok : ∀ a db', outcome = .ok (a, db') → P db') (h_rollback : P db) :
    P (outcome.commit db) := by
  cases outcome with
  | error fault => exact h_rollback
  | ok answer => exact h_ok answer.1 answer.2 rfl

end ControlPlane
