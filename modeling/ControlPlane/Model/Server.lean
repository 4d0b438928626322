import ControlPlane.Framework.Engine
import ControlPlane.Model.Statements

/-!
# The database server and its clients

`World` takes a transaction of the control database as one step. A `Server` runs the
scripts of `Model.Statements` under the lock manager, any number of them at once, one
statement a step:

* A client starts a transaction when it has none open. A worker starts the one that
  `execute` calls at its phase (`Phase.calls`), and goes on by the answer
  (`Phase.conclude`). Everybody else sends commands, the coordinator's transactions, or an
  `INSERT` into `cp.proposals` or `cp.jobs` by hand.
* A client can stop at any point: its transaction is rolled back, and a worker forgets its
  phase.
* The steps of the world that commit nothing are as they were.
-/

namespace ControlPlane

open Framework

/-- Who opens transactions, each on its own connection. -/
inductive Client
  | worker (n : ℕ)
  | external (k : ℕ)
deriving DecidableEq

/-- A transaction of the program, or an `INSERT` by hand. -/
inductive Work
  | tx (entry : Entry)
  | insertProposal (id : Uuid) (row : Proposal)
  | insertJob (id : Uuid) (row : Job)

namespace Work

/-- The statements of the work. -/
def script : Work → Transaction
  | tx entry => entry.tx.script entry.now
  | insertProposal id row => ControlPlane.insertProposal id row (.commit .done)
  | insertJob id row => ControlPlane.insertJob id row (.commit .done)

/-- The entry of the log, for work that the program has a transaction for. -/
def entry : Work → Option Entry
  | tx entry => some entry
  | _ => none

end Work

/-- How a transaction ended. -/
structure Ending where
  work : Work
  answer : Answer

/-- A transaction that committed. -/
structure Commit extends Ending where
  client : Client

/-! ### Workers between transactions -/

namespace Phase

/-- The transactions a worker opens at its phase. -/
def calls : Phase → Tx → Bool
  | .idle, .claim .. => true
  | .acquiring _ (some (name, destination)) request, .acquire name' destination' kind =>
    name' = name && destination' = destination && kind = request.kind
  | .preparing job _, .prepare _ id token => id = job.id && token = job.row.leaseToken
  | .releasing _ _ held failed cooldown _, .release name token failed' cooldown' =>
    name = held.destination && token = held.token && failed' = failed && cooldown' = cooldown
  | .settling job verdict, .finish _ id token verdict' =>
    id = job.id && token = job.row.leaseToken && verdict' = verdict
  | .deferring job, .defer id token attempted =>
    id = job.id && token = job.row.leaseToken && attempted = false
  | _, _ => false

/-- `execute` after the answer of the transaction it opened. -/
def conclude : Phase → Answer → Phase
  | .idle, .claimed (some job) => .claimed job
  | .acquiring job (some (name, destination)) request, .permitted (some token) =>
    .requesting job (some (name, destination)) (some ⟨name, token⟩) request
  | .acquiring job (some _) _, _ => .deferring job
  | .preparing job route, .prepared answer => .prepared job route answer
  | .releasing job route _ _ _ next, .done => .next job route next
  | _, _ => .idle

end Phase

/-- Whether the step of the world commits no transaction and is not a crash. -/
def World.isLocal (w : World) : Label → Bool
  | .plan .. | .route .. | .get .. | .post .. | .deliver .. | .receive .. | .timeout .. => true
  | .acquire n _ =>
    match w.phase n with
    | .acquiring _ none _ => true
    | _ => false
  | _ => false

/-! ### The server -/

/-- The world, with the transactions that are open on its database. -/
structure Server where
  engine : Engine Db Resource Client Ending
  remote : Receiver
  sent : List Post
  phase : ℕ → Phase
  /-- The transactions committed, in order. -/
  history : List Commit

namespace Server

/-- Nobody has started yet, over any control database and any ledger of the receiver. -/
def initial (db : Db) (remote : Receiver) : Server where
  engine := .initial db
  remote := remote
  sent := []
  phase := fun _ => .idle
  history := []

/-- The database, as far as transactions have committed. -/
def db (s : Server) : Db := s.engine.state

/-- The world, as far as transactions have committed. -/
def world (s : Server) : World where
  db := s.db
  remote := s.remote
  sent := s.sent
  phase := s.phase
  log := s.history.filterMap (·.work.entry)

/-- What a client may start. -/
def admits (s : Server) : Client → Work → Bool
  | .worker n, .tx entry => (s.phase n).calls entry.tx
  | .worker _, _ => false
  | .external _, .tx entry => entry.tx.isExternal
  | .external _, _ => true

/-- A client's own change of phase. -/
def move (s : Server) (client : Client) (f : Phase → Phase) : Server :=
  match client with
  | .worker n => { s with phase := Function.update s.phase n (f (s.phase n)) }
  | .external _ => s

/-- What can happen next. -/
inductive Action
  | start (client : Client) (work : Work)
  | statement (client : Client)
  /-- A crash, a lost connection, a deadlock or a timeout. -/
  | abort (client : Client)
  | world (label : Label)

/-- A statement of a client, or a step of the world that is no transaction. -/
def step (s : Server) : Action → Server
  | .start client work =>
    if s.admits client work then
      { s with engine := s.engine.start client (work.script.map (⟨work, ·⟩)) }
    else s
  | .statement client =>
    let next := { s with engine := s.engine.statement client }
    match s.engine.ending client with
    | none => next
    | some (false, ending) => next.move client (·.conclude ending.answer)
    | some (true, ending) =>
      { next.move client (·.conclude ending.answer) with
        history := s.history ++ [⟨ending, client⟩] }
  | .abort client => { s with engine := s.engine.abort client }.move client fun _ => .idle
  | .world label =>
    if s.world.isLocal label then
      let w := s.world.step label
      { s with remote := w.remote, sent := w.sent, phase := w.phase }
    else s

/-- Several actions, one after the other. -/
abbrev run (s : Server) (actions : List Action) : Server := Framework.run step s actions

end Server
end ControlPlane
