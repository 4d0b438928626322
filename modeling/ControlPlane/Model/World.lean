import ControlPlane.Model.Transaction
import Mathlib.Logic.Function.Basic

/-!
# Workers, the network and the receiver

The distributed part of the system: any number of workers run `execute` one transaction
or request at a time, the requests travel, and the receiver keeps its own ledger.

* A worker's `Phase` is the point of `execute` it has reached, with the local variables
  that are live there. A crash forgets the phase.
* A request under a destination route needs a permit first (`Client.request`), and gives
  it back when the response or the transport error is there.
* A `Post` that was sent can be delivered at any later moment, once, whatever its sender
  did in the meantime. Its response waits for the sender, which may have stopped waiting.
* Every transaction on the control database is appended to `log`, so that the database
  is the run of its log (`World.db_eq_run`).

`Label` lists the steps and `World.step` takes one; a label that is not enabled leaves
the world as it is.
-/

namespace ControlPlane

open Framework

/-- The destination of a job: none for the single legacy destination. -/
abbrev Route : Type := Option (String × Destination)

/-- The two requests of `execute`. -/
inductive Request
  | receipt
  | dispatch (mutation : Mutation)
deriving DecidableEq

/-- The kind of the permit that a request needs. -/
def Request.kind : Request → RequestKind
  | .receipt => .receipt
  | .dispatch _ => .dispatch

/-- A permit a worker holds during a request, with its destination. -/
structure Held where
  destination : String
  token : Uuid
deriving DecidableEq

/-- The points of `execute` between two steps. -/
inductive Phase
  | idle
  /-- Claimed, before `capacity.destination`. -/
  | claimed (job : Worker.Claimed)
  /-- Before the permit of the request. -/
  | acquiring (job : Worker.Claimed) (route : Route) (request : Request)
  /-- About to perform the request. -/
  | requesting (job : Worker.Claimed) (route : Route) (permit : Option Held) (request : Request)
  /-- The POST is out; `ticket` is its place in `World.sent`. -/
  | awaiting (job : Worker.Claimed) (route : Route) (permit : Option Held)
      (mutation : Mutation) (ticket : ℕ)
  /-- Before the permit is released; `next` is how `execute` goes on. -/
  | releasing (job : Worker.Claimed) (route : Route) (permit : Held) (failed : Bool)
      (cooldown : ℕ) (next : Worker.Next)
  | preparing (job : Worker.Claimed) (route : Route)
  | settling (job : Worker.Claimed) (verdict : Worker.Verdict)
  | deferring (job : Worker.Claimed)
deriving DecidableEq

/-- A POST that was sent, with its response once it has been delivered. -/
structure Post where
  key : Uuid
  mutation : Mutation
  /-- The lease under which it was sent. -/
  lease : Option Uuid
  response : Option Response
deriving DecidableEq

/-- The database, the receiver, the workers and what is under way between them. -/
structure World where
  db : Db
  remote : Receiver
  /-- All POSTs ever sent. -/
  sent : List Post
  phase : ℕ → Phase
  /-- The transactions committed on the control database, in order. -/
  log : List Entry

/-- Nobody has started yet. -/
def World.initial (registry : Table String Destination) (owners : Table String String) :
    World where
  db := Db.migrated registry owners
  remote := Receiver.empty
  sent := []
  phase := fun _ => .idle
  log := []

/-! ### How `execute` goes on -/

namespace Phase

/-- `execute` after the response has been looked at. An exception that no `except`
clause names ends it. -/
def next (job : Worker.Claimed) (route : Route) : Worker.Next → Phase
  | .prepare => .preparing job route
  | .settle verdict => .settling job verdict
  | .raise => .idle

/-- The `finally` clause of `Client.request` comes first when there is a permit. -/
def leave (job : Worker.Claimed) (route : Route) (permit : Option Held) (failed : Bool)
    (cooldown : ℕ) (decision : Worker.Next) : Phase :=
  match permit with
  | none => next job route decision
  | some held => .releasing job route held failed cooldown decision

/-- A response is there. -/
def answered (job : Worker.Claimed) (route : Route) (permit : Option Held)
    (response : Response) (decision : Worker.Next) : Phase :=
  leave job route permit (Capacity.requestFailed response) (Capacity.requestCooldown response)
    decision

/-- The transport failed. -/
def broken (job : Worker.Claimed) (route : Route) (permit : Option Held) : Phase :=
  leave job route permit true 2 (.settle .outcomeUnknown)

/-- `execute` after `prepare`; a `KeyError` counts as an unknown outcome, a `LookupError`
is not caught. -/
def prepared (job : Worker.Claimed) (route : Route) : Except Fault Worker.Prepared → Phase
  | .ok (.dispatch mutation) => .acquiring job route (.dispatch mutation)
  | .ok (.refused reason) =>
    match Worker.afterPrepare (.refused reason) with
    | some verdict => .settling job verdict
    | none => .idle
  | .error .missingKey => .settling job .outcomeUnknown
  | .error _ => .idle

end Phase

/-! ### Steps -/

/-- The transactions that are not a worker's. -/
def Tx.isExternal : Tx → Bool
  | .ingest .. | .link .. | .propose .. | .approve .. | .resolve .. | .begin .. | .verify ..
  | .approveRecovery .. | .resume .. => true
  | _ => false

/-- What can happen next. -/
inductive Label
  /-- A command, or a step of the recovery coordinator. -/
  | commit (now : Time) (tx : Tx)
  /-- A failure plan for the receiver. -/
  | plan (key : Uuid) (modes : List FailureMode)
  | claim (worker : ℕ) (now : Time) (leaseSeconds : ℤ) (locked : List Uuid)
  /-- `capacity.destination(job)`, under the worker's environment. -/
  | route (worker : ℕ) (environ : String → Bool)
  | acquire (worker : ℕ) (now : Time)
  /-- `GET /effects/{id}`, as the receiver handles it. -/
  | get (worker : ℕ) (handling : Receiver.Handling)
  | prepare (worker : ℕ) (now utc : Time)
  /-- `POST /effects` leaves the worker. -/
  | post (worker : ℕ)
  /-- The POST arrives at the receiver. -/
  | deliver (ticket : ℕ) (handling : Receiver.Handling)
  /-- The response to the POST arrives at the worker. -/
  | receive (worker : ℕ)
  /-- The request fails in transport: it was not sent, or no response came in time. -/
  | timeout (worker : ℕ)
  | release (worker : ℕ) (now : Time)
  | finish (worker : ℕ) (now jitter : Time)
  | defer (worker : ℕ) (now : Time)
  | crash (worker : ℕ)

namespace World

/-- A transaction commits. -/
def commit (w : World) (now : Time) (tx : Tx) : World :=
  { w with db := w.db.step ⟨now, tx⟩, log := w.log ++ [⟨now, tx⟩] }

/-- A worker reaches a phase. -/
def move (w : World) (worker : ℕ) (phase : Phase) : World :=
  { w with phase := Function.update w.phase worker phase }

/-- A worker commits a transaction and goes on. -/
def commitMove (w : World) (worker : ℕ) (now : Time) (tx : Tx) (phase : Phase) : World :=
  (w.commit now tx).move worker phase

/-- A worker sends a POST and waits for its response. -/
def send (w : World) (worker : ℕ) (job : Worker.Claimed) (route : Route)
    (permit : Option Held) (mutation : Mutation) : World :=
  let post : Post := ⟨job.id, mutation, job.row.leaseToken, none⟩
  move { w with sent := w.sent ++ [post] } worker
    (.awaiting job route permit mutation w.sent.length)

/-- The receiver handles a POST and its response becomes available. -/
def arrive (w : World) (ticket : ℕ) (post : Post) (handling : Receiver.Handling) : World :=
  let answer := w.remote.answerPost handling post.key post.mutation
  { w with
    remote := answer.2
    sent := w.sent.set ticket { post with response := some answer.1 } }

/-- What the label does; nothing, where it cannot happen. -/
def step (w : World) : Label → World
  | .commit now tx => if tx.isExternal then w.commit now tx else w
  | .plan key modes => { w with remote := w.remote.plan key modes }
  | .claim n now leaseSeconds locked =>
    match w.phase n with
    | .idle =>
      -- with nothing to claim the worker stays idle, and its transaction commits all the same
      w.commitMove n now (.claim leaseSeconds locked)
        (match Worker.claim now leaseSeconds locked w.db with
        | .ok (some job, _) => .claimed job
        | _ => .idle)
    | _ => w
  | .route n environ =>
    match w.phase n with
    | .claimed job =>
      w.move n (match Capacity.destination environ job.id w.db with
        | .error fault => .settling job (.routeRefused fault)
        | .ok route =>
          -- an earlier attempt may have had its effect
          if job.row.uncertain then .acquiring job route .receipt else .preparing job route)
    | _ => w
  | .acquire n now =>
    match w.phase n with
    -- without a destination there is no capacity to ask for
    | .acquiring job none request => w.move n (.requesting job none none request)
    | .acquiring job (some (name, destination)) request =>
      w.commitMove n now (.acquire name destination request.kind)
        (match Capacity.acquire now name destination request.kind w.db with
        | .ok (some token, _) =>
          .requesting job (some (name, destination)) (some ⟨name, token⟩) request
        | _ => .deferring job)
    | _ => w
  | .get n handling =>
    match w.phase n with
    | .requesting job route permit .receipt =>
      let response := w.remote.answerGet handling job.id
      w.move n (.answered job route permit response (Worker.afterLookup job response))
    | _ => w
  | .prepare n now utc =>
    match w.phase n with
    | .preparing job route =>
      w.commitMove n now (.prepare utc job.id job.row.leaseToken)
        (.prepared job route (Worker.prepare now utc job.id job.row.leaseToken w.db).answer)
    | _ => w
  | .post n =>
    match w.phase n with
    | .requesting job route permit (.dispatch mutation) => w.send n job route permit mutation
    | _ => w
  | .deliver ticket handling =>
    match w.sent[ticket]? with
    -- a POST arrives once
    | some post => if post.response = none then w.arrive ticket post handling else w
    | none => w
  | .receive n =>
    match w.phase n with
    | .awaiting job route permit mutation ticket =>
      match w.sent[ticket]?.bind (·.response) with
      | some response =>
        w.move n (.answered job route permit response (Worker.afterPost mutation response))
      | none => w
    | _ => w
  | .timeout n =>
    match w.phase n with
    | .requesting job route permit _ | .awaiting job route permit _ _ =>
      w.move n (.broken job route permit)
    | _ => w
  | .release n now =>
    match w.phase n with
    | .releasing job route held failed cooldown next =>
      w.commitMove n now (.release held.destination held.token failed cooldown)
        (match Capacity.release now held.destination held.token failed cooldown w.db with
        | .ok _ => .next job route next
        -- the exception leaves `execute`
        | .error _ => .idle)
    | _ => w
  | .finish n now jitter =>
    match w.phase n with
    | .settling job verdict =>
      w.commitMove n now (.finish jitter job.id job.row.leaseToken verdict) .idle
    | _ => w
  | .defer n now =>
    match w.phase n with
    | .deferring job => w.commitMove n now (.defer job.id job.row.leaseToken false) .idle
    | _ => w
  | .crash n => w.move n .idle

/-- The world after the steps of a run. -/
abbrev run (w : World) (labels : List Label) : World := Framework.run World.step w labels

end World

end ControlPlane
