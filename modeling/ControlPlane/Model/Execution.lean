import ControlPlane.Framework.Dialogue
import ControlPlane.Model.World

/-!
# One call of `execute`

`execute` with everything an HTTP client can make of a response, not only the responses of
the receiver in this repository: it is a program in dialogue with the control database, the
client and the receiver, and how it ends says what the worker loop sees.

* `Reply` is what a request brings: an exception of the client, or a response with a status,
  the `Retry-After` header and a `Body`. `Reply.outcome` says how `execute` goes on from it.
* `request` is `Client.request` with its `finally` clause, or the plain client where the job
  has no route.
* `execute` makes at most two requests and ends in an `Ending`.

`Backend` is an environment it can meet: any transactions of the other processes between two
questions, and any behaviour of the receiver. The database answers from the log of everything
committed so far. Environment variables are set, and the timeout is in range.
-/

namespace ControlPlane.Execution

open Framework Worker

/-- What `response.json()` makes of a body. -/
inductive Body
  /-- It raises `ValueError`, or returns a value. `storable` tells whether `jsonb` takes the
  value: it rejects U+0000, unpaired surrogates, `NaN` and the infinities. -/
  | decoded (content : Content) (storable : Bool)
  /-- The arrays and objects nest beyond the recursion limit: `RecursionError`. -/
  | tooDeep
deriving DecidableEq

/-- What the model of the worker keeps of a body. -/
def Body.content : Body → Content
  | .decoded content _ => content
  | .tooDeep => .malformed

/-- What a request brings. -/
inductive Reply
  /-- A `TransportError` of the client. -/
  | failed
  /-- An exception of the client that is no `TransportError`, no `ValueError` and no `KeyError`:
  a `DecodingError` where the body is not what its `Content-Encoding` promises, or an `InvalidURL`
  from the target of a redirect. -/
  | broken
  | received (status : ℕ) (retryAfter : RetryAfter) (body : Body)
deriving DecidableEq

/-- What can leave `execute`, other than `Deferred`. -/
inductive Exn
  | client
  /-- `RecursionError` -/
  | recursion
  /-- `AttributeError`: `result.get` of a value that is no object. -/
  | attribute
  /-- `DataError`: the database rejects the result. -/
  | data
  | fault (fault : Fault)
deriving DecidableEq

/-- How `execute` ends. -/
inductive Ending
  | returned
  /-- `Deferred` -/
  | deferred
  | raised (exn : Exn)
deriving DecidableEq

/-! ### Responses -/

/-- The statuses at which `execute` reads the body. -/
def reads : Request → ℕ → Bool
  | .receipt, status => status = 200
  | .dispatch _, status => status = 200 ∨ status = 201

/-- What `execute` does with a response, by what it had asked for. -/
def afterResponse (job : Claimed) : Request → Response → Next
  | .receipt, response => afterLookup job response
  | .dispatch mutation, response => afterPost mutation response

namespace Reply

/-- The `failed` that `release` is given. -/
def requestFailed : Reply → Bool
  | .failed | .broken => true
  | .received status retryAfter body => Capacity.requestFailed ⟨status, retryAfter, body.content⟩

/-- The `cooldown` that `release` is given. -/
def requestCooldown : Reply → ℕ
  | .failed | .broken => 2
  | .received status retryAfter body => Capacity.requestCooldown ⟨status, retryAfter, body.content⟩

/-- Whether `finish` can store what the verdict takes from the body. -/
def storable (verdict : Verdict) : Reply → Bool
  | .received _ _ (.decoded _ storable) => verdict.remoteResult.isNone || storable
  | _ => true

/-- How `execute` goes on from a request: with an exception that its `except` clause does not
name, with a call of `finish`, or, at `none`, with `prepare`. -/
def outcome (job : Claimed) (request : Request) : Reply → Except Exn (Option Verdict)
  | .failed => .ok (some .outcomeUnknown)
  | .broken => .error .client
  | .received status retryAfter body =>
    -- `RecursionError` is no `ValueError`
    if reads request status && body = .tooDeep then .error .recursion
    else
      match afterResponse job request ⟨status, retryAfter, body.content⟩ with
      | .raise => .error .attribute
      | .settle verdict => .ok (some verdict)
      | .prepare => .ok none

end Reply

/-! ### The program -/

/-- The calls of `execute`. -/
inductive Call
  /-- `capacity.destination(job)` -/
  | destination
  /-- `httpx.Client(base_url=url, …)` -/
  | client (route : Route)
  | acquire (name : String) (route : Destination) (kind : RequestKind)
  | send (request : Request)
  | release (name : String) (token : Uuid) (failed : Bool) (cooldown : ℕ)
  | prepare
  /-- `finish(job, …)`, up to the statements that write. -/
  | finish (verdict : Verdict) (storable : Bool)

/-- The answers; `false` from `client` is an exception, from `finish` a lost lease. -/
abbrev Call.Answer : Call → Type
  | .destination => Except RouteFault Route
  | .client _ => Bool
  | .acquire .. => Except Fault (Option Uuid)
  | .send _ => Reply
  | .release .. => Except Fault Unit
  | .prepare => Except Fault Prepared
  | .finish .. => Except Fault Bool

/-- Programs that make these calls. -/
abbrev Program (α : Type) : Type := Dialogue Call Call.Answer α
/-- The calls that were made, and their answers. -/
abbrev History : Type := Framework.History Call Call.Answer

/-- Whether the call finishes the job. -/
def Call.isFinish : Call → Bool
  | .finish .. => true
  | _ => false

/-- How often `finish` was called. -/
def finishes (history : History) : ℕ := history.countP fun exchange => exchange.1.isFinish

/-- `finish`: under a lost lease it writes nothing. -/
def finish (verdict : Verdict) (storable : Bool) : Program Ending := do
  match ← Dialogue.ask (Call.finish verdict storable) with
  | .error fault => return .raised (.fault fault)
  -- the result goes to `jsonb` only under a current lease
  | .ok current => return if current && !storable then .raised .data else .returned

/-- `Client.request`, whatever the client raises. -/
def permitted (name : String) (route : Destination) (request : Request) :
    Program (Except Ending Reply) := do
  match ← Dialogue.ask (Call.acquire name route request.kind) with
  | .error fault => return .error (.raised (.fault fault))
  -- `raise Deferred`
  | .ok none => return .error .deferred
  | .ok (some token) =>
    -- the `finally` clause gives the permit back, whatever was raised
    let reply ← Dialogue.ask (Call.send request)
    match ← Dialogue.ask (Call.release name token reply.requestFailed reply.requestCooldown) with
    | .error fault => return .error (.raised (.fault fault))
    | .ok () => return .ok reply

/-- `client.get` and `client.post`. -/
def request (route : Route) (request : Request) : Program (Except Ending Reply) :=
  match route with
  | none => do return .ok (← Dialogue.ask (Call.send request))
  | some (name, destination) => permitted name destination request

/-- A request, and what follows it; `onwards` is the code after the lookup. -/
def exchange (job : Claimed) (route : Route) (sent : Request) (onwards : Program Ending) :
    Program Ending := do
  match ← request route sent with
  | .error ending => return ending
  | .ok reply =>
    match reply.outcome job sent with
    | .error exn => return .raised exn
    | .ok (some verdict) => finish verdict (reply.storable verdict)
    | .ok none => onwards

/-- From `prepare` on. -/
def dispatch (job : Claimed) (route : Route) : Program Ending := do
  match ← Dialogue.ask Call.prepare with
  -- `KeyError` is one of the exceptions that the `except` clause names
  | .error .missingKey => finish .outcomeUnknown true
  | .error fault => return .raised (.fault fault)
  | .ok (.refused reason) =>
    match afterPrepare (.refused reason) with
    | some verdict => finish verdict true
    | none => return .returned
  | .ok (.dispatch mutation) => exchange job route (.dispatch mutation) (return .returned)

/-- The body of the `with httpx.Client(…)` statement. -/
def proceed (job : Claimed) (route : Route) : Program Ending :=
  -- an earlier attempt may have had its effect
  if job.row.uncertain then exchange job route .receipt (dispatch job route)
  else dispatch job route

/-- `execute(job)`. The client is built before the `try` statement. -/
def execute (job : Claimed) : Program Ending := do
  match ← Dialogue.ask Call.destination with
  | .error fault => finish (.routeRefused fault) true
  | .ok route =>
    match ← Dialogue.ask (Call.client route) with
    | false => return .raised .client
    | true => proceed job route

/-! ### The environment -/

/-- The transactions that complete the permit of a token. -/
def Releases (token : Uuid) (tx : Tx) : Prop :=
  ∃ name failed cooldown, tx = .release name token failed cooldown

/-- A worker that has claimed a job, with everything around it. -/
structure Backend where
  registry : Table String Destination
  owners : Table String String
  /-- What was committed before the claim. -/
  past : List Entry
  claimedAt : Time
  leaseSeconds : ℤ
  locked : List Uuid
  job : Claimed
  claimed : (claim claimedAt leaseSeconds locked
    ((Db.migrated registry owners).run past)).answer = .ok (some job)
  /-- The credential variables that are set. -/
  environ : String → Bool
  /-- The URLs and credentials that the HTTP client takes. -/
  accepts : Route → Bool
  /-- How the network and the receiver deal with a request. -/
  reply : History → Request → Reply
  /-- What the other processes commit before the next question is answered. -/
  others : History → List Entry
  /-- They release their own permits only, as `Client.request` does. -/
  apart : ∀ history name route kind token,
    ⟨.acquire name route kind, .ok (some token)⟩ ∈ history →
      ∀ entry ∈ others history, ¬Releases token entry.tx
  /-- The readings of the database clock, of the process clock, and of the random backoff. -/
  now : History → Time
  utc : History → Time
  jitter : History → Time

namespace Backend

/-- The transaction that a question is. A rejected result is rolled back. -/
def tx (b : Backend) (history : History) : Call → Option Tx
  | .acquire name route kind => some (.acquire name route kind)
  | .release name token failed cooldown => some (.release name token failed cooldown)
  | .prepare => some (.prepare (b.utc history) b.job.id b.job.row.leaseToken)
  | .finish verdict true => some (.finish (b.jitter history) b.job.id b.job.row.leaseToken verdict)
  -- not a transaction, or one that the database has rolled back
  | .finish _ false | .destination | .client _ | .send _ => none

/-- What the call commits. -/
def entries (b : Backend) (history : History) (call : Call) : List Entry :=
  (b.tx history call).toList.map (⟨b.now history, ·⟩)

/-- One more exchange, with what was committed for it. -/
def advance (b : Backend) (state : History × List Entry) (exchange : Exchange Call Call.Answer) :
    History × List Entry :=
  (state.1 ++ [exchange], state.2 ++ b.others state.1 ++ b.entries state.1 exchange.1)

/-- Everything committed up to the last answer. -/
def log (b : Backend) (history : History) : List Entry :=
  (history.foldl b.advance
    -- the claim comes last before `execute`
    ([], b.past ++ [⟨b.claimedAt, .claim b.leaseSeconds b.locked⟩])).2

/-- The database in which the next question is answered. -/
def database (b : Backend) (history : History) : Db :=
  (Db.migrated b.registry b.owners).run (b.log history ++ b.others history)

/-- The answer of the backend to the next call. -/
def answer (b : Backend) (history : History) : (call : Call) → call.Answer
  | .destination => Capacity.destination b.environ b.job.id (b.database history)
  | .client route => b.accepts route
  | .acquire name route kind =>
    (Capacity.acquire (b.now history) name route kind (b.database history)).answer
  | .send request => b.reply history request
  | .release name token failed cooldown =>
    (Capacity.release (b.now history) name token failed cooldown (b.database history)).answer
  | .prepare =>
    (Worker.prepare (b.now history) (b.utc history) b.job.id b.job.row.leaseToken
      (b.database history)).answer
  | .finish verdict _ =>
    (settle (b.now history) (b.jitter history) b.job.id b.job.row.leaseToken verdict
      (b.database history)).answer

/-- The backend answers every call. -/
def environment (b : Backend) : Environment Call Call.Answer :=
  fun history call => some (b.answer history call)

end Backend
end ControlPlane.Execution
