import ControlPlane.Model.Database

/-!
# The receiver

`mock.py`: the independent HTTP adapter. Its ledger `remote.effects` holds at most one
effect per idempotency key, written in the same transaction as the check for a previous
one; `remote.plans` injects failures. A response is what the worker's HTTP client sees:
the status, the `Retry-After` header as `int` reads it, and the decoded body.
-/

namespace ControlPlane

open Framework

/-! ### Responses -/

/-- The `Retry-After` header: absent, an integer, or text `int` rejects. -/
inductive RetryAfter
  | absent
  | integer (value : ℤ)
  | malformed
deriving DecidableEq

/-- What `response.json()` yields: it raises `ValueError`, or returns a value that is
not an object, or an object with the members of a receipt where it has them. -/
inductive Content
  | malformed
  | other
  | object (members : RemoteResult (Digest Mutation))
deriving DecidableEq

/-- A response, as a worker reads it. -/
structure Response where
  status : ℕ
  retryAfter : RetryAfter
  content : Content
deriving DecidableEq

/-- A JSON error body: an object without any member of a receipt. -/
def Content.error : Content := .object ⟨none, none, none, none⟩

/-- `max(1, min(300, int(header)))` with the default of 5. -/
def RetryAfter.delay : RetryAfter → ℕ
  | .absent | .malformed => 5
  | .integer value => (max 1 (min 300 value)).toNat

/-! ### The ledger -/

/-- The failure modes of a plan. -/
inductive FailureMode
  | tooManyRequests | serverError | unprocessable | timeoutBefore | timeoutAfter
deriving DecidableEq

/-- A row of `remote.effects`. -/
structure Effect where
  hash : Digest Mutation
  body : Mutation
  receipt : Uuid
  committedAt : Time
deriving DecidableEq

/-- The tables of the receiver. -/
structure Receiver where
  effects : Table Uuid Effect
  plans : Table Uuid (List FailureMode)
  supply : Uuid

namespace Receiver

/-- Nothing has been received. -/
def empty : Receiver := ⟨∅, ∅, 0⟩

/-- `receipt(row)`. -/
def receipt (key : Uuid) (effect : Effect) : RemoteResult (Digest Mutation) :=
  ⟨some key, some effect.receipt, some effect.hash, some effect.committedAt⟩

/-- `POST /failure-plans`. -/
def plan (key : Uuid) (modes : List FailureMode) (r : Receiver) : Receiver :=
  { r with plans := r.plans.insert key modes }

/-- `GET /effects/{key}`; `credential` tells whether the executor token is accepted. -/
def getEffect (credential : Bool) (key : Uuid) (r : Receiver) : Response :=
  if credential = false then ⟨401, .absent, .error⟩
  else
    match r.effects.lookup key with
    | none => ⟨404, .absent, .error⟩
    | some effect => ⟨200, .absent, .object (receipt key effect)⟩

/-- The insertion of a new effect. -/
def commit (now : Time) (key : Uuid) (mutation : Mutation) (r : Receiver) : Receiver :=
  { r with
    supply := r.supply + 1
    effects := r.effects.insert key ⟨digest mutation, mutation, r.supply, now⟩ }

/-- The effect that `commit` inserts. -/
def committed (now : Time) (mutation : Mutation) (r : Receiver) : Effect :=
  ⟨digest mutation, mutation, r.supply, now⟩

/-- The planned failure consumed by a first delivery. -/
def consume (key : Uuid) (r : Receiver) : Option FailureMode × Receiver :=
  match r.plans.lookup key with
  | none | some [] => (none, r)
  -- each first delivery takes one mode
  | some (mode :: modes) => (some mode, { r with plans := r.plans.insert key modes })

/-- `POST /effects`. A latency injected after the commit is part of the transport. -/
def mutate (now : Time) (credential : Bool) (key : Uuid) (mutation : Mutation)
    (r : Receiver) : Response × Receiver :=
  if credential = false then (⟨401, .absent, .error⟩, r)
  else if mutation.action = .setConsent then (⟨422, .absent, .error⟩, r)
  else
    match r.effects.lookup key with
    -- the key is known: the same body is acknowledged again
    | some previous =>
      if previous.hash ≠ digest mutation then (⟨409, .absent, .error⟩, r)
      else (⟨200, .absent, .object (receipt key previous)⟩, r)
    | none =>
      let planned := consume key r
      match planned.1 with
      | some .tooManyRequests => (⟨429, .integer 1, .error⟩, planned.2)
      | some .serverError => (⟨500, .integer 1, .error⟩, planned.2)
      | some .unprocessable => (⟨422, .integer 1, .error⟩, planned.2)
      | some .timeoutBefore => (⟨503, .absent, .error⟩, planned.2)
      -- the effect is committed, whether or not the answer arrives in time
      | some .timeoutAfter | none =>
        (⟨201, .absent, .object (receipt key (committed now mutation planned.2))⟩,
          commit now key mutation planned.2)

/-- How the receiver deals with a request: it runs the handler, or the handler's
transaction fails, is rolled back, and the framework answers 500 without JSON. -/
inductive Handling
  | served (credential : Bool) (now : Time)
  | failed
deriving DecidableEq

/-- The response where the receiver itself failed. -/
def unavailable : Response := ⟨500, .absent, .malformed⟩

/-- The response to `GET /effects/{key}`. -/
def answerGet (handling : Handling) (key : Uuid) (r : Receiver) : Response :=
  match handling with
  | .served credential _ => getEffect credential key r
  | .failed => unavailable

/-- The response to a POST, and the receiver after it. -/
def answerPost (handling : Handling) (key : Uuid) (mutation : Mutation) (r : Receiver) :
    Response × Receiver :=
  match handling with
  | .served credential now => mutate now credential key mutation r
  | .failed => (unavailable, r)

end Receiver
end ControlPlane
