import ControlPlane.Model.Database

/-!
# Destination capacity

`capacity.py`: admission into a bounded backlog, the immutable route of a job, and the
fixed-window request permits of a destination. Every function is one transaction or a
part of one; `Client.request` is split between the worker's phases, which take the
permit, perform the request and release the permit in three separate steps.
-/

namespace ControlPlane

open Framework

namespace Capacity

/-- Whether the routed proposal `id` occupies a place in its destination's backlog: it
has unfinished work, or it is an unexpired reservation. -/
def occupies (db : Db) (now : Time) (id : Uuid) : Bool :=
  match db.proposals.lookup id with
  | none => false
  | some proposal =>
    match db.jobs.lookup id with
    | some job => job.status = .ready ∨ job.status = .retry ∨ job.status = .leased
    -- a proposal without a job holds its place while it can still be approved
    | none => now < proposal.expiresAt

/-- The count of `check_backlog`. -/
def backlog (db : Db) (now : Time) (destination : String) : ℕ :=
  (db.jobRoutes.entries.filter fun route =>
    route.2 = destination && occupies db now route.1).length

def checkBacklog (now : Time) (name : String) (route : Destination) (db : Db) :
    Except Fault Unit :=
  if route.backlogLimit ≤ backlog db now name then .error .destinationOverloaded
  else .ok ()

/-- `admission(c, owner)`: the destination a new proposal is bound to. An empty
registry keeps the single legacy destination. -/
def admission (now : Time) (owner : Option String) (db : Db) :
    Except Fault (Option String) :=
  if db.destinations.entries.isEmpty then .ok none
  else
    -- the owner is that of the customer row
    match owner.bind fun owner => db.destinationRoutes.lookup owner with
    | none => .error .destinationNotAuthorized
    | some name =>
      match db.destinations.lookup name with
      | none => .error .destinationNotAuthorized
      | some route =>
        match checkBacklog now name route db with
        | .error fault => .error fault
        | .ok () => .ok (some name)

def readmission (now : Time) (key : Uuid) (db : Db) : Except Fault Unit :=
  match db.jobRoutes.lookup key with
  | none => .ok ()
  | some name =>
    match db.destinations.lookup name with
    | none => .ok ()
    | some route => checkBacklog now name route db

def bind (key : Uuid) (destination : Option String) (db : Db) : Db :=
  match destination with
  | some name => { db with jobRoutes := db.jobRoutes.insert key name }
  | none => db

/-- `destination(job)`: the registered route of a job, checked before it is used.
`environ` tells which credential variables are set. -/
def destination (environ : String → Bool) (id : Uuid) (db : Db) :
    Except RouteFault (Option (String × Destination)) :=
  match (db.jobRoutes.lookup id).bind fun name =>
      (db.destinations.lookup name).map fun route => (name, route) with
  | none =>
    if db.destinations.entries.isEmpty then .ok none
    else .error .legacyRouteRequiresReview
  | some (name, route) =>
    let url := route.url
    -- the URL carries nothing but scheme, host, port and path
    if (url.scheme ≠ "http" ∧ url.scheme ≠ "https") ∨ url.username ≠ "" ∨
        url.password ≠ "" ∨ url.query ≠ "" ∨ url.fragment ≠ "" then
      .error .invalidDestinationUrl
    else if url.scheme = "http" ∧ url.hostname ∉ ["127.0.0.1", "localhost", "::1"] then
      .error .plaintextDestinationNotLoopback
    else if environ route.credentialEnv = false then .error .destinationCredentialMissing
    else .ok (some (name, route))

/-- The column defaults of `cp.capacity_state`. -/
def initialState : CapacityState where
  windowId := 0
  used := 0
  nextProbe := none
  lastServed := none

/-- `greatest(next_probe, until)` with `-infinity` for an absent probe. -/
def laterProbe (probe : Option Time) (until_ : Time) : Time :=
  match probe with
  | none => until_
  | some t => max t until_

/-- The row `acquire` reads, inserted with the column defaults when there is none. -/
def stateRow (name : String) (db : Db) : CapacityState :=
  (db.capacityState.lookup name).getD initialState

/-- The first writes of `acquire`: the state row, and the deletion of expired permits. -/
def refresh (now : Time) (name : String) (db : Db) : Db :=
  { db with
    capacityState := db.capacityState.insert name (stateRow name db)
    requestPermits := db.requestPermits.filter fun _ permit =>
      !(permit.destination = name && permit.expires ≤ now) }

/-- The writes of a granted permit, under a token drawn for it. -/
def permit (now : Time) (name : String) (kind : RequestKind) (state : CapacityState)
    (window : ℤ) (used : ℕ) (db : Db) : Db :=
  let token := db.supply
  { db with
    supply := token + 1
    requestPermits := db.requestPermits.insert token ⟨name, now + seconds 30, kind⟩
    capacityRequests := db.capacityRequests.insert token ⟨name, window, kind, now⟩
    capacityState := db.capacityState.insert name
      { state with windowId := window, used := used + 1, lastServed := some now } }

/-- `acquire(route, kind)`: the permit token, or `none` when the request has to be
deferred. A refusal still commits the deletion of expired permits. -/
def acquire (now : Time) (name : String) (route : Destination) (kind : RequestKind) (db : Db) :
    Outcome (Option Uuid) :=
  let state := stateRow name db
  let db := refresh now name db
  let live := (db.requestPermits.entries.filter fun row => row.2.destination = name).length
  -- a backwards clock cannot reopen a spent bucket
  let window := max (now / seconds 1) state.windowId
  let used := if state.windowId = window then state.used else 0
  -- a dispatch leaves one request of the second to lookups
  let limit := route.requestsPerSecond - (if kind = .dispatch then 1 else 0)
  let eligible := state.nextProbe.all (· ≤ now)
  if eligible = false ∨ limit ≤ used ∨ route.concurrency ≤ live then .ok (none, db)
  else .ok (some db.supply, permit now name kind state window used db)

/-- `release(route, token, failed, cooldown)`. A token without a request, or one
completed before, violates a constraint. -/
def release (now : Time) (name : String) (token : Uuid) (failed : Bool) (cooldown : ℕ)
    (db : Db) : Outcome Unit :=
  if (db.capacityRequests.lookup token).isNone ∨ (db.capacityCompletions.lookup token).isSome
  then .error .constraintViolation
  else
    let db := { db with
      requestPermits := db.requestPermits.erase token
      capacityCompletions := db.capacityCompletions.insert token ⟨now, failed⟩ }
    -- `UPDATE`: no row, no cooldown
    match (if failed then db.capacityState.lookup name else none) with
    | none => .ok ((), db)
    | some state =>
      let probe := laterProbe state.nextProbe (now + seconds cooldown)
      .ok ((), { db with
        capacityState := db.capacityState.insert name { state with nextProbe := some probe } })

/-- The row `defer` writes. -/
def deferred (now : Time) (refund : ℕ) (job : Job) : Job :=
  { job with
    status := .retry
    leaseToken := none
    leaseUntil := none
    attempts := job.attempts - refund
    availableAt := now + 100000 }

/-- `defer(job, attempted)`: the refund of an attempt that was not made. The row is
only touched while the lease is current; `attempts >= 0` is a constraint. -/
def defer (now : Time) (id : Uuid) (token : Option Uuid) (attempted : Bool) (db : Db) :
    Outcome Unit :=
  match db.jobs.lookup id with
  | none => .ok ((), db)
  | some job =>
    -- `lease_token = NULL` holds of no row
    if token.isSome ∧ job.leaseToken = token ∧ job.status = .leased then
      let refund := if attempted then 0 else 1
      if job.attempts < refund then .error .constraintViolation
      else .ok ((), { db with jobs := db.jobs.insert id (deferred now refund job) })
    else .ok ((), db)

end Capacity
end ControlPlane
