import ControlPlane.Model.Receiver
import ControlPlane.Model.Service
import Mathlib.Algebra.Group.Int.Defs

/-!
# The leased outbox

`worker.py`: the transactions `claim`, `finish` and `prepare`, and the decisions of
`execute` between them. `execute` is a sequence of transactions and requests that can
be cut anywhere by a crash, so it is not one function here: `afterLookup` and
`afterPost` say how it continues from a response, `Verdict` lists the calls of `finish`
it makes, and `Model.World` strings the pieces together.
-/

namespace ControlPlane

open Framework

namespace Worker

/-- The row `claim` returns: a snapshot that the worker keeps until it finishes. -/
structure Claimed where
  id : Uuid
  row : Job
deriving DecidableEq

/-! ### `claim` -/

/-- Whether the job may be leased: it waits and is due, or its lease has expired. -/
def due (now : Time) (job : Job) : Bool :=
  ((job.status = .ready ∨ job.status = .retry) ∧ job.availableAt ≤ now) ∨
    (job.status = .leased ∧ job.leaseUntil.any (· ≤ now))

/-- A job with the capacity row its route joins, if any. -/
structure Candidate where
  id : Uuid
  job : Job
  capacity : Option CapacityState

/-- `cap.next_probe IS NULL OR cap.next_probe <= clock_timestamp()`. -/
def probeOpen (now : Time) (capacity : Option CapacityState) : Bool :=
  match capacity.bind (·.nextProbe) with
  | none => true
  | some probe => probe ≤ now

/-- `cap.last_served NULLS FIRST`, where `some none` is `-infinity`. -/
def servedBefore : Option (Option Time) → Option (Option Time) → Bool
  | none, some _ => true
  | some none, some (some _) => true
  | some (some t), some (some u) => t < u
  | _, _ => false

/-- The `ORDER BY` of `claim`. -/
def precedes (a b : Candidate) : Bool :=
  let served := fun c : Candidate => c.capacity.map (·.lastServed)
  servedBefore (served a) (served b) ||
    (served a = served b && (a.job.availableAt < b.job.availableAt ||
      (a.job.availableAt = b.job.availableAt && a.id < b.id)))

/-- The first row in the given order. -/
def first : List Candidate → Option Candidate
  | [] => none
  | a :: rest =>
    match first rest with
    | none => some a
    | some b => if precedes b a then some b else some a

/-- The candidate that is claimed is one of those in the list. -/
theorem first_mem {a : Candidate} : ∀ {l : List Candidate}, first l = some a → a ∈ l
  | [], h => by cases h
  | b :: rest, h => by
    unfold first at h
    split at h
    · obtain rfl := Option.some.inj h
      exact List.mem_cons_self
    · rename_i c hc
      split at h
      · obtain rfl := Option.some.inj h
        exact List.mem_cons_of_mem b (first_mem hc)
      · obtain rfl := Option.some.inj h
        exact List.mem_cons_self

/-- The rows of the claim query, without those another transaction has locked. -/
def claimable (now : Time) (locked : List Uuid) (db : Db) : List Candidate :=
  (db.jobs.entries.map fun row =>
    -- `LEFT JOIN`: without a route, or before its first request, there is no capacity row
    (⟨row.1, row.2, (db.jobRoutes.lookup row.1).bind fun name => db.capacityState.lookup name⟩
      : Candidate)).filter
    -- `SKIP LOCKED`
    fun c => due now c.job && probeOpen now c.capacity && !(locked.contains c.id)

/-- The row `claim` writes. -/
def leased (now : Time) (leaseSeconds : ℤ) (token : Uuid) (job : Job) : Job :=
  { job with
    status := .leased
    leaseToken := some token
    leaseUntil := some (now + seconds leaseSeconds)
    attempts := job.attempts + 1 }

/-- The writes of a claim: the lease, under a token drawn for it. -/
def lease (now : Time) (leaseSeconds : ℤ) (id : Uuid) (job : Job) (db : Db) : Db :=
  let row := leased now leaseSeconds db.supply job
  let db := { db with
    supply := db.supply + 1
    jobs := db.jobs.insert id row }
  db.audit now .executor (.id id) (.claim row.attempts (job.status = .leased))

/-- `claim(lease_seconds)`; `locked` are the jobs that others hold. -/
def claim (now : Time) (leaseSeconds : ℤ) (locked : List Uuid) (db : Db) :
    Outcome (Option Claimed) :=
  if db.executionOpen = false then .ok (none, db)
  else
    match first (claimable now locked db) with
    | none => .ok (none, db)
    | some candidate =>
      .ok (some ⟨candidate.id, leased now leaseSeconds db.supply candidate.job⟩,
        lease now leaseSeconds candidate.id candidate.job db)

/-! ### `finish` -/

/-- Whether the caller's lease is no longer the job's current one. -/
def fenced (token : Option Uuid) (current : Job) : Bool :=
  current.leaseToken ≠ token ∨ current.status ≠ .leased

/-- The category of the exception a terminal job opens. -/
def deadLetterCategory : JobReason → Category
  | .retryExhausted => .retryExhausted
  | .remoteRejected => .remoteRejected
  | _ => .executionBlocked

/-- The status and reason `finish` records, after the attempt budget is applied. -/
def budgeted (status : JobStatus) (reason : JobReason) (current : Job) :
    JobStatus × JobReason :=
  if status = .retry ∧ policy.maxAttempts ≤ current.attempts then (.dead, .retryExhausted)
  else (status, reason)

/-- The row `finish` writes. -/
def finished (now backoff : Time) (status : JobStatus) (reason : JobReason)
    (remoteResult : Option (RemoteResult (Digest Mutation))) (uncertain : Option Bool)
    (current : Job) : Job :=
  { current with
    status := status
    reason := some reason
    remoteResult := remoteResult
    leaseToken := none
    leaseUntil := none
    uncertain := uncertain.getD current.uncertain
    availableAt := now + backoff }

/-- The writes of a `finish` under the current lease: the result, the dead letter of a
terminal one, and the audit record. -/
def conclude (now backoff : Time) (id : Uuid) (status : JobStatus) (reason : JobReason)
    (remoteResult : Option (RemoteResult (Digest Mutation))) (uncertain : Option Bool)
    (current : Job) (db : Db) : Db :=
  let row := finished now backoff status reason remoteResult uncertain current
  let db := { db with jobs := db.jobs.insert id row }
  -- a job that is terminal without success opens an exception
  let db := if status = .dead ∨ status = .blocked then
      db.exception now (deadLetterCategory reason) (.id id) (.execution reason current.uncertain)
    else db
  db.audit now .executor (.id id) (.executionResult status reason current.attempts remoteResult)

/-- `finish(job, status, reason, remote_result, uncertain, delay)`; `jitter` is the
random part of the backoff. The answer is whether the lease was still current. -/
def finish (now jitter : Time) (id : Uuid) (token : Option Uuid) (status : JobStatus)
    (reason : JobReason) (remoteResult : Option (RemoteResult (Digest Mutation)))
    (uncertain : Option Bool) (delay : Option ℕ) (db : Db) : Outcome Bool :=
  match db.jobs.lookup id with
  | none => .error .jobNotFound
  | some current =>
    if fenced token current then .ok (false, db)
    else
      let final := budgeted status reason current
      -- `2 ** attempts` seconds, at most a minute, where the call gives no delay
      let backoff := match delay with
        | some delay => seconds delay
        | none => seconds (min 60 (2 ^ current.attempts)) + jitter
      .ok (true,
        conclude now backoff id final.1 final.2 remoteResult uncertain current db)

/-! ### `prepare` -/

/-- What `prepare` returns. -/
inductive Prepared
  | refused (reason : Reason)
  | dispatch (mutation : Mutation)
deriving DecidableEq

/-- The profile snapshot: the state without the two permission fields. -/
def profile (state : CustomerState) : CustomerState :=
  { state with consent := none, suppressed := none }

/-- The mutation of a proposal for the current row; `row["state"]["email"]` raises when
there is no email. -/
def mutationOf (proposal : Proposal) (row : Customer) : Except Fault Mutation :=
  if proposal.body.action = .sendMarketing then
    match row.state.email with
    | none => .error .missingKey
    | some email => .ok
      ⟨proposal.customerId, proposal.body.action, row.revision,
        .marketing email proposal.body.template⟩
  else .ok ⟨proposal.customerId, proposal.body.action, row.revision, .profile (profile row.state)⟩

/-- The row `prepare` writes: the intent, committed before networking. -/
def intended (mutation : Mutation) (current : Job) : Job :=
  { current with mutation := some mutation, uncertain := true }

/-- The writes of an authorized dispatch. -/
def authorize (now : Time) (id : Uuid) (mutation : Mutation) (current : Job) (db : Db) : Db :=
  let db := { db with jobs := db.jobs.insert id (intended mutation current) }
  db.audit now .executor (.id id)
    (.dispatchAuthorized mutation.revision (digest mutation) current.attempts)

/-- `prepare(job)` -/
def prepare (now utc : Time) (id : Uuid) (token : Option Uuid) (db : Db) : Outcome Prepared :=
  if db.executionOpen = false then .ok (.refused .recoveryClosed, db)
  else
    match db.proposals.lookup id with
    | none => .error .proposalNotFound
    | some proposal =>
      match db.customers.lookup proposal.customerId with
      | none => .error .customerNotFound
      | some row =>
        match db.jobs.lookup id with
        | none => .error .jobNotFound
        | some current =>
          if fenced token current then .ok (.refused .leaseLost, db)
          else
            match Service.validProposal proposal row utc true with
            | some reason => .ok (.refused reason, db)
            | none =>
              match mutationOf proposal row with
              | .error fault => .error fault
              | .ok mutation =>
                -- an earlier attempt has recorded another intent
                if current.mutation.any (· ≠ mutation) then
                  .ok (.refused .mutationChanged, db)
                else .ok (.dispatch mutation, authorize now id mutation current db)

/-! ### The calls of `finish` -/

/-- The call sites of `finish` in `execute`. -/
inductive Verdict
  | routeRefused (fault : RouteFault)
  | identityConflict
  | reconciled (result : RemoteResult (Digest Mutation))
  | reconciliationUnavailable
  | recoveryClosed
  | refused (reason : Reason)
  | committed (result : RemoteResult (Digest Mutation))
  | rateLimited (delay : ℕ)
  | rejected
  | serverError
  | outcomeUnknown
deriving DecidableEq

namespace Verdict

/-- The status `execute` finishes a job with. -/
def status : Verdict → JobStatus
  | routeRefused _ | refused _ => .blocked
  | identityConflict | rejected => .dead
  | reconciled _ | committed _ => .succeeded
  | reconciliationUnavailable | recoveryClosed | rateLimited _ | serverError
  | outcomeUnknown => .retry

/-- The reason it gives. -/
def reason : Verdict → JobReason
  | routeRefused fault => .route fault
  | identityConflict => .remoteIdentityConflict
  | reconciled _ => .reconciledCommittedEffect
  | reconciliationUnavailable => .reconciliationUnavailable
  | recoveryClosed => .denied .recoveryClosed
  | refused reason => .denied reason
  | committed _ => .remoteCommitted
  | rateLimited _ => .rateLimited
  | rejected => .remoteRejected
  | serverError => .remoteServerError
  | outcomeUnknown => .remoteOutcomeUnknown

/-- The effect that the remote system has answered, if any. -/
def remoteResult : Verdict → Option (RemoteResult (Digest Mutation))
  | reconciled result | committed result => some result
  | _ => none

/-- The `uncertain` argument: only settled outcomes pass one. -/
def uncertain : Verdict → Option Bool
  | reconciled _ | committed _ | rateLimited _ | rejected => some false
  | _ => none

/-- The `delay` argument, where one is passed. -/
def delay : Verdict → Option ℕ
  | recoveryClosed => some 1
  | rateLimited delay => some delay
  | _ => none

end Verdict

/-- `finish` as `execute` calls it. -/
def settle (now jitter : Time) (id : Uuid) (token : Option Uuid) (verdict : Verdict) (db : Db) :
    Outcome Bool :=
  finish now jitter id token verdict.status verdict.reason verdict.remoteResult
    verdict.uncertain verdict.delay db

/-! ### The decisions of `execute` -/

/-- How `execute` goes on: to `prepare`, to a call of `finish`, or out with an exception
that its `except` clause does not name. -/
inductive Next
  | prepare
  | settle (verdict : Verdict)
  | raise
deriving DecidableEq

/-- The branches on the response to `GET /effects/{id}`. -/
def afterLookup (job : Claimed) (response : Response) : Next :=
  if response.status = 200 then
    match response.content, job.row.mutation with
    | .malformed, _ => .settle .outcomeUnknown
    | _, none => .settle .identityConflict
    | .other, some _ => .raise
    | .object result, some mutation =>
      -- the effect at the receiver is the one that was intended
      if result.hash ≠ some (digest mutation) then .settle .identityConflict
      else .settle (.reconciled result)
  else if response.status ≠ 404 then .settle .reconciliationUnavailable
  else .prepare

/-- The branches on the answer of `prepare`; `none` ends `execute` without `finish`. -/
def afterPrepare : Prepared → Option Verdict
  | .refused .recoveryClosed => some .recoveryClosed
  -- `return`: the job belongs to another worker
  | .refused .leaseLost => none
  | .refused reason => some (.refused reason)
  | .dispatch _ => none

/-- The branches on the response to `POST /effects`. -/
def afterPost (mutation : Mutation) (response : Response) : Next :=
  if response.status = 200 ∨ response.status = 201 then
    match response.content with
    | .malformed => .settle .outcomeUnknown
    | .other => .raise
    | .object result =>
      if result.hash ≠ some (digest mutation) then .settle .identityConflict
      else .settle (.committed result)
  -- the receiver has refused the mutation for now, for good, or has failed
  else if response.status = 429 then .settle (.rateLimited response.retryAfter.delay)
  else if response.status ∈ [400, 401, 403, 404, 409, 422] then .settle .rejected
  else .settle .serverError

end Worker

/-- What `Client.request` passes to `release` for a response: whether the request counts
as failed, and the cooldown it then imposes. -/
def Capacity.requestFailed (response : Response) : Bool :=
  response.status = 429 ∨ 500 ≤ response.status

/-- The cooldown after a response: what a 429 asks for, and 2 seconds otherwise. -/
def Capacity.requestCooldown (response : Response) : ℕ :=
  if response.status = 429 then response.retryAfter.delay else 2

end ControlPlane
