import ControlPlane.Framework.Json
import ControlPlane.Framework.Sweep
import ControlPlane.Framework.Table
import Mathlib.Data.Rat.Floor
import Mathlib.Data.String.Basic

/-!
# The isolation checker

`check_isolation.py`: `check` decides from the recorded traffic and ledgers of a run whether its
destinations were isolated from each other. A record is decoded JSON with all the fields of a
long run; where one that is read is missing, Python raises before it can accept. The instants
are what `float` makes of them, but for NaN and the infinities, which are left out; the limits and
the counts are natural numbers. Of the report the members that are texts or totals of others are
left out.
-/

namespace ControlPlane.Isolation

open Framework

/-! ### The record -/

/-- A row of the permits, with the time its request finished. -/
structure Grant where
  token : String
  destination : String
  windowId : ℤ
  kind : String
  issuedAt : ℚ
  finishedAt : ℚ
deriving DecidableEq

/-- A request as its receiver has recorded it. -/
structure Request where
  permit : String
  method : String
  at_ : ℚ
  status : ℤ
deriving DecidableEq

/-- An effect in the ledger of a receiver. -/
structure Effect where
  key : String
  hash : String
  receipt : String
deriving DecidableEq

/-- An alert as the destination has it. -/
structure Alert where
  state : String
  detail : Json String
deriving DecidableEq

/-- What the record has of one destination. -/
structure Lane where
  requests : List Request
  effects : List Effect
  alerts : List Alert

/-- A row of the jobs. -/
structure Job where
  id : String
  destination : String
  status : String
  hash : String
  receipt : Option String
  attempts : ℕ
  /-- Not in every record. -/
  claims : Option ℕ
deriving DecidableEq

/-- A sample of the processes and queues. -/
structure Sample where
  applicationProcesses : ℕ
  /-- The `pending` of each queue. -/
  queues : List ℕ

/-- The parameters of a run. -/
structure Protocol where
  requestsPerSecond : ℕ
  clientConcurrency : ℕ
  backlogLimit : ℕ
  faultStart : ℚ
  faultEnd : ℚ
  fault : String
  minimumHealthyDuringFault : ℕ
  proposals : ℕ
  durationSeconds : Option ℚ

/-- What the run has recorded. -/
structure Record where
  protocol : Protocol
  grants : List Grant
  destinations : Table String Lane
  jobs : List Job
  proposed : ℕ
  accepted : ℕ
  rejected : ℕ
  /-- `reconciliation["safe_to_resume"]` -/
  safeToResume : Bool
  samples : List Sample
  alerts : List Alert

/-! ### Rates -/

/-- `Counter(values)` -/
def counter {α : Type} [DecidableEq α] (values : List α) : List (α × ℕ) :=
  values.dedup.map fun value => (value, values.count value)

/-- `max(counts, default=0)` -/
def maximum (counts : List ℕ) : ℕ := counts.foldr max 0

/-- The grant of a permit: `grants[permit]`. -/
def grantOf (grants : List Grant) (permit : String) : Option Grant :=
  grants.find? (·.token = permit)

/-- A second in which a receiver got too many requests. -/
structure Bucket where
  receiverUtcEpochSecond : ℤ
  requests : ℕ
  /-- The windows of the permits, and how many requests are of each. -/
  permitWindows : List (ℤ × ℕ)

/-- The rates of one destination. -/
structure LaneRates where
  permitIssuanceMax : ℕ
  permitIssuanceAbove : ℕ
  receiverArrivalMax : ℕ
  receiverArrivalOver : List Bucket

/-- `rate_observations` -/
structure Rates where
  limit : ℕ
  destinations : List (String × LaneRates)

/-- The seconds in which a receiver got more requests than the limit. -/
def arrivalsOver (limit : ℕ) (grants : List Grant) (requests : List Request) : List Bucket :=
  let seconds := requests.map fun request => ⌊request.at_⌋
  ((counter seconds).insertionSort fun a b => a.1 ≤ b.1).filterMap fun entry =>
    if limit < entry.2 then
      let arrived := requests.filter fun request => ⌊request.at_⌋ = entry.1
      let windows := arrived.filterMap fun request =>
        (grantOf grants request.permit).map (·.windowId)
      some ⟨entry.1, entry.2, (counter windows).insertionSort fun a b => a.1 ≤ b.1⟩
    else none

/-- The rates of one destination, from its permits and its requests. -/
def laneRates (limit : ℕ) (grants : List Grant) (destination : String)
    (requests : List Request) : LaneRates :=
  let issuance := (counter ((grants.filter (·.destination = destination)).map (·.windowId))).map
    Prod.snd
  { permitIssuanceMax := maximum issuance
    permitIssuanceAbove := issuance.countP (limit < ·)
    receiverArrivalMax := maximum
      ((counter (requests.map fun request => ⌊request.at_⌋)).map Prod.snd)
    receiverArrivalOver := arrivalsOver limit grants requests }

/-- `rate_observations(record)` -/
def rateObservations (record : Record) : Rates where
  limit := record.protocol.requestsPerSecond
  destinations :=
    let configured := (record.destinations.keys ++ record.grants.map (·.destination)).dedup
    (configured.insertionSort (· ≤ ·)).map fun destination =>
      (destination, laneRates record.protocol.requestsPerSecond record.grants destination
        (((record.destinations.lookup destination).map (·.requests)).getD []))

/-- `permit_issuance_buckets_above_limit` over all destinations. -/
def Rates.permitIssuanceAbove (rates : Rates) : ℕ :=
  (rates.destinations.map fun lane => lane.2.permitIssuanceAbove).sum

/-! ### The check -/

/-- The assertions, in the order in which they are made. -/
inductive Failure
  | duplicatePermit | issuanceBudget | unpermittedRequest | destinationSubstitution | kind
  | duplicateIdentity | permitReplay | deferralAccounting | wrongReceipt | payloadMismatch
  | receiptMismatch | unreconciledEffect | unfinishedWork | remoteAhead | starved | proposals
  | admissions | acceptance | reconciliation | samples | clientConcurrency | backlogBound
  | alertReadback | noAlert | alertNotCleared
  /-- `KeyError`: the record has no destination `healthy`. -/
  | noHealthyDestination
deriving DecidableEq

/-- The texts of the assertions that have one. -/
def Failure.message : Failure → Option String
  | duplicatePermit => some "duplicate permit"
  | issuanceBudget => some "permit issuance budget exceeded"
  | unpermittedRequest => some "unpermitted request"
  | destinationSubstitution => some "destination substitution"
  | duplicateIdentity => some "duplicate business identity across receivers"
  | permitReplay => some "permit replay"
  | deferralAccounting => some "invalid scheduler deferral accounting"
  | wrongReceipt => some "wrong/missing destination receipt"
  | payloadMismatch => some "payload mismatch"
  | receiptMismatch => some "receipt mismatch"
  | unreconciledEffect => some "unreconciled remote effect"
  | unfinishedWork => some "unfinished accepted work"
  | remoteAhead => some "remote ahead"
  | starved => some "healthy destination starved"
  | clientConcurrency => some "client concurrency exceeded"
  | backlogBound => some "backlog bound exceeded"
  | alertReadback => some "alert readback mismatch"
  | noAlert => some "no actual alert"
  | alertNotCleared => some "alert never cleared"
  | kind | proposals | admissions | acceptance | reconciliation | samples => none
  | noHealthyDestination => none

/-- `assert test, message` -/
def ensure (test : Bool) (failure : Failure) : Except Failure Unit :=
  if test then .ok () else .error failure

/-- The business identities of the receivers so far: `receipts`. -/
abbrev Receipts : Type := Table String (String × Effect)

/-- The kind of permit that a request needs. -/
def Request.kind (request : Request) : String :=
  if request.method = "GET" then "receipt" else "dispatch"

/-- A request has a permit of its destination and of its kind. -/
def checkRequest (grants : List Grant) (destination : String) (request : Request) :
    Except Failure Unit :=
  match grantOf grants request.permit with
  | none => .error .unpermittedRequest
  | some grant => do
    ensure (grant.destination = destination) .destinationSubstitution
    ensure (grant.kind = request.kind) .kind

/-- No identity has two effects. -/
def checkEffect (destination : String) (receipts : Receipts) (receipt : Effect) :
    Except Failure Receipts := do
  ensure (receipts.lookup receipt.key = none) .duplicateIdentity
  return receipts.insert receipt.key (destination, receipt)

/-- One destination; the permits of its requests are added to `sent`. -/
def checkLane (grants : List Grant) (state : List String × Receipts)
    (entry : Sigma fun _ : String => Lane) : Except Failure (List String × Receipts) := do
  entry.2.requests.forM (checkRequest grants entry.1)
  let receipts ← entry.2.effects.foldlM (checkEffect entry.1) state.2
  return (state.1 ++ entry.2.requests.map (·.permit), receipts)

/-- What the receivers must have of a job. -/
def checkReceipt (job : Job) (remote : Option (String × Effect)) : Except Failure Unit :=
  if job.status = "succeeded" then
    match remote with
    | none => .error .wrongReceipt
    | some remote => do
      ensure (remote.1 = job.destination) .wrongReceipt
      ensure (remote.2.hash = job.hash) .payloadMismatch
      ensure (some remote.2.receipt = job.receipt) .receiptMismatch
  else ensure remote.isNone .unreconciledEffect

/-- The claims of a job, where the record has them. -/
def checkClaims (job : Job) : Except Failure Unit :=
  match job.claims with
  | some claims => ensure (job.attempts ≤ claims && 1 ≤ job.attempts) .deferralAccounting
  | none => .ok ()

/-- One job; its receipt is taken out of `receipts`. -/
def checkJob (receipts : Receipts) (job : Job) : Except Failure Receipts := do
  checkClaims job
  checkReceipt job (receipts.lookup job.id)
  ensure (job.status = "succeeded" || job.status = "blocked" || job.status = "dead")
    .unfinishedWork
  return receipts.erase job.id

/-- The successes of the healthy destination while the other one had its fault. -/
def healthyDuringFault (protocol : Protocol) (healthy : Lane) : ℕ :=
  healthy.requests.countP fun request => request.method = "POST" &&
    (request.status = 200 || request.status = 201) && protocol.faultStart ≤ request.at_ &&
      request.at_ < protocol.faultEnd

/-- The permits of a destination, from issue to completion. -/
def spans (grants : List Grant) (destination : String) : List (Sweep.Span ℚ) :=
  (grants.filter (·.destination = destination)).map fun permit =>
    ⟨permit.issuedAt, permit.finishedAt⟩

/-- The sweep over the permits of each destination. -/
def concurrencyHolds (record : Record) : Bool :=
  (record.grants.map (·.destination)).dedup.all fun destination =>
    Sweep.within record.protocol.clientConcurrency 0
      (Sweep.sorted (Sweep.events (spans record.grants destination)))

/-- The alerts that were read are those of the healthy destination. -/
def checkAlerts (record : Record) (healthy : Lane) : Except Failure Unit := do
  ensure (healthy.alerts = record.alerts) .alertReadback
  ensure (healthy.alerts.any (·.state = "firing")) .noAlert
  ensure (healthy.alerts.getLast?.any (·.state = "cleared")) .alertNotCleared

/-- What is asked of a run of at least five minutes. -/
def checkSustained (record : Record) (healthy : Lane) : Except Failure Unit := do
  ensure record.safeToResume .reconciliation
  ensure (!record.samples.isEmpty && record.samples.all (·.applicationProcesses ≠ 0)) .samples
  ensure (concurrencyHolds record) .clientConcurrency
  ensure (record.samples.all fun sample => sample.queues.all (· ≤ record.protocol.backlogLimit))
    .backlogBound
  if record.protocol.fault ≠ "healthy" then checkAlerts record healthy else pure ()

def Protocol.sustained (protocol : Protocol) : Bool := 300 ≤ protocol.durationSeconds.getD 0

/-- A short run is not asked for sustained progress. -/
def checkDuration (record : Record) (healthy : Lane) : Except Failure Unit :=
  if record.protocol.sustained then checkSustained record healthy else .ok ()

/-- What is reported of a run that passes. -/
structure Report where
  accepted : ℕ
  rejected : ℕ
  effects : ℕ
  healthySuccessesDuringFault : ℕ
  permitIssuanceViolations : ℕ
  rateObservations : Rates
  duplicateEffects : ℕ
  unaccountedJobs : ℕ

/-- `check(record)` -/
def check (record : Record) : Except Failure Report := do
  -- `grants` is keyed by the token
  ensure (record.grants.map (·.token)).Nodup .duplicatePermit
  let buckets := counter (record.grants.map fun p => (p.destination, p.windowId))
  ensure (maximum (buckets.map Prod.snd) ≤ record.protocol.requestsPerSecond) .issuanceBudget
  let (sent, receipts) ← record.destinations.entries.foldlM (checkLane record.grants) ([], ∅)
  ensure sent.Nodup .permitReplay
  let left ← record.jobs.foldlM checkJob receipts
  ensure left.entries.isEmpty .remoteAhead
  let healthy ← (record.destinations.lookup "healthy").elim (.error .noHealthyDestination) .ok
  let during := healthyDuringFault record.protocol healthy
  ensure (record.protocol.minimumHealthyDuringFault ≤ during) .starved
  ensure (record.proposed = record.protocol.proposals) .proposals
  ensure (record.accepted + record.rejected = record.proposed) .admissions
  ensure (record.accepted = record.jobs.length) .acceptance
  checkDuration record healthy
  let rates := rateObservations record
  return {
    accepted := record.accepted
    rejected := record.rejected
    effects := record.jobs.countP (·.status = "succeeded")
    healthySuccessesDuringFault := during
    permitIssuanceViolations := rates.permitIssuanceAbove
    rateObservations := rates
    duplicateEffects := 0
    unaccountedJobs := 0 }

end ControlPlane.Isolation
