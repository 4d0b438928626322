import ControlPlane.Framework.Contract
import ControlPlane.Framework.Table
import ControlPlane.Model.Policy
import Mathlib.Data.Int.Notation
import Mathlib.Data.Multiset.Basic

/-!
# Contracts and tables

The input contracts of `contracts.py`, the rows of the three migrations
(`schema.sql`, `capacity.sql`, `recovery.sql`) and the database state `Db`.

Times are microseconds. UUIDs are natural numbers: those a caller chooses (request
ids) are arbitrary, those the program draws with `uuid4` come from the counter
`Db.supply`, so that no two draws agree.

`Business` collects the tables that the recovery fingerprint covers; `Db` adds the
recovery tables and the sequences that are not rows. `exceptions` and `auditLog` are
the two tables keyed by an identity column: the row with id `n` is the `n`-th row.
-/

namespace ControlPlane

open Framework

/-- `timestamptz`, in microseconds. -/
abbrev Time : Type := ℤ

/-- Times are counted in microseconds. -/
def seconds (n : ℤ) : Time := n * 1000000

/-- Numbers stand for identifiers; `uuid4()` draws a fresh one. -/
abbrev Uuid : Type := ℕ

/-! ### Contracts -/

/-- `SourceEvent`. -/
structure SourceEvent where
  eventId : String
  subject : String
  sequence : ℕ
  attributes : FieldMap Field.Value
deriving DecidableEq

namespace Contract

/-- The templates a marketing message may name. -/
inductive Template
  | welcome | productUpdate
deriving DecidableEq

/-- The command `Proposal`. -/
structure Proposal where
  requestId : Uuid
  customerId : Uuid
  expectedRevision : ℕ
  action : Action
  rationale : String
  template : Template
deriving DecidableEq

/-- The command `Approval`, with the revision that the approver has seen. -/
structure Approval where
  expectedRevision : ℕ
deriving DecidableEq

/-- What an operator can do about an exception. -/
inductive Disposition
  | acknowledge | requeue
deriving DecidableEq

/-- The command `Resolution`. -/
structure Resolution where
  disposition : Disposition
  note : String
deriving DecidableEq

/-- The command `Link`, which gives a subject of a source to a customer. -/
structure Link where
  source : Source
  subject : String
  customerId : Uuid
  expectedRevision : ℕ
  evidence : String
deriving DecidableEq

end Contract

/-- The payload of a mutation: the template for a marketing contact, the profile
snapshot otherwise. -/
inductive Payload
  | marketing (email : String) (template : Contract.Template)
  | profile (fields : CustomerState)
deriving DecidableEq

/-- What is sent to the receiver, and the `Mutation` contract it is parsed by. -/
structure Mutation where
  customerId : Uuid
  action : Action
  revision : ℕ
  payload : Payload
deriving DecidableEq

/-- The members of a receipt object that the program reads back; any of them may be
missing from a response. -/
structure RemoteResult (Hash : Type) where
  key : Option Uuid
  receipt : Option Uuid
  hash : Option Hash
  committedAt : Option Time
deriving DecidableEq

/-! ### Tables of migration 1 -/

/-- A row of `cp.customers`. -/
structure Customer where
  revision : ℕ
  state : CustomerState
  provenance : ProvenanceMap
deriving DecidableEq

/-- The column defaults of `cp.customers`. -/
def Customer.initial : Customer where
  revision := 0
  state := { (FieldMap.empty : CustomerState) with lifecycle := some .lead }
  provenance := FieldMap.empty

/-- What became of each field of an event. -/
abbrev Decisions : Type := FieldMap fun _ => FieldDecision

/-- Categories of `cp.exceptions`. -/
inductive Category
  | idempotencyConflict | identityAmbiguous | identityReviewRequired | fieldGovernance
  | proposalIdempotencyConflict | proposalDenied | approvalDenied | retryExhausted
  | remoteRejected | executionBlocked | invalidContract
deriving DecidableEq

/-- The recorded outcome of a source event. -/
inductive IngestResult
  | exception (reason : Category) (exceptionId : ℕ)
  | processed (customerId : Uuid) (revision : ℕ) (decisions : Decisions)
      (exceptionId : Option ℕ)
deriving DecidableEq

/-- A row of `cp.events`. -/
structure Event where
  hash : Digest SourceEvent
  body : SourceEvent
  result : IngestResult
  receivedAt : Time
deriving DecidableEq

/-- A row of `cp.proposals`. -/
structure Proposal where
  customerId : Uuid
  actor : Actor
  hash : Digest Contract.Proposal
  body : Contract.Proposal
  policyHash : Digest Policy
  revision : ℕ
  decision : Decision
  reason : Reason
  expiresAt : Time
  approvedBy : Option Actor
  approvedUntil : Option Time
  createdAt : Time
deriving DecidableEq

/-- The values of `cp.jobs.status`. -/
inductive JobStatus
  | ready | leased | retry | succeeded | blocked | dead
deriving DecidableEq

/-- Why `capacity.destination` refuses a route. -/
inductive RouteFault
  | legacyRouteRequiresReview | invalidDestinationUrl | plaintextDestinationNotLoopback
  | destinationCredentialMissing
deriving DecidableEq

/-- The reasons `finish` records on a job. -/
inductive JobReason
  | denied (reason : Reason) | route (fault : RouteFault)
  | remoteIdentityConflict | reconciledCommittedEffect | reconciliationUnavailable
  | remoteCommitted | rateLimited | remoteRejected | remoteServerError
  | remoteOutcomeUnknown | retryExhausted
deriving DecidableEq

/-- A row of `cp.jobs`. -/
structure Job where
  status : JobStatus
  attempts : ℕ
  availableAt : Time
  leaseUntil : Option Time
  leaseToken : Option Uuid
  uncertain : Bool
  mutation : Option Mutation
  reason : Option JobReason
  remoteResult : Option (RemoteResult (Digest Mutation))
deriving DecidableEq

/-- `INSERT INTO cp.jobs(id,status) VALUES (..,'ready')`: the column defaults. -/
def Job.inserted (now : Time) : Job where
  status := .ready
  attempts := 0
  availableAt := now
  leaseUntil := none
  leaseToken := none
  uncertain := false
  mutation := none
  reason := none
  remoteResult := none

/-- The `subject` column: a text from outside or the text of an id. -/
inductive Subject
  | text (value : String)
  | id (value : Uuid)
  | exception (value : ℕ)
deriving DecidableEq

/-- The values of `cp.exceptions.status`. -/
inductive ExceptionStatus
  | opened | acknowledged | requeued
deriving DecidableEq

/-- What `cp.exceptions.detail` holds, by the category of the exception. -/
inductive ExceptionDetail
  | idempotencyConflict (source : Source) (originalHash incomingHash : Digest SourceEvent)
  | identityReview (source : Source) (eventId : String) (candidates : List Uuid)
  | fieldGovernance (source : Source) (eventId : String) (decisions : Decisions)
  | proposalConflict (actor : Actor)
  | denied (reason : Reason)
  | execution (reason : JobReason) (uncertain : Bool)
  | invalidContract (errors : List Violation)
deriving DecidableEq

/-- A row of `cp.exceptions`. -/
structure ExceptionRow where
  category : Category
  subject : Subject
  detail : ExceptionDetail
  status : ExceptionStatus
  createdAt : Time
deriving DecidableEq

/-- The `kind` and `detail` columns of an audit record. -/
inductive AuditDetail
  | sourceConflict (exceptionId : ℕ)
  | sourceDuplicate (hash : Digest SourceEvent)
  | identityException (result : IngestResult)
  | sourceDecision (before after : CustomerState) (incoming : FieldMap Field.Value)
      (eventId : String) (provenance : ProvenanceMap) (decisions : Decisions) (revision : ℕ)
  | identityLink (command : Contract.Link)
  | proposalConflict
  | proposal (body : Contract.Proposal) (state : CustomerState) (provenance : ProvenanceMap)
      (decision : Decision) (reason : Reason) (hash : Digest Contract.Proposal)
  | approvalDenied (reason : Reason)
  | approval (hash : Digest Contract.Proposal) (revision : ℕ) (until_ : Time)
  | claim (attempt : ℕ) (recovered : Bool)
  | dispatchAuthorized (revision : ℕ) (mutationHash : Digest Mutation) (attempt : ℕ)
  | executionResult (status : JobStatus) (reason : JobReason) (attempt : ℕ)
      (remote : Option (RemoteResult (Digest Mutation)))
  | exceptionResolution (command : Contract.Resolution)
  | invalidContract (exceptionId : ℕ) (errors : List Violation)
deriving DecidableEq

/-- A row of `cp.audit`. -/
structure AuditRow where
  recordedAt : Time
  actor : Actor
  subject : Subject
  policyHash : Digest Policy
  detail : AuditDetail
deriving DecidableEq

/-- `kind = 'source_decision'`. -/
def AuditRow.isDecision (row : AuditRow) : Bool :=
  match row.detail with
  | .sourceDecision .. => true
  | _ => false

/-! ### Tables of migration 2 -/

/-- The parts of a destination URL that `urlsplit` reports; an absent part is empty. -/
structure Url where
  scheme : String
  username : String
  password : String
  hostname : String
  query : String
  fragment : String
deriving DecidableEq

/-- A row of `cp.destinations`. -/
structure Destination where
  url : Url
  credentialEnv : String
  requestsPerSecond : ℕ
  concurrency : ℕ
  backlogLimit : ℕ
deriving DecidableEq

/-- A row of `cp.capacity_state`; `none` is the default `-infinity`. -/
structure CapacityState where
  windowId : ℤ
  used : ℕ
  nextProbe : Option Time
  lastServed : Option Time
deriving DecidableEq

/-- The kinds of requests a permit is for. -/
inductive RequestKind
  | dispatch | receipt
deriving DecidableEq

/-- A row of `cp.request_permits`. -/
structure Permit where
  destination : String
  expires : Time
  kind : RequestKind
deriving DecidableEq

/-- A row of `cp.capacity_requests`. -/
structure CapacityRequest where
  destination : String
  windowId : ℤ
  kind : RequestKind
  issuedAt : Time
deriving DecidableEq

/-- A row of `cp.capacity_completions`. -/
structure CapacityCompletion where
  finishedAt : Time
  failed : Bool
deriving DecidableEq

/-! ### Tables of migration 3 -/

/-- The values of `cp.recovery_gate.mode`. -/
inductive GateMode
  | opened | closed
deriving DecidableEq

/-- The row of `cp.recovery_gate`. -/
structure Gate where
  mode : GateMode
  epoch : ℕ
  sessionId : Option Uuid
  approvedProof : Option Uuid
  approvedAt : Option Time
deriving DecidableEq

/-- The recovery binding of a coordinator. -/
structure Binding where
  environment : String
  deploymentRevision : String
  sourceDatabase : String
  restoredDatabase : String
  recoveryPoint : String
deriving DecidableEq

/-- The values of `cp.recovery_sessions.status`. -/
inductive SessionStatus
  | closed | approved | resumed | blocked
deriving DecidableEq

/-- A row of `cp.recovery_sessions`. -/
structure Session where
  binding : Binding
  bindingHash : Digest Binding
  createdAt : Time
  status : SessionStatus
deriving DecidableEq

/-! ### The business tables -/

/-- Every `cp` table except the recovery tables. -/
structure Business where
  customers : Table Uuid Customer
  identities : Table (Source × String) Uuid
  events : Table (Source × String) Event
  proposals : Table Uuid Proposal
  jobs : Table Uuid Job
  exceptions : List ExceptionRow
  auditLog : List AuditRow
  destinations : Table String Destination
  destinationRoutes : Table String String
  jobRoutes : Table Uuid String
  capacityState : Table String CapacityState
  requestPermits : Table Uuid Permit
  capacityRequests : Table Uuid CapacityRequest
  capacityCompletions : Table Uuid CapacityCompletion
deriving DecidableEq

/-- The rows of a keyed table, in no order. -/
abbrev Rows (κ ρ : Type) : Type := Multiset (Sigma fun _ : κ => ρ)

/-- The rows of every business table, in no order: what `fingerprint` hashes. -/
structure ControlRows where
  customers : Rows Uuid Customer
  identities : Rows (Source × String) Uuid
  events : Rows (Source × String) Event
  proposals : Rows Uuid Proposal
  jobs : Rows Uuid Job
  exceptions : List ExceptionRow
  auditLog : List AuditRow
  destinations : Rows String Destination
  destinationRoutes : Rows String String
  jobRoutes : Rows Uuid String
  capacityState : Rows String CapacityState
  requestPermits : Rows Uuid Permit
  capacityRequests : Rows Uuid CapacityRequest
  capacityCompletions : Rows Uuid CapacityCompletion
deriving DecidableEq

/-- The rows of the control tables that a fingerprint is taken of. -/
def Business.rows (b : Business) : ControlRows where
  customers := b.customers.rows
  identities := b.identities.rows
  events := b.events.rows
  proposals := b.proposals.rows
  jobs := b.jobs.rows
  exceptions := b.exceptions
  auditLog := b.auditLog
  destinations := b.destinations.rows
  destinationRoutes := b.destinationRoutes.rows
  jobRoutes := b.jobRoutes.rows
  capacityState := b.capacityState.rows
  requestPermits := b.requestPermits.rows
  capacityRequests := b.capacityRequests.rows
  capacityCompletions := b.capacityCompletions.rows

end ControlPlane
