import ControlPlane.Model.Capacity

/-!
# Governed commands

The commands of `service.py`: `ingest`, `link`, `propose`, `approve` and `resolve`,
with `validProposal`, the check that approval and dispatch share. Each is one
transaction. `now` is what `clock_timestamp()` reads in it; `utc` and `utc'` are the
readings of the process clock, in the order the code takes them.
-/

namespace ControlPlane

open Framework

namespace Service

/-! ### Source events -/

/-- What the loop over the supplied attributes accumulates. -/
structure Folded where
  state : CustomerState
  provenance : ProvenanceMap
  decisions : Decisions

/-- One round of the loop: a supplied field is decided against what the loop has
accumulated so far, and recorded when accepted. -/
def decideField (source : Source) (event : SourceEvent) (acc : Folded) (field : Field) :
    Folded :=
  match event.attributes.get field with
  | none => acc
  | some value =>
    -- what an earlier field of the event has changed counts already
    let reason := fieldDecision source field value acc.state acc.provenance event.sequence
    if reason = .accepted then
      { state := acc.state.set field value
        provenance := acc.provenance.set field
          ⟨source, event.subject, event.eventId, event.sequence⟩
        decisions := acc.decisions.set field reason }
    else { acc with decisions := acc.decisions.set field reason }

/-- The loop of `ingest` over the fields of an event. -/
def decideFields (source : Source) (event : SourceEvent) (row : Customer) : Folded :=
  Field.all.foldl (decideField source event) ⟨row.state, row.provenance, FieldMap.empty⟩

/-- The customer row after the event. The revision is computed from the provenance. -/
def observed (source : Source) (event : SourceEvent) (row : Customer) : Customer :=
  let folded := decideFields source event row
  -- one step for the event, however many fields it has changed
  { revision := row.revision + (if folded.provenance ≠ row.provenance then 1 else 0)
    state := folded.state
    provenance := folded.provenance }

/-- `any(v == verdict for v in decisions.values())`. -/
def anyDecision (verdict : FieldDecision → Bool) (decisions : Decisions) : Bool :=
  Field.all.any fun field => (decisions.get field).any verdict

/-- The block of `ingest` for an identified customer, up to its result. -/
def process (now : Time) (source : Source) (event : SourceEvent) (customerId : Uuid)
    (row : Customer) (db : Db) : IngestResult × Db :=
  let decisions := (decideFields source event row).decisions
  let after := observed source event row
  let db := { db with customers := db.customers.insert customerId after }
  -- one exception for all the fields that were refused
  let refused := anyDecision (· ≠ .accepted) decisions
  let exceptionId := if refused then some db.nextException else none
  let db := if refused then
      db.exception now .fieldGovernance (.id customerId)
        (.fieldGovernance source event.eventId decisions)
    else db
  (.processed customerId after.revision decisions exceptionId,
    db.audit now source.actor (.id customerId)
      (.sourceDecision row.state after.state event.attributes event.eventId after.provenance
        decisions after.revision))

/-- The final `INSERT INTO cp.events`. -/
def record (now : Time) (source : Source) (event : SourceEvent) (result : IngestResult)
    (db : Db) : Db :=
  { db with events := db.events.insert (source, event.eventId) ⟨digest event, event, result, now⟩ }

/-- The customers whose current email is the asserted one. -/
def candidates (event : SourceEvent) (db : Db) : List Uuid :=
  match event.attributes.email with
  | none => []
  | some email =>
    if email = "" then []
    else (db.customers.entries.filter fun row => row.2.state.email = some email).map (·.1)

/-- The first event of a new customer: its row and its `crm` identity. -/
def enroll (source : Source) (event : SourceEvent) (db : Db) : Db :=
  { db with
    supply := db.supply + 1
    customers := db.customers.insert db.supply Customer.initial
    identities := db.identities.insert (source, event.subject) db.supply }

/-- The answers of `ingest`; `duplicate` repeats the recorded result. -/
inductive IngestReply
  | conflict (exceptionId : ℕ)
  | duplicate (result : IngestResult)
  | recorded (result : IngestResult)
deriving DecidableEq

/-- `ingest(source, event)` -/
def ingest (now : Time) (source : Source) (event : SourceEvent) (db : Db) :
    Outcome IngestReply :=
  match db.events.lookup (source, event.eventId) with
  | some previous =>
    -- the same id with another body
    if previous.hash ≠ digest event then
      .ok (.conflict db.nextException,
        (db.exception now .idempotencyConflict (.text event.eventId)
          (.idempotencyConflict source previous.hash (digest event))).audit now source.actor
            (.text event.eventId) (.sourceConflict db.nextException))
    else
      .ok (.duplicate previous.result,
        db.audit now source.actor (.text event.eventId) (.sourceDuplicate (digest event)))
  | none =>
    match db.identities.lookup (source, event.subject) with
    | some customerId =>
      match db.customers.lookup customerId with
      | none => .error .customerNotFound
      | some row =>
        -- a subject that is linked
        let processed := process now source event customerId row db
        .ok (.recorded processed.1, record now source event processed.1 processed.2)
    | none =>
      -- Email is a discovery hint, never proof that records belong to one person.
      if source ≠ .crm ∨ candidates event db ≠ [] ∨ event.attributes.email = none ∨
          event.attributes.email = some "" then
        let reason := if 1 < (candidates event db).length then .identityAmbiguous
          else .identityReviewRequired
        let result := .exception reason db.nextException
        .ok (.recorded result, record now source event result
          ((db.exception now reason (.text event.subject)
            (.identityReview source event.eventId (candidates event db))).audit now
              source.actor (.text event.subject) (.identityException result)))
      else
        -- a new customer, which only `crm` may bring
        let processed := process now source event db.supply Customer.initial
          (enroll source event db)
        .ok (.recorded processed.1, record now source event processed.1 processed.2)

/-! ### Identity links -/

/-- Whether another subject of the source is linked to the customer. -/
def otherSubject (command : Contract.Link) (db : Db) : Bool :=
  db.identities.entries.any fun row =>
    row.1.1 = command.source && row.2 = command.customerId && row.1.2 ≠ command.subject

/-- `link(actor, command)` -/
def link (now : Time) (actor : Actor) (command : Contract.Link) (db : Db) : Outcome Unit :=
  match db.customers.lookup command.customerId with
  | none => .error .customerNotFound
  | some row =>
    if row.revision ≠ command.expectedRevision then .error .staleContext
    else
      let existing := db.identities.lookup (command.source, command.subject)
      -- a subject stays with its customer, and a customer with its subject
      if existing.any (· ≠ command.customerId) then .error .identityRebindingForbidden
      else if otherSubject command db then
        .error .multipleAuthoritativeRecordsRequireReviewedMigration
      else
        -- `ON CONFLICT DO NOTHING`: an existing row is this very link
        let db := if existing.isSome then db
          else { db with identities :=
            db.identities.insert (command.source, command.subject) command.customerId }
        .ok ((), db.audit now actor (.id command.customerId) (.identityLink command))

/-! ### Proposals -/

/-- What `propose` returns. -/
inductive ProposeReply
  | closed
  | conflict
  | decided (id : Uuid) (decision : Decision) (reason : Reason)
deriving DecidableEq

/-- The row `propose` inserts. -/
def proposalRow (now : Time) (actor : Actor) (command : Contract.Proposal)
    (decision : Decision × Reason) : Proposal where
  customerId := command.customerId
  actor := actor
  hash := digest command
  body := command
  policyHash := policyHash
  revision := command.expectedRevision
  decision := decision.1
  reason := decision.2
  expiresAt := now + seconds policy.proposalTtlSeconds
  approvedBy := none
  approvedUntil := none
  createdAt := now

/-- The writes of an admitted `propose`: the proposal, its route, and the job of an
allowed action or the exception of a denied one. -/
def enqueue (now : Time) (actor : Actor) (command : Contract.Proposal) (row : Customer)
    (decision : Decision × Reason) (destination : Option String) (db : Db) : Db :=
  let db := { db with proposals :=
    db.proposals.insert command.requestId (proposalRow now actor command decision) }
  let db := Capacity.bind command.requestId destination db
  let db := match decision.1 with
    | .allow => { db with jobs := db.jobs.insert command.requestId (Job.inserted now) }
    | .deny => db.exception now .proposalDenied (.id command.requestId) (.denied decision.2)
    | .approval => db
  db.audit now actor (.id command.requestId)
    (.proposal command row.state row.provenance decision.1 decision.2 (digest command))

/-- `propose(actor, command)` -/
def propose (now : Time) (actor : Actor) (command : Contract.Proposal) (db : Db) :
    Outcome ProposeReply :=
  if db.executionOpen = false then .ok (.closed, db)
  else
    match db.customers.lookup command.customerId with
    | none => .error .customerNotFound
    | some row =>
      match db.proposals.lookup command.requestId with
      | some previous =>
        -- a request id stands for one body of one actor
        if previous.hash ≠ digest command ∨ previous.actor ≠ actor then
          .ok (.conflict, (db.exception now .proposalIdempotencyConflict
            (.id command.requestId) (.proposalConflict actor)).audit now actor
              (.id command.requestId) .proposalConflict)
        else .ok (.decided command.requestId previous.decision previous.reason, db)
      | none =>
        -- a denied proposal is recorded too, bound to no destination
        let decision := actionDecision command.action row.state row.revision
          command.expectedRevision
        match (if decision.1 ≠ .deny then Capacity.admission now row.state.owner db
            else .ok none) with
        | .error fault => .error fault
        | .ok destination =>
          .ok (.decided command.requestId decision.1 decision.2,
            enqueue now actor command row decision destination db)

/-- `valid_proposal(proposal, row, now, require_approval)`: `none` when valid. -/
def validProposal (proposal : Proposal) (row : Customer) (utc : Time)
    (requireApproval : Bool) : Option Reason :=
  if proposal.policyHash ≠ policyHash then some .policyChanged
  else if proposal.expiresAt ≤ utc then some .proposalExpired
  else
    -- the policy is asked again, for the row as it is now
    let decision := actionDecision proposal.body.action row.state row.revision
      proposal.revision
    if decision.1 = .deny then some decision.2
    else if decision.1 = .approval ∧ requireApproval then
      if proposal.approvedBy = none then some .approvalMissing
      else if proposal.approvedUntil.any (· ≤ utc) then some .approvalExpired
      else none
    else none

/-- What `approve` returns. -/
inductive ApproveReply
  | refused (reason : Reason)
  | duplicate (approved : Bool)
  | approved
deriving DecidableEq

/-- The reason `approve` refuses, in the order the code assigns it. -/
def approvalReason (actor : Actor) (command : Contract.Approval) (proposal : Proposal)
    (row : Customer) (utc : Time) : Option Reason :=
  -- each later assignment overrides the earlier one
  let reason := validProposal proposal row utc false
  let reason := if proposal.decision ≠ .approval then some .notApprovable else reason
  let reason := if command.expectedRevision ≠ proposal.revision then
    some .approvalRevisionMismatch else reason
  if actor = proposal.actor then some .selfApprovalForbidden else reason

/-- The end of an approval, never later than the proposal's own. -/
def approvalUntil (proposal : Proposal) (utc : Time) : Time :=
  min proposal.expiresAt (utc + seconds policy.approvalTtlSeconds)

/-- The writes of a granted approval. -/
def grant (now : Time) (actor : Actor) (id : Uuid) (proposal : Proposal) (utc : Time)
    (db : Db) : Db :=
  let until_ := approvalUntil proposal utc
  let db := { db with
    proposals := db.proposals.insert id
      { proposal with approvedBy := some actor, approvedUntil := some until_ } }
  -- `ON CONFLICT DO NOTHING`
  let db := if (db.jobs.lookup id).isSome then db
    else { db with jobs := db.jobs.insert id (Job.inserted now) }
  db.audit now actor (.id id) (.approval proposal.hash proposal.revision until_)

/-- `approve(actor, proposal_id, command)`; the process clock is read twice. -/
def approve (now utc utc' : Time) (actor : Actor) (id : Uuid) (command : Contract.Approval)
    (db : Db) : Outcome ApproveReply :=
  if db.executionOpen = false then .ok (.refused .recoveryClosed, db)
  else
    match db.proposals.lookup id with
    | none => .error .proposalNotFound
    | some proposal =>
      match db.customers.lookup proposal.customerId with
      | none => .error .customerNotFound
      | some row =>
        match approvalReason actor command proposal row utc with
        | some reason =>
          .ok (.refused reason,
            (db.audit now actor (.id id) (.approvalDenied reason)).exception now .approvalDenied
              (.id id) (.denied reason))
        | none =>
          -- a second approval changes nothing
          if proposal.approvedBy.isSome then
            .ok (.duplicate (proposal.approvedUntil.any (utc' < ·)), db)
          else .ok (.approved, grant now actor id proposal utc' db)

/-! ### Exceptions -/

/-- The row of `cp.exceptions` under its identity value. -/
def exceptionRow (db : Db) : ℕ → Option ExceptionRow
  | 0 => none
  | n + 1 => db.exceptions[n]?

/-- `UPDATE cp.exceptions SET status=.. WHERE id=..`. -/
def closeException (id : ℕ) (row : ExceptionRow) (status : ExceptionStatus) (db : Db) : Db :=
  { db with exceptions := db.exceptions.set (id - 1) { row with status := status } }

/-- The row a requeue writes: payload and key are preserved. -/
def requeued (now : Time) (job : Job) : Job :=
  { job with status := .retry, attempts := 0, availableAt := now }

/-- The requeue branch of `resolve`: the job a dead-letter exception belongs to gets a
new attempt budget. -/
def requeue (now : Time) (row : ExceptionRow) (db : Db) : Except Fault Db :=
  if row.category ≠ .retryExhausted ∧ row.category ≠ .remoteRejected then
    .error .requiresNewSourceEventOrProposal
  else
    match row.subject with
    | .text _ | .exception _ => .error .constraintViolation
    | .id key =>
      match db.jobs.lookup key with
      | none => .error .jobNotDead
      | some job =>
        -- only a dead job starts over
        if job.status ≠ .dead then .error .jobNotDead
        else
          match Capacity.readmission now key db with
          | .error fault => .error fault
          | .ok () =>
            .ok { db with jobs := db.jobs.insert key (requeued now job) }

/-- `resolve(actor, exception_id, command)` -/
def resolve (now : Time) (actor : Actor) (id : ℕ) (command : Contract.Resolution) (db : Db) :
    Outcome ExceptionStatus :=
  match exceptionRow db id with
  | none => .error .exceptionNotFound
  | some row =>
    if row.status ≠ .opened then .error .exceptionAlreadyResolved
    else
      match command.disposition with
      | .acknowledge =>
        .ok (.acknowledged, (closeException id row .acknowledged db).audit now actor
          (.exception id) (.exceptionResolution command))
      | .requeue =>
        match requeue now row db with
        | .error fault => .error fault
        | .ok db' =>
          .ok (.requeued, (closeException id row .requeued db').audit now actor
            (.exception id) (.exceptionResolution command))

end Service
end ControlPlane
