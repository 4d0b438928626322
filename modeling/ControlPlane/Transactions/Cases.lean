import ControlPlane.Model.Transaction

/-!
# What each transaction can commit

One inversion for each transaction: an inductive predicate whose constructors are the
ways the transaction can commit, each with the guards that held in the state it started
in, and a theorem that a committed answer is one of them. Later proofs take a committed
transaction apart with `cases` and never unfold its definition.
-/

namespace ControlPlane

open Framework

/-! ### Service commands -/

namespace Service

/-- `ingest` commits a conflict or a duplicate of a stored event, an event held for
identity review, or an event observed on a customer. The observed customer is the one
its identity row names, in the state itself or after `enroll`. -/
inductive Ingested (now : Time) (source : Source) (event : SourceEvent) (db : Db) :
    IngestReply → Db → Prop
  | conflict (previous : Event)
      (h_event : db.events.lookup (source, event.eventId) = some previous) :
      Ingested now source event db (.conflict db.nextException)
        ((db.exception now .idempotencyConflict (.text event.eventId)
          (.idempotencyConflict source previous.hash (digest event))).audit now source.actor
            (.text event.eventId) (.sourceConflict db.nextException))
  | duplicate (previous : Event)
      (h_event : db.events.lookup (source, event.eventId) = some previous) :
      Ingested now source event db (.duplicate previous.result)
        (db.audit now source.actor (.text event.eventId) (.sourceDuplicate (digest event)))
  | reviewed (reason : Category)
      (h_event : db.events.lookup (source, event.eventId) = none)
      (h_reason : reason = .identityAmbiguous ∨ reason = .identityReviewRequired) :
      Ingested now source event db (.recorded (.exception reason db.nextException))
        (record now source event (.exception reason db.nextException)
          ((db.exception now reason (.text event.subject)
            (.identityReview source event.eventId (candidates event db))).audit now
              source.actor (.text event.subject)
              (.identityException (.exception reason db.nextException))))
  | known (customerId : Uuid) (row : Customer)
      (h_event : db.events.lookup (source, event.eventId) = none)
      (h_identity : db.identities.lookup (source, event.subject) = some customerId)
      (h_row : db.customers.lookup customerId = some row) :
      Ingested now source event db (.recorded (process now source event customerId row db).1)
        (record now source event (process now source event customerId row db).1
          (process now source event customerId row db).2)
  | enrolled
      (h_event : db.events.lookup (source, event.eventId) = none)
      (h_identity : db.identities.lookup (source, event.subject) = none)
      (h_source : source = .crm) (h_email : event.attributes.email ≠ none)
      (h_named : event.attributes.email ≠ some "") (h_unknown : candidates event db = []) :
      Ingested now source event db
        (.recorded (process now source event db.supply Customer.initial
          (enroll source event db)).1)
        (record now source event
          (process now source event db.supply Customer.initial (enroll source event db)).1
          (process now source event db.supply Customer.initial (enroll source event db)).2)

/-- The cases of `ingest`. -/
theorem ingest_cases {now : Time} {source : Source} {event : SourceEvent} {db db' : Db}
    {reply : IngestReply} (h : ingest now source event db = .ok (reply, db')) :
    Ingested now source event db reply db' := by
  -- one case per return of the source
  unfold ingest at h
  split at h
  · rename_i previous h_event
    split at h
    · cases h
      exact .conflict previous h_event
    · cases h
      exact .duplicate previous h_event
  · rename_i h_event
    split at h
    · rename_i customerId h_identity
      split at h
      · cases h
      · rename_i row h_row
        cases h
        exact .known customerId row h_event h_identity h_row
    · rename_i h_identity
      split at h
      · cases h
        refine .reviewed _ h_event ?_
        split
        · exact .inl rfl
        · exact .inr rfl
      · rename_i h_new
        cases h
        rw [not_or, not_or, not_or] at h_new
        exact .enrolled h_event h_identity (not_not.mp h_new.1) h_new.2.2.1 h_new.2.2.2
          (not_not.mp h_new.2.1)

/-- The answer and the writes of a first delivery for a linked subject. -/
theorem ingest_known {db : Db} (now : Time) {source : Source} {event : SourceEvent} {id : Uuid}
    {row : Customer} (h_event : db.events.lookup (source, event.eventId) = none)
    (h_identity : db.identities.lookup (source, event.subject) = some id)
    (h_row : db.customers.lookup id = some row) :
    ingest now source event db =
      .ok (.recorded (process now source event id row db).1,
        record now source event (process now source event id row db).1
          (process now source event id row db).2) := by
  unfold ingest
  simp only [h_event, h_identity, h_row]

/-- An event that is stored already is answered with what was recorded for it. -/
theorem ingest_duplicate {db : Db} (now : Time) {source : Source} {event : SourceEvent}
    {previous : Event} (h_event : db.events.lookup (source, event.eventId) = some previous)
    (h_hash : previous.hash = digest event) :
    ingest now source event db = .ok (.duplicate previous.result,
      db.audit now source.actor (.text event.eventId) (.sourceDuplicate (digest event))) := by
  unfold ingest
  simp only [h_event, h_hash, ne_eq, not_true_eq_false, if_false]

/-- Another event under a stored identity is a conflict. -/
theorem ingest_conflict {db : Db} (now : Time) {source : Source} {event : SourceEvent}
    {previous : Event} (h_event : db.events.lookup (source, event.eventId) = some previous)
    (h_hash : previous.hash ≠ digest event) :
    ingest now source event db = .ok (.conflict db.nextException,
      (db.exception now .idempotencyConflict (.text event.eventId)
        (.idempotencyConflict source previous.hash (digest event))).audit now source.actor
          (.text event.eventId) (.sourceConflict db.nextException)) := by
  unfold ingest
  simp only [h_event, ne_eq, h_hash, not_false_eq_true, if_true]

/-- The condition under which an event of an unlinked subject is held for review. -/
def Reviewed (source : Source) (event : SourceEvent) (db : Db) : Prop :=
  source ≠ .crm ∨ candidates event db ≠ [] ∨ event.attributes.email = none ∨
    event.attributes.email = some ""

/-- A new subject that needs a review gets an exception. -/
theorem ingest_reviewed {db : Db} (now : Time) {source : Source} {event : SourceEvent}
    (h_event : db.events.lookup (source, event.eventId) = none)
    (h_identity : db.identities.lookup (source, event.subject) = none)
    (h_reviewed : Reviewed source event db) :
    ∃ reason, reason = (if 1 < (candidates event db).length then Category.identityAmbiguous
        else .identityReviewRequired) ∧
      ingest now source event db =
        .ok (.recorded (.exception reason db.nextException),
          record now source event (.exception reason db.nextException)
            ((db.exception now reason (.text event.subject)
              (.identityReview source event.eventId (candidates event db))).audit now
                source.actor (.text event.subject)
                (.identityException (.exception reason db.nextException)))) := by
  refine ⟨_, rfl, ?_⟩
  unfold Reviewed at h_reviewed
  unfold ingest
  simp only [h_event, h_identity, if_pos h_reviewed]

/-- Any other new subject is enrolled. -/
theorem ingest_enrolled {db : Db} (now : Time) {source : Source} {event : SourceEvent}
    (h_event : db.events.lookup (source, event.eventId) = none)
    (h_identity : db.identities.lookup (source, event.subject) = none)
    (h_reviewed : ¬ Reviewed source event db) :
    ingest now source event db =
      .ok (.recorded (process now source event db.supply Customer.initial
          (enroll source event db)).1,
        record now source event
          (process now source event db.supply Customer.initial
            (enroll source event db)).1
          (process now source event db.supply Customer.initial
            (enroll source event db)).2) := by
  unfold Reviewed at h_reviewed
  unfold ingest
  simp only [h_event, h_identity, if_neg h_reviewed]

/-- `link` adds the identity row, unless it exists already. -/
inductive Linked (now : Time) (actor : Actor) (command : Contract.Link) (db : Db) : Db → Prop
  | known (row : Customer) (h_row : db.customers.lookup command.customerId = some row)
      (h_revision : row.revision = command.expectedRevision)
      (h_identity : db.identities.lookup (command.source, command.subject) =
        some command.customerId) :
      Linked now actor command db
        (db.audit now actor (.id command.customerId) (.identityLink command))
  | added (row : Customer) (h_row : db.customers.lookup command.customerId = some row)
      (h_revision : row.revision = command.expectedRevision)
      (h_identity : db.identities.lookup (command.source, command.subject) = none)
      (h_other : otherSubject command db = false) :
      Linked now actor command db
        (Db.audit { db with identities :=
            db.identities.insert (command.source, command.subject) command.customerId }
          now actor (.id command.customerId) (.identityLink command))

/-- The cases of `link`. -/
theorem link_cases {now : Time} {actor : Actor} {command : Contract.Link} {db db' : Db}
    {reply : Unit} (h : link now actor command db = .ok (reply, db')) :
    Linked now actor command db db' := by
  unfold link at h
  split at h
  · cases h
  rename_i row h_row
  split at h
  · cases h
  rename_i h_revision
  dsimp only at h
  split at h
  · cases h
  rename_i h_same
  split at h
  · cases h
  rename_i h_other
  cases h
  cases h_identity : db.identities.lookup (command.source, command.subject) with
  | none =>
    exact .added row h_row (not_not.mp h_revision) h_identity (by simpa using h_other)
  | some customerId =>
    obtain rfl : customerId = command.customerId := by
      simpa [h_identity] using h_same
    exact .known row h_row (not_not.mp h_revision) h_identity

/-- `propose` answers a closed gate, a conflicting or a repeated request id, or admits
the proposal. -/
inductive Proposed (now : Time) (actor : Actor) (command : Contract.Proposal) (db : Db) :
    ProposeReply → Db → Prop
  | closed : Proposed now actor command db .closed db
  | conflict (previous : Proposal)
      (h_previous : db.proposals.lookup command.requestId = some previous) :
      Proposed now actor command db .conflict
        ((db.exception now .proposalIdempotencyConflict (.id command.requestId)
          (.proposalConflict actor)).audit now actor (.id command.requestId) .proposalConflict)
  | repeated (previous : Proposal)
      (h_previous : db.proposals.lookup command.requestId = some previous)
      (h_hash : previous.hash = digest command) (h_actor : previous.actor = actor) :
      Proposed now actor command db
        (.decided command.requestId previous.decision previous.reason) db
  | admitted (row : Customer) (destination : Option String)
      (h_open : db.executionOpen = true)
      (h_row : db.customers.lookup command.customerId = some row)
      (h_fresh : db.proposals.lookup command.requestId = none)
      (h_destination : (if (actionDecision command.action row.state row.revision
          command.expectedRevision).1 ≠ .deny then Capacity.admission now row.state.owner db
        else .ok none) = .ok destination) :
      Proposed now actor command db
        (.decided command.requestId
          (actionDecision command.action row.state row.revision command.expectedRevision).1
          (actionDecision command.action row.state row.revision command.expectedRevision).2)
        (enqueue now actor command row
          (actionDecision command.action row.state row.revision command.expectedRevision)
          destination db)

/-- The cases of `propose`. -/
theorem propose_cases {now : Time} {actor : Actor} {command : Contract.Proposal} {db db' : Db}
    {reply : ProposeReply} (h : propose now actor command db = .ok (reply, db')) :
    Proposed now actor command db reply db' := by
  unfold propose at h
  split at h
  · cases h
    exact .closed
  rename_i h_open
  split at h
  · cases h
  rename_i row h_row
  split at h
  · rename_i previous h_previous
    split at h
    · cases h
      exact .conflict previous h_previous
    · rename_i h_same
      rw [not_or, not_not, not_not] at h_same
      cases h
      exact .repeated previous h_previous h_same.1 h_same.2
  -- a new proposal is decided, and admitted if its destination has room
  · rename_i h_fresh
    dsimp only at h
    split at h
    · cases h
    · rename_i destination h_destination
      cases h
      exact .admitted row destination (by simpa using h_open) h_row h_fresh h_destination

/-- `approve` answers a closed gate, refuses, repeats an approval, or grants one. -/
inductive Approved (now utc utc' : Time) (actor : Actor) (id : Uuid)
    (command : Contract.Approval) (db : Db) : ApproveReply → Db → Prop
  | closed : Approved now utc utc' actor id command db (.refused .recoveryClosed) db
  | refused (reason : Reason) :
      Approved now utc utc' actor id command db (.refused reason)
        ((db.audit now actor (.id id) (.approvalDenied reason)).exception now .approvalDenied
          (.id id) (.denied reason))
  | repeated (approved : Bool) :
      Approved now utc utc' actor id command db (.duplicate approved) db
  | granted (proposal : Proposal) (row : Customer)
      (h_open : db.executionOpen = true)
      (h_proposal : db.proposals.lookup id = some proposal)
      (h_row : db.customers.lookup proposal.customerId = some row)
      (h_reason : approvalReason actor command proposal row utc = none)
      (h_new : proposal.approvedBy = none) :
      Approved now utc utc' actor id command db .approved
        (grant now actor id proposal utc' db)

/-- The cases of `approve`. -/
theorem approve_cases {now utc utc' : Time} {actor : Actor} {id : Uuid}
    {command : Contract.Approval} {db db' : Db} {reply : ApproveReply}
    (h : approve now utc utc' actor id command db = .ok (reply, db')) :
    Approved now utc utc' actor id command db reply db' := by
  unfold approve at h
  split at h
  · cases h
    exact .closed
  rename_i h_open
  split at h
  · cases h
  rename_i proposal h_proposal
  split at h
  · cases h
  rename_i row h_row
  split at h
  · cases h
    exact .refused _
  -- no reason to refuse is left, so the approval counts, once
  rename_i h_reason
  split at h
  · cases h
    exact .repeated _
  · rename_i h_new
    cases h
    exact .granted proposal row (by simpa using h_open) h_proposal h_row h_reason
      (by simpa using h_new)

/-- The approval reasons, inverted: an approval that nothing refuses. -/
theorem approvalReason_eq_none {actor : Actor} {command : Contract.Approval}
    {proposal : Proposal} {row : Customer} {utc : Time}
    (h : approvalReason actor command proposal row utc = none) :
    actor ≠ proposal.actor ∧ command.expectedRevision = proposal.revision ∧
      proposal.decision = .approval ∧ validProposal proposal row utc false = none := by
  unfold approvalReason at h
  dsimp only at h
  split at h
  · cases h
  rename_i h_actor
  split at h
  · cases h
  rename_i h_revision
  split at h
  · cases h
  rename_i h_decision
  exact ⟨h_actor, not_not.mp h_revision, not_not.mp h_decision, h⟩

/-- `resolve` closes an open exception, and a requeue also reopens its dead job. -/
inductive Resolved (now : Time) (actor : Actor) (id : ℕ) (command : Contract.Resolution)
    (db : Db) : Db → Prop
  | acknowledged (row : ExceptionRow) (h_row : exceptionRow db id = some row)
      (h_open : row.status = .opened) :
      Resolved now actor id command db
        ((closeException id row .acknowledged db).audit now actor (.exception id)
          (.exceptionResolution command))
  | requeued (row : ExceptionRow) (key : Uuid) (job : Job)
      (h_row : exceptionRow db id = some row) (h_open : row.status = .opened)
      (h_category : row.category = .retryExhausted ∨ row.category = .remoteRejected)
      (h_subject : row.subject = .id key) (h_job : db.jobs.lookup key = some job)
      (h_dead : job.status = .dead) (h_command : command.disposition = .requeue) :
      Resolved now actor id command db
        ((closeException id row .requeued
          { db with jobs := db.jobs.insert key (Service.requeued now job) }).audit now actor
            (.exception id) (.exceptionResolution command))

/-- The cases of `resolve`. -/
theorem resolve_cases {now : Time} {actor : Actor} {id : ℕ} {command : Contract.Resolution}
    {db db' : Db} {reply : ExceptionStatus}
    (h : resolve now actor id command db = .ok (reply, db')) :
    Resolved now actor id command db db' := by
  unfold resolve at h
  split at h
  · cases h
  rename_i row h_row
  split at h
  · cases h
  rename_i h_open
  replace h_open := not_not.mp h_open
  split at h
  · cases h
    exact .acknowledged row h_row h_open
  · rename_i h_command
    split at h
    · cases h
    · rename_i db₁ h_requeue
      cases h
      -- the requeue of a dead letter, behind its own tests
      unfold requeue at h_requeue
      split at h_requeue
      · cases h_requeue
      rename_i h_category
      split at h_requeue
      · cases h_requeue
      · cases h_requeue
      rename_i key h_subject
      split at h_requeue
      · cases h_requeue
      rename_i job h_job
      split at h_requeue
      · cases h_requeue
      rename_i h_dead
      split at h_requeue
      · cases h_requeue
      · cases h_requeue
        exact .requeued row key job h_row h_open (by tauto) h_subject h_job
          (not_not.mp h_dead) h_command

/-- **A valid proposal, spelled out.** -/
theorem validProposal_eq_none {proposal : Proposal} {row : Customer} {utc : Time}
    {requireApproval : Bool} (h : validProposal proposal row utc requireApproval = none) :
    proposal.policyHash = policyHash ∧ utc < proposal.expiresAt ∧
      (actionDecision proposal.body.action row.state row.revision proposal.revision).1 ≠
        .deny ∧
      ((actionDecision proposal.body.action row.state row.revision proposal.revision).1 =
          .approval → requireApproval = true →
        proposal.approvedBy ≠ none ∧ ∀ until_, proposal.approvedUntil = some until_ →
          utc < until_) := by
  unfold validProposal at h
  split at h
  · cases h
  rename_i h_policy
  split at h
  · cases h
  rename_i h_expires
  dsimp only at h
  split at h
  · cases h
  rename_i h_decision
  refine ⟨not_not.mp h_policy, not_le.mp h_expires, h_decision, fun h_approval h_require => ?_⟩
  -- the approval is looked at only where it is needed
  rw [if_pos ⟨h_approval, h_require⟩] at h
  split at h
  · cases h
  rename_i h_approved
  split at h
  · cases h
  rename_i h_until
  refine ⟨h_approved, fun until_ h_eq => ?_⟩
  rw [h_eq] at h_until
  simpa using h_until

end Service

/-! ### The worker's transactions -/

namespace Worker

/-- A candidate is a due job. -/
theorem of_mem_claimable {now : Time} {locked : List Uuid} {db : Db} {candidate : Candidate}
    (h : candidate ∈ claimable now locked db) :
    db.jobs.lookup candidate.id = some candidate.job ∧ due now candidate.job = true := by
  obtain ⟨h_row, h_keep⟩ := List.mem_filter.mp h
  obtain ⟨⟨id, job⟩, h_entry, rfl⟩ := List.mem_map.mp h_row
  rw [Bool.and_eq_true, Bool.and_eq_true] at h_keep
  exact ⟨Table.mem_entries.mp h_entry, h_keep.1.1⟩

/-- `claim` leases a due job, or nothing. -/
inductive ClaimCase (now : Time) (leaseSeconds : ℤ) (db : Db) : Option Claimed → Db → Prop
  | nothing : ClaimCase now leaseSeconds db none db
  | leased (id : Uuid) (job : Job) (h_open : db.executionOpen = true)
      (h_job : db.jobs.lookup id = some job) (h_due : due now job = true) :
      ClaimCase now leaseSeconds db
        (some ⟨id, Worker.leased now leaseSeconds db.supply job⟩)
        (lease now leaseSeconds id job db)

/-- The cases of `claim`. -/
theorem claim_cases {now : Time} {leaseSeconds : ℤ} {locked : List Uuid} {db db' : Db}
    {reply : Option Claimed} (h : claim now leaseSeconds locked db = .ok (reply, db')) :
    ClaimCase now leaseSeconds db reply db' := by
  unfold claim at h
  split at h
  · cases h
    exact .nothing
  rename_i h_open
  split at h
  · cases h
    exact .nothing
  · rename_i candidate h_first
    cases h
    obtain ⟨h_job, h_due⟩ := of_mem_claimable (first_mem h_first)
    exact .leased candidate.id candidate.job (by simpa using h_open) h_job h_due

/-- `finish` does nothing without the lease, and records the verdict with it. -/
inductive FinishCase (now : Time) (id : Uuid) (token : Option Uuid) (verdict : Verdict)
    (db : Db) : Bool → Db → Prop
  | fenced (current : Job) (h_job : db.jobs.lookup id = some current)
      (h_fenced : Worker.fenced token current = true) : FinishCase now id token verdict db false db
  | recorded (current : Job) (backoff : Time) (h_job : db.jobs.lookup id = some current)
      (h_fence : Worker.fenced token current = false) :
      FinishCase now id token verdict db true
        (conclude now backoff id (budgeted verdict.status verdict.reason current).1
          (budgeted verdict.status verdict.reason current).2 verdict.remoteResult
          verdict.uncertain current db)

/-- The cases of `finish`, with the verdict settled. -/
theorem settle_cases {now jitter : Time} {id : Uuid} {token : Option Uuid} {verdict : Verdict}
    {db db' : Db} {reply : Bool} (h : settle now jitter id token verdict db = .ok (reply, db')) :
    FinishCase now id token verdict db reply db' := by
  unfold settle finish at h
  split at h
  · cases h
  rename_i current h_job
  split at h
  · rename_i h_fenced
    cases h
    exact .fenced current h_job h_fenced
  · rename_i h_fence
    cases h
    exact .recorded current _ h_job (by simpa using h_fence)

/-- `prepare` refuses without a write, or authorizes the dispatch of the mutation that
the proposal has for the current row. -/
inductive PrepareCase (now utc : Time) (id : Uuid) (token : Option Uuid) (db : Db) :
    Prepared → Db → Prop
  | closed : PrepareCase now utc id token db (.refused .recoveryClosed) db
  | fenced : PrepareCase now utc id token db (.refused .leaseLost) db
  | invalid (proposal : Proposal) (row : Customer) (reason : Reason)
      (h_proposal : db.proposals.lookup id = some proposal)
      (h_row : db.customers.lookup proposal.customerId = some row)
      (h_valid : Service.validProposal proposal row utc true = some reason) :
      PrepareCase now utc id token db (.refused reason) db
  | changed (proposal : Proposal) (row : Customer) (current : Job) (mutation previous : Mutation)
      (h_proposal : db.proposals.lookup id = some proposal)
      (h_row : db.customers.lookup proposal.customerId = some row)
      (h_job : db.jobs.lookup id = some current)
      (h_valid : Service.validProposal proposal row utc true = none)
      (h_mutation : mutationOf proposal row = .ok mutation)
      (h_previous : current.mutation = some previous) (h_ne : previous ≠ mutation) :
      PrepareCase now utc id token db (.refused .mutationChanged) db
  | authorized (proposal : Proposal) (row : Customer) (current : Job) (mutation : Mutation)
      (h_open : db.executionOpen = true)
      (h_proposal : db.proposals.lookup id = some proposal)
      (h_row : db.customers.lookup proposal.customerId = some row)
      (h_job : db.jobs.lookup id = some current)
      (h_fence : Worker.fenced token current = false)
      (h_valid : Service.validProposal proposal row utc true = none)
      (h_mutation : mutationOf proposal row = .ok mutation)
      (h_same : ∀ previous, current.mutation = some previous → previous = mutation) :
      PrepareCase now utc id token db (.dispatch mutation) (authorize now id mutation current db)

/-- The cases of `prepare`. -/
theorem prepare_cases {now utc : Time} {id : Uuid} {token : Option Uuid} {db db' : Db}
    {reply : Prepared} (h : prepare now utc id token db = .ok (reply, db')) :
    PrepareCase now utc id token db reply db' := by
  unfold prepare at h
  split at h
  · cases h
    exact .closed
  rename_i h_open
  split at h
  · cases h
  rename_i proposal h_proposal
  split at h
  · cases h
  rename_i row h_row
  split at h
  · cases h
  rename_i current h_job
  split at h
  · cases h
    exact .fenced
  rename_i h_fence
  split at h
  · rename_i reason h_valid
    cases h
    exact .invalid proposal row reason h_proposal h_row h_valid
  rename_i h_valid
  split at h
  · cases h
  rename_i mutation h_mutation
  -- an intent that is there has to be the one of now
  split at h
  · rename_i h_changed
    cases h
    obtain ⟨previous, h_previous, h_ne⟩ := (Option.any_eq_true ..).mp h_changed
    exact .changed proposal row current mutation previous h_proposal h_row h_job h_valid
      h_mutation h_previous (by simpa using h_ne)
  · rename_i h_same
    cases h
    refine .authorized proposal row current mutation (by simpa using h_open) h_proposal h_row
      h_job (by simpa using h_fence) h_valid h_mutation fun previous h_previous => ?_
    rw [h_previous] at h_same
    simpa using h_same

end Worker

/-! ### Destination capacity -/

namespace Capacity

/-- `defer` gives the current lease back, or does nothing. -/
inductive DeferCase (now : Time) (id : Uuid) (token : Option Uuid) (db : Db) : Db → Prop
  | nothing : DeferCase now id token db db
  | deferred (refund : ℕ) (job : Job) (h_job : db.jobs.lookup id = some job)
      (h_token : job.leaseToken = token) (h_leased : job.status = .leased) :
      DeferCase now id token db
        { db with jobs := db.jobs.insert id (Capacity.deferred now refund job) }

/-- The cases of `defer`. -/
theorem defer_cases {now : Time} {id : Uuid} {token : Option Uuid} {attempted : Bool}
    {db db' : Db} {reply : Unit} (h : defer now id token attempted db = .ok (reply, db')) :
    DeferCase now id token db db' := by
  unfold defer at h
  split at h
  · cases h
    exact .nothing
  rename_i job h_job
  split at h
  · rename_i h_lease
    dsimp only at h
    generalize (if attempted = true then 0 else 1) = refund at h
    split at h
    · cases h
    · cases h
      exact .deferred refund job h_job h_lease.2.1 h_lease.2.2
  · cases h
    exact .nothing

/-- `acquire` refreshes the destination's rows, and may grant a permit. -/
inductive AcquireCase (now : Time) (name : String) (kind : RequestKind) (db : Db) :
    Option Uuid → Db → Prop
  | refused : AcquireCase now name kind db none (refresh now name db)
  | granted (window : ℤ) (used : ℕ) :
      AcquireCase now name kind db (some db.supply)
        (permit now name kind (stateRow name db) window used (refresh now name db))

/-- The cases of `acquire`. -/
theorem acquire_cases {now : Time} {name : String} {route : Destination} {kind : RequestKind}
    {db db' : Db} {reply : Option Uuid} (h : acquire now name route kind db = .ok (reply, db')) :
    AcquireCase now name kind db reply db' := by
  unfold acquire at h
  dsimp only at h
  generalize max (now / seconds 1) (stateRow name db).windowId = window at h
  generalize (if (stateRow name db).windowId = window then (stateRow name db).used else 0) = used
    at h
  generalize route.requestsPerSecond - (if kind = .dispatch then 1 else 0) = limit at h
  split at h
  · cases h
    exact .refused
  · cases h
    exact .granted window used

/-- `release` completes a request that is not completed, and may move its destination's
next probe. -/
inductive ReleaseCase (now : Time) (name : String) (token : Uuid) (failed : Bool) (db : Db) :
    Db → Prop
  | completed (h_new : db.capacityCompletions.lookup token = none) :
      ReleaseCase now name token failed db
        { db with
          requestPermits := db.requestPermits.erase token
          capacityCompletions := db.capacityCompletions.insert token ⟨now, failed⟩ }
  | probed (state state' : CapacityState)
      (h_new : db.capacityCompletions.lookup token = none)
      (h_state : db.capacityState.lookup name = some state) :
      ReleaseCase now name token failed db
        { db with
          requestPermits := db.requestPermits.erase token
          capacityCompletions := db.capacityCompletions.insert token ⟨now, failed⟩
          capacityState := db.capacityState.insert name state' }

/-- The cases of `release`. -/
theorem release_cases {now : Time} {name : String} {token : Uuid} {failed : Bool} {cooldown : ℕ}
    {db db' : Db} {reply : Unit}
    (h : release now name token failed cooldown db = .ok (reply, db')) :
    ReleaseCase now name token failed db db' := by
  unfold release at h
  split at h
  · cases h
  rename_i h_token
  have h_new : db.capacityCompletions.lookup token = none := by
    cases h_row : db.capacityCompletions.lookup token with
    | none => rfl
    | some row => exact absurd (.inr (by rw [h_row]; rfl)) h_token
  dsimp only at h
  split at h
  · cases h
    exact .completed h_new
  · rename_i state h_state
    cases h
    cases failed with
    | false => cases h_state
    | true => exact .probed state _ h_new h_state

end Capacity

/-! ### The coordinator's transactions -/

namespace Recovery

/-- `begin` closes an open gate under a new session. -/
structure Begun (now : Time) (coordinator : Coordinator) (db : Db) (key : Uuid) (db' : Db) :
    Prop where
  h_open : db.gate.mode = .opened
  h_fresh : db.sessions.lookup db.supply = none
  h_key : key = db.supply
  h_state : db' = { db with
    supply := db.supply + 1
    sessions := db.sessions.insert db.supply
      ⟨coordinator.binding, digest coordinator.binding, now, .closed⟩
    gate := ⟨.closed, db.gate.epoch + 1, some db.supply, none, none⟩ }

/-- What `begin` commits. -/
theorem begin_cases {now : Time} {coordinator : Coordinator} {db db' : Db} {key : Uuid}
    (h : begin now coordinator db = .ok (key, db')) : Begun now coordinator db key db' := by
  unfold begin at h
  split at h
  · cases h
  rename_i h_open
  split at h
  · cases h
  rename_i h_fresh
  cases h
  refine ⟨?_, by simpa using h_fresh, rfl, rfl⟩
  cases h_mode : db.gate.mode with
  | opened => rfl
  | closed => exact absurd h_mode h_open

/-- The session an operation of the coordinator works on: the one of the closed gate,
under the coordinator's own binding. -/
structure Current (coordinator : Coordinator) (key : Uuid) (db : Db) (session : Session) :
    Prop where
  h_session : db.sessions.lookup key = some session
  h_gate : db.gate.sessionId = some key
  h_closed : db.gate.mode = .closed
  h_binding : session.binding = coordinator.binding

/-- What `_session` has checked. -/
theorem currentSession_cases {coordinator : Coordinator} {key : Uuid} {db : Db}
    {session : Session} (h : currentSession coordinator key db = .ok session) :
    Current coordinator key db session := by
  unfold currentSession at h
  split at h
  · cases h
  rename_i row h_session
  split at h
  · cases h
  rename_i h_gate
  split at h
  · cases h
  rename_i h_binding
  cases h
  rw [not_or] at h_gate h_binding
  exact ⟨h_session, not_not.mp h_gate.1, not_not.mp h_gate.2, not_not.mp h_binding.2⟩

/-- `verify` records the report of an observation under a new key. -/
structure Verified (now : Time) (coordinator : Coordinator) (surroundings : Surroundings)
    (sessionId : Uuid) (db : Db) (session : Session) (key : Uuid) (report : Report) (db' : Db) :
    Prop where
  h_current : Current coordinator sessionId db session
  h_report : observe coordinator surroundings session db = .ok report
  h_fresh : db.proofs.lookup db.supply = none
  h_key : key = db.supply
  h_state : db' = { db with
    supply := db.supply + 1
    proofs := db.proofs.insert db.supply ⟨sessionId, report, digest report, now⟩ }

/-- What `verify` commits. -/
theorem verify_cases {now : Time} {coordinator : Coordinator} {surroundings : Surroundings}
    {sessionId key : Uuid} {report : Report} {db db' : Db}
    (h : verify now coordinator surroundings sessionId db = .ok ((key, report), db')) :
    ∃ session, Verified now coordinator surroundings sessionId db session key report db' := by
  unfold verify at h
  split at h
  · cases h
  rename_i session h_session
  split at h
  · cases h
  rename_i report' h_report
  split at h
  · cases h
  rename_i h_fresh
  cases h
  exact ⟨session, currentSession_cases h_session, h_report, by simpa using h_fresh, rfl, rfl⟩

/-- A proof that `freshApproval` accepts, with the observation that repeats it. -/
structure Fresh (coordinator : Coordinator) (surroundings : Surroundings)
    (sessionId proofId : Uuid) (db : Db) (session : Session) (proof : Proof) (fresh : Report) :
    Prop where
  h_current : Current coordinator sessionId db session
  h_proof : db.proofs.lookup proofId = some proof
  h_session : proof.sessionId = sessionId
  h_safe : proof.report.safeToResume = true
  h_observed : observe coordinator surroundings session db = .ok fresh
  h_freshSafe : fresh.safeToResume = true
  h_fingerprint : fresh.controlFingerprint = proof.report.controlFingerprint
  h_snapshot : fresh.snapshotHash = proof.report.snapshotHash
  h_binding : fresh.bindingHash = proof.report.bindingHash
  h_policy : fresh.policyHash = proof.report.policyHash

/-- What `_fresh_approval` has checked. -/
theorem freshApproval_cases {coordinator : Coordinator} {surroundings : Surroundings}
    {sessionId proofId : Uuid} {db : Db} {fresh : Report}
    (h : freshApproval coordinator surroundings sessionId proofId db = .ok fresh) :
    ∃ session proof,
      Fresh coordinator surroundings sessionId proofId db session proof fresh := by
  unfold freshApproval at h
  split at h
  · cases h
  rename_i session h_session
  split at h
  · cases h
  rename_i proof h_proof
  split at h
  · cases h
  rename_i h_valid
  split at h
  · cases h
  rename_i fresh' h_observed
  split at h
  · cases h
  rename_i h_same
  cases h
  simp only [not_or] at h_valid h_same
  obtain ⟨h_of, h_safe, -, -⟩ := h_valid
  obtain ⟨h_freshSafe, h_evidence⟩ := h_same
  have h_evidence : sameEvidence fresh proof.report = true := by simpa using h_evidence
  simp only [sameEvidence, Bool.and_eq_true, decide_eq_true_eq] at h_evidence
  exact ⟨session, proof, currentSession_cases h_session, h_proof, not_not.mp h_of,
    by simpa using h_safe, h_observed, by simpa using h_freshSafe, h_evidence.1.1.1,
    h_evidence.1.1.2, h_evidence.1.2, h_evidence.2⟩

/-- What the approval of a recovery commits. -/
theorem approve_cases {now : Time} {coordinator : Coordinator} {surroundings : Surroundings}
    {sessionId proofId : Uuid} {db db' : Db} {fresh : Report}
    (h : approve now coordinator surroundings sessionId proofId db = .ok (fresh, db')) :
    (∃ session proof,
      Fresh coordinator surroundings sessionId proofId db session proof fresh) ∧
      db' = markSession sessionId .approved { db with
        gate := { db.gate with approvedProof := some proofId, approvedAt := some now } } := by
  unfold approve at h
  split at h
  · cases h
  · rename_i fresh' h_fresh
    cases h
    exact ⟨freshApproval_cases h_fresh, rfl⟩

/-- What `resume` commits. -/
theorem resume_cases {now : Time} {coordinator : Coordinator} {surroundings : Surroundings}
    {sessionId proofId : Uuid} {db db' : Db} {fresh : Report}
    (h : resume now coordinator surroundings sessionId proofId db = .ok (fresh, db')) :
    (∃ session proof,
      Fresh coordinator surroundings sessionId proofId db session proof fresh) ∧
      db.gate.approvedProof = some proofId ∧
      db' = markSession sessionId .resumed { db with
        gate := { db.gate with mode := .opened, approvedProof := none } } := by
  unfold resume at h
  split at h
  · cases h
  rename_i fresh' h_fresh
  split at h
  · cases h
  · rename_i h_approved
    cases h
    exact ⟨freshApproval_cases h_fresh, not_not.mp h_approved, rfl⟩

end Recovery

/-! ### All transactions -/

/-- What a transaction leaves behind: the state it started in when it rolled back, or
one of the cases of its own inversion. -/
inductive Committed (now : Time) (db : Db) : Tx → Db → Prop
  | rolledBack (tx : Tx) : Committed now db tx db
  | ingest {source event reply db'} (h : Service.Ingested now source event db reply db') :
      Committed now db (.ingest source event) db'
  | link {actor command db'} (h : Service.Linked now actor command db db') :
      Committed now db (.link actor command) db'
  | propose {actor command reply db'} (h : Service.Proposed now actor command db reply db') :
      Committed now db (.propose actor command) db'
  | approve {utc utc' actor id command reply db'}
      (h : Service.Approved now utc utc' actor id command db reply db') :
      Committed now db (.approve utc utc' actor id command) db'
  | resolve {actor id command db'} (h : Service.Resolved now actor id command db db') :
      Committed now db (.resolve actor id command) db'
  | claim {leaseSeconds locked reply db'} (h : Worker.ClaimCase now leaseSeconds db reply db') :
      Committed now db (.claim leaseSeconds locked) db'
  | prepare {utc id token reply db'} (h : Worker.PrepareCase now utc id token db reply db') :
      Committed now db (.prepare utc id token) db'
  | finish {jitter id token verdict reply db'}
      (h : Worker.FinishCase now id token verdict db reply db') :
      Committed now db (.finish jitter id token verdict) db'
  | defer {id token attempted db'} (h : Capacity.DeferCase now id token db db') :
      Committed now db (.defer id token attempted) db'
  | acquire {name route kind reply db'} (h : Capacity.AcquireCase now name kind db reply db') :
      Committed now db (.acquire name route kind) db'
  | release {name token failed cooldown db'}
      (h : Capacity.ReleaseCase now name token failed db db') :
      Committed now db (.release name token failed cooldown) db'
  | begin {coordinator key db'} (h : Recovery.Begun now coordinator db key db') :
      Committed now db (.begin coordinator) db'
  | verify {coordinator surroundings sessionId session key report db'}
      (h : Recovery.Verified now coordinator surroundings sessionId db session key report db') :
      Committed now db (.verify coordinator surroundings sessionId) db'
  | approveRecovery {coordinator surroundings sessionId proofId session proof fresh}
      (h : Recovery.Fresh coordinator surroundings sessionId proofId db session proof fresh) :
      Committed now db (.approveRecovery coordinator surroundings sessionId proofId)
        (Recovery.markSession sessionId .approved { db with
          gate := { db.gate with approvedProof := some proofId, approvedAt := some now } })
  | resume {coordinator surroundings sessionId proofId session proof fresh}
      (h : Recovery.Fresh coordinator surroundings sessionId proofId db session proof fresh)
      (h_approved : db.gate.approvedProof = some proofId) :
      Committed now db (.resume coordinator surroundings sessionId proofId)
        (Recovery.markSession sessionId .resumed { db with
          gate := { db.gate with mode := .opened, approvedProof := none } })

/-- **The inversion of one step.** -/
theorem Tx.committed (now : Time) (db : Db) (tx : Tx) :
    Committed now db tx (tx.apply now db) := by
  -- what raises is rolled back, what returns has its case
  have h_rollback : Committed now db tx db := .rolledBack tx
  cases tx with
  | ingest => exact Outcome.commit_of (fun _ _ h => .ingest (Service.ingest_cases h)) h_rollback
  | link => exact Outcome.commit_of (fun _ _ h => .link (Service.link_cases h)) h_rollback
  | propose => exact Outcome.commit_of (fun _ _ h => .propose (Service.propose_cases h)) h_rollback
  | approve => exact Outcome.commit_of (fun _ _ h => .approve (Service.approve_cases h)) h_rollback
  | resolve => exact Outcome.commit_of (fun _ _ h => .resolve (Service.resolve_cases h)) h_rollback
  | claim => exact Outcome.commit_of (fun _ _ h => .claim (Worker.claim_cases h)) h_rollback
  | prepare => exact Outcome.commit_of (fun _ _ h => .prepare (Worker.prepare_cases h)) h_rollback
  | finish => exact Outcome.commit_of (fun _ _ h => .finish (Worker.settle_cases h)) h_rollback
  | defer => exact Outcome.commit_of (fun _ _ h => .defer (Capacity.defer_cases h)) h_rollback
  | acquire =>
    exact Outcome.commit_of (fun _ _ h => .acquire (Capacity.acquire_cases h)) h_rollback
  | release =>
    exact Outcome.commit_of (fun _ _ h => .release (Capacity.release_cases h)) h_rollback
  | begin => exact Outcome.commit_of (fun _ _ h => .begin (Recovery.begin_cases h)) h_rollback
  | verify =>
    refine Outcome.commit_of (fun answer _ h => ?_) h_rollback
    obtain ⟨session, h_verified⟩ := Recovery.verify_cases h
    exact .verify h_verified
  | approveRecovery =>
    refine Outcome.commit_of (fun _ _ h => ?_) h_rollback
    obtain ⟨⟨session, proof, h_fresh⟩, rfl⟩ := Recovery.approve_cases h
    exact .approveRecovery h_fresh
  | resume =>
    refine Outcome.commit_of (fun _ _ h => ?_) h_rollback
    obtain ⟨⟨session, proof, h_fresh⟩, h_approved, rfl⟩ := Recovery.resume_cases h
    exact .resume h_fresh h_approved

end ControlPlane
