import ControlPlane.Transactions.Frames

/-!
# What each step does to a job, a proposal and the exceptions

Three more inversions of one step, by table. A job row has seven writers; `job_move` lists
them with the guards under which each may write, and the row it leaves. A proposal is
inserted once and only gains its approval afterwards (`proposal_move`). Exceptions are
appended, except that a `resolve` closes one (`exception_move`).
-/

namespace ControlPlane

open Framework

/-! ### Jobs -/

/-- What one step does to the row of one job. -/
inductive JobMove (db : Db) (entry : Entry) (id : Uuid) : Prop
  | kept (h_after : (db.step entry).jobs.lookup id = db.jobs.lookup id)
  | proposed (actor : Actor) (command : Contract.Proposal) (row : Customer)
      (h_tx : entry.tx = .propose actor command) (h_id : id = command.requestId)
      (h_open : db.executionOpen = true) (h_fresh : db.proposals.lookup id = none)
      (h_row : db.customers.lookup command.customerId = some row)
      (h_allow : (actionDecision command.action row.state row.revision
        command.expectedRevision).1 = .allow)
      (h_proposal : (db.step entry).proposals.lookup id =
        some (Service.proposalRow entry.now actor command (actionDecision command.action
          row.state row.revision command.expectedRevision)))
      (h_after : (db.step entry).jobs.lookup id = some (Job.inserted entry.now))
  | approved (utc utc' : Time) (actor : Actor) (command : Contract.Approval)
      (proposal : Proposal) (row : Customer)
      (h_tx : entry.tx = .approve utc utc' actor id command)
      (h_open : db.executionOpen = true) (h_before : db.jobs.lookup id = none)
      (h_reason : Service.approvalReason actor command proposal row utc = none)
      (h_proposal : (db.step entry).proposals.lookup id = some { proposal with
        approvedBy := some actor
        approvedUntil := some (Service.approvalUntil proposal utc') })
      (h_after : (db.step entry).jobs.lookup id = some (Job.inserted entry.now))
  | claimed (leaseSeconds : ℤ) (locked : List Uuid) (job : Job)
      (h_tx : entry.tx = .claim leaseSeconds locked) (h_open : db.executionOpen = true)
      (h_before : db.jobs.lookup id = some job) (h_due : Worker.due entry.now job = true)
      (h_supply : (db.step entry).supply = db.supply + 1)
      (h_others : ∀ other, other ≠ id →
        (db.step entry).jobs.lookup other = db.jobs.lookup other)
      (h_after : (db.step entry).jobs.lookup id =
        some (Worker.leased entry.now leaseSeconds db.supply job))
  | prepared (utc : Time) (token : Option Uuid) (job : Job) (mutation : Mutation)
      (proposal : Proposal) (row : Customer)
      (h_tx : entry.tx = .prepare utc id token) (h_open : db.executionOpen = true)
      (h_before : db.jobs.lookup id = some job) (h_fence : Worker.fenced token job = false)
      (h_proposal : db.proposals.lookup id = some proposal)
      (h_row : db.customers.lookup proposal.customerId = some row)
      (h_valid : Service.validProposal proposal row utc true = none)
      (h_mutation : Worker.mutationOf proposal row = .ok mutation)
      (h_same : ∀ previous, job.mutation = some previous → previous = mutation)
      (h_after : (db.step entry).jobs.lookup id = some (Worker.intended mutation job))
  | finished (jitter : Time) (token : Option Uuid) (verdict : Worker.Verdict) (backoff : Time)
      (job : Job) (h_tx : entry.tx = .finish jitter id token verdict)
      (h_before : db.jobs.lookup id = some job) (h_fence : Worker.fenced token job = false)
      (h_after : (db.step entry).jobs.lookup id = some (Worker.finished entry.now backoff
        (Worker.budgeted verdict.status verdict.reason job).1
        (Worker.budgeted verdict.status verdict.reason job).2 verdict.remoteResult
        verdict.uncertain job))
  | deferred (token : Option Uuid) (attempted : Bool) (refund : ℕ) (job : Job)
      (h_tx : entry.tx = .defer id token attempted)
      (h_before : db.jobs.lookup id = some job) (h_token : job.leaseToken = token)
      (h_leased : job.status = .leased)
      (h_after : (db.step entry).jobs.lookup id =
        some (Capacity.deferred entry.now refund job))
  | requeued (actor : Actor) (exceptionId : ℕ) (command : Contract.Resolution)
      (row : ExceptionRow) (job : Job) (h_tx : entry.tx = .resolve actor exceptionId command)
      (h_row : Service.exceptionRow db exceptionId = some row) (h_opened : row.status = .opened)
      (h_category : row.category = .retryExhausted ∨ row.category = .remoteRejected)
      (h_subject : row.subject = .id id) (h_before : db.jobs.lookup id = some job)
      (h_dead : job.status = .dead)
      (h_after : (db.step entry).jobs.lookup id = some (Service.requeued entry.now job))
      (h_command : command.disposition = .requeue)

/-- The final status of `finish` is never `leased`. -/
theorem budgeted_ne_leased (verdict : Worker.Verdict) (job : Job) :
    (Worker.budgeted verdict.status verdict.reason job).1 ≠ .leased := by
  unfold Worker.budgeted
  split
  · exact fun h => by cases h
  · cases verdict <;> exact fun h => by cases h

/-- Under the current lease `finish` concludes the job. -/
theorem settle_current {db : Db} (now jitter : Time) {id : Uuid} {token : Option Uuid}
    (verdict : Worker.Verdict) {current : Job} (h_job : db.jobs.lookup id = some current)
    (h_fence : Worker.fenced token current = false) :
    db.step ⟨now, .finish jitter id token verdict⟩ =
      Worker.conclude now
        (match verdict.delay with
        | some delay => seconds delay
        | none => seconds (min 60 (2 ^ current.attempts)) + jitter) id
        (Worker.budgeted verdict.status verdict.reason current).1
        (Worker.budgeted verdict.status verdict.reason current).2 verdict.remoteResult
        verdict.uncertain current db := by
  show (Worker.settle now jitter id token verdict db).commit db = _
  unfold Worker.settle Worker.finish
  rw [h_job]
  dsimp only
  rw [h_fence, if_neg Bool.false_ne_true]
  exact Outcome.commit_ok ..

/-- Under a lease that was lost it writes nothing. -/
theorem settle_lost {db : Db} (now jitter : Time) {id : Uuid} {token : Option Uuid}
    (verdict : Worker.Verdict)
    (h : ∀ current, db.jobs.lookup id = some current → Worker.fenced token current = true) :
    db.step ⟨now, .finish jitter id token verdict⟩ = db := by
  show (Worker.settle now jitter id token verdict db).commit db = db
  unfold Worker.settle Worker.finish
  cases h_job : db.jobs.lookup id with
  | none => rfl
  | some current =>
    dsimp only
    rw [h current h_job, if_pos rfl, Outcome.commit_ok]

/-- A verdict recorded under the current lease is what the row says afterwards. -/
theorem settle_step {db : Db} (now jitter : Time) {id : Uuid} {token : Option Uuid}
    (verdict : Worker.Verdict) {current : Job} (h_job : db.jobs.lookup id = some current)
    (h_fence : Worker.fenced token current = false) :
    ∃ backoff, (db.step ⟨now, .finish jitter id token verdict⟩).jobs.lookup id =
      some (Worker.finished now backoff
        (Worker.budgeted verdict.status verdict.reason current).1
        (Worker.budgeted verdict.status verdict.reason current).2 verdict.remoteResult
        verdict.uncertain current) := by
  rw [settle_current now jitter verdict h_job h_fence, (Worker.conclude_frame ..).2.2.2.2.1]
  exact ⟨_, Table.lookup_insert_self _ _ _⟩

/-- A step that leaves the whole job table alone moves no job. -/
theorem JobMove.of_jobs_eq {db : Db} {entry : Entry} (h : (db.step entry).jobs = db.jobs)
    (id : Uuid) : JobMove db entry id :=
  .kept (by rw [h])

/-- A step that writes one other row of the job table does not move this job. -/
theorem JobMove.of_insert {db : Db} {entry : Entry} {key id : Uuid} {job : Job}
    (h : (db.step entry).jobs = db.jobs.insert key job) (h_ne : id ≠ key) :
    JobMove db entry id :=
  .kept (by rw [h, Table.lookup_insert_of_ne _ _ h_ne])

/-- **The inversion of one step, for one job.** -/
theorem job_move (db : Db) (entry : Entry) (id : Uuid) : JobMove db entry id := by
  obtain ⟨now, tx⟩ := entry
  have h_committed := tx.committed now db
  generalize h_step : tx.apply now db = db' at h_committed
  replace h_step : db.step ⟨now, tx⟩ = db' := h_step
  -- most transactions leave all jobs alone, and the others write one of them
  have kept : db'.jobs = db.jobs → JobMove db ⟨now, tx⟩ id := fun h =>
    .of_jobs_eq (by rw [h_step, h]) id
  have other : ∀ {key job}, db'.jobs = db.jobs.insert key job → id ≠ key →
      JobMove db ⟨now, tx⟩ id := fun h h_ne => .of_insert (by rw [h_step, h]) h_ne
  have self : ∀ {key job}, db'.jobs = db.jobs.insert key job → id = key →
      (db.step ⟨now, tx⟩).jobs.lookup id = some job := fun h h_id => by
    rw [h_step, h, h_id, Table.lookup_insert_self]
  cases h_committed with
  | rolledBack => exact kept rfl
  | link h_case | acquire h_case | release h_case => cases h_case <;> exact kept rfl
  | begin h_case | verify h_case =>
    refine kept ?_
    rw [h_case.h_state]
  | approveRecovery | resume => exact kept (Recovery.markSession_frame ..).2.2.2.1
  | ingest h_case =>
    cases h_case with
    | known => exact kept (Service.observed_frame ..).2.2.2.2
    | enrolled => exact kept (Service.observed_frame _ _ _ _ _ (Service.enroll _ _ db)).2.2.2.2
    | _ => exact kept rfl
  | @propose actor command _ _ h_case =>
    cases h_case with
    | admitted row destination h_open h_row h_fresh =>
      obtain ⟨-, -, -, h_proposals, h_jobs⟩ := Service.enqueue_frame now actor command row
        (actionDecision command.action row.state row.revision command.expectedRevision)
        destination db
      split at h_jobs
      -- an allowed action is queued at once, under the id of the proposal
      · rename_i h_allow
        by_cases h_id : id = command.requestId
        · refine .proposed actor command row rfl h_id h_open (h_id ▸ h_fresh) h_row h_allow ?_
            (self h_jobs h_id)
          rw [h_step, h_proposals, h_id, Table.lookup_insert_self]
        · exact other h_jobs h_id
      · exact kept h_jobs
    | _ => exact kept rfl
  | @approve utc utc' actor key command _ _ h_case =>
    cases h_case with
    | granted proposal row h_open h_proposal h_row h_reason =>
      obtain ⟨-, -, -, h_proposals, h_jobs, -⟩ :=
        Service.grant_frame now actor key proposal utc' db
      split at h_jobs
      · exact kept h_jobs
      -- a proposal that has a job already does not get another one
      · rename_i h_none
        by_cases h_id : id = key
        · subst h_id
          refine .approved utc utc' actor command proposal row rfl h_open (by simpa using h_none)
            h_reason ?_ (self h_jobs rfl)
          rw [h_step, h_proposals, Table.lookup_insert_self]
        · exact other h_jobs h_id
    | _ => exact kept rfl
  | resolve h_case =>
    cases h_case with
    | acknowledged => exact kept rfl
    | requeued row key job h_row h_open h_category h_subject h_job h_dead h_command =>
      by_cases h_id : id = key
      · subst h_id
        exact .requeued _ _ _ row job rfl h_row h_open h_category h_subject h_job h_dead
          (self rfl rfl) h_command
      · exact other rfl h_id
  | claim h_case =>
    cases h_case with
    | nothing => exact kept rfl
    | leased key job h_open h_job h_due =>
      by_cases h_id : id = key
      · subst h_id
        refine .claimed _ _ job rfl h_open h_job h_due (by rw [h_step]; rfl) (fun o h_ne => ?_)
          (self rfl rfl)
        rw [h_step]
        exact Table.lookup_insert_of_ne _ _ h_ne
      · exact other rfl h_id
  | @prepare utc key token _ _ h_case =>
    cases h_case with
    | authorized proposal row current mutation h_open h_proposal h_row h_job h_fence h_valid
        h_mutation h_same =>
      by_cases h_id : id = key
      · subst h_id
        exact .prepared utc token current mutation proposal row rfl h_open h_job h_fence
          h_proposal h_row h_valid h_mutation h_same (self rfl rfl)
      · exact other rfl h_id
    | _ => exact kept rfl
  | @finish jitter key token verdict _ _ h_case =>
    cases h_case with
    | fenced => exact kept rfl
    | recorded current backoff h_job h_fence =>
      -- the status that is written is the one the budget of attempts leaves
      have h_jobs := (Worker.conclude_frame now backoff key
        (Worker.budgeted verdict.status verdict.reason current).1
        (Worker.budgeted verdict.status verdict.reason current).2 verdict.remoteResult
        verdict.uncertain current db).2.2.2.2.1
      by_cases h_id : id = key
      · subst h_id
        exact .finished jitter token verdict backoff current rfl h_job h_fence (self h_jobs rfl)
      · exact other h_jobs h_id
  | @defer key token attempted _ h_case =>
    cases h_case with
    | nothing => exact kept rfl
    | deferred refund job h_job h_token h_leased =>
      by_cases h_id : id = key
      · subst h_id
        exact .deferred token attempted refund job rfl h_job h_token h_leased (self rfl rfl)
      · exact other rfl h_id

/-! ### Proposals -/

/-- What one step does to the row of one proposal. -/
inductive ProposalMove (db : Db) (entry : Entry) (id : Uuid) : Prop
  | kept (h_after : (db.step entry).proposals.lookup id = db.proposals.lookup id)
  | proposed (actor : Actor) (command : Contract.Proposal) (row : Customer)
      (h_tx : entry.tx = .propose actor command) (h_id : id = command.requestId)
      (h_before : db.proposals.lookup id = none)
      (h_row : db.customers.lookup command.customerId = some row)
      (h_after : (db.step entry).proposals.lookup id =
        some (Service.proposalRow entry.now actor command (actionDecision command.action
          row.state row.revision command.expectedRevision)))
      (h_job : (db.step entry).jobs.lookup id = if (actionDecision command.action row.state
        row.revision command.expectedRevision).1 = .allow then some (Job.inserted entry.now)
        else db.jobs.lookup id)
  | approved (utc utc' : Time) (actor : Actor) (command : Contract.Approval)
      (proposal : Proposal) (row : Customer)
      (h_tx : entry.tx = .approve utc utc' actor id command)
      (h_before : db.proposals.lookup id = some proposal)
      (h_row : db.customers.lookup proposal.customerId = some row)
      (h_reason : Service.approvalReason actor command proposal row utc = none)
      (h_new : proposal.approvedBy = none)
      (h_after : (db.step entry).proposals.lookup id = some { proposal with
        approvedBy := some actor
        approvedUntil := some (Service.approvalUntil proposal utc') })
      (h_job : ((db.step entry).jobs.lookup id).isSome)

/-- **The inversion of one step, for one proposal.** -/
theorem proposal_move (db : Db) (entry : Entry) (id : Uuid) : ProposalMove db entry id := by
  obtain ⟨now, tx⟩ := entry
  have h_committed := tx.committed now db
  generalize h_step : tx.apply now db = db' at h_committed
  replace h_step : db.step ⟨now, tx⟩ = db' := h_step
  have kept : db'.proposals = db.proposals → ProposalMove db ⟨now, tx⟩ id := fun h =>
    .kept (by rw [h_step, h])
  cases h_committed with
  | rolledBack => exact kept rfl
  | link h_case | resolve h_case | claim h_case | prepare h_case | defer h_case
  | acquire h_case | release h_case => cases h_case <;> exact kept rfl
  | begin h_case | verify h_case =>
    refine kept ?_
    rw [h_case.h_state]
  | approveRecovery | resume => exact kept (Recovery.markSession_frame ..).2.2.1
  | ingest h_case =>
    cases h_case with
    | known => exact kept (Service.observed_frame ..).2.2.2.1
    | enrolled => exact kept (Service.observed_frame _ _ _ _ _ (Service.enroll _ _ db)).2.2.2.1
    | _ => exact kept rfl
  | finish h_case =>
    cases h_case with
    | fenced => exact kept rfl
    | recorded => exact kept (Worker.conclude_frame ..).2.2.2.1
  | @propose actor command _ _ h_case =>
    cases h_case with
    | admitted row destination h_open h_row h_fresh =>
      obtain ⟨-, -, -, h_proposals, h_jobs⟩ := Service.enqueue_frame now actor command row
        (actionDecision command.action row.state row.revision command.expectedRevision)
        destination db
      by_cases h_id : id = command.requestId
      · refine .proposed actor command row rfl h_id (h_id ▸ h_fresh) h_row ?_ ?_
        · rw [h_step, h_proposals, h_id, Table.lookup_insert_self]
        · rw [h_step, h_jobs, h_id]
          split
          · rw [Table.lookup_insert_self]
          · rfl
      · refine .kept ?_
        rw [h_step, h_proposals, Table.lookup_insert_of_ne _ _ h_id]
    | _ => exact kept rfl
  | @approve utc utc' actor key command _ _ h_case =>
    cases h_case with
    | granted proposal row h_open h_proposal h_row h_reason h_new =>
      obtain ⟨-, -, -, h_proposals, h_jobs, -⟩ :=
        Service.grant_frame now actor key proposal utc' db
      by_cases h_id : id = key
      · subst h_id
        refine .approved utc utc' actor command proposal row rfl h_proposal h_row h_reason h_new
          ?_ ?_
        · rw [h_step, h_proposals, Table.lookup_insert_self]
        · rw [h_step, h_jobs]
          split
          · assumption
          · rw [Table.lookup_insert_self]
            rfl
      · refine .kept ?_
        rw [h_step, h_proposals, Table.lookup_insert_of_ne _ _ h_id]
    | _ => exact kept rfl

/-! ### Exceptions -/

/-- The categories a requeue accepts. -/
def Category.requeueable : Category → Bool
  | .retryExhausted | .remoteRejected => true
  | _ => false

theorem Category.requeueable_iff {category : Category} :
    category.requeueable = true ↔ category = .retryExhausted ∨ category = .remoteRejected := by
  cases category <;> decide

/-- What one step does to the table of exceptions. -/
inductive ExceptionMove (db : Db) (entry : Entry) : Prop
  | kept (h_after : (db.step entry).exceptions = db.exceptions)
  | appended (row : ExceptionRow) (h_category : row.category.requeueable = false)
      (h_after : (db.step entry).exceptions = db.exceptions ++ [row])
  | deadLetter (jitter : Time) (id : Uuid) (token : Option Uuid) (verdict : Worker.Verdict)
      (backoff : Time) (job : Job) (row : ExceptionRow)
      (h_tx : entry.tx = .finish jitter id token verdict)
      (h_before : db.jobs.lookup id = some job) (h_fence : Worker.fenced token job = false)
      (h_category : row.category = Worker.deadLetterCategory
        (Worker.budgeted verdict.status verdict.reason job).2)
      (h_subject : row.subject = .id id)
      (h_after : (db.step entry).exceptions = db.exceptions ++ [row])
      (h_job : (db.step entry).jobs.lookup id = some (Worker.finished entry.now backoff
        (Worker.budgeted verdict.status verdict.reason job).1
        (Worker.budgeted verdict.status verdict.reason job).2 verdict.remoteResult
        verdict.uncertain job))
  | closed (actor : Actor) (exceptionId : ℕ) (command : Contract.Resolution)
      (row : ExceptionRow) (status : ExceptionStatus)
      (h_tx : entry.tx = .resolve actor exceptionId command)
      (h_row : Service.exceptionRow db exceptionId = some row) (h_opened : row.status = .opened)
      (h_status : status ≠ .opened)
      (h_after : (db.step entry).exceptions =
        db.exceptions.set (exceptionId - 1) { row with status := status })

/-- A list of exceptions that gained at most one row, which nobody may requeue. -/
def Reported (before after : List ExceptionRow) : Prop :=
  after = before ∨
    ∃ row : ExceptionRow, row.category.requeueable = false ∧ after = before ++ [row]

theorem Service.enqueue_reported {now : Time} {db : Db} (actor : Actor)
    (command : Contract.Proposal) (row : Customer) (decision : Decision × Reason)
    (destination : Option String) :
    Reported db.exceptions
      (Service.enqueue now actor command row decision destination db).exceptions := by
  obtain ⟨decision, reason⟩ := decision
  cases decision with
  | deny =>
    refine .inr ⟨⟨.proposalDenied, .id command.requestId, .denied reason, .opened, now⟩,
      rfl, ?_⟩
    cases destination <;> rfl
  | allow | approval => exact .inl (by cases destination <;> rfl)

theorem Service.observed_reported (now : Time) (source : Source) (event : SourceEvent)
    (id : Uuid) (row : Customer) (db : Db) :
    Reported db.exceptions (Service.process now source event id row db).2.exceptions := by
  unfold Service.process
  dsimp only
  split
  · exact .inr ⟨_, rfl, rfl⟩
  · exact .inl rfl

/-- The review categories of `ingest`. -/
theorem Service.Ingested.reported {now : Time} {source : Source} {event : SourceEvent}
    {db db' : Db} {reply : Service.IngestReply}
    (h : Service.Ingested now source event db reply db') :
    Reported db.exceptions db'.exceptions := by
  cases h with
  | conflict => exact .inr ⟨_, rfl, rfl⟩
  | duplicate => exact .inl rfl
  | reviewed reason h_event h_reason =>
    refine .inr ⟨_, ?_, rfl⟩
    rcases h_reason with rfl | rfl <;> exact rfl
  | known id row => exact Service.observed_reported now source event id row db
  | enrolled =>
    exact Service.observed_reported now source event db.supply Customer.initial
      (Service.enroll source event db)

/-- **The inversion of one step, for the exceptions.** -/
theorem exception_move (db : Db) (entry : Entry) : ExceptionMove db entry := by
  obtain ⟨now, tx⟩ := entry
  have h_committed := tx.committed now db
  generalize h_step : tx.apply now db = db' at h_committed
  replace h_step : db.step ⟨now, tx⟩ = db' := h_step
  have kept : db'.exceptions = db.exceptions → ExceptionMove db ⟨now, tx⟩ := fun h =>
    .kept (by rw [h_step, h])
  -- what only reports appends one row at most
  have reported : Reported db.exceptions db'.exceptions → ExceptionMove db ⟨now, tx⟩ := by
    rintro (h | ⟨row, h_row, h⟩)
    · exact kept h
    · exact .appended row h_row (by rw [h_step, h])
  cases h_committed with
  | rolledBack => exact kept rfl
  | link h_case | claim h_case | prepare h_case | defer h_case | acquire h_case
  | release h_case => cases h_case <;> exact kept rfl
  | begin h_case | verify h_case =>
    refine kept ?_
    rw [h_case.h_state]
  | approveRecovery | resume => exact kept (Recovery.markSession_frame ..).2.2.2.2.1
  | ingest h_case => exact reported h_case.reported
  | propose h_case =>
    cases h_case with
    | closed | repeated => exact kept rfl
    | conflict =>
      exact reported (.inr ⟨_, rfl, rfl⟩)
    | admitted => exact reported (Service.enqueue_reported ..)
  | approve h_case =>
    cases h_case with
    | closed | repeated => exact kept rfl
    | refused =>
      exact reported (.inr ⟨_, rfl, rfl⟩)
    | granted => exact kept (Service.grant_frame ..).2.2.2.2.2
  | resolve h_case =>
    cases h_case with
    | acknowledged row h_row h_opened =>
      exact .closed _ _ _ row .acknowledged rfl h_row h_opened (by decide) (by rw [h_step]; rfl)
    | requeued row key job h_row h_opened =>
      exact .closed _ _ _ row .requeued rfl h_row h_opened (by decide) (by rw [h_step]; rfl)
  | @finish jitter key token verdict _ _ h_case =>
    cases h_case with
    | fenced => exact kept rfl
    | recorded current backoff h_job h_fence =>
      obtain ⟨-, -, -, -, h_jobs, h_exceptions⟩ := Worker.conclude_frame now
        backoff key (Worker.budgeted verdict.status verdict.reason current).1
        (Worker.budgeted verdict.status verdict.reason current).2 verdict.remoteResult
        verdict.uncertain current db
      -- a dead letter is the one conclusion that opens an exception
      split at h_exceptions
      · refine .deadLetter jitter key token verdict backoff current _ rfl h_job h_fence rfl rfl
          (by rw [h_step, h_exceptions]) ?_
        rw [h_step, h_jobs, Table.lookup_insert_self]
      · exact kept h_exceptions

end ControlPlane
