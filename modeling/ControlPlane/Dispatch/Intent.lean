import ControlPlane.Dispatch.Lease

/-!
# Intents

`prepare` writes the mutation into the job's row before any request leaves. From then on
the row's mutation never changes (`mutation_kept`): it is the mutation of the proposal for
the one revision the proposal was made for, and as long as the customer has that revision,
it has the state the mutation was computed from (`IntentSound`). So a second `prepare`
that passes the revision check computes the same mutation again, and the answer
`mutationChanged` is never given (`prepare_ne_mutationChanged`).
-/

namespace ControlPlane

open Framework

/-! ### The mutation of a proposal -/

/-- What `prepare` computes, spelled out. -/
theorem mutationOf_ok {proposal : Proposal} {row : Customer} {mutation : Mutation}
    (h : Worker.mutationOf proposal row = .ok mutation) :
    mutation.customerId = proposal.customerId ∧ mutation.action = proposal.body.action ∧
      mutation.revision = row.revision ∧
      (proposal.body.action = .sendMarketing → ∃ email, row.state.email = some email ∧
        mutation.payload = .marketing email proposal.body.template) := by
  unfold Worker.mutationOf at h
  split at h
  · split at h
    · cases h
    · rename_i email h_email
      cases h
      exact ⟨rfl, rfl, rfl, fun _ => ⟨email, h_email, rfl⟩⟩
  · rename_i h_action
    cases h
    exact ⟨rfl, rfl, rfl, fun h_send => absurd h_send h_action⟩

theorem SameProposal.mutationOf {p p' : Proposal} (h : SameProposal p p') (row : Customer) :
    Worker.mutationOf p' row = Worker.mutationOf p row := by
  unfold Worker.mutationOf
  rw [h.body, h.customerId]

/-- A valid proposal is for the current revision. -/
theorem validProposal_revision {proposal : Proposal} {row : Customer} {utc : Time}
    {requireApproval : Bool}
    (h : Service.validProposal proposal row utc requireApproval = none) :
    row.revision = proposal.revision :=
  (actionDecision_ne_deny (Service.validProposal_eq_none h).2.2.1).1

/-! ### The invariant -/

/-- The stored intent of a job, explained by its proposal. -/
structure Intended (db : Db) (id : Uuid) (mutation : Mutation) (p : Proposal)
    (row : Customer) : Prop where
  h_proposal : db.proposals.lookup id = some p
  h_row : db.customers.lookup p.customerId = some row
  h_revision : mutation.revision = p.revision
  h_le : p.revision ≤ row.revision
  /-- While the customer still has the revision, it is the mutation `prepare` computes. -/
  h_current : row.revision = p.revision → Worker.mutationOf p row = .ok mutation

structure IntentSound (db : Db) : Prop where
  intent : ∀ id job mutation, db.jobs.lookup id = some job → job.mutation = some mutation →
    ∃ p row, Intended db id mutation p row
  /-- An uncertain job has an intent. -/
  uncertain : ∀ id job, db.jobs.lookup id = some job → job.uncertain = true →
    job.mutation ≠ none

/-- **An intent is written once.** -/
theorem mutation_kept {db : Db} (h_work : WorkSound db) (entry : Entry) {id : Uuid} {job : Job}
    {mutation : Mutation} (h_job : db.jobs.lookup id = some job)
    (h_mutation : job.mutation = some mutation) :
    ∃ job', (db.step entry).jobs.lookup id = some job' ∧ job'.mutation = some mutation := by
  cases job_move db entry id with
  | kept h_after => exact ⟨job, h_after.trans h_job, h_mutation⟩
  | proposed _ _ _ _ _ _ h_fresh =>
    rw [h_work.no_job h_fresh] at h_job
    cases h_job
  | approved _ _ _ _ _ _ _ _ h_before =>
    rw [h_job] at h_before
    cases h_before
  | prepared _ _ old _ _ _ _ _ h_before _ _ _ _ _ h_same h_after =>
    obtain rfl := Option.some.inj (h_before.symm.trans h_job)
    exact ⟨_, h_after, congrArg some (h_same mutation h_mutation).symm⟩
  | claimed _ _ old _ _ h_before _ _ _ h_after | finished _ _ _ _ old _ h_before _ h_after
  | deferred _ _ _ old _ h_before _ _ h_after
  | requeued _ _ _ _ old _ _ _ _ _ h_before _ h_after =>
    obtain rfl := Option.some.inj (h_before.symm.trans h_job)
    exact ⟨_, h_after, h_mutation⟩

/-- Where an intent comes from: it was there before, or the step prepared it. -/
theorem mutation_step {db : Db} (entry : Entry) {id : Uuid} {job' : Job} {mutation : Mutation}
    (h_after : (db.step entry).jobs.lookup id = some job')
    (h_mutation : job'.mutation = some mutation) :
    (∃ job, db.jobs.lookup id = some job ∧ job.mutation = some mutation) ∨
    (∃ utc token proposal row, entry.tx = .prepare utc id token ∧
      db.proposals.lookup id = some proposal ∧
      db.customers.lookup proposal.customerId = some row ∧
      Service.validProposal proposal row utc true = none ∧
      Worker.mutationOf proposal row = .ok mutation) := by
  cases job_move db entry id with
  | kept h_kept => exact .inl ⟨job', h_kept.symm.trans h_after, h_mutation⟩
  -- a new job has no intent yet
  | proposed _ _ _ _ _ _ _ _ _ _ h_new | approved _ _ _ _ _ _ _ _ _ _ _ h_new =>
    obtain rfl := Option.some.inj (h_new.symm.trans h_after)
    cases h_mutation
  | prepared utc token old _ proposal row h_tx _ h_before _ h_proposal h_row h_valid h_of _
      h_new =>
    obtain rfl := Option.some.inj (h_new.symm.trans h_after)
    obtain rfl := Option.some.inj h_mutation
    exact .inr ⟨utc, token, proposal, row, h_tx, h_proposal, h_row, h_valid, h_of⟩
  | claimed _ _ old _ _ h_before _ _ _ h_new | finished _ _ _ _ old _ h_before _ h_new
  | deferred _ _ _ old _ h_before _ _ h_new
  | requeued _ _ _ _ old _ _ _ _ _ h_before _ h_new =>
    obtain rfl := Option.some.inj (h_new.symm.trans h_after)
    exact .inl ⟨old, h_before, h_mutation⟩

/-- A step carries the explanation of an intent along. -/
theorem Intended.step {db : Db} (h_drawn : CustomersDrawn db) (entry : Entry) {id : Uuid}
    {mutation : Mutation} {p : Proposal} {row : Customer} (h : Intended db id mutation p row) :
    ∃ p' row', Intended (db.step entry) id mutation p' row' := by
  obtain ⟨p', h_p', h_same⟩ := proposal_persists entry h.h_proposal
  obtain ⟨row', h_row', h_mono, h_eq⟩ := customer_persists h_drawn entry h.h_row
  refine ⟨p', row', h_p', h_same.customerId ▸ h_row', h.h_revision.trans h_same.revision.symm,
    h_same.revision ▸ h.h_le.trans h_mono, fun h_current => ?_⟩
  -- the revision is between the proposal's and the row's, so it has not moved
  have h_rev : row.revision = p.revision :=
    le_antisymm (h_mono.trans (h_current.trans h_same.revision).le) h.h_le
  obtain rfl := h_eq (h_current.trans (h_same.revision.trans h_rev.symm))
  exact (h_same.mutationOf row').trans (h.h_current h_rev)

theorem IntentSound.step {db : Db} (h_work : WorkSound db) (h : IntentSound db)
    (entry : Entry) : IntentSound (db.step entry) where
  -- an old intent keeps its proposal; a new one was checked against it by this step
  intent id job' mutation h_after h_mutation := by
    rcases mutation_step entry h_after h_mutation with
      ⟨job, h_job, h_old⟩ | ⟨utc, token, p, row, h_tx, h_p, h_row, h_valid, h_of⟩
    · obtain ⟨p, row, h_intended⟩ := h.intent id job mutation h_job h_old
      exact h_intended.step h_work.drawn entry
    · have h_rev := validProposal_revision h_valid
      have h_intended : Intended db id mutation p row :=
        ⟨h_p, h_row, (mutationOf_ok h_of).2.2.1.trans h_rev, h_rev.ge, fun _ => h_of⟩
      exact h_intended.step h_work.drawn entry
  uncertain id job' h_after h_uncertain := by
    cases job_move db entry id with
    | kept h_kept => exact h.uncertain id job' (h_kept.symm.trans h_after) h_uncertain
    | proposed _ _ _ _ _ _ _ _ _ _ h_new | approved _ _ _ _ _ _ _ _ _ _ _ h_new =>
      obtain rfl := Option.some.inj (h_new.symm.trans h_after)
      cases h_uncertain
    -- `prepare` sets the flag and writes the intent with it
    | prepared _ _ old _ _ _ _ _ _ _ _ _ _ _ _ h_new =>
      obtain rfl := Option.some.inj (h_new.symm.trans h_after)
      exact fun h_eq => by cases h_eq
    | finished _ _ verdict _ old _ h_before _ h_new =>
      obtain rfl := Option.some.inj (h_new.symm.trans h_after)
      -- no verdict sets the flag
      refine h.uncertain id old h_before ?_
      cases verdict <;> first | exact h_uncertain | cases h_uncertain
    | claimed _ _ old _ _ h_before _ _ _ h_new | deferred _ _ _ old _ h_before _ _ h_new
    | requeued _ _ _ _ old _ _ _ _ _ h_before _ h_new =>
      obtain rfl := Option.some.inj (h_new.symm.trans h_after)
      exact h.uncertain id old h_before h_uncertain

theorem intent_sound (registry : Table String Destination) (owners : Table String String)
    (entries : List Entry) : IntentSound ((Db.migrated registry owners).run entries) :=
  (run_invariant (I := fun db => WorkSound db ∧ IntentSound db)
    ⟨work_sound registry owners [], ⟨fun _ _ _ h => (by cases h), fun _ _ h => (by cases h)⟩⟩
    (fun _ entry h => ⟨h.1.step entry, h.2.step h.1 entry⟩) entries).2

theorem marketingDenial_ne_mutationChanged {state : CustomerState} :
    marketingDenial state ≠ some .mutationChanged := by
  unfold marketingDenial
  intro h
  split at h
  · cases h
  split at h
  · cases h
  split at h <;> cases h

/-- The reason is `prepare`'s own: no check of the proposal gives it. -/
theorem validProposal_ne_mutationChanged {proposal : Proposal} {row : Customer} {utc : Time}
    {requireApproval : Bool} :
    Service.validProposal proposal row utc requireApproval ≠ some .mutationChanged := by
  have h_decision : ∀ action state revision expected,
      (actionDecision action state revision expected).2 ≠ .mutationChanged := by
    intro action state revision expected h
    unfold actionDecision at h
    split at h
    · cases h
    split at h
    · rename_i reason h_reason
      obtain rfl : reason = .mutationChanged := h
      split at h_reason
      · exact marketingDenial_ne_mutationChanged h_reason
      · cases h_reason
    · split at h <;> cases h
  -- the reasons of `validProposal` itself are other ones
  intro h
  unfold Service.validProposal at h
  split at h
  · cases h
  split at h
  · cases h
  dsimp only at h
  split at h
  · exact h_decision _ _ _ _ (Option.some.inj h)
  split at h
  · split at h
    · cases h
    split at h <;> cases h
  · cases h

/-- **`prepare` never finds a different mutation.** -/
theorem prepare_ne_mutationChanged {db : Db} (h : IntentSound db) (now utc : Time) (id : Uuid)
    (token : Option Uuid) (db' : Db) :
    Worker.prepare now utc id token db ≠ .ok (.refused .mutationChanged, db') := by
  intro h_ok
  generalize h_reply : Worker.Prepared.refused .mutationChanged = reply at h_ok
  cases Worker.prepare_cases h_ok with
  | closed | fenced | authorized => cases h_reply
  | invalid proposal row reason h_proposal h_row h_valid =>
    cases h_reply
    exact validProposal_ne_mutationChanged h_valid
  | changed proposal row current mutation previous h_proposal h_row h_job h_valid h_mutation
      h_previous h_ne =>
    obtain ⟨p, row', h_intended⟩ := h.intent id current previous h_job h_previous
    obtain rfl := Option.some.inj (h_intended.h_proposal.symm.trans h_proposal)
    obtain rfl := Option.some.inj (h_intended.h_row.symm.trans h_row)
    have h_same := h_intended.h_current (validProposal_revision h_valid)
    rw [h_mutation] at h_same
    exact h_ne (Except.ok.inj h_same).symm

end ControlPlane
