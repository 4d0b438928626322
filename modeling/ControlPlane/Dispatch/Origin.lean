import ControlPlane.Governance.Revision
import ControlPlane.Transactions.Work

/-!
# Where work comes from

A job exists only for a proposal that was not denied, and for an approval action only
once the proposal is approved; a proposal exists only for a customer; and the revision a
proposal was allowed on is never ahead of the customer's (`WorkSound`). Rows of jobs and
proposals are never deleted (`job_persists`, `proposal_persists`), and what a proposal
was made of never changes (`SameProposal`).
-/

namespace ControlPlane

open Framework

/-! ### What stays the same about a proposal -/

/-- Two rows of one proposal agree on everything but the approval. -/
structure SameProposal (p p' : Proposal) : Prop where
  customerId : p'.customerId = p.customerId
  actor : p'.actor = p.actor
  body : p'.body = p.body
  policyHash : p'.policyHash = p.policyHash
  revision : p'.revision = p.revision
  decision : p'.decision = p.decision
  expiresAt : p'.expiresAt = p.expiresAt
  /-- An approval is granted once. -/
  approved : ∀ actor, p.approvedBy = some actor →
    p'.approvedBy = p.approvedBy ∧ p'.approvedUntil = p.approvedUntil

theorem SameProposal.refl (p : Proposal) : SameProposal p p :=
  ⟨rfl, rfl, rfl, rfl, rfl, rfl, rfl, fun _ _ => ⟨rfl, rfl⟩⟩

theorem SameProposal.trans {p q r : Proposal} (h : SameProposal p q) (h' : SameProposal q r) :
    SameProposal p r where
  customerId := h'.customerId.trans h.customerId
  actor := h'.actor.trans h.actor
  body := h'.body.trans h.body
  policyHash := h'.policyHash.trans h.policyHash
  revision := h'.revision.trans h.revision
  decision := h'.decision.trans h.decision
  expiresAt := h'.expiresAt.trans h.expiresAt
  approved actor h_by := by
    obtain ⟨h_by', h_until⟩ := h.approved actor h_by
    obtain ⟨h_by'', h_until'⟩ := h'.approved actor (h_by'.trans h_by)
    exact ⟨h_by''.trans h_by', h_until'.trans h_until⟩

/-- A proposal keeps its row, up to its approval. -/
theorem proposal_persists {db : Db} (entry : Entry) {id : Uuid} {p : Proposal}
    (h : db.proposals.lookup id = some p) :
    ∃ p', (db.step entry).proposals.lookup id = some p' ∧ SameProposal p p' := by
  cases proposal_move db entry id with
  | kept h_after => exact ⟨p, h_after.trans h, .refl p⟩
  | proposed _ _ _ _ _ h_before =>
    rw [h] at h_before
    cases h_before
  | approved _ _ _ _ proposal _ _ h_before _ _ h_new h_after =>
    obtain rfl : p = proposal := Option.some.inj (h.symm.trans h_before)
    refine ⟨_, h_after, ⟨rfl, rfl, rfl, rfl, rfl, rfl, rfl, fun actor h_by => ?_⟩⟩
    rw [h_new] at h_by
    cases h_by

/-- A customer keeps a row, whose revision does not decrease. -/
theorem customer_persists {db : Db} (h_drawn : CustomersDrawn db) (entry : Entry) {id : Uuid}
    {row : Customer} (h : db.customers.lookup id = some row) :
    ∃ row', (db.step entry).customers.lookup id = some row' ∧
      row.revision ≤ row'.revision ∧ (row'.revision = row.revision → row' = row) := by
  by_cases h_some : entry.AcceptsSome db id
  · obtain ⟨row', h_row', h_lt⟩ := (customer_versioned id).raise db entry row h_drawn h_some h
    exact ⟨row', h_row', h_lt.le, fun h_eq => absurd h_eq h_lt.ne'⟩
  · exact ⟨row, ((customer_versioned id).keep db entry h_drawn h_some).trans h, le_rfl,
      fun _ => rfl⟩

/-! ### The invariant -/

structure WorkSound (db : Db) : Prop where
  drawn : CustomersDrawn db
  /-- A job belongs to a proposal that was not denied and is approved where it must be. -/
  job : ∀ id job, db.jobs.lookup id = some job → ∃ p, db.proposals.lookup id = some p ∧
    p.decision ≠ .deny ∧ (p.decision = .approval → p.approvedBy ≠ none)
  /-- A proposal belongs to a customer, and one that was not denied was made for a revision
  the customer has had. -/
  proposal : ∀ id p, db.proposals.lookup id = some p →
    ∃ row, db.customers.lookup p.customerId = some row ∧
      (p.decision ≠ .deny → p.revision ≤ row.revision)

/-- The row of a job is never deleted. -/
theorem job_persists {db : Db} (entry : Entry) {id : Uuid} {job : Job}
    (h_job : db.jobs.lookup id = some job) :
    ∃ job', (db.step entry).jobs.lookup id = some job' := by
  cases job_move db entry id with
  | kept h_after => exact ⟨job, h_after.trans h_job⟩
  | proposed _ _ _ _ _ _ _ _ _ _ h_after | approved _ _ _ _ _ _ _ _ _ _ _ h_after
  | claimed _ _ _ _ _ _ _ _ _ h_after | prepared _ _ _ _ _ _ _ _ _ _ _ _ _ _ _ h_after
  | finished _ _ _ _ _ _ _ _ h_after | deferred _ _ _ _ _ _ _ _ h_after
  | requeued _ _ _ _ _ _ _ _ _ _ _ _ h_after => exact ⟨_, h_after⟩

/-- A step that admits a proposal finds no job of its id. -/
theorem WorkSound.no_job {db : Db} (h : WorkSound db) {id : Uuid}
    (h_fresh : db.proposals.lookup id = none) : db.jobs.lookup id = none := by
  cases h_job : db.jobs.lookup id with
  | none => rfl
  | some job =>
    obtain ⟨p, h_p, -⟩ := h.job id job h_job
    rw [h_fresh] at h_p
    cases h_p

/-- A decision that is not a denial was taken on the expected revision. -/
theorem proposalRow_revision {now : Time} {actor : Actor} {command : Contract.Proposal}
    {row : Customer}
    (h : (Service.proposalRow now actor command (actionDecision command.action row.state
      row.revision command.expectedRevision)).decision ≠ .deny) :
    row.revision = command.expectedRevision :=
  (actionDecision_ne_deny h).1

theorem WorkSound.step {db : Db} (h : WorkSound db) (entry : Entry) :
    WorkSound (db.step entry) where
  drawn := h.drawn.step entry
  job id job' h_after := by
    by_cases h_before : ∃ job, db.jobs.lookup id = some job
    · -- an old job: its proposal is still there, and still approved
      obtain ⟨job, h_job⟩ := h_before
      obtain ⟨p, h_p, h_deny, h_approved⟩ := h.job id job h_job
      obtain ⟨p', h_p', h_same⟩ := proposal_persists entry h_p
      refine ⟨p', h_p', h_same.decision ▸ h_deny, fun h_approval => ?_⟩
      have h_by := h_approved (h_same.decision ▸ h_approval)
      obtain ⟨actor, h_actor⟩ := Option.ne_none_iff_exists'.mp h_by
      rwa [(h_same.approved actor h_actor).1]
    -- a new job: inserted with its proposal, or by its approval
    · cases job_move db entry id with
      | kept h_kept => exact absurd ⟨job', h_kept.symm.trans h_after⟩ h_before
      | claimed _ _ job _ _ h_job | prepared _ _ job _ _ _ _ _ h_job | finished _ _ _ _ job _ h_job
      | deferred _ _ _ job _ h_job | requeued _ _ _ _ job _ _ _ _ _ h_job =>
        exact absurd ⟨job, h_job⟩ h_before
      | proposed actor command row _ _ _ _ _ h_allow h_proposal =>
        have h_decision : (Service.proposalRow entry.now actor command (actionDecision
          command.action row.state row.revision command.expectedRevision)).decision = .allow :=
          h_allow
        refine ⟨_, h_proposal, ?_, ?_⟩ <;> rw [h_decision] <;> intro h_eq <;> cases h_eq
      | approved _ _ _ _ proposal _ _ _ _ h_reason h_proposal =>
        have h_decision := (Service.approvalReason_eq_none h_reason).2.2.1
        refine ⟨_, h_proposal, ?_, fun _ h_eq => by cases h_eq⟩
        change proposal.decision ≠ .deny
        rw [h_decision]
        exact fun h_eq => by cases h_eq
  proposal id p' h_after := by
    -- the customer of an old proposal still has a row, with no smaller revision
    have h_old : ∀ p, db.proposals.lookup id = some p → p'.customerId = p.customerId →
        p'.revision = p.revision → p'.decision = p.decision →
        ∃ row, (db.step entry).customers.lookup p'.customerId = some row ∧
          (p'.decision ≠ .deny → p'.revision ≤ row.revision) := by
      intro p h_p h_customer h_revision h_decision
      obtain ⟨row, h_row, h_le⟩ := h.proposal id p h_p
      obtain ⟨row', h_row', h_mono, -⟩ := customer_persists h.drawn entry h_row
      refine ⟨row', h_customer ▸ h_row', fun h_deny => ?_⟩
      rw [h_revision]
      exact (h_le (h_decision ▸ h_deny)).trans h_mono
    cases proposal_move db entry id with
    | kept h_kept => exact h_old p' (h_kept.symm.trans h_after) rfl rfl rfl
    | proposed actor command row h_tx _ _ h_row h_new =>
      obtain rfl := Option.some.inj (h_new.symm.trans h_after)
      obtain ⟨row', h_row', h_mono, -⟩ := customer_persists h.drawn entry h_row
      refine ⟨row', h_row', fun h_deny => ?_⟩
      exact (proposalRow_revision h_deny).ge.trans h_mono
    | approved _ _ _ _ proposal _ _ h_before _ _ _ h_new =>
      obtain rfl := Option.some.inj (h_new.symm.trans h_after)
      exact h_old proposal h_before rfl rfl rfl

theorem work_sound (registry : Table String Destination) (owners : Table String String)
    (entries : List Entry) : WorkSound ((Db.migrated registry owners).run entries) :=
  run_invariant ⟨fun _ _ h => (by cases h), fun _ _ h => (by cases h),
    fun _ _ h => (by cases h)⟩ (fun _ entry h => h.step entry) entries

end ControlPlane
