import ControlPlane.Dispatch.Origin

/-!
# Work authorization

A proposal is decided once, in the transaction that inserts it, and everything that work
needs hangs on that row: the route is bound in the same transaction, the job is inserted
there for an allowed action and by the one approval for an action that needs it. So the
three tables can be read against each other in every reachable state (`AdmissionSound`):
which proposals have a job, which have a route, and what an approval may say.

`propose` is idempotent on the request id, over any commits in between: a repeated request
reads the recorded decision back before anything that may have changed is looked at
(`propose_repeated`), and another request under the id is a conflict that leaves the work
tables alone (`propose_conflict`).
-/

namespace ControlPlane

open Framework

/-! ### Routes -/

/-- What one step does to the route of one id. -/
inductive RouteMove (db : Db) (entry : Entry) (id : Uuid) : Prop
  | kept (h_after : (db.step entry).jobRoutes.lookup id = db.jobRoutes.lookup id)
  | bound (actor : Actor) (command : Contract.Proposal) (row : Customer) (name : String)
      (h_tx : entry.tx = .propose actor command) (h_id : id = command.requestId)
      (h_fresh : db.proposals.lookup id = none)
      (h_decision : (actionDecision command.action row.state row.revision
        command.expectedRevision).1 ≠ .deny)
      (h_proposal : (db.step entry).proposals.lookup id =
        some (Service.proposalRow entry.now actor command (actionDecision command.action
          row.state row.revision command.expectedRevision)))
      (h_after : (db.step entry).jobRoutes.lookup id = some name)

/-- **The inversion of one step, for one route.** -/
theorem route_move (db : Db) (entry : Entry) (id : Uuid) : RouteMove db entry id := by
  obtain ⟨now, tx⟩ := entry
  -- only `propose` writes a route
  by_cases h_propose : ∀ actor command, tx ≠ .propose actor command
  · have h_routing : (db.step ⟨now, tx⟩).routing = db.routing := routing_apply now db h_propose
    have h_routes : (db.step ⟨now, tx⟩).jobRoutes = db.jobRoutes :=
      congrArg Routing.jobRoutes h_routing
    exact .kept (by rw [h_routes])
  push Not at h_propose
  obtain ⟨actor, command, rfl⟩ := h_propose
  have h_committed := Tx.committed now db (.propose actor command)
  generalize h_step : (Tx.propose actor command).apply now db = db' at h_committed
  replace h_step : db.step ⟨now, .propose actor command⟩ = db' := h_step
  have kept : db'.jobRoutes = db.jobRoutes → RouteMove db ⟨now, .propose actor command⟩ id := by
    intro h_same
    exact .kept (by rw [h_step, h_same])
  cases h_committed with
  | rolledBack => exact kept rfl
  | propose h_case =>
    cases h_case with
    | closed | conflict | repeated => exact kept rfl
    | admitted row destination h_open h_row h_fresh h_destination =>
      have h_routes := congrArg Routing.jobRoutes (Service.enqueue_routing now actor command row
        (actionDecision command.action row.state row.revision command.expectedRevision)
        destination db).1
      have h_proposals := (Service.enqueue_frame now actor command row
        (actionDecision command.action row.state row.revision command.expectedRevision)
        destination db).2.2.2.1
      cases destination with
      | none => exact kept h_routes
      | some name =>
        -- a denied proposal is not admitted anywhere, so there is no destination to bind
        have h_decision : (actionDecision command.action row.state row.revision
            command.expectedRevision).1 ≠ .deny := by
          intro h_deny
          rw [if_neg (not_not.mpr h_deny)] at h_destination
          cases h_destination
        -- the route is bound under the id of the request
        by_cases h_id : id = command.requestId
        · refine .bound actor command row name rfl h_id (h_id ▸ h_fresh) h_decision ?_ ?_
          · rw [h_step, h_proposals, h_id, Table.lookup_insert_self]
          · have h_routes : (db.step ⟨now, .propose actor command⟩).jobRoutes =
                db.jobRoutes.insert command.requestId name := by
              rw [h_step]
              exact h_routes
            rw [h_routes, h_id, Table.lookup_insert_self]
        · refine .kept ?_
          have h_routes : (db.step ⟨now, .propose actor command⟩).jobRoutes =
              db.jobRoutes.insert command.requestId name := by
            rw [h_step]
            exact h_routes
          rw [h_routes, Table.lookup_insert_of_ne _ _ h_id]

/-! ### The invariant -/

/-- The approval columns of a proposal: both empty, or set together by somebody other than
its author, to a moment that is not after its end. -/
inductive ApprovalColumns (p : Proposal) : Prop
  | open_ (h_by : p.approvedBy = none) (h_until : p.approvedUntil = none)
  | granted (actor : Actor) (until_ : Time) (h_by : p.approvedBy = some actor)
      (h_until : p.approvedUntil = some until_) (h_actor : actor ≠ p.actor)
      (h_end : until_ ≤ p.expiresAt) (h_decision : p.decision = .approval)

/-- The work of one proposal. -/
structure ProposalWork (db : Db) (id : Uuid) (p : Proposal) : Prop where
  /-- There is a job exactly for an allowed action and for an approved one. -/
  job : (db.jobs.lookup id).isSome ↔
    p.decision = .allow ∨ (p.decision = .approval ∧ p.approvedBy.isSome)
  /-- A denied proposal has no route. -/
  route : p.decision = .deny → db.jobRoutes.lookup id = none
  /-- Consent is never set by a proposal. -/
  setConsent : p.body.action = .setConsent → p.decision = .deny
  approval : ApprovalColumns p
  requestId : p.body.requestId = id
  customerId : p.body.customerId = p.customerId
  hash : p.hash = digest p.body

/-- The work tables read against each other. -/
structure AdmissionSound (db : Db) : Prop where
  work : ∀ id p, db.proposals.lookup id = some p → ProposalWork db id p
  /-- No job and no route without its proposal. -/
  orphan : ∀ id, db.proposals.lookup id = none →
    db.jobs.lookup id = none ∧ db.jobRoutes.lookup id = none

/-- A job is inserted by the step that makes its proposal an allowed or an approved one. -/
theorem job_inserted {db : Db} (entry : Entry) {id : Uuid}
    (h_before : db.jobs.lookup id = none) (h_after : (db.step entry).jobs.lookup id ≠ none) :
    ∃ p, (db.step entry).proposals.lookup id = some p ∧
      (p.decision = .allow ∨ (p.decision = .approval ∧ p.approvedBy.isSome)) := by
  have old : ∀ {job}, db.jobs.lookup id = some job → False := by
    intro job h_job
    rw [h_before] at h_job
    cases h_job
  cases job_move db entry id with
  | kept h_kept => exact absurd (h_kept.trans h_before) h_after
  | claimed _ _ job _ _ h_job | prepared _ _ job _ _ _ _ _ h_job | finished _ _ _ _ job _ h_job
  | deferred _ _ _ job _ h_job | requeued _ _ _ _ job _ _ _ _ _ h_job => exact (old h_job).elim
  | proposed actor command row _ _ _ _ _ h_allow h_proposal =>
    exact ⟨_, h_proposal, .inl h_allow⟩
  | approved utc utc' actor command proposal row _ _ _ h_reason h_proposal =>
    have h_decision := (Service.approvalReason_eq_none h_reason).2.2.1
    exact ⟨_, h_proposal, .inr ⟨h_decision, rfl⟩⟩

/-- The row of a new proposal is undecided as to its approval, and names its own request. -/
theorem proposalRow_approval (now : Time) (actor : Actor) (command : Contract.Proposal)
    (decision : Decision × Reason) :
    ApprovalColumns (Service.proposalRow now actor command decision) := .open_ rfl rfl

/-- The columns that a granted approval writes. -/
theorem granted_approval {actor : Actor} {command : Contract.Approval} {proposal : Proposal}
    {row : Customer} {utc : Time} (utc' : Time)
    (h_reason : Service.approvalReason actor command proposal row utc = none) :
    ApprovalColumns { proposal with
      approvedBy := some actor
      approvedUntil := some (Service.approvalUntil proposal utc') } := by
  obtain ⟨h_actor, -, h_decision, -⟩ := Service.approvalReason_eq_none h_reason
  refine .granted actor (Service.approvalUntil proposal utc') rfl rfl h_actor ?_ h_decision
  -- the end of the approval is the smaller of two moments
  show min proposal.expiresAt _ ≤ proposal.expiresAt
  exact min_le_left _ _

/-- A step that leaves the row of a proposal alone leaves its work as it was. -/
theorem ProposalWork.kept {db : Db} {id : Uuid} {p : Proposal} (h : ProposalWork db id p)
    (entry : Entry) (h_before : db.proposals.lookup id = some p)
    (h_after : (db.step entry).proposals.lookup id = some p) :
    ProposalWork (db.step entry) id p where
  job := by
    rw [← h.job]
    constructor
    · intro h_job
      by_contra h_none
      -- a job inserted now would make the unchanged row an allowed or an approved one
      have h_before : db.jobs.lookup id = none := by simpa using h_none
      have h_some : (db.step entry).jobs.lookup id ≠ none := Option.isSome_iff_ne_none.mp h_job
      obtain ⟨p', h_p', h_decided⟩ := job_inserted entry h_before h_some
      obtain rfl : p = p' := Option.some.inj (h_after.symm.trans h_p')
      exact h_none (h.job.mpr h_decided)
    · intro h_job
      obtain ⟨job, h_job⟩ := Option.isSome_iff_exists.mp h_job
      obtain ⟨job', h_job'⟩ := job_persists entry h_job
      rw [h_job']
      rfl
  -- a route is only bound to a request without a proposal
  route h_deny := by
    cases route_move db entry id with
    | kept h_route => exact h_route.trans (h.route h_deny)
    | bound _ _ _ _ _ _ h_fresh =>
      rw [h_before] at h_fresh
      cases h_fresh
  setConsent := h.setConsent
  approval := h.approval
  requestId := h.requestId
  customerId := h.customerId
  hash := h.hash

/-- **One step keeps the work tables in agreement.** -/
theorem AdmissionSound.step {db : Db} (h : AdmissionSound db) (entry : Entry) :
    AdmissionSound (db.step entry) where
  work id p h_after := by
    cases proposal_move db entry id with
    | kept h_kept =>
      have h_before : db.proposals.lookup id = some p := h_kept.symm.trans h_after
      exact (h.work id p h_before).kept entry h_before h_after
    | proposed actor command row h_tx h_id h_fresh h_row h_new h_job =>
      obtain rfl := Option.some.inj (h_new.symm.trans h_after)
      obtain ⟨h_noJob, h_noRoute⟩ := h.orphan id h_fresh
      refine ⟨?_, fun h_deny => ?_, fun h_set => ?_, proposalRow_approval .., h_id.symm, rfl,
        rfl⟩
      · -- the job is inserted with the proposal, for an allowed action only
        rw [h_job, h_noJob]
        constructor
        · intro h_some
          split at h_some
          · exact .inl ‹_›
          · cases h_some
        · rintro (h_allow | ⟨-, h_by⟩)
          · have h_allow : (actionDecision command.action row.state row.revision
                command.expectedRevision).1 = .allow := h_allow
            rw [if_pos h_allow]
            rfl
          · cases h_by
      -- a proposal that is denied has no destination
      · cases route_move db entry id with
        | kept h_route => exact h_route.trans h_noRoute
        | bound actor' command' row' _ _ _ _ h_decision h_proposal =>
          have h_same := Option.some.inj (h_new.symm.trans h_proposal)
          have h_deny' : (actionDecision command'.action row'.state row'.revision
              command'.expectedRevision).1 = .deny :=
            (congrArg Proposal.decision h_same).symm.trans h_deny
          exact absurd h_deny' h_decision
      · show (actionDecision command.action row.state row.revision
          command.expectedRevision).1 = .deny
        have h_action : command.action = .setConsent := h_set
        rw [h_action]
        rfl
    | approved utc utc' actor command proposal row h_tx h_before h_row h_reason h_new h_set h_job =>
      obtain rfl := Option.some.inj (h_set.symm.trans h_after)
      have h_work := h.work id proposal h_before
      obtain ⟨-, -, h_decision, -⟩ := Service.approvalReason_eq_none h_reason
      refine ⟨iff_of_true h_job (.inr ⟨h_decision, rfl⟩), fun h_deny => ?_, h_work.setConsent,
        granted_approval utc' h_reason, h_work.requestId, h_work.customerId, h_work.hash⟩
      have h_deny : proposal.decision = .deny := h_deny
      rw [h_decision] at h_deny
      cases h_deny
  -- neither proposals nor jobs are deleted, and both come with their proposal
  orphan id h_after := by
    have h_before : db.proposals.lookup id = none := by
      cases h_before : db.proposals.lookup id with
      | none => rfl
      | some p =>
        obtain ⟨p', h_p', -⟩ := proposal_persists entry h_before
        rw [h_after] at h_p'
        cases h_p'
    obtain ⟨h_noJob, h_noRoute⟩ := h.orphan id h_before
    constructor
    · by_contra h_some
      obtain ⟨p, h_p, -⟩ := job_inserted entry h_noJob h_some
      rw [h_after] at h_p
      cases h_p
    · cases route_move db entry id with
      | kept h_route => exact h_route.trans h_noRoute
      | bound _ _ _ _ _ _ _ _ h_proposal =>
        rw [h_after] at h_proposal
        cases h_proposal

/-! ### What never changes -/

/-- The recorded request and decision of a proposal, which only its approval joins later. -/
structure Recorded (p p' : Proposal) : Prop where
  same : SameProposal p p'
  hash : p'.hash = p.hash
  reason : p'.reason = p.reason

/-- A proposal keeps what was recorded, and its route. -/
theorem recorded_persists {db : Db} (entry : Entry) {id : Uuid} {p : Proposal}
    (h : db.proposals.lookup id = some p) :
    (∃ p', (db.step entry).proposals.lookup id = some p' ∧ Recorded p p') ∧
      (db.step entry).jobRoutes.lookup id = db.jobRoutes.lookup id := by
  constructor
  · obtain ⟨p', h_p', h_same⟩ := proposal_persists entry h
    refine ⟨p', h_p', h_same, ?_, ?_⟩ <;>
      cases proposal_move db entry id with
      | kept h_kept =>
        obtain rfl : p' = p := Option.some.inj (h_p'.symm.trans (h_kept.trans h))
        rfl
      | proposed _ _ _ _ _ h_fresh =>
        rw [h] at h_fresh
        cases h_fresh
      | approved _ _ _ _ proposal _ _ h_before _ _ _ h_after =>
        obtain rfl : p = proposal := Option.some.inj (h.symm.trans h_before)
        obtain rfl := Option.some.inj (h_p'.symm.trans h_after)
        rfl
  · cases route_move db entry id with
    | kept h_route => exact h_route
    | bound _ _ _ _ _ _ h_fresh =>
      rw [h] at h_fresh
      cases h_fresh

theorem Recorded.trans {p q r : Proposal} (h : Recorded p q) (h' : Recorded q r) :
    Recorded p r where
  same := h.same.trans h'.same
  hash := h'.hash.trans h.hash
  reason := h'.reason.trans h.reason

theorem run_recorded (db : Db) {pre as : List Entry} (h : pre <+: as) {id : Uuid} {p : Proposal}
    (h_p : (db.run pre).proposals.lookup id = some p) :
    (∃ p', (db.run as).proposals.lookup id = some p' ∧ Recorded p p') ∧
      (db.run as).jobRoutes.lookup id = (db.run pre).jobRoutes.lookup id := by
  refine run_stable (P := fun db' : Db =>
    (∃ p', db'.proposals.lookup id = some p' ∧ Recorded p p') ∧
      db'.jobRoutes.lookup id = (db.run pre).jobRoutes.lookup id) ?_ h
    ⟨⟨p, h_p, .refl p, rfl, rfl⟩, rfl⟩
  rintro db' entry ⟨⟨p', h_p', h_recorded⟩, h_route⟩
  obtain ⟨⟨p'', h_p'', h_next⟩, h_same⟩ := recorded_persists entry h_p'
  exact ⟨⟨p'', h_p'', h_recorded.trans h_next⟩, h_same.trans h_route⟩

/-! ### `propose` on a used request id -/

section Propose

variable {now : Time} {actor : Actor} {command : Contract.Proposal} {db : Db}

/-- **A repeated request reads the recorded decision back.** -/
theorem propose_repeated {row : Customer} {p : Proposal} (h_open : db.executionOpen = true)
    (h_row : db.customers.lookup command.customerId = some row)
    (h_p : db.proposals.lookup command.requestId = some p) (h_hash : p.hash = digest command)
    (h_actor : p.actor = actor) :
    Service.propose now actor command db =
      .ok (.decided command.requestId p.decision p.reason, db) := by
  unfold Service.propose
  rw [if_neg (by rw [h_open]; exact Bool.noConfusion)]
  simp only [h_row, h_p]
  rw [if_neg (by simp [h_hash, h_actor])]

/-- **Another request under the id is a conflict**, which is reported and audited. -/
theorem propose_conflict {row : Customer} {p : Proposal} (h_open : db.executionOpen = true)
    (h_row : db.customers.lookup command.customerId = some row)
    (h_p : db.proposals.lookup command.requestId = some p)
    (h_other : p.hash ≠ digest command ∨ p.actor ≠ actor) :
    ∃ db', Service.propose now actor command db = .ok (.conflict, db') ∧
      db'.proposals = db.proposals ∧ db'.jobs = db.jobs ∧ db'.jobRoutes = db.jobRoutes := by
  unfold Service.propose
  rw [if_neg (by rw [h_open]; exact Bool.noConfusion)]
  simp only [h_row, h_p]
  rw [if_pos h_other]
  exact ⟨_, rfl, rfl, rfl, rfl⟩

/-- An answered request is on record, with the answer. -/
theorem answered_record {decision : Decision} {reason : Reason} {db' : Db}
    (h : Service.propose now actor command db =
      .ok (.decided command.requestId decision reason, db')) :
    ∃ p, db'.proposals.lookup command.requestId = some p ∧ p.hash = digest command ∧
      p.actor = actor ∧ p.decision = decision ∧ p.reason = reason := by
  have h_case := Service.propose_cases h
  generalize h_reply : Service.ProposeReply.decided command.requestId decision reason = reply
    at h_case
  cases h_case with
  | closed | conflict => cases h_reply
  | repeated p h_p h_hash h_actor =>
    cases h_reply
    exact ⟨p, h_p, h_hash, h_actor, rfl, rfl⟩
  | admitted row destination =>
    cases h_reply
    refine ⟨Service.proposalRow now actor command (actionDecision command.action row.state
      row.revision command.expectedRevision), ?_, rfl, rfl, rfl, rfl⟩
    have h_proposals := (Service.enqueue_frame now actor command row
      (actionDecision command.action row.state row.revision command.expectedRevision)
      destination db).2.2.2.1
    rw [h_proposals, Table.lookup_insert_self]

/-- What `propose` raises, and why. -/
inductive ProposeRaises (command : Contract.Proposal) (db : Db) : Fault → Prop
  | customer (h_row : db.customers.lookup command.customerId = none) :
      ProposeRaises command db .customerNotFound
  | destination (row : Customer) (fault : Fault)
      (h_row : db.customers.lookup command.customerId = some row)
      (h_fresh : db.proposals.lookup command.requestId = none)
      (h_fault : fault = .destinationNotAuthorized ∨ fault = .destinationOverloaded) :
      ProposeRaises command db fault

theorem admission_faults {now : Time} {owner : Option String} {db : Db} {fault : Fault}
    (h : Capacity.admission now owner db = .error fault) :
    fault = .destinationNotAuthorized ∨ fault = .destinationOverloaded := by
  unfold Capacity.admission Capacity.checkBacklog at h
  split at h
  · cases h
  split at h
  · cases h
    exact .inl rfl
  split at h
  · cases h
    exact .inl rfl
  split at h
  · rename_i h_check
    split at h_check
    · cases h_check
      cases h
      exact .inr rfl
    · cases h_check
  · cases h

theorem propose_raises {fault : Fault}
    (h : Service.propose now actor command db = .error fault) : ProposeRaises command db fault := by
  unfold Service.propose at h
  split at h
  · cases h
  split at h
  · rename_i h_row
    cases h
    exact .customer h_row
  rename_i row h_row
  split at h
  · split at h <;> cases h
  rename_i h_fresh
  dsimp only at h
  split at h
  · rename_i fault' h_admission
    cases h
    refine .destination row fault h_row h_fresh ?_
    split at h_admission
    · exact admission_faults h_admission
    · cases h_admission
  · cases h

end Propose

/-! ### The law -/

/-- What holds after the commits `entries`, and from then on. -/
structure WorkAuthorization (registry : Table String Destination) (owners : Table String String)
    (entries : List Entry) : Prop where
  /-- The work tables agree. -/
  sound : AdmissionSound ((Db.migrated registry owners).run entries)
  /-- What a proposal says, its approval once granted, and its route never change. -/
  final : ∀ later id p, entries <+: later →
    ((Db.migrated registry owners).run entries).proposals.lookup id = some p →
    (∃ p', ((Db.migrated registry owners).run later).proposals.lookup id = some p' ∧
      Recorded p p') ∧
    ((Db.migrated registry owners).run later).jobRoutes.lookup id =
      ((Db.migrated registry owners).run entries).jobRoutes.lookup id
  /-- A repeated request is answered from the record and changes nothing. -/
  repeated : ∀ now (command : Contract.Proposal) row p,
    ((Db.migrated registry owners).run entries).executionOpen = true →
    ((Db.migrated registry owners).run entries).customers.lookup command.customerId = some row →
    ((Db.migrated registry owners).run entries).proposals.lookup command.requestId = some p →
    p.body = command →
    Service.propose now p.actor command ((Db.migrated registry owners).run entries) =
      .ok (.decided command.requestId p.decision p.reason,
        (Db.migrated registry owners).run entries)
  /-- And so it is at every moment after the first answer. -/
  answered : ∀ now now' actor command decision reason db' later,
    Service.propose now actor command ((Db.migrated registry owners).run entries) =
      .ok (.decided command.requestId decision reason, db') →
    entries ++ [⟨now, .propose actor command⟩] <+: later →
    ((Db.migrated registry owners).run later).executionOpen = true →
    Service.propose now' actor command ((Db.migrated registry owners).run later) =
      .ok (.decided command.requestId decision reason, (Db.migrated registry owners).run later)
  /-- Other content or another actor under the id is a conflict. -/
  conflict : ∀ now actor (command : Contract.Proposal) row p,
    ((Db.migrated registry owners).run entries).executionOpen = true →
    ((Db.migrated registry owners).run entries).customers.lookup command.customerId = some row →
    ((Db.migrated registry owners).run entries).proposals.lookup command.requestId = some p →
    p.body ≠ command ∨ p.actor ≠ actor →
    ∃ db', Service.propose now actor command ((Db.migrated registry owners).run entries) =
        .ok (.conflict, db') ∧
      db'.proposals = ((Db.migrated registry owners).run entries).proposals ∧
      db'.jobs = ((Db.migrated registry owners).run entries).jobs ∧
      db'.jobRoutes = ((Db.migrated registry owners).run entries).jobRoutes
  /-- A request that raises names its reason and leaves every table as it was. -/
  raised : ∀ now actor command fault,
    Service.propose now actor command ((Db.migrated registry owners).run entries) =
      .error fault →
    ProposeRaises command ((Db.migrated registry owners).run entries) fault ∧
      (Db.migrated registry owners).run (entries ++ [⟨now, .propose actor command⟩]) =
        (Db.migrated registry owners).run entries

theorem admission_sound (registry : Table String Destination) (owners : Table String String)
    (entries : List Entry) : AdmissionSound ((Db.migrated registry owners).run entries) := by
  refine run_invariant (s := Db.migrated registry owners) ?_ ?_ entries
  · exact ⟨fun _ _ h => (by cases h), fun _ _ => ⟨rfl, rfl⟩⟩
  · intro db entry h
    exact h.step entry

/-- **Work authorization.** -/
theorem work_authorization (registry : Table String Destination) (owners : Table String String)
    (entries : List Entry) : WorkAuthorization registry owners entries := by
  have h_sound := admission_sound registry owners
  refine ⟨h_sound entries, ?_, ?_, ?_, ?_, ?_⟩
  · intro later id p h_later h_p
    exact run_recorded (Db.migrated registry owners) h_later h_p
  · intro now command row p h_open h_row h_p h_body
    have h_work := (h_sound entries).work command.requestId p h_p
    exact propose_repeated h_open h_row h_p (by rw [h_work.hash, h_body]) rfl
  -- the answer is read from the record, which no later step changes
  · intro now now' actor command decision reason db' later h_ok h_later h_open
    have h_run : (Db.migrated registry owners).run (entries ++ [⟨now, .propose actor command⟩]) =
        ((Db.migrated registry owners).run entries).step ⟨now, .propose actor command⟩ :=
      run_concat entries _
    have h_step : ((Db.migrated registry owners).run entries).step
        ⟨now, .propose actor command⟩ = db' := by
      show (Service.propose now actor command _).commit _ = _
      rw [h_ok, Outcome.commit_ok]
    rw [h_step] at h_run
    obtain ⟨p, h_p, h_hash, h_actor, h_decision, h_reason⟩ := answered_record h_ok
    rw [← h_run] at h_p
    obtain ⟨⟨p', h_p', h_recorded⟩, -⟩ := run_recorded _ h_later h_p
    have h_hash' : p'.hash = digest command := h_recorded.hash.trans h_hash
    have h_work := (h_sound later).work command.requestId p' h_p'
    -- the customer of the recorded proposal is still there
    obtain ⟨row, h_row, -⟩ := (work_sound registry owners later).proposal _ p' h_p'
    rw [h_work.hash, digest_inj] at h_hash'
    have h_customer : command.customerId = p'.customerId := by rw [← h_work.customerId, h_hash']
    rw [← h_customer] at h_row
    rw [propose_repeated h_open h_row h_p' (h_recorded.hash.trans h_hash)
      (h_recorded.same.actor.trans h_actor), h_recorded.same.decision, h_recorded.reason,
      h_decision, h_reason]
  -- the recorded hash is that of the body, so that another body has another one
  · intro now actor command row p h_open h_row h_p h_other
    have h_work := (h_sound entries).work command.requestId p h_p
    refine propose_conflict h_open h_row h_p (h_other.imp_left fun h_body h_hash => h_body ?_)
    rw [h_work.hash, digest_inj] at h_hash
    exact h_hash
  · intro now actor command fault h_error
    refine ⟨propose_raises h_error, ?_⟩
    have h_run : (Db.migrated registry owners).run (entries ++ [⟨now, .propose actor command⟩]) =
        ((Db.migrated registry owners).run entries).step ⟨now, .propose actor command⟩ :=
      run_concat entries _
    rw [h_run]
    show (Service.propose now actor command _).commit _ = _
    rw [h_error, Outcome.commit_error]

end ControlPlane
