import ControlPlane.Dispatch.Intent
import ControlPlane.Dispatch.Steps

/-!
# Dispatch authorization

`prepare` is the last of three transactions that look at a proposal: `propose` decided on
it, an operator may have approved it, and `prepare` authorizes the request. Between them
anything may commit. What holds the three together is the revision: each of them compares
it, and by the revision law an equal revision is an equal row. So `prepare` authorizes a
mutation only on the very state and provenance that `propose`, and for an action that
needs it `approve`, have seen (`Authorized`).

The history lemmas `proposal_origin` and `approval_origin` find the steps of the run that
made and approved a proposal. The second half of the module follows an authorized mutation
to the wire: a worker that is on its way to a POST, and every POST that was sent, has its
`prepare` earlier in the log, under the same lease (`Attested`).
-/

namespace ControlPlane

open Framework

section History

variable (registry : Table String Destination) (owners : Table String String)

/-! ### The steps that made and approved a proposal -/

/-- In the run `as`, the proposal was made by an evaluation of the customer row `read`. -/
inductive ProposedOn (as : List Entry) (id : Uuid) (p : Proposal) (read : Customer) : Prop
  | intro (pre : List Entry) (now : Time)
      (h_step : pre ++ [⟨now, .propose p.actor p.body⟩] <+: as) (h_id : p.body.requestId = id)
      (h_customer : p.body.customerId = p.customerId)
      (h_read : ((Db.migrated registry owners).run pre).customers.lookup p.customerId = some read)
      (h_decision : p.decision = (actionDecision p.body.action read.state read.revision
        p.body.expectedRevision).1)
      (h_revision : p.revision = p.body.expectedRevision)

/-- In the run `as`, `actor` approved the proposal by an evaluation of the row `read`. -/
inductive ApprovedOn (as : List Entry) (id : Uuid) (p : Proposal) (read : Customer)
    (actor : Actor) : Prop
  | intro (pre : List Entry) (now utc utc' : Time) (command : Contract.Approval) (old : Proposal)
      (h_step : pre ++ [⟨now, .approve utc utc' actor id command⟩] <+: as)
      (h_old : ((Db.migrated registry owners).run pre).proposals.lookup id = some old)
      (h_same : SameProposal old p)
      (h_read : ((Db.migrated registry owners).run pre).customers.lookup p.customerId = some read)
      (h_granted : Service.approvalReason actor command old read utc = none)
      (h_until : p.approvedUntil = some (Service.approvalUntil old utc'))

variable {registry owners}

theorem ProposedOn.later {as as' : List Entry} {id : Uuid} {p p' : Proposal} {read : Customer}
    (h : ProposedOn registry owners as id p read) (h_as : as <+: as') (h_same : SameProposal p p') :
    ProposedOn registry owners as' id p' read := by
  obtain ⟨pre, now, h_step, h_id, h_customer, h_read, h_decision, h_revision⟩ := h
  refine ⟨pre, now, ?_, ?_, ?_, ?_, ?_, ?_⟩
  · rw [h_same.actor, h_same.body]
    exact h_step.trans h_as
  · rw [h_same.body, h_id]
  · rw [h_same.body, h_same.customerId, h_customer]
  · rw [h_same.customerId, h_read]
  · rw [h_same.decision, h_same.body, h_decision]
  · rw [h_same.revision, h_same.body, h_revision]

/-- **Every proposal was made by a `propose` of the run.** -/
theorem proposal_origin (as : List Entry) {id : Uuid} {p : Proposal}
    (h_p : ((Db.migrated registry owners).run as).proposals.lookup id = some p) :
    ∃ read, ProposedOn registry owners as id p read := by
  refine run_induction Db.step (Db.migrated registry owners) (P := fun as db =>
    ∀ p, db.proposals.lookup id = some p → ∃ read, ProposedOn registry owners as id p read)
    (fun _ h => by cases h) (fun as entry ih p' h_after => ?_) as p h_p
  have h_as := List.prefix_append as [entry]
  cases proposal_move (Framework.run Db.step (Db.migrated registry owners) as) entry id with
  | kept h_kept =>
    obtain ⟨read, h_read⟩ := ih p' (h_kept.symm.trans h_after)
    exact ⟨read, h_read.later h_as (.refl p')⟩
  | proposed actor command row h_tx h_id h_before h_row h_new =>
    obtain rfl := Option.some.inj (h_new.symm.trans h_after)
    obtain ⟨now, tx⟩ := entry
    subst h_tx
    exact ⟨row, as, now, List.prefix_refl _, h_id.symm, rfl, h_row, rfl, rfl⟩
  | approved utc utc' actor command p row h_tx h_before h_row h_reason h_none h_new =>
    obtain rfl := Option.some.inj (h_new.symm.trans h_after)
    obtain ⟨read, h_read⟩ := ih p h_before
    refine ⟨read, h_read.later h_as ⟨rfl, rfl, rfl, rfl, rfl, rfl, rfl, fun other h_other => ?_⟩⟩
    rw [h_none] at h_other
    cases h_other

theorem ApprovedOn.later {as as' : List Entry} {id : Uuid} {p : Proposal} {read : Customer}
    {actor : Actor} (h : ApprovedOn registry owners as id p read actor) (h_as : as <+: as') :
    ApprovedOn registry owners as' id p read actor := by
  obtain ⟨pre, now, utc, utc', command, old, h_step, h_old, h_same, h_read, h_granted, h_until⟩ := h
  exact ⟨pre, now, utc, utc', command, old, h_step.trans h_as, h_old, h_same, h_read, h_granted,
    h_until⟩

/-- **Every approval was granted by an `approve` of the run.** -/
theorem approval_origin (as : List Entry) {id : Uuid} {p : Proposal} {actor : Actor}
    (h_p : ((Db.migrated registry owners).run as).proposals.lookup id = some p)
    (h_by : p.approvedBy = some actor) :
    ∃ read, ApprovedOn registry owners as id p read actor := by
  -- the approval that is recorded is the last one, since a second one is refused
  refine run_induction Db.step (Db.migrated registry owners) (P := fun as db =>
    ∀ p, db.proposals.lookup id = some p → p.approvedBy = some actor →
      ∃ read, ApprovedOn registry owners as id p read actor)
    (fun _ h => by cases h) (fun as entry ih p' h_after h_by => ?_) as p h_p h_by
  cases proposal_move (Framework.run Db.step (Db.migrated registry owners) as) entry id with
  | kept h_kept =>
    obtain ⟨read, h_read⟩ := ih p' (h_kept.symm.trans h_after) h_by
    exact ⟨read, h_read.later (List.prefix_append as [entry])⟩
  | proposed _ _ _ _ _ _ _ h_new =>
    obtain rfl := Option.some.inj (h_new.symm.trans h_after)
    cases h_by
  | approved utc utc' granter command p row h_tx h_before h_row h_reason h_none h_new =>
    obtain rfl := Option.some.inj (h_new.symm.trans h_after)
    obtain rfl : granter = actor := Option.some.inj h_by
    obtain ⟨now, tx⟩ := entry
    subst h_tx
    refine ⟨row, as, now, utc, utc', command, p, List.prefix_refl _, h_before,
      ⟨rfl, rfl, rfl, rfl, rfl, rfl, rfl, fun other h_other => ?_⟩, h_row, h_reason, rfl⟩
    rw [h_none] at h_other
    cases h_other

/-! ### What an authorized dispatch rests on -/

variable (registry owners)

/-- What the run `as` guarantees when `prepare` authorizes `mutation` for the job `id`,
reading the clock at `utc`: `p` is the proposal and `row` the customer's row. -/
structure Authorized (as : List Entry) (utc : Time) (id : Uuid) (token : Option Uuid)
    (mutation : Mutation) (p : Proposal) (row : Customer) : Prop where
  /-- The recovery gate is open. -/
  gate : ((Db.migrated registry owners).run as).gate.mode = .opened
  /-- The lease token is the current one. -/
  lease : ∃ lease, token = some lease ∧
    ((Db.migrated registry owners).run as).currentToken id = some lease
  proposal : ((Db.migrated registry owners).run as).proposals.lookup id = some p
  customer : ((Db.migrated registry owners).run as).customers.lookup p.customerId = some row
  /-- `propose` evaluated the proposal on the same state and provenance. -/
  proposed : ∃ read, ProposedOn registry owners as id p read ∧ row.state = read.state ∧
    row.provenance = read.provenance
  /-- So did `approve`, for an action that needs an approval (`sendMarketing` is the one): it
  was given by someone other than the proposer and has not run out. -/
  approved : p.body.action.decision = .approval → ∃ read actor until_,
    ApprovedOn registry owners as id p read actor ∧ row.state = read.state ∧
      row.provenance = read.provenance ∧ p.approvedBy = some actor ∧ actor ≠ p.actor ∧
      p.approvedUntil = some until_ ∧ utc < until_
  /-- The proposal is bound to the running policy and has not expired. -/
  policy : p.policyHash = policyHash
  unexpired : utc < p.expiresAt
  /-- The mutation is the proposed action on the proposed customer, never a protected write. -/
  action : mutation.action = p.body.action ∧ mutation.customerId = p.customerId
  writable : mutation.action ≠ .setConsent
  /-- A marketing contact is permitted, and goes to the reviewed email. -/
  marketing : mutation.action = .sendMarketing → row.state.consent = some true ∧
    row.state.suppressed = some false ∧ ∃ email, row.state.email = some email ∧ email ≠ "" ∧
      mutation.payload = .marketing email p.body.template

variable {registry owners}

/-- The row on which a proposal was made or approved, if it had the proposal's revision, is
the row at every later moment with that revision. -/
theorem reviewed_row {pre as : List Entry} (h : pre <+: as) {id : Uuid} {read row : Customer}
    {revision : ℕ}
    (h_read : ((Db.migrated registry owners).run pre).customers.lookup id = some read)
    (h_row : ((Db.migrated registry owners).run as).customers.lookup id = some row)
    (h_read_rev : read.revision = revision) (h_row_rev : row.revision = revision) : row = read :=
  version_determines_row (customer_versioned id) (customers_drawn registry owners) h h_read h_row
    (h_row_rev.trans h_read_rev.symm)

/-- **An authorized dispatch is authorized by the history.** -/
theorem authorized_of_prepare (as : List Entry) {now utc : Time} {id : Uuid}
    {token : Option Uuid} {mutation : Mutation} {db' : Db}
    (h : Worker.prepare now utc id token ((Db.migrated registry owners).run as) =
      .ok (.dispatch mutation, db')) :
    ∃ p row, Authorized registry owners as utc id token mutation p row := by
  generalize h_reply : Worker.Prepared.dispatch mutation = reply at h
  -- only one outcome of `prepare` sends anything
  cases Worker.prepare_cases h with
  | closed | fenced | invalid | changed => cases h_reply
  | authorized p row job mutation' h_open h_p h_row h_job h_fence h_valid h_mutation =>
    cases h_reply
    obtain ⟨h_policy, h_unexpired, h_decision, h_approval⟩ := Service.validProposal_eq_none h_valid
    obtain ⟨h_rev, h_set, h_send, h_eq⟩ := actionDecision_ne_deny h_decision
    obtain ⟨h_customer, h_action, -, h_payload⟩ := mutationOf_ok h_mutation
    have h_earlier : ∀ {pre : List Entry} {entry}, pre ++ [entry] <+: as → pre <+: as :=
      (List.prefix_append _ _).trans
    -- the proposal was not denied, so `propose` found the revision it was made for
    have h_proposed : ∃ read, ProposedOn registry owners as id p read ∧ row = read := by
      obtain ⟨read, h_read⟩ := proposal_origin as h_p
      refine ⟨read, h_read, ?_⟩
      obtain ⟨pre, at_, h_step, -, -, h_lookup, h_made, h_revision⟩ := h_read
      obtain ⟨p', h_some, h_deny, -⟩ := (work_sound registry owners as).job id job h_job
      obtain rfl := Option.some.inj (h_some.symm.trans h_p)
      rw [h_made] at h_deny
      refine reviewed_row (h_earlier h_step) h_lookup h_row ?_ h_rev
      rw [h_revision]
      exact (actionDecision_ne_deny h_deny).1
    -- the same for the approval, which is asked for again
    have h_approved : p.body.action.decision = .approval → ∃ read actor until_,
        ApprovedOn registry owners as id p read actor ∧ row = read ∧ p.approvedBy = some actor ∧
          actor ≠ p.actor ∧ p.approvedUntil = some until_ ∧ utc < until_ := by
      intro h_needs
      obtain ⟨h_by, h_until⟩ := h_approval (by rw [h_eq, h_needs]) rfl
      obtain ⟨actor, h_actor⟩ := Option.ne_none_iff_exists'.mp h_by
      obtain ⟨read, h_read⟩ := approval_origin as h_p h_actor
      refine ⟨read, actor, ?_⟩
      have h_origin := h_read
      obtain ⟨pre, at_, utc₁, utc₂, command, old, h_step, -, h_same, h_lookup, h_granted, h_some⟩ :=
        h_read
      obtain ⟨h_other, -, -, h_valid'⟩ := Service.approvalReason_eq_none h_granted
      refine ⟨_, h_origin, reviewed_row (h_earlier h_step) h_lookup h_row ?_ h_rev, h_actor, ?_,
        h_some, h_until _ h_some⟩
      · rw [h_same.revision]
        exact validProposal_revision h_valid'
      · rw [h_same.actor]
        exact h_other
    refine ⟨p, row, ?_⟩
    obtain ⟨h_token, h_status⟩ := fenced_eq_false.mp h_fence
    refine
      { gate := by simpa [Db.executionOpen] using h_open
        lease := ?_
        proposal := h_p
        customer := h_row
        proposed := ?_
        approved := fun h_needs => ?_
        policy := h_policy
        unexpired := h_unexpired
        action := ⟨h_action, h_customer⟩
        writable := h_action ▸ h_set
        marketing := fun h_marketing => ?_ }
    · obtain ⟨lease, h_lease⟩ := Option.isSome_iff_exists.mp
        ((lease_sound registry owners as).leased id job h_job h_status).1
      exact ⟨lease, h_token.symm.trans h_lease,
        currentToken_eq_some.mpr ⟨job, h_job, h_status, h_lease⟩⟩
    · obtain ⟨read, h_read, rfl⟩ := h_proposed
      exact ⟨row, h_read, rfl, rfl⟩
    · obtain ⟨read, actor, until_, h_read, rfl, h_rest⟩ := h_approved h_needs
      exact ⟨row, actor, until_, h_read, rfl, rfl, h_rest⟩
    · rw [h_action] at h_marketing
      obtain ⟨h_suppressed, h_consent, email, h_email, h_ne⟩ :=
        marketingDenial_eq_none.mp (h_send h_marketing)
      obtain ⟨email', h_email', h_body⟩ := h_payload h_marketing
      obtain rfl := Option.some.inj (h_email.symm.trans h_email')
      exact ⟨h_consent, h_suppressed, email, h_email, h_ne, h_body⟩

/-- The log has a `prepare` that authorized the mutation under the lease. -/
inductive Attested (registry : Table String Destination) (owners : Table String String)
    (log : List Entry) (id : Uuid) (lease : Option Uuid) (mutation : Mutation) : Prop
  | intro (pre : List Entry) (now utc : Time) (db' : Db)
      (h_step : pre ++ [⟨now, .prepare utc id lease⟩] <+: log)
      (h_answer : Worker.prepare now utc id lease ((Db.migrated registry owners).run pre) =
        .ok (.dispatch mutation, db'))

theorem Attested.later {log log' : List Entry} {id : Uuid} {lease : Option Uuid}
    {mutation : Mutation} (h : Attested registry owners log id lease mutation)
    (h_log : log <+: log') : Attested registry owners log' id lease mutation := by
  obtain ⟨pre, now, utc, db', h_step, h_answer⟩ := h
  exact ⟨pre, now, utc, db', h_step.trans h_log, h_answer⟩

end History

/-! ### From `prepare` to the wire -/

/-- The POST a worker is on its way to send. -/
def Phase.dispatching : Phase → Option (Worker.Claimed × Mutation)
  | .acquiring job _ (.dispatch mutation) | .requesting job _ _ (.dispatch mutation) =>
    some (job, mutation)
  | _ => none

/-- Every POST that is sent or on its way is attested, with its key, lease and mutation. -/
structure DispatchesSound (Attest : Uuid → Option Uuid → Mutation → Prop) (w : World) :
    Prop where
  phase : ∀ n job mutation, (w.phase n).dispatching = some (job, mutation) →
    Attest job.id job.row.leaseToken mutation
  sent : ∀ post ∈ w.sent, Attest post.key post.lease post.mutation

/-- No response sends `execute` on to a POST directly. -/
theorem leave_dispatching (job : Worker.Claimed) (route : Route) (permit : Option Held)
    (failed : Bool) (cooldown : ℕ) (next : Worker.Next) :
    (Phase.leave job route permit failed cooldown next).dispatching = none := by
  cases permit <;> cases next <;> rfl

theorem next_dispatching (job : Worker.Claimed) (route : Route) (next : Worker.Next) :
    (Phase.next job route next).dispatching = none := by
  cases next <;> rfl

/-- `execute` goes on from `prepare` to a POST only with the mutation it was answered. -/
theorem prepared_dispatching {job job' : Worker.Claimed} {route : Route}
    {answer : Except Fault Worker.Prepared} {mutation : Mutation}
    (h : (Phase.prepared job route answer).dispatching = some (job', mutation)) :
    job' = job ∧ answer = .ok (.dispatch mutation) := by
  unfold Phase.prepared at h
  split at h
  · cases h
    exact ⟨rfl, rfl⟩
  · split at h <;> cases h
  · cases h
  · cases h

section Dispatches

variable {Attest Attest' : Uuid → Option Uuid → Mutation → Prop}

/-- Moving a worker keeps what the others are attested. -/
theorem DispatchesSound.move {w w' : World} (h : DispatchesSound Attest w) {n : ℕ}
    {phase : Phase} (h_phase : w'.phase = Function.update w.phase n phase)
    (h_sent : w'.sent = w.sent)
    (h_later : ∀ id lease mutation, Attest id lease mutation → Attest' id lease mutation)
    (h_new : ∀ job mutation, phase.dispatching = some (job, mutation) →
      Attest' job.id job.row.leaseToken mutation) : DispatchesSound Attest' w' where
  phase m job mutation h_m := by
    rw [h_phase] at h_m
    by_cases h_eq : m = n
    · rw [h_eq, Function.update_self] at h_m
      exact h_new job mutation h_m
    · rw [Function.update_of_ne h_eq] at h_m
      exact h_later _ _ _ (h.phase m job mutation h_m)
  sent post h_post := h_later _ _ _ (h.sent post (h_sent ▸ h_post))

/-- **One step attests what it brings on its way**, when the only new POSTs are those that
a `prepare` of the step authorizes. -/
theorem DispatchesSound.step {w : World} (h : DispatchesSound Attest w) (label : Label)
    (h_later : ∀ id lease mutation, Attest id lease mutation → Attest' id lease mutation)
    (h_new : ∀ now utc (job : Worker.Claimed) mutation db',
      (w.step label).log = w.log ++ [⟨now, .prepare utc job.id job.row.leaseToken⟩] →
      Worker.prepare now utc job.id job.row.leaseToken w.db = .ok (.dispatch mutation, db') →
      Attest' job.id job.row.leaseToken mutation) : DispatchesSound Attest' (w.step label) := by
  have h_stepped := w.stepped label
  generalize w.step label = w' at h_stepped h_new ⊢
  have h_phase : ∀ n job mutation, (w.phase n).dispatching = some (job, mutation) →
      Attest' job.id job.row.leaseToken mutation := fun n job mutation h_n =>
    h_later _ _ _ (h.phase n job mutation h_n)
  have h_sent : ∀ post ∈ w.sent, Attest' post.key post.lease post.mutation := fun post h_post =>
    h_later _ _ _ (h.sent post h_post)
  cases h_stepped with
  | stutter | planned | external => exact ⟨h_phase, h_sent⟩
  -- a move only takes over what the worker was dispatching
  | moved n phase h_move =>
    refine h.move rfl rfl h_later fun job mutation h_dispatching => ?_
    generalize h_old : w.phase n = old at h_move
    cases h_move with
    | direct job' request =>
      refine h_phase n job mutation ?_
      rw [h_old]
      cases request with
      | receipt => cases h_dispatching
      | dispatch => exact h_dispatching
    | looked | received | unsent | unanswered =>
      cases (leave_dispatching _ _ _ _ _ _).symm.trans h_dispatching
    | _ => cases h_dispatching
  | committed n now tx phase h_commit =>
    refine h.move rfl rfl h_later fun job mutation h_dispatching => ?_
    generalize h_old : w.phase n = old at h_commit
    cases h_commit with
    | permitted job' name destination request token =>
      refine h_phase n job mutation ?_
      rw [h_old]
      cases request with
      | receipt => cases h_dispatching
      | dispatch => exact h_dispatching
    -- here alone a dispatch begins, and its `prepare` was the last commit
    | prepared utc job' route =>
      obtain ⟨rfl, h_answer⟩ := prepared_dispatching h_dispatching
      obtain ⟨db', h_ok⟩ := Outcome.answer_eq_ok.mp h_answer
      exact h_new now utc job mutation db' rfl h_ok
    | released job' route held failed cooldown next =>
      cases (next_dispatching job' route next).symm.trans h_dispatching
    | _ => cases h_dispatching
  | sent n job route permit mutation h_requesting =>
    have h_attested : Attest' job.id job.row.leaseToken mutation :=
      h_phase n job mutation (by rw [h_requesting]; rfl)
    refine ⟨fun m job' mutation' h_m => ?_, fun post h_post => ?_⟩
    · by_cases h_eq : m = n
      · subst h_eq
        change (Function.update w.phase m _ m).dispatching = _ at h_m
        rw [Function.update_self] at h_m
        cases h_m
      · change (Function.update w.phase n _ m).dispatching = _ at h_m
        rw [Function.update_of_ne h_eq] at h_m
        exact h_phase m job' mutation' h_m
    · rcases List.mem_append.mp h_post with h_old | h_last
      · exact h_sent post h_old
      · rw [List.mem_singleton.mp h_last]
        exact h_attested
  -- the arrival marks a POST and changes nothing else of it
  | arrived ticket post handling h_post =>
    refine ⟨h_phase, fun post' h_post' => ?_⟩
    rcases List.mem_or_eq_of_mem_set h_post' with h_old | rfl
    · exact h_sent post' h_old
    · exact h_sent post (List.mem_of_getElem? h_post)

end Dispatches

theorem attested_sound (registry : Table String Destination) (owners : Table String String)
    (labels : List Label) :
    DispatchesSound
      (Attested registry owners ((World.initial registry owners).run labels).log)
      ((World.initial registry owners).run labels) := by
  have h_db := World.db_eq_run registry owners
  induction labels using List.reverseRecOn with
  | nil => exact ⟨fun _ _ _ h => (by cases h), fun _ h => (by cases h)⟩
  | append_singleton labels label ih =>
    specialize h_db labels
    have h_run : (World.initial registry owners).run (labels ++ [label]) =
        ((World.initial registry owners).run labels).step label := run_concat labels label
    rw [h_run]
    generalize (World.initial registry owners).run labels = w at ih h_db ⊢
    have h_log : w.log <+: (w.step label).log := by
      rcases w.log_step label with h_same | ⟨entry, h_entry⟩
      · rw [h_same]
      · rw [h_entry]
        exact List.prefix_append w.log [entry]
    refine ih.step label (fun id lease mutation h => h.later h_log) ?_
    intro now utc job mutation db' h_entry h_ok
    rw [h_db] at h_ok
    exact ⟨w.log, now, utc, db', by rw [h_entry], h_ok⟩

/-- **Dispatch authorization.** Whenever `prepare` authorizes a mutation after any run of
the control database, the dispatch is authorized as `Authorized` says; and in every run of
the world, each POST that was sent had been authorized so before, under the same lease. -/
theorem dispatch_authorization (registry : Table String Destination)
    (owners : Table String String) :
    (∀ as now utc id token mutation db',
      Worker.prepare now utc id token ((Db.migrated registry owners).run as) =
        .ok (.dispatch mutation, db') →
      ∃ p row, Authorized registry owners as utc id token mutation p row) ∧
    ∀ labels, ∀ post ∈ ((World.initial registry owners).run labels).sent,
      Attested registry owners ((World.initial registry owners).run labels).log post.key
        post.lease post.mutation :=
  ⟨fun as _ _ _ _ _ _ h => authorized_of_prepare as h,
    fun labels => (attested_sound registry owners labels).sent⟩

end ControlPlane
