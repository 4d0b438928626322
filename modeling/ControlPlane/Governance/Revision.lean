import ControlPlane.Framework.Version
import ControlPlane.Governance.Acceptance

/-!
# The revision law

A customer's revision stands for its whole row. One step either leaves the row exactly as
it is, or is a source event with an accepted field, and then the revision is raised by
exactly one (`customer_step`). That makes the revision a version stamp
(`customer_versioned`), and the rules of `Framework.Version` give the rest: it never
decreases, and two moments with the same revision have the same state and provenance.

The four operations that are given a revision compare it with the current one. `link`
raises `staleContext` when they differ; `propose`, `approve` and `prepare` reach the
comparison inside `actionDecision`, after the denials that do not depend on it
(`ReachesRevision`), and answer `staleContext`. `ReadRevision` states for each of them
that this happens exactly when an observation of the customer was accepted since the
revision was read.
-/

namespace ControlPlane

open Framework

/-! ### One step -/

/-- **One step and one customer.** Without an acceptance the row stays as it is; with one
it has the next revision. -/
theorem customer_step {db : Db} (h_drawn : CustomersDrawn db) (entry : Entry) (id : Uuid) :
    (¬ entry.AcceptsSome db id ∧
      (db.step entry).customers.lookup id = db.customers.lookup id) ∨
    (entry.AcceptsSome db id ∧ ∃ row, (db.step entry).customers.lookup id = some row ∧
      row.revision = (db.customerRow id).revision + 1) := by
  cases customer_move h_drawn entry id with
  | kept h_row h_none => exact .inl ⟨fun ⟨field, h⟩ => h_none field h, h_row⟩
  | observed source event h_tx h_row h_accepts h_known =>
    have h_some : entry.AcceptsSome db id ↔
        ∃ field, Service.Accepts source event (db.customerRow id) field :=
      exists_congr h_accepts
    by_cases h_any : ∃ field, Service.Accepts source event (db.customerRow id) field
    · exact .inr ⟨h_some.mpr h_any, _, h_row, Service.observed_revision_of_some _ _ _ h_any⟩
    · refine .inl ⟨mt h_some.mp h_any, ?_⟩
      rw [h_row, Service.observed_of_none _ _ _ h_any]
      unfold Db.customerRow at h_any ⊢
      cases h_before : db.customers.lookup id with
      | some row => rfl
      | none =>
        -- a customer is never enrolled by an event without an accepted field
        rw [h_before] at h_any h_known
        exact absurd ⟨.email, h_known.resolve_left (by simp)⟩ h_any

theorem customers_drawn (registry : Table String Destination) (owners : Table String String)
    (entries : List Entry) : CustomersDrawn ((Db.migrated registry owners).run entries) :=
  run_invariant (fun _ _ h => by cases h) (fun _ entry h => h.step entry) entries

/-- The revision is a version stamp of the customer's row. -/
theorem customer_versioned (id : Uuid) :
    Versioned Db.step CustomersDrawn (fun db entry => entry.AcceptsSome db id)
      (fun db => db.customers.lookup id) Customer.revision where
  keep db entry h_drawn h_not := by
    rcases customer_step h_drawn entry id with ⟨-, h_row⟩ | ⟨h_some, -⟩
    · exact h_row
    · exact absurd h_some h_not
  raise db entry row h_drawn h_some h_before := by
    rcases customer_step h_drawn entry id with ⟨h_not, -⟩ | ⟨-, row', h_row, h_rev⟩
    · exact absurd h_some h_not
    · refine ⟨row', h_row, ?_⟩
      rw [h_rev, Db.customerRow, h_before]
      exact Nat.lt_succ_self row.revision

/-! ### The comparisons -/

/-- The action's decision depends on the revision: no denial comes before it. -/
def ReachesRevision (action : Action) (state : CustomerState) : Prop :=
  action ≠ .setConsent ∧ (action = .sendMarketing → marketingDenial state = none)

/-- Once the comparison is reached, its answer is the only denial left. -/
theorem actionDecision_of_reaches {action : Action} {state : CustomerState}
    (h : ReachesRevision action state) (revision expected : ℕ) :
    actionDecision action state revision expected =
      if revision = expected then (action.decision, .policyAllowed)
      else (.deny, .staleContext) := by
  unfold actionDecision
  rw [if_neg h.1]
  have h_none : (if action = .sendMarketing then marketingDenial state else none) = none := by
    split
    · rename_i h_send
      exact h.2 h_send
    · rfl
  rw [h_none]
  exact ite_not ..

theorem Action.decision_ne_deny {action : Action} (h : action ≠ .setConsent) :
    action.decision ≠ .deny := by
  cases action with
  | setConsent => exact absurd rfl h
  | syncProfile | sendMarketing => exact fun h => by cases h

/-- The comparison inside `validProposal`: with the policy current, the proposal unexpired
and the comparison reached, `staleContext` means exactly that the revisions differ. -/
theorem validProposal_stale_iff {proposal : Proposal} {row : Customer} {utc : Time}
    (requireApproval : Bool) (h_policy : proposal.policyHash = policyHash)
    (h_unexpired : utc < proposal.expiresAt)
    (h_reaches : ReachesRevision proposal.body.action row.state) :
    Service.validProposal proposal row utc requireApproval = some .staleContext ↔
      row.revision ≠ proposal.revision := by
  unfold Service.validProposal
  rw [if_neg (not_not.mpr h_policy), if_neg (not_le.mpr h_unexpired)]
  dsimp only
  rw [actionDecision_of_reaches h_reaches]
  by_cases h_rev : row.revision = proposal.revision
  · rw [if_pos h_rev, if_neg (Action.decision_ne_deny h_reaches.1)]
    refine iff_of_false ?_ (not_not.mpr h_rev)
    repeat' split
    all_goals exact fun h => by cases h
  · rw [if_neg h_rev]
    exact iff_of_true rfl h_rev

/-! ### The law -/

section Law

variable (registry : Table String Destination) (owners : Table String String)

/-- No observation of the customer was accepted between the moments `pre` and `as`. -/
def Undisturbed (id : Uuid) (pre as : List Entry) : Prop :=
  Untouched Db.step (Db.migrated registry owners) (fun db entry => entry.AcceptsSome db id) pre as

/-- The law for one customer at the moment `as` of a run, where `row` is its row then and
`read` the row from which a revision was read at an earlier moment `pre`. -/
structure ReadRevision (id : Uuid) (pre as : List Entry) (read row : Customer) : Prop where
  /-- The revision never decreases. -/
  mono : read.revision ≤ row.revision
  /-- An equal revision means an equal state and an equal provenance. -/
  same : row.revision = read.revision →
    row.state = read.state ∧ row.provenance = read.provenance
  /-- The comparison with the revision read succeeds exactly when no observation was
  accepted since. -/
  current : row.revision = read.revision ↔ Undisturbed registry owners id pre as
  /-- `link` with the revision read is refused as stale exactly when one was. -/
  link : ∀ now actor (command : Contract.Link), command.customerId = id →
    command.expectedRevision = read.revision →
    (Service.link now actor command ((Db.migrated registry owners).run as) =
      .error .staleContext ↔ ¬ Undisturbed registry owners id pre as)
  /-- `propose` with the revision read records a stale decision exactly when one was. -/
  propose : ∀ now actor (command : Contract.Proposal) decision reason db',
    command.customerId = id → command.expectedRevision = read.revision →
    ((Db.migrated registry owners).run as).proposals.lookup command.requestId = none →
    Service.propose now actor command ((Db.migrated registry owners).run as) =
      .ok (.decided command.requestId decision reason, db') →
    ReachesRevision command.action row.state →
    ((decision, reason) = (.deny, .staleContext) ↔ ¬ Undisturbed registry owners id pre as)
  /-- `approve` of a proposal made for the revision read is refused as stale exactly when
  one was. -/
  approve : ∀ now utc utc' actor proposalId (command : Contract.Approval) proposal,
    ((Db.migrated registry owners).run as).executionOpen = true →
    ((Db.migrated registry owners).run as).proposals.lookup proposalId = some proposal →
    proposal.customerId = id → proposal.revision = read.revision →
    command.expectedRevision = proposal.revision → actor ≠ proposal.actor →
    proposal.decision = .approval → proposal.policyHash = policyHash →
    utc < proposal.expiresAt → ReachesRevision proposal.body.action row.state →
    ((∃ db', Service.approve now utc utc' actor proposalId command
        ((Db.migrated registry owners).run as) = .ok (.refused .staleContext, db')) ↔
      ¬ Undisturbed registry owners id pre as)
  /-- `prepare` of a job made for the revision read is refused as stale exactly when one
  was. -/
  prepare : ∀ now utc jobId token proposal current,
    ((Db.migrated registry owners).run as).executionOpen = true →
    ((Db.migrated registry owners).run as).proposals.lookup jobId = some proposal →
    proposal.customerId = id → proposal.revision = read.revision →
    ((Db.migrated registry owners).run as).jobs.lookup jobId = some current →
    Worker.fenced token current = false → proposal.policyHash = policyHash →
    utc < proposal.expiresAt → ReachesRevision proposal.body.action row.state →
    ((∃ db', Worker.prepare now utc jobId token ((Db.migrated registry owners).run as) =
        .ok (.refused .staleContext, db')) ↔ ¬ Undisturbed registry owners id pre as)

end Law

/-! ### The comparisons of the four operations -/

section Operations

variable {now : Time} {db : Db} {row : Customer}

theorem link_stale_iff {actor : Actor} {command : Contract.Link}
    (h_row : db.customers.lookup command.customerId = some row) :
    Service.link now actor command db = .error .staleContext ↔
      row.revision ≠ command.expectedRevision := by
  unfold Service.link
  rw [h_row]
  dsimp only
  by_cases h_rev : row.revision = command.expectedRevision
  · rw [if_neg (not_not.mpr h_rev)]
    refine iff_of_false ?_ (not_not.mpr h_rev)
    split
    · exact fun h => by cases h
    split
    · exact fun h => by cases h
    · exact fun h => by cases h
  · rw [if_pos h_rev]
    exact iff_of_true rfl h_rev

theorem propose_stale_iff {actor : Actor} {command : Contract.Proposal} {decision : Decision}
    {reason : Reason} {db' : Db} (h_row : db.customers.lookup command.customerId = some row)
    (h_fresh : db.proposals.lookup command.requestId = none)
    (h : Service.propose now actor command db =
      .ok (.decided command.requestId decision reason, db'))
    (h_reaches : ReachesRevision command.action row.state) :
    (decision, reason) = (.deny, .staleContext) ↔ row.revision ≠ command.expectedRevision := by
  -- of the replies, only the last is one on this request
  have h_decision : (decision, reason) =
      actionDecision command.action row.state row.revision command.expectedRevision := by
    generalize h_reply : Service.ProposeReply.decided command.requestId decision reason = reply
      at h
    cases Service.propose_cases h with
    | closed | conflict => cases h_reply
    | repeated previous h_previous =>
      rw [h_fresh] at h_previous
      cases h_previous
    | admitted row' destination h_open h_row' =>
      obtain rfl : row = row' := Option.some.inj (h_row.symm.trans h_row')
      cases h_reply
      rfl
  -- where the policy reaches the revision, it alone decides
  rw [h_decision, actionDecision_of_reaches h_reaches]
  by_cases h_rev : row.revision = command.expectedRevision
  · rw [if_pos h_rev]
    refine iff_of_false (fun h => ?_) (not_not.mpr h_rev)
    cases congrArg Prod.snd h
  · rw [if_neg h_rev]
    exact iff_of_true rfl h_rev

theorem approve_stale_iff {utc utc' : Time} {actor : Actor} {id : Uuid}
    {command : Contract.Approval} {proposal : Proposal} (h_open : db.executionOpen = true)
    (h_proposal : db.proposals.lookup id = some proposal)
    (h_row : db.customers.lookup proposal.customerId = some row)
    (h_expected : command.expectedRevision = proposal.revision) (h_actor : actor ≠ proposal.actor)
    (h_decision : proposal.decision = .approval) (h_policy : proposal.policyHash = policyHash)
    (h_unexpired : utc < proposal.expiresAt)
    (h_reaches : ReachesRevision proposal.body.action row.state) :
    (∃ db', Service.approve now utc utc' actor id command db =
      .ok (.refused .staleContext, db')) ↔ row.revision ≠ proposal.revision := by
  rw [← validProposal_stale_iff false h_policy h_unexpired h_reaches]
  -- the tests before the revision are passed
  have h_reason : Service.approvalReason actor command proposal row utc =
      Service.validProposal proposal row utc false := by
    unfold Service.approvalReason
    dsimp only
    rw [if_neg h_actor, if_neg (not_not.mpr h_expected), if_neg (not_not.mpr h_decision)]
  unfold Service.approve
  rw [if_neg (by simp [h_open]), h_proposal]
  dsimp only
  rw [h_row]
  dsimp only
  rw [h_reason]
  cases Service.validProposal proposal row utc false with
  | some reason =>
    constructor
    · rintro ⟨_, h⟩
      cases h
      rfl
    · intro h
      cases h
      exact ⟨_, rfl⟩
  | none =>
    refine iff_of_false ?_ (fun h => by cases h)
    rintro ⟨_, h⟩
    dsimp only at h
    split at h <;> cases h

theorem prepare_stale_iff {utc : Time} {id : Uuid} {token : Option Uuid} {proposal : Proposal}
    {current : Job} (h_open : db.executionOpen = true)
    (h_proposal : db.proposals.lookup id = some proposal)
    (h_row : db.customers.lookup proposal.customerId = some row)
    (h_job : db.jobs.lookup id = some current) (h_fence : Worker.fenced token current = false)
    (h_policy : proposal.policyHash = policyHash) (h_unexpired : utc < proposal.expiresAt)
    (h_reaches : ReachesRevision proposal.body.action row.state) :
    (∃ db', Worker.prepare now utc id token db = .ok (.refused .staleContext, db')) ↔
      row.revision ≠ proposal.revision := by
  -- the tests before the revision are passed, and the lease is current
  rw [← validProposal_stale_iff true h_policy h_unexpired h_reaches]
  unfold Worker.prepare
  rw [if_neg (by simp [h_open]), h_proposal]
  dsimp only
  rw [h_row]
  dsimp only
  rw [h_job]
  dsimp only
  rw [if_neg (by simp [h_fence])]
  cases Service.validProposal proposal row utc true with
  | some reason =>
    constructor
    · rintro ⟨_, h⟩
      cases h
      rfl
    · intro h
      cases h
      exact ⟨_, rfl⟩
  | none =>
    refine iff_of_false ?_ (fun h => by cases h)
    rintro ⟨_, h⟩
    dsimp only at h
    split at h
    · cases h
    split at h <;> cases h

end Operations

/-- **The revision law.** In every run and for every customer: a step that has one of its
fields accepted raises the revision by exactly one (and is a source event), every other
step leaves the whole row as it is, and a revision read at any earlier moment is compared
as `ReadRevision` states. -/
theorem revision_law (registry : Table String Destination) (owners : Table String String)
    (id : Uuid) (as : List Entry) :
    (∀ entry, entry.AcceptsSome ((Db.migrated registry owners).run as) id →
      (∃ source event, entry.tx = .ingest source event) ∧
        ∃ row, ((Db.migrated registry owners).run (as ++ [entry])).customers.lookup id = some row ∧
          row.revision = (((Db.migrated registry owners).run as).customerRow id).revision + 1) ∧
    (∀ entry, ¬ entry.AcceptsSome ((Db.migrated registry owners).run as) id →
      ((Db.migrated registry owners).run (as ++ [entry])).customers.lookup id =
        ((Db.migrated registry owners).run as).customers.lookup id) ∧
    ∀ pre read row, pre <+: as →
      ((Db.migrated registry owners).run pre).customers.lookup id = some read →
      ((Db.migrated registry owners).run as).customers.lookup id = some row →
      ReadRevision registry owners id pre as read row := by
  have h_drawn := customers_drawn registry owners
  refine ⟨fun entry h_some => ⟨?_, ?_⟩, fun entry h_not => ?_,
    fun pre read row h h_read h_row => ?_⟩
  · obtain ⟨field, source, event, _, _, _, _, h_tx, -⟩ := h_some
    exact ⟨source, event, h_tx⟩
  · rw [Db.run, run_concat]
    rcases customer_step (h_drawn as) entry id with ⟨h_not, -⟩ | ⟨-, h_row⟩
    · exact absurd h_some h_not
    · exact h_row
  · rw [Db.run, run_concat]
    exact (customer_versioned id).keep _ entry (h_drawn as) h_not
  -- between two moments the revision counts the accepted events
  · have h_current : row.revision = read.revision ↔ Undisturbed registry owners id pre as :=
      version_eq_iff (customer_versioned id) h_drawn h h_read h_row
    refine
      { mono := version_mono (customer_versioned id) h_drawn h h_read h_row
        same := fun h_eq => ?_
        current := h_current
        link := fun now actor command h_id h_expected => ?_
        propose := fun now actor command decision reason db' h_id h_expected h_fresh h_ok
          h_reaches => ?_
        approve := fun now utc utc' actor proposalId command proposal h_open h_proposal h_id h_rev
          h_expected h_actor h_decision h_policy h_unexpired h_reaches => ?_
        prepare := fun now utc jobId token proposal current h_open h_proposal h_id h_rev h_job
          h_fence h_policy h_unexpired h_reaches => ?_ }
    · obtain rfl := version_determines_row (customer_versioned id) h_drawn h h_read h_row h_eq
      exact ⟨rfl, rfl⟩
    · subst h_id
      rw [link_stale_iff h_row, ← h_current, h_expected]
    · subst h_id
      rw [propose_stale_iff h_row h_fresh h_ok h_reaches, ← h_current, h_expected]
    · subst h_id
      rw [approve_stale_iff h_open h_proposal h_row h_expected h_actor h_decision h_policy
        h_unexpired h_reaches, ← h_current, h_rev]
    · subst h_id
      rw [prepare_stale_iff h_open h_proposal h_row h_job h_fence h_policy h_unexpired h_reaches,
        ← h_current, h_rev]

end ControlPlane
