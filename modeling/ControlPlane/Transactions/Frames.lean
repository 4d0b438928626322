import ControlPlane.Transactions.Cases

/-!
# What each transaction leaves alone

The parts of the database are written by different transactions, and every invariant is
about one or two of them:

* the *sources* (customers, identities, events), which only `ingest` and `link` write;
* the *work* (proposals and jobs);
* the *coordination* (gate, sessions and proofs), which only the coordinator writes;
* the *routing* (the registry of destinations and the routes of jobs), where only `propose`
  binds a route;
* the *traffic* (permits, requests and completions), which only `acquire` and `release`
  write;
* the supply of drawn ids, which never runs backward.

`sources_apply`, `coordination_apply`, `routing_apply` and `traffic_apply` are the frames of
all transactions at once; the lemmas before them say what the shared blocks of writes do to
each part.
-/

namespace ControlPlane

open Framework

/-- The tables of source truth. -/
structure Sources where
  customers : Table Uuid Customer
  identities : Table (Source × String) Uuid
  events : Table (Source × String) Event

/-- The tables that the sources write. -/
def Db.sources (db : Db) : Sources := ⟨db.customers, db.identities, db.events⟩

/-- The tables of the recovery coordinator. -/
structure Coordination where
  gate : Gate
  sessions : Table Uuid Session
  proofs : Table Uuid Proof

/-- Those tables of the database. -/
def Db.coordination (db : Db) : Coordination := ⟨db.gate, db.sessions, db.proofs⟩

/-- The registry of destinations, and the routes of jobs. -/
structure Routing where
  destinations : Table String Destination
  destinationRoutes : Table String String
  jobRoutes : Table Uuid String

/-- Those tables of the database. -/
def Db.routing (db : Db) : Routing := ⟨db.destinations, db.destinationRoutes, db.jobRoutes⟩

/-- The tables that `acquire` and `release` write. -/
structure Traffic where
  capacityState : Table String CapacityState
  requestPermits : Table Uuid Permit
  capacityRequests : Table Uuid CapacityRequest
  capacityCompletions : Table Uuid CapacityCompletion

/-- Those tables of the database. -/
def Db.traffic (db : Db) : Traffic :=
  ⟨db.capacityState, db.requestPermits, db.capacityRequests, db.capacityCompletions⟩

/-! ### The blocks of writes -/

/-- The writes of an admitted proposal. -/
theorem Service.enqueue_frame (now : Time) (actor : Actor) (command : Contract.Proposal)
    (row : Customer) (decision : Decision × Reason) (destination : Option String) (db : Db) :
    let db' := Service.enqueue now actor command row decision destination db
    db'.sources = db.sources ∧ db'.coordination = db.coordination ∧ db'.supply = db.supply ∧
      db'.proposals = db.proposals.insert command.requestId
        (Service.proposalRow now actor command decision) ∧
      db'.jobs = if decision.1 = .allow then
          db.jobs.insert command.requestId (Job.inserted now) else db.jobs := by
  obtain ⟨decision, reason⟩ := decision
  cases destination <;> cases decision <;> exact ⟨rfl, rfl, rfl, rfl, rfl⟩

/-- The writes of a granted approval. -/
theorem Service.grant_frame (now : Time) (actor : Actor) (id : Uuid) (proposal : Proposal)
    (utc : Time) (db : Db) :
    let db' := Service.grant now actor id proposal utc db
    db'.sources = db.sources ∧ db'.coordination = db.coordination ∧ db'.supply = db.supply ∧
      db'.proposals = db.proposals.insert id
        { proposal with
          approvedBy := some actor
          approvedUntil := some (Service.approvalUntil proposal utc) } ∧
      db'.jobs = (if (db.jobs.lookup id).isSome then db.jobs
        else db.jobs.insert id (Job.inserted now)) ∧
      db'.exceptions = db.exceptions := by
  unfold Service.grant
  dsimp only
  split <;> exact ⟨rfl, rfl, rfl, rfl, rfl, rfl⟩

/-- The writes of a recorded result. -/
theorem Worker.conclude_frame (now backoff : Time) (id : Uuid) (status : JobStatus)
    (reason : JobReason) (remoteResult : Option (RemoteResult (Digest Mutation)))
    (uncertain : Option Bool) (current : Job) (db : Db) :
    let db' := Worker.conclude now backoff id status reason remoteResult uncertain current db
    db'.sources = db.sources ∧ db'.coordination = db.coordination ∧ db'.supply = db.supply ∧
      db'.proposals = db.proposals ∧
      db'.jobs = db.jobs.insert id
        (Worker.finished now backoff status reason remoteResult uncertain current) ∧
      db'.exceptions = (if status = .dead ∨ status = .blocked then
        db.exceptions ++ [⟨Worker.deadLetterCategory reason, .id id,
          .execution reason current.uncertain, .opened, now⟩] else db.exceptions) := by
  unfold Worker.conclude
  dsimp only
  split <;> exact ⟨rfl, rfl, rfl, rfl, rfl, rfl⟩

/-- The writes of an event observed on a customer. -/
theorem Service.observed_frame (now : Time) (source : Source) (event : SourceEvent) (id : Uuid)
    (row : Customer) (db : Db) :
    let processed := Service.process now source event id row db
    let db' := Service.record now source event processed.1 processed.2
    db'.sources = { db.sources with
      customers := db.customers.insert id (Service.observed source event row)
      events := db.events.insert (source, event.eventId)
        ⟨digest event, event, processed.1, now⟩ } ∧
      db'.coordination = db.coordination ∧ db'.supply = db.supply ∧
      db'.proposals = db.proposals ∧ db'.jobs = db.jobs := by
  unfold Service.process Service.record
  dsimp only
  split <;> exact ⟨rfl, rfl, rfl, rfl, rfl⟩

/-- An event that is processed updates its customer. -/
theorem Service.observed_customers (now : Time) (source : Source) (event : SourceEvent) (id : Uuid)
    (row : Customer) (db : Db) :
    (Service.record now source event (Service.process now source event id row db).1
      (Service.process now source event id row db).2).customers =
        db.customers.insert id (Service.observed source event row) :=
  congrArg Sources.customers (Service.observed_frame now source event id row db).1

/-- An event that is processed changes no identity. -/
theorem Service.observed_identities (now : Time) (source : Source) (event : SourceEvent)
    (id : Uuid) (row : Customer) (db : Db) :
    (Service.record now source event (Service.process now source event id row db).1
      (Service.process now source event id row db).2).identities = db.identities :=
  congrArg Sources.identities (Service.observed_frame now source event id row db).1

/-- The decision is the one record that an observed event adds. -/
theorem Service.observed_log (now : Time) (source : Source) (event : SourceEvent) (id : Uuid)
    (row : Customer) (db : Db) :
    let after := Service.observed source event row
    (Service.record now source event (Service.process now source event id row db).1
      (Service.process now source event id row db).2).auditLog = db.auditLog ++
        [⟨now, source.actor, .id id, policyHash, .sourceDecision row.state after.state
          event.attributes event.eventId after.provenance
          (Service.decideFields source event row).decisions after.revision⟩] := by
  unfold Service.process Service.record
  dsimp only
  split <;> rfl

/-- Marking a session changes the sessions only. -/
theorem Recovery.markSession_frame (id : Uuid) (status : SessionStatus) (db : Db) :
    (Recovery.markSession id status db).sources = db.sources ∧
      (Recovery.markSession id status db).supply = db.supply ∧
      (Recovery.markSession id status db).proposals = db.proposals ∧
      (Recovery.markSession id status db).jobs = db.jobs ∧
      (Recovery.markSession id status db).exceptions = db.exceptions ∧
      (Recovery.markSession id status db).gate = db.gate ∧
      (Recovery.markSession id status db).proofs = db.proofs := by
  unfold Recovery.markSession
  split <;> exact ⟨rfl, rfl, rfl, rfl, rfl, rfl, rfl⟩

/-- The writes of an admitted proposal bind its route, and nothing else of the kind. -/
theorem Service.enqueue_routing (now : Time) (actor : Actor) (command : Contract.Proposal)
    (row : Customer) (decision : Decision × Reason) (destination : Option String) (db : Db) :
    let db' := Service.enqueue now actor command row decision destination db
    db'.routing = (Capacity.bind command.requestId destination db).routing ∧
      db'.traffic = db.traffic := by
  obtain ⟨decision, reason⟩ := decision
  cases destination <;> cases decision <;> exact ⟨rfl, rfl⟩

/-- A grant routes no job, and takes no permit. -/
theorem Service.grant_routing (now : Time) (actor : Actor) (id : Uuid) (proposal : Proposal)
    (utc : Time) (db : Db) :
    (Service.grant now actor id proposal utc db).routing = db.routing ∧
      (Service.grant now actor id proposal utc db).traffic = db.traffic := by
  unfold Service.grant
  dsimp only
  split <;> exact ⟨rfl, rfl⟩

/-- Neither does a result. -/
theorem Worker.conclude_routing (now backoff : Time) (id : Uuid) (status : JobStatus)
    (reason : JobReason) (remoteResult : Option (RemoteResult (Digest Mutation)))
    (uncertain : Option Bool) (current : Job) (db : Db) :
    let db' := Worker.conclude now backoff id status reason remoteResult uncertain current db
    db'.routing = db.routing ∧ db'.traffic = db.traffic := by
  unfold Worker.conclude
  dsimp only
  split <;> exact ⟨rfl, rfl⟩

/-- Neither does an event. -/
theorem Service.observed_routing (now : Time) (source : Source) (event : SourceEvent) (id : Uuid)
    (row : Customer) (db : Db) :
    let processed := Service.process now source event id row db
    let db' := Service.record now source event processed.1 processed.2
    db'.routing = db.routing ∧ db'.traffic = db.traffic := by
  unfold Service.process Service.record
  dsimp only
  split <;> exact ⟨rfl, rfl⟩

/-- Neither does the mark of a session. -/
theorem Recovery.markSession_routing (id : Uuid) (status : SessionStatus) (db : Db) :
    (Recovery.markSession id status db).routing = db.routing ∧
      (Recovery.markSession id status db).traffic = db.traffic := by
  unfold Recovery.markSession
  split <;> exact ⟨rfl, rfl⟩

/-! ### The frames -/

/-- Whether the transaction is a source event or an identity link. -/
def Tx.isSource : Tx → Bool
  | .ingest .. | .link .. => true
  | _ => false

/-- Whether the transaction is the coordinator's. -/
def Tx.isCoordination : Tx → Bool
  | .begin .. | .verify .. | .approveRecovery .. | .resume .. => true
  | _ => false

/-- Only source events and links write the sources. -/
theorem sources_apply (now : Time) (db : Db) {tx : Tx} (h : tx.isSource = false) :
    (tx.apply now db).sources = db.sources := by
  have h_committed := tx.committed now db
  generalize tx.apply now db = db' at h_committed ⊢
  cases h_committed with
  | rolledBack => rfl
  | ingest | link => cases h
  | propose h_case =>
    cases h_case with
    | admitted => exact (Service.enqueue_frame ..).1
    | _ => rfl
  | approve h_case =>
    cases h_case with
    | granted => exact (Service.grant_frame ..).1
    | _ => rfl
  | finish h_case =>
    cases h_case with
    | recorded => exact (Worker.conclude_frame ..).1
    | fenced => rfl
  | resolve h_case | claim h_case | prepare h_case | defer h_case | acquire h_case
  | release h_case => cases h_case <;> rfl
  | begin h_case | verify h_case => rw [h_case.h_state]; rfl
  | approveRecovery | resume => exact (Recovery.markSession_frame ..).1

/-- Only the coordinator writes the gate, the sessions and the proofs. -/
theorem coordination_apply (now : Time) (db : Db) {tx : Tx} (h : tx.isCoordination = false) :
    (tx.apply now db).coordination = db.coordination := by
  have h_committed := tx.committed now db
  generalize tx.apply now db = db' at h_committed ⊢
  cases h_committed with
  | rolledBack => rfl
  | begin | verify | approveRecovery | resume => cases h
  | ingest h_case =>
    cases h_case with
    | known | enrolled => exact (Service.observed_frame ..).2.1
    | _ => rfl
  | propose h_case =>
    cases h_case with
    | admitted => exact (Service.enqueue_frame ..).2.1
    | _ => rfl
  | approve h_case =>
    cases h_case with
    | granted => exact (Service.grant_frame ..).2.1
    | _ => rfl
  | finish h_case =>
    cases h_case with
    | recorded => exact (Worker.conclude_frame ..).2.1
    | fenced => rfl
  | link h_case | resolve h_case | claim h_case | prepare h_case | defer h_case
  | acquire h_case | release h_case => cases h_case <;> rfl

/-- Whether the transaction takes or gives back a permit. -/
def Tx.isTraffic : Tx → Bool
  | .acquire .. | .release .. => true
  | _ => false

/-- Only proposals write the routes, and nobody writes the registry. -/
theorem routing_apply (now : Time) (db : Db) {tx : Tx}
    (h : ∀ actor command, tx ≠ .propose actor command) :
    (tx.apply now db).routing = db.routing := by
  have h_committed := tx.committed now db
  generalize tx.apply now db = db' at h_committed ⊢
  cases h_committed with
  | rolledBack => rfl
  | propose => exact absurd rfl (h _ _)
  | ingest h_case =>
    cases h_case with
    | known => exact (Service.observed_routing ..).1
    | enrolled => exact (Service.observed_routing _ _ _ _ _ (Service.enroll _ _ db)).1
    | _ => rfl
  | approve h_case =>
    cases h_case with
    | granted => exact (Service.grant_routing ..).1
    | _ => rfl
  | finish h_case =>
    cases h_case with
    | recorded => exact (Worker.conclude_routing ..).1
    | fenced => rfl
  | link h_case | resolve h_case | claim h_case | prepare h_case | defer h_case
  | acquire h_case | release h_case => cases h_case <;> rfl
  | begin h_case | verify h_case => rw [h_case.h_state]; rfl
  | approveRecovery | resume => exact (Recovery.markSession_routing ..).1

/-- Only permits that are taken or given back write the traffic. -/
theorem traffic_apply (now : Time) (db : Db) {tx : Tx} (h : tx.isTraffic = false) :
    (tx.apply now db).traffic = db.traffic := by
  have h_committed := tx.committed now db
  generalize tx.apply now db = db' at h_committed ⊢
  -- `acquire` and `release` are the two transactions on the traffic
  cases h_committed with
  | rolledBack => rfl
  | acquire | release => cases h
  | ingest h_case =>
    cases h_case with
    | known => exact (Service.observed_routing ..).2
    | enrolled => exact (Service.observed_routing _ _ _ _ _ (Service.enroll _ _ db)).2
    | _ => rfl
  | propose h_case =>
    cases h_case with
    | admitted => exact (Service.enqueue_routing ..).2
    | _ => rfl
  | approve h_case =>
    cases h_case with
    | granted => exact (Service.grant_routing ..).2
    | _ => rfl
  | finish h_case =>
    cases h_case with
    | recorded => exact (Worker.conclude_routing ..).2
    | fenced => rfl
  | link h_case | resolve h_case | claim h_case | prepare h_case | defer h_case =>
    cases h_case <;> rfl
  | begin h_case | verify h_case => rw [h_case.h_state]; rfl
  | approveRecovery | resume => exact (Recovery.markSession_routing ..).2

/-- The supply of drawn ids never runs backward. -/
theorem supply_le_apply (now : Time) (db : Db) (tx : Tx) :
    db.supply ≤ (tx.apply now db).supply := by
  have h_committed := tx.committed now db
  generalize tx.apply now db = db' at h_committed ⊢
  -- each insert of a drawn id moves the supply on by one
  cases h_committed with
  | rolledBack => exact le_rfl
  | ingest h_case =>
    cases h_case with
    | known => exact (Service.observed_frame ..).2.2.1.ge
    | enrolled =>
      exact (Nat.le_succ db.supply).trans_eq
        (Service.observed_frame _ _ _ _ _ (Service.enroll _ _ db)).2.2.1.symm
    | _ => exact le_rfl
  | propose h_case =>
    cases h_case with
    | admitted => exact (Service.enqueue_frame ..).2.2.1.ge
    | _ => exact le_rfl
  | approve h_case =>
    cases h_case with
    | granted => exact (Service.grant_frame ..).2.2.1.ge
    | _ => exact le_rfl
  | finish h_case =>
    cases h_case with
    | recorded => exact (Worker.conclude_frame ..).2.2.1.ge
    | fenced => exact le_rfl
  | claim h_case =>
    cases h_case with
    | nothing => exact le_rfl
    | leased => exact Nat.le_succ db.supply
  | acquire h_case =>
    cases h_case with
    | refused => exact le_rfl
    | granted => exact Nat.le_succ db.supply
  | link h_case | resolve h_case | prepare h_case | defer h_case | release h_case =>
    cases h_case <;> exact le_rfl
  | begin h_case | verify h_case => rw [h_case.h_state]; exact Nat.le_succ db.supply
  | approveRecovery | resume => rw [(Recovery.markSession_frame ..).2.1]

end ControlPlane
