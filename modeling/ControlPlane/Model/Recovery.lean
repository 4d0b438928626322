import ControlPlane.Model.Service
import Mathlib.Data.Finset.Dedup

/-!
# Durable recovery sessions

`recovery.py`: the coordinator that closes the gate (`begin`), records a proof
(`verify`), binds an approval to it (`approve`) and reopens the gate (`resume`). Each
of the four holds the exclusive lock of the gate row from its first statement to its
end, so each is one transaction.

Everything an observation reads from outside the control database is in
`Surroundings`: the identities of the two databases the readers reach, the quiescence
witness, the process clock, the receipts of the independent ledger and the catalogue.
-/

namespace ControlPlane

open Framework

namespace Recovery

/-- A coordinator: its binding, and the identity of the receipt database it was
constructed with. -/
structure Coordinator where
  binding : Binding
  remoteIdentity : String
deriving DecidableEq

/-- What a recovery reads outside the control database. -/
structure Surroundings where
  readerIdentity : String
  remoteIdentity : String
  witness : Witness
  utc : Time
  receipts : List (ReceiptView Mutation (Digest Mutation))
  catalog : Catalog
deriving DecidableEq

/-! ### Observations -/

/-- `fingerprint(c)`. -/
def fingerprint (db : Db) (catalog : Catalog) : Digest Fingerprint :=
  digest ⟨db.toBusiness.rows, policyHash, catalog⟩

/-- The jobs of the snapshot, `ORDER BY id`. -/
def jobViews (db : Db) : List (JobView Mutation (Digest Mutation)) :=
  (sortedItems db.jobs).map fun row =>
    ⟨row.1, row.2.status, row.2.mutation, row.2.uncertain, row.2.remoteResult⟩

/-- A stored mutation is never the empty object. -/
def compareJobs (db : Db) (receipts : List (ReceiptView Mutation (Digest Mutation))) :
    Comparison Mutation (Digest Mutation) :=
  compareReceipts digest (fun _ => false) (jobViews db) receipts

/-- The answer of `destination_snapshot`. -/
structure DestinationReport (Doc Hash : Type) where
  safeToResume : Bool
  destinations : List (String × Lane Doc Hash)

/-- `destination_snapshot`, over the rows of its two queries: the ids of `cp.destinations` and
the jobs with their labels. The readers must be exactly those of the configured scope. -/
def destinationSnapshot {Doc Hash : Type} [DecidableEq Hash] (digest : Doc → Hash)
    (isEmpty : Doc → Bool) (registered : List String) (jobs : List (LaneJob Doc Hash))
    (readers : Table String (List (ReceiptView Doc Hash))) :
    Except Fault (DestinationReport Doc Hash) :=
  if readers.keys.toFinset ≠ (legacyLane :: registered).toFinset then
    .error .allDestinationReadersRequired
  else
    let lanes := compareLanes digest isEmpty jobs readers
    .ok ⟨lanes.all fun lane => lane.2.safeToResume, lanes⟩

/-- The jobs of the snapshot with their labels, `LEFT JOIN cp.job_routes USING(id)`. -/
def laneJobs (db : Db) : List (LaneJob Mutation (Digest Mutation)) :=
  (jobViews db).map fun job => ⟨job, (db.jobRoutes.lookup job.id).getD legacyLane⟩

/-- `destination_snapshot(control_dsn, readers)`. -/
def compareDestinations (db : Db)
    (readers : Table String (List (ReceiptView Mutation (Digest Mutation)))) :
    Except Fault (DestinationReport Mutation (Digest Mutation)) :=
  destinationSnapshot digest (fun _ => false) (db.destinations.entries.map (·.1)) (laneJobs db)
    readers

/-- Whether the current value of the field was asserted by its owner in an event received
since `started`. -/
def authorityFresh (db : Db) (started : Time) (row : Customer) (field : Field) : Bool :=
  match row.provenance.get field with
  | none => false
  | some p =>
    match db.events.lookup (p.source, p.eventId) with
    | none => false
    | some event =>
      p.source = owner field && started ≤ event.receivedAt &&
        (event.body.attributes.get field).isSome &&
        event.body.attributes.get field = row.state.get field

/-- `authority_findings(c, started)`. -/
def authorityFindings (db : Db) (started : Time) : List Finding :=
  (sortedItems db.customers).flatMap fun row =>
    ([.consent, .suppressed] : List Field).filterMap fun field =>
      if authorityFresh db started row.2 field then none
      else some ⟨row.1, .currentAuthorityRefreshMissing, some field⟩

/-- `not timedelta(seconds=-2) <= now - at <= timedelta(seconds=10)`. -/
def staleWitness (utc : Time) (witness : Witness) : Bool :=
  match witness.observedAt with
  | none => true
  | some observedAt =>
    utc - observedAt < seconds (-2) ∨ seconds 10 < utc - observedAt

/-- `_observe(c, session)`. The single-database comparison refuses to run over
registered destinations. -/
def observe (coordinator : Coordinator) (surroundings : Surroundings) (session : Session)
    (db : Db) : Except Fault Report :=
  if surroundings.readerIdentity ≠ coordinator.binding.restoredDatabase ∨
      surroundings.remoteIdentity ≠ coordinator.remoteIdentity then
    .error .recoveryDatabaseIdentityChanged
  else if surroundings.witness.quiescent = false then .error .runtimeNotQuiescent
  else if staleWitness surroundings.utc surroundings.witness then
    .error .staleQuiescenceWitness
  else if db.destinations.entries.isEmpty = false then .error .allDestinationReadersRequired
  else
    let comparison := compareJobs db surroundings.receipts
    -- what the receipts say, and what no owner has said since the session began
    let findings := comparison.findings ++ authorityFindings db session.createdAt
    .ok {
      safeToResume := findings.isEmpty
      localIntents := comparison.localIntents
      remoteEffects := comparison.remoteEffects
      findings := findings
      snapshotHash := comparison.snapshotHash
      controlFingerprint := fingerprint db surroundings.catalog
      bindingHash := digest coordinator.binding
      quiescence := surroundings.witness
      policyHash := policyHash }

/-! ### The coordinator's transactions -/

/-- `_session(c, key)`. -/
def currentSession (coordinator : Coordinator) (key : Uuid) (db : Db) :
    Except Fault Session :=
  match db.sessions.lookup key with
  | none => .error .closedCurrentRecoverySessionRequired
  | some session =>
    -- the session of the gate, while it is closed
    if db.gate.sessionId ≠ some key ∨ db.gate.mode ≠ .closed then
      .error .closedCurrentRecoverySessionRequired
    else if session.bindingHash ≠ digest coordinator.binding ∨
        session.binding ≠ coordinator.binding then
      .error .recoveryBindingChanged
    else .ok session

/-- `begin`, which closes the gate. -/
def begin (now : Time) (coordinator : Coordinator) (db : Db) : Outcome Uuid :=
  if db.gate.mode = .closed then .error .recoveryAlreadyActive
  else if (db.sessions.lookup db.supply).isSome then .error .constraintViolation
  else
    let key := db.supply
    .ok (key, { db with
      supply := key + 1
      sessions := db.sessions.insert key
        ⟨coordinator.binding, digest coordinator.binding, now, .closed⟩
      -- an approval of an earlier session is gone
      gate := ⟨.closed, db.gate.epoch + 1, some key, none, none⟩ })

/-- `verify`, which stores the proof whatever it says. -/
def verify (now : Time) (coordinator : Coordinator) (surroundings : Surroundings)
    (sessionId : Uuid) (db : Db) : Outcome (Uuid × Report) :=
  match currentSession coordinator sessionId db with
  | .error fault => .error fault
  | .ok session =>
    match observe coordinator surroundings session db with
    | .error fault => .error fault
    | .ok report =>
      if (db.proofs.lookup db.supply).isSome then .error .constraintViolation
      else
        let key := db.supply
        .ok ((key, report), { db with
          supply := key + 1
          proofs := db.proofs.insert key ⟨sessionId, report, digest report, now⟩ })

/-- Whether the fresh report repeats the proof in the four bound members. -/
def sameEvidence (fresh recorded : Report) : Bool :=
  fresh.controlFingerprint = recorded.controlFingerprint &&
    fresh.snapshotHash = recorded.snapshotHash &&
    fresh.bindingHash = recorded.bindingHash &&
    fresh.policyHash = recorded.policyHash

/-- `_fresh_approval(c, session_id, proof_id)`: the fresh report. -/
def freshApproval (coordinator : Coordinator) (surroundings : Surroundings)
    (sessionId proofId : Uuid) (db : Db) : Except Fault Report :=
  match currentSession coordinator sessionId db with
  | .error fault => .error fault
  | .ok session =>
    match db.proofs.lookup proofId with
    | none => .error .freshSafeProofRequired
    | some proof =>
      if proof.sessionId ≠ sessionId ∨ proof.report.safeToResume = false ∨
          proof.reportHash ≠ digest proof.report ∨
          seconds 90 < surroundings.utc - proof.createdAt then
        .error .freshSafeProofRequired
      else
        match observe coordinator surroundings session db with
        | .error fault => .error fault
        | .ok fresh =>
          -- the observation is made again, and has to repeat the proof
          if fresh.safeToResume = false ∨ sameEvidence fresh proof.report = false then
            .error .recoveryEvidenceChanged
          else .ok fresh

/-- `UPDATE cp.recovery_sessions SET status=.. WHERE id=..`. -/
def markSession (sessionId : Uuid) (status : SessionStatus) (db : Db) : Db :=
  match db.sessions.lookup sessionId with
  | none => db
  | some session =>
    { db with sessions := db.sessions.insert sessionId { session with status := status } }

/-- `approve`, of one fresh proof. -/
def approve (now : Time) (coordinator : Coordinator) (surroundings : Surroundings)
    (sessionId proofId : Uuid) (db : Db) : Outcome Report :=
  match freshApproval coordinator surroundings sessionId proofId db with
  | .error fault => .error fault
  | .ok fresh =>
    .ok (fresh, markSession sessionId .approved { db with
      gate := { db.gate with approvedProof := some proofId, approvedAt := some now } })

/-- `resume`, with the approved proof. -/
def resume (_now : Time) (coordinator : Coordinator) (surroundings : Surroundings)
    (sessionId proofId : Uuid) (db : Db) : Outcome Report :=
  match freshApproval coordinator surroundings sessionId proofId db with
  | .error fault => .error fault
  | .ok fresh =>
    if db.gate.approvedProof ≠ some proofId then .error .exactOperatorApprovalRequired
    -- the approval is spent
    else .ok (fresh, markSession sessionId .resumed { db with
      gate := { db.gate with mode := .opened, approvedProof := none } })

end Recovery
end ControlPlane
