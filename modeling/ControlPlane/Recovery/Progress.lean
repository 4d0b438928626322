import ControlPlane.Transactions.Work

/-!
# Progress under a closed gate

The evidence of a recovery is compared by a fingerprint of the business rows, taken at
`verify`, at `approve` and at `resume`. Equal fingerprints say that the rows are the same
at these three moments; they do not say by themselves that nothing was written and undone
in between.

While the gate is closed nothing can be undone. Every write that a closed gate admits
raises `ControlRows.progress`: it appends an audit record, gives a lease back, requests or
completes a request, or deletes an expired permit (`closed_step`). So the rows at both
ends of a closed stretch are equal only when no step in between wrote any
(`closed_unwritten`).
-/

namespace ControlPlane

open Framework

/-! ### The measure -/

/-- What only grows under a closed gate. A permit that is granted counts less than its
request, and one that is deleted counts for the better. -/
def ControlRows.progress (rows : ControlRows) : ℤ :=
  rows.auditLog.length + rows.jobs.countP (fun row => row.2.status ≠ .leased) +
    2 * rows.capacityRequests.card + rows.capacityCompletions.card + rows.capacityState.card -
    rows.requestPermits.card

/-- The request tokens have been drawn from the supply. -/
def RequestsDrawn (db : Db) : Prop :=
  ∀ token request, db.capacityRequests.lookup token = some request → token < db.supply

/-- The jobs that hold no lease. -/
def Db.unleased (db : Db) : ℕ := db.jobs.rows.countP fun row => row.2.status ≠ .leased

/-! ### Blocks of writes -/

/-- An audit record alone is progress. -/
theorem progress_of_audit {db db' : Db} (h_traffic : db'.traffic = db.traffic)
    (h_jobs : db.unleased ≤ db'.unleased) (h_audit : db.auditLog.length < db'.auditLog.length) :
    db.toBusiness.rows.progress < db'.toBusiness.rows.progress := by
  obtain ⟨h_state, h_permits, h_requests, h_completions⟩ := Traffic.mk.inj h_traffic
  unfold ControlRows.progress Business.rows
  dsimp only
  rw [h_state, h_permits, h_requests, h_completions]
  unfold Db.unleased at h_jobs
  omega

/-- A job row that is written never loses a lease-free job, unless it is leased by it. -/
theorem unleased_le_insert {db db' : Db} {id : Uuid} {job job' : Job}
    (h_jobs : db'.jobs = db.jobs.insert id job') (h_job : db.jobs.lookup id = some job)
    (h_status : job'.status ≠ .leased) : db.unleased ≤ db'.unleased := by
  have h_rows := congrArg
    (Multiset.countP fun row : Sigma fun _ : Uuid => Job => row.2.status ≠ .leased)
    (Table.rows_insert_of_some h_job job')
  rw [Multiset.countP_cons, Multiset.countP_cons, if_pos h_status] at h_rows
  unfold Db.unleased
  rw [h_jobs]
  split at h_rows <;> omega

/-- A job whose lease ends makes one leased job less. -/
theorem unleased_lt_insert {db db' : Db} {id : Uuid} {job job' : Job}
    (h_jobs : db'.jobs = db.jobs.insert id job') (h_job : db.jobs.lookup id = some job)
    (h_leased : job.status = .leased) (h_status : job'.status ≠ .leased) :
    db.unleased < db'.unleased := by
  have h_rows := congrArg
    (Multiset.countP fun row : Sigma fun _ : Uuid => Job => row.2.status ≠ .leased)
    (Table.rows_insert_of_some h_job job')
  rw [Multiset.countP_cons, Multiset.countP_cons, if_pos h_status,
    if_neg (not_not.mpr h_leased)] at h_rows
  unfold Db.unleased
  rw [h_jobs]
  omega

theorem Service.observed_audit (now : Time) (source : Source) (event : SourceEvent) (id : Uuid)
    (row : Customer) (db : Db) :
    let processed := Service.process now source event id row db
    let db' := Service.record now source event processed.1 processed.2
    db'.traffic = db.traffic ∧ db'.auditLog.length = db.auditLog.length + 1 := by
  refine ⟨(Service.observed_routing now source event id row db).2, ?_⟩
  rw [Service.observed_log, List.length_append, List.length_singleton]

theorem Worker.conclude_audit (now backoff : Time) (id : Uuid) (status : JobStatus)
    (reason : JobReason) (remoteResult : Option (RemoteResult (Digest Mutation)))
    (uncertain : Option Bool) (current : Job) (db : Db) :
    let db' := Worker.conclude now backoff id status reason remoteResult uncertain current db
    db'.traffic = db.traffic ∧ db'.auditLog.length = db.auditLog.length + 1 := by
  unfold Worker.conclude
  dsimp only
  split <;> exact ⟨rfl, List.length_append⟩

/-- Without a permit, `acquire` writes a row only when it finds none, or deletes permits. -/
theorem refresh_progress (now : Time) (name : String) (db : Db) :
    (Capacity.refresh now name db).toBusiness.rows = db.toBusiness.rows ∨
      db.toBusiness.rows.progress < (Capacity.refresh now name db).toBusiness.rows.progress := by
  have h_permits := Table.rows_filter_le
    (fun _ permit => !(permit.destination = name && permit.expires ≤ now)) db.requestPermits
  cases h_state : db.capacityState.lookup name with
  | some state =>
    have h_same : Table.rows (db.capacityState.insert name (Capacity.stateRow name db)) =
        db.capacityState.rows :=
      Table.rows_insert_same (by rw [Capacity.stateRow, h_state]; rfl)
    -- either no permit has expired and nothing changes, or one is gone
    rcases h_permits.eq_or_lt with h_eq | h_lt
    · refine .inl ?_
      unfold Capacity.refresh Business.rows
      dsimp only
      rw [h_same, h_eq]
    · have h_card := Multiset.card_lt_card h_lt
      refine .inr ?_
      unfold ControlRows.progress Capacity.refresh Business.rows
      dsimp only
      rw [h_same]
      omega
  -- the row of the state is new, and no permit has become more
  | none =>
    have h_card := Multiset.card_le_card h_permits
    refine .inr ?_
    unfold ControlRows.progress Capacity.refresh Business.rows
    dsimp only
    rw [Table.rows_insert_of_none h_state, Multiset.card_cons]
    omega

/-- A permit counts less than its request. -/
theorem permit_progress (now : Time) (name : String) (kind : RequestKind) (state : CapacityState)
    (window : ℤ) (used : ℕ) (db : Db) (h_drawn : RequestsDrawn db)
    (h_state : db.capacityState.lookup name = some state) :
    db.toBusiness.rows.progress <
      (Capacity.permit now name kind state window used db).toBusiness.rows.progress := by
  have h_fresh : db.capacityRequests.lookup db.supply = none := by
    cases h : db.capacityRequests.lookup db.supply with
    | none => rfl
    | some request => exact absurd (h_drawn _ request h) (lt_irrefl _)
  have h_card := Table.card_insert_le db.requestPermits db.supply
    (⟨name, now + seconds 30, kind⟩ : Permit)
  unfold ControlRows.progress Capacity.permit Business.rows
  dsimp only
  rw [Table.rows_insert_of_none h_fresh, Table.card_insert_of_some h_state, Multiset.card_cons]
  omega

/-! ### The tokens of requests -/

/-- Only `acquire` writes requests, under a token drawn for it. -/
theorem requests_apply (now : Time) (db : Db) (tx : Tx) :
    (tx.apply now db).capacityRequests = db.capacityRequests ∨
      ∃ request, (tx.apply now db).capacityRequests =
        db.capacityRequests.insert db.supply request ∧
        (tx.apply now db).supply = db.supply + 1 := by
  by_cases h_traffic : tx.isTraffic = false
  · exact .inl (congrArg Traffic.capacityRequests (traffic_apply now db h_traffic))
  have h_committed := tx.committed now db
  generalize tx.apply now db = db' at h_committed ⊢
  cases h_committed with
  | rolledBack => exact .inl rfl
  | acquire h_case =>
    cases h_case with
    | refused => exact .inl rfl
    | granted => exact .inr ⟨_, rfl, rfl⟩
  | release h_case => cases h_case <;> exact .inl rfl
  | _ => exact absurd rfl h_traffic

/-- Every transaction keeps it. -/
theorem RequestsDrawn.step {db : Db} (h : RequestsDrawn db) (entry : Entry) :
    RequestsDrawn (db.step entry) := by
  intro token request h_after
  have h_supply := supply_le_apply entry.now db entry.tx
  rcases requests_apply entry.now db entry.tx with h_same | ⟨request', h_insert, h_next⟩
  · exact (h token request (h_same ▸ h_after)).trans_le h_supply
  · change (entry.tx.apply entry.now db).capacityRequests.lookup token = _ at h_after
    rw [h_insert, Table.lookup_insert] at h_after
    change token < (entry.tx.apply entry.now db).supply
    split at h_after
    · rename_i h_token
      rw [h_next, h_token]
      exact Nat.lt_succ_self db.supply
    · exact (h token request h_after).trans_le h_supply

/-- So it holds after every run. -/
theorem requests_drawn (registry : Table String Destination) (owners : Table String String)
    (entries : List Entry) : RequestsDrawn ((Db.migrated registry owners).run entries) :=
  run_invariant (fun _ _ h => by cases h) (fun _ entry h => h.step entry) entries

/-! ### One step -/

/-- **A closed gate admits no write that could be undone.** -/
theorem closed_step {db : Db} (h_drawn : RequestsDrawn db) (h_closed : db.gate.mode = .closed)
    (entry : Entry) :
    (db.step entry).toBusiness.rows = db.toBusiness.rows ∨
      db.toBusiness.rows.progress < (db.step entry).toBusiness.rows.progress := by
  obtain ⟨now, tx⟩ := entry
  have h_committed := tx.committed now db
  change (tx.apply now db).toBusiness.rows = _ ∨ _ < (tx.apply now db).toBusiness.rows.progress
  generalize tx.apply now db = db' at h_committed ⊢
  have h_shut : db.executionOpen ≠ true := by
    unfold Db.executionOpen
    rw [h_closed]
    decide
  -- an audit record is enough, unless the jobs lose a free one
  have audited : ∀ db' : Db, db'.traffic = db.traffic → db'.jobs = db.jobs →
      db'.auditLog.length = db.auditLog.length + 1 → db'.toBusiness.rows = db.toBusiness.rows ∨
        db.toBusiness.rows.progress < db'.toBusiness.rows.progress :=
    fun db' h_traffic h_jobs h_audit => .inr (progress_of_audit h_traffic
      (by unfold Db.unleased; rw [h_jobs]) (by omega))
  cases h_committed with
  | rolledBack => exact .inl rfl
  | @ingest source event _ _ h_case =>
    cases h_case with
    | known customerId row =>
      have h_observed := Service.observed_audit now source event customerId row db
      exact audited _ h_observed.1 (Service.observed_frame ..).2.2.2.2 h_observed.2
    | enrolled =>
      have h_observed := Service.observed_audit now source event db.supply Customer.initial
        (Service.enroll source event db)
      exact audited _ h_observed.1
        (Service.observed_frame _ _ _ _ _ (Service.enroll source event db)).2.2.2.2 h_observed.2
    | conflict | duplicate | reviewed => exact audited _ rfl rfl List.length_append
  | link h_case => cases h_case <;> exact audited _ rfl rfl List.length_append
  | propose h_case =>
    cases h_case with
    | closed | repeated => exact .inl rfl
    | conflict => exact audited _ rfl rfl List.length_append
    | admitted _ _ h_open => exact absurd h_open h_shut
  | approve h_case =>
    cases h_case with
    | closed | repeated => exact .inl rfl
    | refused => exact audited _ rfl rfl List.length_append
    | granted _ _ h_open => exact absurd h_open h_shut
  | resolve h_case =>
    cases h_case with
    | acknowledged => exact audited _ rfl rfl List.length_append
    | requeued row key job _ _ _ _ h_job =>
      exact .inr (progress_of_audit rfl (unleased_le_insert rfl h_job (fun h => by cases h))
        (by rw [Db.audit, List.length_append]; exact Nat.lt_succ_self _))
  | claim h_case =>
    cases h_case with
    | nothing => exact .inl rfl
    | leased _ _ h_open => exact absurd h_open h_shut
  | prepare h_case =>
    cases h_case with
    | authorized _ _ _ _ h_open => exact absurd h_open h_shut
    | _ => exact .inl rfl
  | @finish jitter id token verdict _ _ h_case =>
    cases h_case with
    | fenced => exact .inl rfl
    | recorded current backoff h_job =>
      have h_audit := Worker.conclude_audit now backoff id
        (Worker.budgeted verdict.status verdict.reason current).1
        (Worker.budgeted verdict.status verdict.reason current).2 verdict.remoteResult
        verdict.uncertain current db
      exact .inr (progress_of_audit h_audit.1
        (unleased_le_insert (Worker.conclude_frame ..).2.2.2.2.1 h_job (budgeted_ne_leased _ _))
        (h_audit.2.ge.trans' (Nat.lt_succ_self _)))
  | defer h_case =>
    cases h_case with
    | nothing => exact .inl rfl
    | deferred refund job h_job _ h_leased =>
      -- no audit record: the lease that is given back is the progress
      rename_i id _ _ _
      have h_lt : db.unleased <
          Db.unleased { db with jobs := db.jobs.insert id (Capacity.deferred now refund job) } :=
        unleased_lt_insert rfl h_job h_leased (fun h => by cases h)
      refine .inr ?_
      unfold Db.unleased at h_lt
      unfold ControlRows.progress Business.rows
      dsimp only at h_lt ⊢
      omega
  | @acquire name route kind _ _ h_case =>
    cases h_case with
    | refused => exact refresh_progress now name db
    | granted window used =>
      have h_permit := permit_progress now name kind (Capacity.stateRow name db) window used
        (Capacity.refresh now name db) h_drawn (Table.lookup_insert_self _ _ _)
      rcases refresh_progress now name db with h_same | h_lt
      · exact .inr (h_same ▸ h_permit)
      · exact .inr (h_lt.trans h_permit)
  | @release name token _ _ _ h_case =>
    have h_erase := Multiset.card_le_card (Table.rows_erase_le db.requestPermits token)
    refine .inr ?_
    unfold ControlRows.progress Business.rows
    cases h_case with
    | completed h_new =>
      dsimp only
      rw [Table.rows_insert_of_none h_new, Multiset.card_cons]
      omega
    | probed state state' h_new h_state =>
      dsimp only
      rw [Table.rows_insert_of_none h_new, Multiset.card_cons, Table.card_insert_of_some h_state]
      omega
  | begin h_case | verify h_case =>
    rw [h_case.h_state]
    exact .inl rfl
  | approveRecovery | resume =>
    unfold Recovery.markSession
    split <;> exact .inl rfl

/-- **Equal rows at both ends of a closed stretch are untouched rows.** -/
theorem closed_unwritten {registry : Table String Destination} {owners : Table String String}
    {pre as : List Entry}
    (h_closed : ∀ mid, pre <+: mid → mid <+: as →
      ((Db.migrated registry owners).run mid).gate.mode = .closed)
    (h_ends : ((Db.migrated registry owners).run as).toBusiness.rows =
      ((Db.migrated registry owners).run pre).toBusiness.rows)
    {mid : List Entry} (h_pre : pre <+: mid) (h_as : mid <+: as) :
    ((Db.migrated registry owners).run mid).toBusiness.rows =
      ((Db.migrated registry owners).run pre).toBusiness.rows := by
  refine run_unchanged (f := fun db : Db => db.toBusiness.rows) ControlRows.progress
    (fun later a h_later h_a => ?_) h_ends h_pre h_as
  exact closed_step (requests_drawn registry owners later)
    (h_closed later h_later ((List.prefix_append later [a]).trans h_a)) a

end ControlPlane
