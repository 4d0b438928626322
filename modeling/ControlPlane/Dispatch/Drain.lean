import ControlPlane.Dispatch.Lease
import ControlPlane.Dispatch.Settling
import Mathlib.Algebra.Order.BigOperators.Group.Multiset
import Mathlib.Algebra.Order.Ring.Nat

/-!
# The outbox drains

A worker that is alone at the outbox, while the sources go on delivering, works off all jobs: each
call of `execute` brings one job nearer to its end, whatever the receiver answers, as long as it
answers in a way that `execute` reads or catches. After as many calls as the jobs have attempts left
every job is over (`outbox_drains`).

* `Db.remaining` counts the attempts, at least one for each job that is not over.
* `Rested` says that nothing in the database waits for the clock any more. From some time on it
  holds of every state (`exists_rested`).
* `Holds` and `Room` are what `execute` keeps: the lease, and capacity for its requests. A lookup
  and the dispatch behind it fit into one window where three requests a second are allowed.
-/

namespace ControlPlane

open Framework

/-! ### The attempts that are left -/

namespace Worker

/-- Nothing is done for the job any more. -/
def Over (job : Job) : Prop :=
  job.status = .succeeded ∨ job.status = .dead ∨ job.status = .blocked

/-- How often the job can still be claimed. -/
def remaining (job : Job) : ℕ :=
  match job.status with
  | .succeeded | .dead | .blocked => 0
  | .ready | .retry | .leased => max 1 (policy.maxAttempts - job.attempts)

/-- A job without attempts left is over. -/
theorem remaining_eq_zero {job : Job} : remaining job = 0 ↔ Over job := by
  unfold remaining Over
  cases job.status <;> simp

/-- A job that is due has an attempt left, or as many as the policy allows. -/
theorem remaining_of_due {now : Time} {job : Job} (h : due now job = true) :
    remaining job = max 1 (policy.maxAttempts - job.attempts) := by
  unfold remaining
  rcases due_cases h with ⟨h_status | h_status, -⟩ | ⟨h_status, -⟩ <;> rw [h_status]

/-- A verdict ends the job or uses up an attempt. -/
theorem remaining_finished (now backoff : Time) (verdict : Verdict) {current : Job}
    {attempts : ℕ} (h : current.attempts = attempts + 1) :
    remaining (finished now backoff (budgeted verdict.status verdict.reason current).1
      (budgeted verdict.status verdict.reason current).2 verdict.remoteResult verdict.uncertain
      current) < max 1 (policy.maxAttempts - attempts) := by
  have h_pos : 0 < max 1 (policy.maxAttempts - attempts) := by omega
  unfold budgeted
  split
  next => exact h_pos
  next h_budget =>
    cases h_status : verdict.status with
    | retry =>
      have h_left : ¬ policy.maxAttempts ≤ attempts + 1 := fun h_spent =>
        h_budget ⟨h_status, h ▸ h_spent⟩
      show max 1 (policy.maxAttempts - current.attempts) < _
      omega
    | succeeded | dead | blocked => exact h_pos
    | ready | leased => cases verdict <;> cases h_status

end Worker

namespace Db

/-- The attempts that are left, of all jobs. -/
def remaining (db : Db) : ℕ := (db.jobs.rows.map fun row => Worker.remaining row.2).sum

/-- Nothing is left exactly if every job is over. -/
theorem remaining_eq_zero {db : Db} :
    db.remaining = 0 ↔ ∀ id job, db.jobs.lookup id = some job → Worker.Over job := by
  have h_rows (id : Uuid) (job : Job) :
      (⟨id, job⟩ : Sigma fun _ : Uuid => Job) ∈ db.jobs.rows ↔ db.jobs.lookup id = some job := by
    rw [← Table.mem_entries]
    exact Multiset.mem_coe
  unfold remaining
  rw [Multiset.sum_eq_zero_iff]
  constructor
  · intro h id job h_job
    refine Worker.remaining_eq_zero.mp (h _ ?_)
    exact Multiset.mem_map_of_mem _ ((h_rows id job).mpr h_job)
  · intro h count h_count
    obtain ⟨⟨id, job⟩, h_mem, rfl⟩ := Multiset.mem_map.mp h_count
    exact Worker.remaining_eq_zero.mpr (h id job ((h_rows id job).mp h_mem))

/-- One job comes nearer to its end, and the others stay as they are. -/
theorem remaining_lt {db db' : Db} {id : Uuid} {job job' : Job}
    (h_before : db.jobs.lookup id = some job) (h_after : db'.jobs.lookup id = some job')
    (h_others : ∀ other, other ≠ id → db'.jobs.lookup other = db.jobs.lookup other)
    (h_lt : Worker.remaining job' < Worker.remaining job) : db'.remaining < db.remaining := by
  have h_same : db'.jobs.rows = Table.rows (db.jobs.insert id job') := by
    refine Table.rows_eq_iff.mpr fun other => ?_
    rw [Table.lookup_insert]
    split
    next h_id => rw [h_id, h_after]
    next h_ne => exact h_others other h_ne
  have h_rows := congrArg (fun rows => (rows.map fun row => Worker.remaining row.2).sum)
    (Table.rows_insert_of_some h_before job')
  simp only [Multiset.map_cons, Multiset.sum_cons] at h_rows
  unfold remaining
  rw [h_same]
  omega

end Db

/-! ### Nothing waits for the clock -/

/-- Every job that is not over is due, no cooldown lasts, no permit is live and a new window has
begun. -/
structure Rested (now : Time) (db : Db) : Prop where
  jobs : ∀ id job, db.jobs.lookup id = some job → Worker.Over job ∨ Worker.due now job = true
  probes : ∀ name state, db.capacityState.lookup name = some state →
    (∀ probe, state.nextProbe = some probe → probe ≤ now) ∧ state.windowId < now / seconds 1
  permits : ∀ token permit, db.requestPermits.lookup token = some permit → permit.expires ≤ now

/-- The window of a time behind the next second is a later one. -/
theorem lt_window {window now : ℤ} (h : seconds (window + 1) ≤ now) : window < now / seconds 1 := by
  have h : (window + 1) * 1000000 ≤ now := h
  unfold seconds
  omega

/-- What holds of each row from some time on holds of all rows from some time on. -/
theorem exists_from {κ ρ : Type} [DecidableEq κ] (t : Table κ ρ) {P : Time → κ → ρ → Prop}
    (h : ∀ k r, t.lookup k = some r → ∃ from_, ∀ now, from_ ≤ now → P now k r) :
    ∃ from_, ∀ now, from_ ≤ now → ∀ k r, t.lookup k = some r → P now k r := by
  suffices h_rows : ∀ rows : List (Sigma fun _ : κ => ρ), (∀ row ∈ rows, row ∈ t.entries) →
      ∃ from_, ∀ now, from_ ≤ now → ∀ row ∈ rows, P now row.1 row.2 by
    obtain ⟨from_, h_from⟩ := h_rows t.entries fun _ h_row => h_row
    exact ⟨from_, fun now h_now k r h_row => h_from now h_now _ (Table.mem_entries.mpr h_row)⟩
  intro rows
  induction rows with
  | nil => exact fun _ => ⟨0, fun _ _ _ h_row => absurd h_row List.not_mem_nil⟩
  | cons row rows ih =>
    intro h_sub
    obtain ⟨first, h_first⟩ := h row.1 row.2 (Table.mem_entries.mp (h_sub row List.mem_cons_self))
    obtain ⟨later, h_later⟩ :=
      ih fun other h_other => h_sub other (List.mem_cons_of_mem row h_other)
    refine ⟨max first later, fun now h_now other h_other => ?_⟩
    rcases List.mem_cons.mp h_other with rfl | h_other
    · exact h_first now (le_trans (le_max_left _ _) h_now)
    · exact h_later now (le_trans (le_max_right _ _) h_now) other h_other

/-- **From some time on nothing waits for the clock.** -/
theorem exists_rested (registry : Table String Destination) (owners : Table String String)
    (entries : List Entry) :
    ∃ from_, ∀ now, from_ ≤ now → Rested now ((Db.migrated registry owners).run entries) := by
  set db := (Db.migrated registry owners).run entries
  have h_lease : LeaseSound db := lease_sound registry owners entries
  -- a job waits for its time or for the end of its lease, and then it is due
  obtain ⟨jobs, h_jobs⟩ := exists_from db.jobs
    (P := fun now _ job => Worker.Over job ∨ Worker.due now job = true) fun id job h_job => by
      cases h_status : job.status with
      | ready | retry =>
        refine ⟨job.availableAt, fun now h_now => .inr ?_⟩
        simp [Worker.due, h_status, h_now]
      | leased =>
        obtain ⟨until_, h_until⟩ :=
          Option.isSome_iff_exists.mp (h_lease.leased id job h_job h_status).2
        refine ⟨until_, fun now h_now => .inr ?_⟩
        simp [Worker.due, h_status, h_until, h_now]
      | succeeded => exact ⟨0, fun _ _ => .inl (.inl h_status)⟩
      | dead => exact ⟨0, fun _ _ => .inl (.inr (.inl h_status))⟩
      | blocked => exact ⟨0, fun _ _ => .inl (.inr (.inr h_status))⟩
  -- a destination waits for its probe and for the next window
  obtain ⟨probes, h_probes⟩ := exists_from db.capacityState
    (P := fun now _ state => (∀ probe, state.nextProbe = some probe → probe ≤ now) ∧
      state.windowId < now / seconds 1) fun _ state _ => by
      refine ⟨max (state.nextProbe.getD 0) (seconds (state.windowId + 1)), fun now h_now => ?_⟩
      refine ⟨fun probe h_probe => ?_, ?_⟩
      · have h_le := le_trans (le_max_left _ _) h_now
        rwa [h_probe] at h_le
      · exact lt_window (le_trans (le_max_right _ _) h_now)
  -- a permit expires by itself
  obtain ⟨permits, h_permits⟩ := exists_from db.requestPermits
    (P := fun now _ permit => permit.expires ≤ now) fun _ permit _ =>
      ⟨permit.expires, fun _ h_now => h_now⟩
  refine ⟨max jobs (max probes permits), fun now h_now => ⟨?_, ?_, ?_⟩⟩
  · exact h_jobs now (le_trans (le_max_left _ _) h_now)
  · exact h_probes now (le_trans (le_trans (le_max_left _ _) (le_max_right _ _)) h_now)
  · exact h_permits now (le_trans (le_trans (le_max_right _ _) (le_max_right _ _)) h_now)

/-! ### Who leaves the jobs alone -/

/-- Neither the sources nor the permits touch a job. -/
theorem jobs_aside {db : Db} {entry : Entry}
    (h : entry.tx.isSource = true ∨ entry.tx.isTraffic = true) (id : Uuid) :
    (db.step entry).jobs.lookup id = db.jobs.lookup id := by
  have h_other {tx : Tx} (h_source : tx.isSource = false) (h_traffic : tx.isTraffic = false) :
      entry.tx ≠ tx := by
    rintro rfl
    rw [h_source, h_traffic] at h
    rcases h with h | h <;> cases h
  cases job_move db entry id with
  | kept h_same => exact h_same
  | proposed _ _ _ h_tx | approved _ _ _ _ _ _ h_tx | claimed _ _ _ h_tx | prepared _ _ _ _ _ _ h_tx
  | finished _ _ _ _ _ h_tx | deferred _ _ _ _ h_tx | requeued _ _ _ _ _ h_tx =>
    exact absurd h_tx (h_other rfl rfl)

/-- Only the commands of recovery move the gate. -/
theorem executionOpen_aside {db : Db} {entry : Entry} (h : entry.tx.isCoordination = false) :
    (db.step entry).executionOpen = db.executionOpen := by
  have h_gate : (db.step entry).gate = db.gate :=
    congrArg Coordination.gate (coordination_apply entry.now db h)
  unfold Db.executionOpen
  rw [h_gate]

/-- A source neither moves the gate nor takes permits. -/
theorem isCoordination_of_isSource {tx : Tx} (h : tx.isSource = true) :
    tx.isCoordination = false ∧ tx.isTraffic = false := by
  cases tx <;> first | exact ⟨rfl, rfl⟩ | cases h

/-! ### Room for a request -/

namespace Capacity

variable {since now : Time} {used : ℕ} {held : Option Uuid} {db db' : Db} {name : String}
  {route : Destination} {kind : RequestKind} {token : Uuid}

/-- Since the given time: no cooldown lasts, no window has more than so many permits, and none is
live but the one that is held. -/
structure Room (since : Time) (used : ℕ) (held : Option Uuid) (db : Db) : Prop where
  probe : ∀ name probe, (stateRow name db).nextProbe = some probe → probe ≤ since
  used : ∀ name, (stateRow name db).windowId < since / seconds 1 ∨ (stateRow name db).used ≤ used
  permits : ∀ token permit, db.requestPermits.lookup token = some permit →
    held = some token ∨ permit.expires ≤ since

/-- There is room for one more permit. -/
theorem Room.mono (h : Room since used held db) : Room since (used + 1) held db where
  probe := h.probe
  used name := (h.used name).imp_right Nat.le_succ_of_le
  permits := h.permits

/-- The room is about the tables of the permits. -/
theorem Room.of_traffic (h : Room since used held db) (h_traffic : db'.traffic = db.traffic) :
    Room since used held db' where
  probe name := by
    rw [stateRow_of_traffic h_traffic]
    exact h.probe name
  used name := by
    rw [stateRow_of_traffic h_traffic]
    exact h.used name
  permits := by
    have h_permits : db'.requestPermits = db.requestPermits :=
      congrArg Traffic.requestPermits h_traffic
    rw [h_permits]
    exact h.permits

/-- No destination has issued more in this window than the worker has taken. -/
theorem Room.used_le (h : Room since used held db) (h_since : since ≤ now) :
    Capacity.used now name db ≤ used := by
  unfold Capacity.used
  split
  next h_window =>
    rcases h.used name with h_old | h_used
    · have h_clock : since / seconds 1 ≤ now / seconds 1 :=
        Int.ediv_le_ediv (by decide) h_since
      have h_max : now / seconds 1 ≤ window now name db := le_max_left _ _
      rw [← h_window] at h_max
      exact absurd (lt_of_lt_of_le h_old (h_clock.trans h_max)) (lt_irrefl _)
    · exact h_used
  next => exact Nat.zero_le _

/-- Nothing is live but the permit that is held. -/
theorem Room.outstanding (h : Room since used none db) (h_since : since ≤ now) :
    outstanding (refresh now name db) name = 0 := by
  refine List.length_eq_zero_iff.mpr (List.filter_eq_nil_iff.mpr fun row h_row h_name => ?_)
  obtain ⟨token, permit⟩ := row
  have h_kept := Table.lookup_filter_eq_some.mp (Table.mem_entries.mp h_row)
  rcases h.permits token permit h_kept.1 with h_held | h_expired
  · cases h_held
  · have h_live := h_kept.2
    rw [of_decide_eq_true h_name, decide_eq_true (h_expired.trans h_since)] at h_live
    simp at h_live

/-- A permit is granted where the worker has taken fewer than the limit. -/
theorem Room.granted (h : Room since used none db) (h_since : since ≤ now)
    (h_limit : used < route.requestsPerSecond - (if kind = .dispatch then 1 else 0))
    (h_concurrency : 0 < route.concurrency) : Granted now name route kind db where
  eligible probe h_probe := (h.probe name probe h_probe).trans h_since
  limit := (h.used_le h_since).trans_lt h_limit
  live := by
    rw [h.outstanding h_since]
    exact h_concurrency

/-- The permit is held, and one more is used. -/
theorem Room.permit (h : Room since used none db) (h_since : since ≤ now) :
    Room since (used + 1) (some db.supply)
      (permit now name kind (stateRow name db) (window now name db) (Capacity.used now name db)
        (refresh now name db)) := by
  set db' := Capacity.permit now name kind (stateRow name db) (window now name db)
    (Capacity.used now name db) (refresh now name db) with h_db'
  -- the bucket of the destination counts the permit, and the others are as before
  have h_row (other : String) : stateRow other db' = if other = name then
      { stateRow name db with
        windowId := window now name db
        used := Capacity.used now name db + 1
        lastServed := some now }
      else stateRow other db := by
    rw [h_db']
    simp only [stateRow, Capacity.permit, refresh, Table.lookup_insert]
    split
    · rfl
    · rfl
  refine ⟨fun other probe h_probe => ?_, fun other => ?_, fun token permit h_permit => ?_⟩
  · rw [h_row] at h_probe
    split at h_probe
    · exact h.probe name probe h_probe
    · exact h.probe other probe h_probe
  · rw [h_row]
    split
    · exact .inr (Nat.succ_le_succ (h.used_le h_since))
    · exact (h.used other).imp_right Nat.le_succ_of_le
  · have h_lookup : (AList.insert (refresh now name db).supply _
        (refresh now name db).requestPermits).lookup token = some permit := h_permit
    rw [Table.lookup_insert] at h_lookup
    split at h_lookup
    next h_token => exact .inl (congrArg some h_token.symm)
    next => exact .inr ((h.permits token permit
      (Table.lookup_filter_eq_some.mp h_lookup).1).resolve_left nofun)

/-- A release without a failure leaves no permit held, and no cooldown. -/
theorem Room.released {failed : Bool} {cooldown : ℕ} (h : Room since used (some token) db)
    (h_release : Released now name token failed cooldown db db') (h_failed : failed = false) :
    Room since used none db' := by
  have h_row (other : String) : stateRow other db' = stateRow other db := by
    unfold stateRow
    rw [h_release.state, if_neg fun h_both => Bool.false_ne_true (h_failed.symm.trans h_both.1)]
  refine ⟨fun other => ?_, fun other => ?_, fun token' permit h_permit => .inr ?_⟩
  · rw [h_row]
    exact h.probe other
  · rw [h_row]
    exact h.used other
  · rw [h_release.permits] at h_permit
    rcases h.permits token' permit (Table.lookup_of_erase h_permit) with h_held | h_expired
    · obtain rfl := Option.some.inj h_held
      rw [AList.lookup_erase] at h_permit
      cases h_permit
    · exact h_expired

end Capacity

/-! ### One call of `execute` -/

namespace Execution

open Worker Capacity
open Dialogue (Yields yields_ask_bind yields_pure)

/-- The state before the claim. -/
abbrev Backend.before (b : Backend) : Db := (Db.migrated b.registry b.owners).run b.past

/-- A worker that is alone, with the sources, and a receiver whose answers `execute` reads or
catches. -/
structure Alone (b : Backend) : Prop where
  others : ∀ history, ∀ entry ∈ b.others history, entry.tx.isSource = true
  rested : Rested b.claimedAt b.before
  clock : ∀ history, b.claimedAt ≤ b.now history
  client : ∀ route, b.accepts route = true
  reply : ∀ history request, (b.reply history request).breaks b.job request = false ∧
    (b.reply history request).unstorable b.job request = false
  registered : ∀ name destination, b.registry.lookup name = some destination →
    3 ≤ destination.requestsPerSecond ∧ 0 < destination.concurrency

/-- The worker holds the lease of its job, the gate is open, and nothing else has changed. -/
structure Holds (b : Backend) (db : Db) : Prop where
  row : ∃ job, db.jobs.lookup b.job.id = some job ∧ fenced b.job.row.leaseToken job = false ∧
    job.attempts = b.job.row.attempts
  others : ∀ id, id ≠ b.job.id → db.jobs.lookup id = b.before.jobs.lookup id
  isOpen : db.executionOpen = true

/-- The job is nearer to its end, and nothing else has changed. -/
structure Advanced (b : Backend) (db : Db) : Prop where
  row : ∃ old job, b.before.jobs.lookup b.job.id = some old ∧ db.jobs.lookup b.job.id = some job ∧
    remaining job < remaining old
  others : ∀ id, id ≠ b.job.id → db.jobs.lookup id = b.before.jobs.lookup id
  isOpen : db.executionOpen = true

/-- The state of a run, between two questions. -/
structure Going (b : Backend) (used : ℕ) (held : Option Uuid) (history : History) : Prop where
  holds : Holds b (b.stored history)
  room : Room b.claimedAt used held (b.stored history)

variable {b : Backend} {history : History} {used : ℕ} {held : Option Uuid}

/-- What the sources commit leaves the lease as it is. -/
theorem Holds.run_sources {db : Db} (h : Holds b db) {entries : List Entry}
    (h_sources : ∀ entry ∈ entries, entry.tx.isSource = true) : Holds b (db.run entries) := by
  induction entries generalizing db with
  | nil => exact h
  | cons entry entries ih =>
    obtain ⟨h_source, h_rest⟩ := List.forall_mem_cons.mp h_sources
    refine ih ⟨?_, fun id h_id => ?_, ?_⟩ h_rest
    · obtain ⟨job, h_job, h_lease⟩ := h.row
      exact ⟨job, (jobs_aside (.inl h_source) _).trans h_job, h_lease⟩
    · exact (jobs_aside (.inl h_source) id).trans (h.others id h_id)
    · exact (executionOpen_aside (isCoordination_of_isSource h_source).1).trans h.isOpen

/-- What the sources commit leaves the room as it is. -/
theorem room_run_sources {since : Time} {db : Db} (h : Room since used held db)
    {entries : List Entry} (h_sources : ∀ entry ∈ entries, entry.tx.isSource = true) :
    Room since used held (db.run entries) := by
  induction entries generalizing db with
  | nil => exact h
  | cons entry entries ih =>
    obtain ⟨h_source, h_rest⟩ := List.forall_mem_cons.mp h_sources
    refine ih (h.of_traffic ?_) h_rest
    exact traffic_apply entry.now db (isCoordination_of_isSource h_source).2

/-- So the run goes on from the database of the next question. -/
theorem Going.database (h : Going b used held history) (h_alone : Alone b) :
    Holds b (b.database history) ∧ Room b.claimedAt used held (b.database history) := by
  rw [b.database_eq]
  exact ⟨h.holds.run_sources (h_alone.others history),
    room_run_sources h.room (h_alone.others history)⟩

/-- A question that is no transaction. -/
theorem Going.ask (h : Going b used held history) (h_alone : Alone b) {call : Call}
    (h_tx : b.tx history call = none) (answer : call.Answer) :
    Going b used held (history ++ [⟨call, answer⟩]) := by
  have h_stored : b.stored (history ++ [⟨call, answer⟩]) = b.database history := by
    rw [b.stored_concat, Backend.entries, h_tx]
    rfl
  obtain ⟨h_holds, h_room⟩ := h.database h_alone
  exact ⟨h_stored ▸ h_holds, h_stored ▸ h_room⟩

/-- A database that is rested has room for everything. -/
theorem room_of_rested {since : Time} {db : Db} (h : Rested since db) : Room since 0 none db where
  probe name probe h_probe := by
    unfold stateRow at h_probe
    cases h_state : db.capacityState.lookup name with
    | none =>
      rw [h_state] at h_probe
      cases h_probe
    | some state =>
      rw [h_state] at h_probe
      exact (h.probes name state h_state).1 probe h_probe
  used name := by
    unfold stateRow
    cases h_state : db.capacityState.lookup name with
    | none => exact .inr (Nat.le_refl 0)
    | some state => exact .inl (h.probes name state h_state).2
  permits token permit h_permit := .inr (h.permits token permit h_permit)

/-- The claim. -/
theorem going_nil (h_alone : Alone b) : Going b 0 none [] ∧
    ∃ old, b.before.jobs.lookup b.job.id = some old ∧
      remaining old = max 1 (policy.maxAttempts - old.attempts) ∧
      b.job.row.attempts = old.attempts + 1 := by
  obtain ⟨db', h_claim⟩ := Outcome.answer_eq_ok.mp b.claimed
  have h_stored : b.stored [] = db' := by
    show Framework.run Db.step _ (b.past ++ [_]) = db'
    rw [run_concat]
    show (claim b.claimedAt b.leaseSeconds b.locked _).commit _ = db'
    rw [h_claim, Outcome.commit_ok]
  have h_rested := h_alone.rested
  generalize h_job : b.job = job at h_claim
  -- only a claim that has leased a job has answered with one
  cases claim_cases h_claim with
  | leased id old h_open h_old h_due =>
    have h_room : Room b.claimedAt 0 none b.before := room_of_rested h_rested
    refine ⟨⟨⟨?_, fun other h_ne => ?_, ?_⟩, ?_⟩, old, h_old, remaining_of_due h_due, rfl⟩
    all_goals rw [h_stored]
    · rw [h_job]
      exact ⟨_, Table.lookup_insert_self _ _ _, fenced_eq_false.mpr ⟨rfl, rfl⟩, rfl⟩
    · rw [h_job] at h_ne
      exact Table.lookup_insert_of_ne _ _ h_ne
    · exact h_open
    · exact h_room.of_traffic rfl

/-! ### Its transactions -/

/-- What the permits are needed for leaves the job alone. -/
theorem Holds.traffic {db : Db} {entry : Entry} (h : Holds b db)
    (h_traffic : entry.tx.isTraffic = true) : Holds b (db.step entry) where
  row := by
    obtain ⟨job, h_job, h_lease⟩ := h.row
    exact ⟨job, (jobs_aside (.inr h_traffic) _).trans h_job, h_lease⟩
  others id h_id := (jobs_aside (.inr h_traffic) id).trans (h.others id h_id)
  isOpen := by
    have h_aside : entry.tx.isCoordination = false := by
      cases h_tx : entry.tx <;> rw [h_tx] at h_traffic <;> first | rfl | cases h_traffic
    exact (executionOpen_aside h_aside).trans h.isOpen

/-- A question that is a transaction. -/
theorem stored_step {call : Call} {tx : Tx} (h_tx : b.tx history call = some tx)
    (answer : call.Answer) : b.stored (history ++ [⟨call, answer⟩]) =
      (b.database history).step ⟨b.now history, tx⟩ := by
  rw [b.stored_concat, Backend.entries, h_tx]
  rfl

/-- A permit that is asked for is granted. -/
theorem acquire_alone (h_alone : Alone b) (h : Going b used none history) {name : String}
    {route : Destination} {kind : RequestKind}
    (h_limit : used < route.requestsPerSecond - (if kind = .dispatch then 1 else 0))
    (h_concurrency : 0 < route.concurrency) :
    ∃ token, b.answer history (.acquire name route kind) = .ok (some token) ∧
      Going b (used + 1) (some token)
        (history ++ [⟨.acquire name route kind, .ok (some token)⟩]) := by
  obtain ⟨h_holds, h_room⟩ := h.database h_alone
  obtain ⟨reply, db', h_ok, h_result⟩ :=
    acquire_result (b.now history) name route kind (b.database history)
  have h_since := h_alone.clock history
  have h_step : (b.database history).step ⟨b.now history, .acquire name route kind⟩ = db' := by
    show (acquire (b.now history) name route kind (b.database history)).commit _ = db'
    rw [h_ok, Outcome.commit_ok]
  cases h_result with
  -- there is room for the request, so that it is not refused
  | refused h_not => exact absurd (h_room.granted h_since h_limit h_concurrency) h_not
  | granted =>
    refine ⟨(b.database history).supply, Outcome.answer_eq_ok.mpr ⟨_, h_ok⟩, ?_, ?_⟩
    · rw [stored_step rfl]
      exact h_holds.traffic rfl
    · rw [stored_step rfl, h_step]
      exact h_room.permit h_since

/-- It is released again. -/
theorem release_alone (h_alone : Alone b) {name : String} {token : Uuid} {failed : Bool}
    {cooldown : ℕ} (h : Going b used (some token) history)
    (h_answer : b.answer history (.release name token failed cooldown) = .ok ()) :
    Holds b (b.stored (history ++ [⟨.release name token failed cooldown, .ok ()⟩])) ∧
      (failed = false → Going b used none
        (history ++ [⟨.release name token failed cooldown, .ok ()⟩])) := by
  obtain ⟨h_holds, h_room⟩ := h.database h_alone
  obtain ⟨db', h_ok⟩ := Outcome.answer_eq_ok.mp h_answer
  have h_step : (b.database history).step
      ⟨b.now history, .release name token failed cooldown⟩ = db' := by
    show (release (b.now history) name token failed cooldown (b.database history)).commit _ = db'
    rw [h_ok, Outcome.commit_ok]
  have h_after : Holds b
      (b.stored (history ++ [⟨.release name token failed cooldown, .ok ()⟩])) := by
    rw [stored_step rfl]
    exact h_holds.traffic rfl
  refine ⟨h_after, fun h_failed => ⟨h_after, ?_⟩⟩
  rw [stored_step rfl, h_step]
  exact h_room.released (release_result h_ok) h_failed

/-- No denial is a lost lease. -/
theorem marketingDenial_ne_leaseLost {state : CustomerState} :
    marketingDenial state ≠ some .leaseLost := by
  unfold marketingDenial
  split
  · nofun
  split
  · nofun
  split <;> nofun

/-- No check of the proposal takes the lease away. -/
theorem validProposal_ne_leaseLost {proposal : Proposal} {row : Customer} {utc : Time}
    {requireApproval : Bool} :
    Service.validProposal proposal row utc requireApproval ≠ some .leaseLost := by
  have h_decision : (actionDecision proposal.body.action row.state row.revision
      proposal.revision).2 ≠ .leaseLost := by
    unfold actionDecision
    split
    · nofun
    split
    next reason h_reason =>
      rintro rfl
      split at h_reason
      · exact marketingDenial_ne_leaseLost h_reason
      · cases h_reason
    next => split <;> nofun
  -- each return of `valid_proposal` names another reason
  unfold Service.validProposal
  split
  · nofun
  split
  · nofun
  dsimp only
  split
  · exact fun h => h_decision (Option.some.inj h)
  split
  · split
    · nofun
    split <;> nofun
  · nofun

/-- Whoever holds the lease is not told that it is lost. -/
theorem prepare_ne_leaseLost {db db' : Db} {now utc : Time} {id : Uuid} {token : Option Uuid}
    {job : Job} (h_job : db.jobs.lookup id = some job) (h_fence : fenced token job = false) :
    Worker.prepare now utc id token db ≠ .ok (.refused .leaseLost, db') := by
  intro h
  unfold Worker.prepare at h
  -- the fence has let the job pass, and only there the lease is lost
  rw [h_job] at h
  simp only [h_fence, Bool.false_eq_true, if_false] at h
  split at h
  · cases h
  split at h
  · cases h
  split at h
  · cases h
  split at h
  next reason h_valid =>
    cases h
    exact validProposal_ne_leaseLost h_valid
  split at h
  · cases h
  split at h <;> cases h

/-- `prepare` keeps the lease, and does not answer that it was lost. -/
theorem prepare_alone (h_alone : Alone b) (h : Going b used none history) :
    Going b used none (history ++ [⟨.prepare, b.answer history .prepare⟩]) ∧
      b.answer history .prepare ≠ .ok (.refused .leaseLost) := by
  obtain ⟨h_holds, h_room⟩ := h.database h_alone
  obtain ⟨job, h_job, h_fence, h_attempts⟩ := h_holds.row
  have h_after : Holds b ((b.database history).step ⟨b.now history,
      .prepare (b.utc history) b.job.id b.job.row.leaseToken⟩) ∧
      Room b.claimedAt used none ((b.database history).step ⟨b.now history,
        .prepare (b.utc history) b.job.id b.job.row.leaseToken⟩) := by
    refine ⟨?_, h_room.of_traffic (traffic_apply _ _ rfl)⟩
    show Holds b ((Worker.prepare (b.now history) (b.utc history) b.job.id b.job.row.leaseToken
      (b.database history)).commit (b.database history))
    cases h_outcome : Worker.prepare (b.now history) (b.utc history) b.job.id
      b.job.row.leaseToken (b.database history) with
    | error fault => exact h_holds
    | ok answered =>
      obtain ⟨reply, db'⟩ := answered
      rw [Outcome.commit_ok]
      -- only an authorized intent is written, over the row of the job
      cases prepare_cases h_outcome with
      | closed | fenced | invalid | changed => exact h_holds
      | authorized _ _ current mutation _ _ _ h_current =>
        obtain rfl := Option.some.inj (h_job.symm.trans h_current)
        refine ⟨⟨_, Table.lookup_insert_self _ _ _, h_fence, h_attempts⟩, fun id h_id => ?_,
          h_holds.isOpen⟩
        exact (Table.lookup_insert_of_ne _ _ h_id).trans (h_holds.others id h_id)
  refine ⟨⟨?_, ?_⟩, fun h_answer => ?_⟩
  · rw [stored_step rfl]
    exact h_after.1
  · rw [stored_step rfl]
    exact h_after.2
  · obtain ⟨db', h_ok⟩ := Outcome.answer_eq_ok.mp h_answer
    exact prepare_ne_leaseLost h_job h_fence h_ok

/-! ### The program -/

/-- `execute` returns, and the job is nearer to its end. -/
def Settles (b : Backend) (ending : Ending) (history : History) : Prop :=
  ending = .returned ∧ Advanced b (b.stored history)

/-- The writes of `finish`. -/
theorem Holds.conclude {db : Db} (h : Holds b db) (now backoff : Time) (verdict : Verdict)
    {old job : Job} (h_old : b.before.jobs.lookup b.job.id = some old)
    (h_left : remaining old = max 1 (policy.maxAttempts - old.attempts))
    (h_attempts : job.attempts = old.attempts + 1) :
    Advanced b (Worker.conclude now backoff b.job.id
      (budgeted verdict.status verdict.reason job).1 (budgeted verdict.status verdict.reason job).2
      verdict.remoteResult verdict.uncertain job db) := by
  obtain ⟨-, h_coordination, -, -, h_jobs, -⟩ := conclude_frame now backoff b.job.id
    (budgeted verdict.status verdict.reason job).1 (budgeted verdict.status verdict.reason job).2
    verdict.remoteResult verdict.uncertain job db
  refine ⟨⟨old, finished now backoff (budgeted verdict.status verdict.reason job).1
    (budgeted verdict.status verdict.reason job).2 verdict.remoteResult verdict.uncertain job,
    h_old, ?_, ?_⟩, fun id h_id => ?_, ?_⟩
  · rw [h_jobs]
    exact Table.lookup_insert_self _ _ _
  -- the attempt was counted by the claim
  · rw [h_left]
    exact remaining_finished now backoff verdict h_attempts
  · rw [h_jobs]
    exact (Table.lookup_insert_of_ne _ _ h_id).trans (h.others id h_id)
  · have h_gate := congrArg Coordination.gate h_coordination
    exact (congrArg (fun gate : Gate => decide (gate.mode = .opened)) h_gate).trans h.isOpen

/-- The result is recorded, and the job is nearer to its end. -/
theorem finish_alone (h_alone : Alone b) (h : Holds b (b.stored history)) (verdict : Verdict) :
    Yields b.environment (Settles b) (finish verdict true) history := by
  have h_holds : Holds b (b.database history) := by
    rw [b.database_eq]
    exact h.run_sources (h_alone.others history)
  obtain ⟨job, h_job, h_fence, h_attempts⟩ := h_holds.row
  obtain ⟨-, old, h_old, h_left, h_claimed⟩ := going_nil h_alone
  have h_answer : b.answer history (.finish verdict true) = .ok true := by
    show (settle (b.now history) (b.jitter history) b.job.id b.job.row.leaseToken verdict
      (b.database history)).answer = .ok true
    unfold settle Worker.finish
    rw [h_job]
    simp [h_fence, Outcome.answer]
  refine yields_ask_bind (congrArg some h_answer) (yields_pure ⟨rfl, ?_⟩)
  rw [stored_step rfl, settle_current _ _ verdict h_job h_fence]
  exact h_holds.conclude _ _ verdict h_old h_left (h_attempts.trans h_claimed)

/-- What a request leaves behind: a reply that can be read, the lease, and, unless it has failed,
room for another request. -/
def Replied (b : Backend) (request : Request) (used : ℕ) (result : Except Ending Reply)
    (history : History) : Prop :=
  ∃ reply, result = .ok reply ∧ reply.breaks b.job request = false ∧
    reply.unstorable b.job request = false ∧ Holds b (b.stored history) ∧
    (reply.requestFailed = false → Going b used none history)

/-- A request gets its permit, is sent, and is replied to. -/
theorem request_alone (h_alone : Alone b) (h : Going b used none history) (route : Route)
    (sent : Request)
    (h_room : ∀ name destination, route = some (name, destination) →
      used < destination.requestsPerSecond - (if sent.kind = .dispatch then 1 else 0) ∧
        0 < destination.concurrency) :
    Yields b.environment (Replied b sent (used + 1)) (request route sent) history := by
  cases route with
  -- a legacy job asks for no permit
  | none =>
    have h_sent : Going b used none (history ++ [⟨.send sent, b.reply history sent⟩]) :=
      h.ask h_alone rfl _
    refine yields_ask_bind rfl (yields_pure ⟨_, rfl, (h_alone.reply history sent).1,
      (h_alone.reply history sent).2, h_sent.holds, fun _ => ⟨h_sent.holds, h_sent.room.mono⟩⟩)
  | some route =>
    obtain ⟨name, destination⟩ := route
    obtain ⟨h_limit, h_concurrency⟩ := h_room name destination rfl
    obtain ⟨token, h_answer, h_acquired⟩ := acquire_alone h_alone h h_limit h_concurrency
    set granted := history ++ [⟨.acquire name destination sent.kind, .ok (some token)⟩]
    set reply := b.reply granted sent with h_reply
    have h_sent : Going b (used + 1) (some token) (granted ++ [⟨.send sent, reply⟩]) :=
      h_acquired.ask h_alone rfl _
    have h_release : b.answer (granted ++ [⟨.send sent, reply⟩])
        (.release name token reply.requestFailed reply.requestCooldown) = .ok () :=
      b.release_answered _ _ h_answer
    obtain ⟨h_holds, h_going⟩ := release_alone h_alone h_sent h_release
    refine yields_ask_bind (congrArg some h_answer) (yields_ask_bind rfl (yields_ask_bind
      (congrArg some h_release) (yields_pure ⟨reply, rfl, ?_, ?_, h_holds, h_going⟩)))
    · exact (h_alone.reply granted sent).1
    · exact (h_alone.reply granted sent).2

/-- A lookup that found nothing has not failed. -/
theorem requestFailed_of_absent {job : Claimed} {reply : Reply}
    (h : reply.outcome job .receipt = .ok none) : reply.requestFailed = false := by
  cases reply with
  | failed | broken => cases h
  | received status retryAfter body =>
    simp only [Reply.outcome] at h
    split at h
    · cases h
    split at h
    next => cases h
    next => cases h
    next h_prepare =>
      -- only a 404 goes on to `prepare`
      change afterLookup job ⟨status, retryAfter, body.content⟩ = .prepare at h_prepare
      unfold afterLookup at h_prepare
      split at h_prepare
      · split at h_prepare
        · cases h_prepare
        · cases h_prepare
        · cases h_prepare
        · split at h_prepare <;> cases h_prepare
      split at h_prepare
      · cases h_prepare
      next h_absent =>
        obtain rfl : status = 404 := not_not.mp h_absent
        rfl

/-- An exchange comes to its end, or the program goes on behind a receipt. -/
theorem exchange_alone (h_alone : Alone b) (h : Going b used none history) (route : Route)
    (sent : Request) {onwards : Program Ending}
    (h_room : ∀ name destination, route = some (name, destination) →
      used < destination.requestsPerSecond - (if sent.kind = .dispatch then 1 else 0) ∧
        0 < destination.concurrency)
    (h_onwards : sent = .receipt → ∀ after, Going b (used + 1) none after →
      Yields b.environment (Settles b) onwards after) :
    Yields b.environment (Settles b) (exchange b.job route sent onwards) history := by
  refine Yields.bind (request_alone h_alone h route sent h_room) ?_
  rintro _ after ⟨reply, rfl, h_reads, h_stores, h_holds, h_going⟩
  have h_case := reply_cases b.job sent reply
  dsimp only
  generalize h_outcome : reply.outcome b.job sent = outcome at h_case
  -- `Alone` excludes a reply that raises and a verdict that cannot be stored
  cases h_case with
  | raised exn h_breaks =>
    rw [h_reads] at h_breaks
    cases h_breaks
  | settled verdict _ h_storable =>
    rw [h_stores] at h_storable
    have h_storable : reply.storable verdict = true := by simpa using h_storable
    dsimp only
    rw [h_storable]
    exact finish_alone h_alone h_holds verdict
  | absent h_request =>
    subst h_request
    exact h_onwards rfl after (h_going (requestFailed_of_absent h_outcome))

/-- The destination allows as many requests as are asked for. -/
def Allows (route : Route) : Prop :=
  ∀ name destination, route = some (name, destination) →
    3 ≤ destination.requestsPerSecond ∧ 0 < destination.concurrency

/-- A dispatch comes to its end, behind one receipt at most. -/
theorem dispatch_alone (h_alone : Alone b) (h : Going b used none history) (h_used : used ≤ 1)
    {route : Route} (h_route : Allows route) :
    Yields b.environment (Settles b) (dispatch b.job route) history := by
  obtain ⟨h_prepared, h_lease⟩ := prepare_alone h_alone h
  refine yields_ask_bind rfl ?_
  generalize h_answer : b.answer history .prepare = answer at h_prepared h_lease
  cases answer with
  | error fault =>
    -- the address of a marketing mail is missing
    obtain rfl := b.prepare_answered h_answer
    exact finish_alone h_alone h_prepared.holds .outcomeUnknown
  | ok prepared =>
    cases prepared with
    | dispatch mutation =>
      refine exchange_alone h_alone h_prepared route (.dispatch mutation) ?_ nofun
      intro name destination h_name
      obtain ⟨h_rate, h_concurrency⟩ := h_route name destination h_name
      refine ⟨?_, h_concurrency⟩
      -- one request of the second is left to lookups
      show used < destination.requestsPerSecond - 1
      omega
    | refused reason =>
      dsimp only
      cases h_after : afterPrepare (.refused reason) with
      | some verdict => exact finish_alone h_alone h_prepared.holds verdict
      | none =>
        obtain rfl := refused_unsettled h_after
        exact absurd rfl h_lease

/-- So does a whole call, with or without a receipt. -/
theorem proceed_alone (h_alone : Alone b) (h : Going b 0 none history) {route : Route}
    (h_route : Allows route) :
    Yields b.environment (Settles b) (proceed b.job route) history := by
  unfold proceed
  split
  · refine exchange_alone h_alone h route .receipt (fun name destination h_name => ?_) ?_
    · obtain ⟨h_rate, h_concurrency⟩ := h_route name destination h_name
      refine ⟨?_, h_concurrency⟩
      show 0 < destination.requestsPerSecond - 0
      omega
    · exact fun _ after h_after => dispatch_alone h_alone h_after (Nat.le_refl 1) h_route
  · exact dispatch_alone h_alone h (Nat.zero_le 1) h_route

/-- The registry is as it was configured. -/
theorem destinations_run (registry : Table String Destination) (owners : Table String String)
    (entries : List Entry) : ((Db.migrated registry owners).run entries).destinations = registry :=
  run_invariant (I := fun db : Db => db.destinations = registry) rfl
    (fun db entry h => (destinations_step db entry).trans h) entries

/-- **Each call of `execute` brings its job nearer to its end.** -/
theorem execute_alone (h_alone : Alone b) :
    Yields b.environment (Settles b) (execute b.job) [] := by
  obtain ⟨h_claimed, -⟩ := going_nil h_alone
  refine yields_ask_bind rfl ?_
  have h_asked : Going b 0 none [⟨.destination, b.answer [] .destination⟩] :=
    h_claimed.ask h_alone rfl _
  generalize h_answer : b.answer [] .destination = answer at h_asked
  cases answer with
  | error fault => exact finish_alone h_alone h_asked.holds (.routeRefused fault)
  | ok route =>
    have h_client : Going b 0 none
        ([⟨.destination, .ok route⟩] ++ [⟨.client route, true⟩]) := h_asked.ask h_alone rfl _
    refine yields_ask_bind (congrArg some (h_alone.client route)) ?_
    refine proceed_alone h_alone h_client ?_
    rintro name destination rfl
    refine h_alone.registered name destination ?_
    rw [← destinations_run b.registry b.owners]
    exact destination_registered h_answer

/-! ### Call after call -/

/-- The state after a log. -/
abbrev stateOf (registry : Table String Destination) (owners : Table String String)
    (log : List Entry) : Db := (Db.migrated registry owners).run log

/-- What a call of `once` leaves in the log: a deferred job is given back. -/
def Backend.left (b : Backend) (history : History) : Ending → List Entry
  | .deferred =>
    b.log history ++ [⟨b.now history, .defer b.job.id b.job.row.leaseToken false⟩]
  | .returned | .raised _ => b.log history

/-- A call of `once`, by a worker that is alone and that takes its time: a claim that finds nothing,
or a claim with the run of `execute`. In between the sources may deliver. -/
inductive Once (registry : Table String Destination) (owners : Table String String)
    (log : List Entry) : List Entry → Prop
  | nothing (delivered : List Entry) (now : Time) (leaseSeconds : ℤ)
      (h_delivered : ∀ entry ∈ delivered, entry.tx.isSource = true)
      (h_rested : Rested now (stateOf registry owners (log ++ delivered)))
      (h_none : (claim now leaseSeconds [] (stateOf registry owners (log ++ delivered))).answer =
        .ok none) :
      Once registry owners log (log ++ delivered ++ [⟨now, .claim leaseSeconds []⟩])
  | executed (delivered : List Entry) (b : Backend)
      (h_delivered : ∀ entry ∈ delivered, entry.tx.isSource = true)
      (h_registry : b.registry = registry) (h_owners : b.owners = owners)
      (h_past : b.past = log ++ delivered) (h_alone : Alone b) (ending : Ending)
      (history : History)
      (h_run : (execute b.job).run b.environment [] = (some ending, history)) :
      Once registry owners log (b.left history ending)

/-- So many calls of `once`, one after the other. -/
def Calls (registry : Table String Destination) (owners : Table String String) :
    ℕ → List Entry → List Entry → Prop
  | 0, log, last => log = last
  | calls + 1, log, last => ∃ next, Once registry owners log next ∧
      Calls registry owners calls next last

/-- Where none is first, there is none. -/
theorem first_eq_none {candidates : List Candidate} (h : first candidates = none) :
    candidates = [] := by
  cases candidates with
  | nil => rfl
  | cons candidate rest =>
    unfold first at h
    split at h
    · cases h
    · split at h <;> cases h

/-- Where a claim finds nothing, and nothing waits for the clock, every job is over. -/
theorem over_of_claim {now : Time} {leaseSeconds : ℤ} {db : Db} (h_rested : Rested now db)
    (h_open : db.executionOpen = true) (h : (claim now leaseSeconds [] db).answer = .ok none) :
    ∀ id job, db.jobs.lookup id = some job → Over job := by
  -- the gate is open, so that it is the candidates that are missing
  have h_nothing : claimable now [] db = [] := by
    unfold claim at h
    rw [h_open, if_neg (Bool.false_ne_true ∘ Eq.symm)] at h
    split at h
    next h_first => exact first_eq_none h_first
    next => cases h
  intro id job h_job
  refine (h_rested.jobs id job h_job).resolve_right fun h_due => ?_
  -- a job that is due would be one of them
  have h_candidate : (⟨id, job, (db.jobRoutes.lookup id).bind fun name =>
      db.capacityState.lookup name⟩ : Candidate) ∈ claimable now [] db := by
    refine List.mem_filter.mpr ⟨List.mem_map.mpr ⟨⟨id, job⟩, Table.mem_entries.mpr h_job, rfl⟩, ?_⟩
    rw [h_due, Bool.true_and, Bool.and_eq_true]
    refine ⟨?_, rfl⟩
    unfold probeOpen
    split
    next => rfl
    next probe h_probe =>
      obtain ⟨state, h_state, h_next⟩ := Option.bind_eq_some_iff.mp h_probe
      obtain ⟨name, -, h_row⟩ := Option.bind_eq_some_iff.mp h_state
      exact decide_eq_true ((h_rested.probes name state h_row).1 probe h_next)
  rw [h_nothing] at h_candidate
  exact List.not_mem_nil h_candidate

/-- The sources leave the jobs and the gate as they are. -/
theorem delivered_jobs {db : Db} {entries : List Entry}
    (h : ∀ entry ∈ entries, entry.tx.isSource = true) :
    (∀ id, (db.run entries).jobs.lookup id = db.jobs.lookup id) ∧
      (db.run entries).executionOpen = db.executionOpen := by
  -- one delivery after the other
  induction entries generalizing db with
  | nil => exact ⟨fun _ => rfl, rfl⟩
  | cons entry entries ih =>
    obtain ⟨h_source, h_rest⟩ := List.forall_mem_cons.mp h
    obtain ⟨h_jobs, h_open⟩ := @ih (db.step entry) h_rest
    refine ⟨fun id => (h_jobs id).trans (jobs_aside (.inl h_source) id), ?_⟩
    exact h_open.trans (executionOpen_aside (isCoordination_of_isSource h_source).1)

/-- What is left is a matter of the jobs. -/
theorem remaining_congr {db db' : Db} (h : ∀ id, db'.jobs.lookup id = db.jobs.lookup id) :
    db'.remaining = db.remaining := by
  have h_rows : db'.jobs.rows = db.jobs.rows := Table.rows_eq_iff.mpr h
  unfold Db.remaining
  rw [h_rows]

variable {registry : Table String Destination} {owners : Table String String}
  {log next last : List Entry}

/-- What the sources deliver leaves the jobs and the gate. -/
theorem delivered_state {delivered : List Entry}
    (h : ∀ entry ∈ delivered, entry.tx.isSource = true) :
    (∀ id, (stateOf registry owners (log ++ delivered)).jobs.lookup id =
      (stateOf registry owners log).jobs.lookup id) ∧
      (stateOf registry owners (log ++ delivered)).executionOpen =
        (stateOf registry owners log).executionOpen := by
  have h_append : stateOf registry owners (log ++ delivered) =
      (stateOf registry owners log).run delivered := run_append ..
  rw [h_append]
  exact delivered_jobs h

/-- **A call of `once`** leaves fewer attempts, if any are left. -/
theorem Once.remaining_le (h : Once registry owners log next)
    (h_open : (stateOf registry owners log).executionOpen = true) :
    (stateOf registry owners next).executionOpen = true ∧
      (stateOf registry owners next).remaining ≤ (stateOf registry owners log).remaining - 1 := by
  cases h with
  -- nothing is left to be claimed: then there is no attempt left either
  | nothing delivered now leaseSeconds h_delivered h_rested h_none =>
    have h_same : (stateOf registry owners (log ++ delivered)).executionOpen =
        (stateOf registry owners log).executionOpen := (delivered_state h_delivered).2
    have h_over := over_of_claim h_rested (h_same.trans h_open) h_none
    obtain ⟨db', h_claim⟩ := Outcome.answer_eq_ok.mp h_none
    have h_state : stateOf registry owners (log ++ delivered ++ [⟨now, .claim leaseSeconds []⟩]) =
        stateOf registry owners (log ++ delivered) := by
      show Framework.run Db.step _ _ = _
      rw [run_concat]
      show (claim now leaseSeconds [] (stateOf registry owners (log ++ delivered))).commit _ = _
      rw [h_claim, Outcome.commit_ok]
      cases claim_cases h_claim
      rfl
    rw [h_state]
    refine ⟨h_same.trans h_open, ?_⟩
    rw [Db.remaining_eq_zero.mpr h_over]
    exact Nat.zero_le _
  -- the job that was claimed has used up an attempt or is over
  | executed delivered b h_delivered h_registry h_owners h_past h_alone ending history h_run =>
    subst h_registry h_owners
    obtain ⟨ending', history', h_run', rfl, h_advanced⟩ := execute_alone h_alone
    rw [h_run] at h_run'
    obtain ⟨h_ending, rfl⟩ := Prod.mk.inj h_run'
    obtain rfl := Option.some.inj h_ending
    have h_before : b.before = stateOf b.registry b.owners (log ++ delivered) := by
      rw [Backend.before, h_past]
    have h_jobs (id : Uuid) : b.before.jobs.lookup id =
        (stateOf b.registry b.owners log).jobs.lookup id := by
      rw [h_before]
      exact (delivered_state h_delivered).1 id
    obtain ⟨old, job, h_old, h_job, h_lt⟩ := h_advanced.row
    refine ⟨h_advanced.isOpen, Nat.le_sub_one_of_lt ?_⟩
    rw [← remaining_congr h_jobs]
    exact Db.remaining_lt h_old h_job h_advanced.others h_lt

/-- **The outbox drains**: after as many calls as there are attempts left, every job is over. -/
theorem outbox_drains {calls : ℕ} (h : Calls registry owners calls log last)
    (h_open : (stateOf registry owners log).executionOpen = true)
    (h_enough : (stateOf registry owners log).remaining ≤ calls) :
    ∀ id job, (stateOf registry owners last).jobs.lookup id = some job → Over job := by
  -- each call leaves an attempt less, and the gate open
  induction calls generalizing log with
  | zero =>
    obtain rfl : log = last := h
    exact Db.remaining_eq_zero.mp (Nat.le_zero.mp h_enough)
  | succ calls ih =>
    -- one call now, the others from what it leaves behind
    obtain ⟨next, h_once, h_calls⟩ := h
    obtain ⟨h_still, h_le⟩ := h_once.remaining_le h_open
    exact ih h_calls h_still (by omega)

/-- Where nothing else commits, nothing else releases a permit. -/
theorem apart_of_nothing (history : History) (name : String) (route : Destination)
    (kind : RequestKind) (token : Uuid) :
    ⟨.acquire name route kind, .ok (some token)⟩ ∈ history →
      ∀ entry ∈ ([] : List Entry), ¬Releases token entry.tx :=
  fun _ _ h => absurd h List.not_mem_nil

/-- There is always a next call, even if nothing answers the requests. -/
theorem exists_once (h_open : (stateOf registry owners log).executionOpen = true)
    (h_registered : ∀ name destination, registry.lookup name = some destination →
      3 ≤ destination.requestsPerSecond ∧ 0 < destination.concurrency) :
    ∃ next, Once registry owners log next := by
  obtain ⟨now, h_from⟩ := exists_rested registry owners log
  have h_rested := h_from now le_rfl
  have h_log : log ++ [] = log := List.append_nil log
  have h_answer : ∃ reply, (claim now 30 [] (stateOf registry owners log)).answer = .ok reply := by
    unfold claim
    rw [h_open, if_neg (Bool.false_ne_true ∘ Eq.symm)]
    split
    · exact ⟨_, rfl⟩
    · exact ⟨_, rfl⟩
  obtain ⟨reply, h_claimed⟩ := h_answer
  cases reply with
  | none =>
    rw [← h_log] at h_rested h_claimed
    exact ⟨_, .nothing [] now 30 (fun _ h => absurd h List.not_mem_nil) h_rested h_claimed⟩
  -- nobody else is there, and every request fails
  | some job =>
    let b : Backend :=
      { registry := registry, owners := owners, past := log, claimedAt := now, leaseSeconds := 30
        locked := [], job := job, claimed := h_claimed, environ := fun _ => true
        accepts := fun _ => true, reply := fun _ _ => .failed, others := fun _ => []
        apart := apart_of_nothing
        now := fun _ => now, utc := fun _ => now, jitter := fun _ => 0 }
    have h_alone : Alone b := ⟨fun _ _ h => absurd h List.not_mem_nil, h_rested, fun _ => le_rfl,
      fun _ => rfl, fun _ _ => ⟨rfl, rfl⟩, h_registered⟩
    obtain ⟨ending, history, h_run, -⟩ := execute_alone h_alone
    exact ⟨_, .executed [] b (fun _ h => absurd h List.not_mem_nil) rfl rfl h_log.symm h_alone
      ending history h_run⟩

/-! ### A receiver that is down -/

/-- Three workers have died over the job, which is routed to a destination with one permit. Its
receiver answers every request by 503. -/
def spent : Backend where
  registry := (∅ : Table String Destination).insert "sink"
    ⟨⟨"http", "", "", "localhost", "", ""⟩, "TOKEN", 3, 1, 10⟩
  owners := (∅ : Table String String).insert "sales" "sink"
  past := [⟨0, .ingest .crm ⟨"event", "subject", 1, { (FieldMap.empty : FieldMap Field.Value)
      with email := some "a@example.test", owner := some "sales" }⟩⟩,
    ⟨1, .propose .agent ⟨100, 0, 1, .syncProfile, "synchronise", .welcome⟩⟩,
    ⟨seconds 1, .claim 30 []⟩, ⟨seconds 40, .claim 30 []⟩, ⟨seconds 80, .claim 30 []⟩]
  claimedAt := seconds 120
  leaseSeconds := 30
  locked := []
  job := ⟨100, .leased, 4, 1, some (seconds 120 + seconds 30), some 4, false, none, none, none⟩
  claimed := by decide +kernel
  environ _ := true
  accepts _ := true
  reply _ _ := .received 503 .absent (.decoded .error true)
  others _ := []
  apart := apart_of_nothing
  now _ := seconds 121
  utc _ := seconds 121
  jitter _ := 0

/-- The worker of this run is alone. -/
theorem spent_alone : Alone spent where
  others _ _ h := absurd h List.not_mem_nil
  rested := by
    have h_due : ∀ row ∈ spent.before.jobs.entries, due (seconds 120) row.2 = true := by
      decide +kernel
    have h_states : spent.before.capacityState.entries = [] := rfl
    have h_permits : spent.before.requestPermits.entries = [] := rfl
    refine ⟨fun id job h_job => .inr (h_due _ (Table.mem_entries.mpr h_job)), ?_, ?_⟩
    · intro name state h_state
      rw [← Table.mem_entries, h_states] at h_state
      exact absurd h_state List.not_mem_nil
    · intro token permit h_permit
      rw [← Table.mem_entries, h_permits] at h_permit
      exact absurd h_permit List.not_mem_nil
  clock _ := by
    show seconds 120 ≤ seconds 121
    decide
  client _ := rfl
  reply _ request := by
    cases request with
    | receipt => exact ⟨rfl, rfl⟩
    | dispatch mutation => exact ⟨rfl, rfl⟩
  registered name destination h := by
    have h_lookup : ((∅ : Table String Destination).insert "sink" _).lookup name = _ := h
    rw [Table.lookup_insert] at h_lookup
    split at h_lookup
    · obtain rfl := Option.some.inj h_lookup
      decide
    · cases h_lookup

/-- One call settles the job with its last attempt. -/
theorem outbox_drains_spent : ∃ last, Calls spent.registry spent.owners 1 spent.past last ∧
    ∀ id job, (stateOf spent.registry spent.owners last).jobs.lookup id = some job → Over job := by
  obtain ⟨ending, history, h_run, -⟩ := execute_alone spent_alone
  have h_past : spent.past = spent.past ++ [] := (List.append_nil _).symm
  have h_once : Once spent.registry spent.owners spent.past (spent.left history ending) :=
    .executed [] spent (fun _ h => absurd h List.not_mem_nil) rfl rfl h_past spent_alone ending
      history h_run
  have h_calls : Calls spent.registry spent.owners 1 spent.past (spent.left history ending) :=
    ⟨_, h_once, rfl⟩
  exact ⟨_, h_calls, outbox_drains h_calls (by decide +kernel) (by decide +kernel)⟩

end Execution
end ControlPlane
