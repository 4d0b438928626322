import ControlPlane.Dispatch.Steps

/-!
# The retry budget

`attempts` is written by four operations: `claim` adds one, `defer` takes one back, `finish`
compares it with the budget, and a requeue resets it. `Tally` counts these for one job from
the outside: it looks at nothing but which transactions have written the row.

A claim is spent by a `finish` that leaves the job in retry, or by a lease that runs out
(`lost`), or it is given back by a `defer`; while the job is leased, one claim is still open
(`Balanced`). So `attempts` is the number of claims that were not given back, and what is
left of the budget is `retriesLeft`: a retry takes one of it, a deferral none
(`budget_accounting`).
-/

namespace ControlPlane

open Framework

/-! ### Counting -/

/-- What has happened to a job since it was created or last requeued. -/
structure Tally where
  claims : ℕ
  /-- The effective calls of `defer`. -/
  defers : ℕ
  /-- The effective calls of `finish` that left the job in retry. -/
  retries : ℕ
  /-- The claims that took over a lease which had run out. -/
  lost : ℕ
deriving DecidableEq

namespace Tally

def zero : Tally := ⟨0, 0, 0, 0⟩

/-- A transaction counts when it has written the row of the job. -/
def step (id : Uuid) (db : Db) (entry : Entry) (t : Tally) : Tally :=
  let before := db.jobs.lookup id
  let after := (db.step entry).jobs.lookup id
  if after = before then t
  else
    match entry.tx with
    | .claim .. =>
      { t with
        claims := t.claims + 1
        lost := t.lost + if before.any (·.status = .leased) then 1 else 0 }
    | .defer .. => { t with defers := t.defers + 1 }
    | .finish .. =>
      { t with retries := t.retries + if after.any (·.status = .retry) then 1 else 0 }
    | .resolve .. => zero
    | _ => t

end Tally

/-- A run with the tally of one job beside it. -/
def tallied (id : Uuid) (s : Db × Tally) (entry : Entry) : Db × Tally :=
  (s.1.step entry, s.2.step id s.1 entry)

/-- The tally of a job over a run. -/
def tally (id : Uuid) (db : Db) (entries : List Entry) : Tally :=
  (run (tallied id) (db, .zero) entries).2

theorem run_tallied (id : Uuid) (db : Db) (entries : List Entry) :
    (run (tallied id) (db, .zero) entries).1 = db.run entries := by
  induction entries using List.reverseRecOn with
  | nil => rfl
  | append_singleton entries entry ih =>
    rw [Db.run, run_concat, run_concat]
    exact congrArg (Db.step · entry) ih

/-! ### What is left -/

/-- The retries that the budget leaves for the job. The open claim of a lease is not spent
yet. -/
def retriesLeft (job : Job) : ℕ :=
  policy.maxAttempts - 1 - (if job.status = .leased then job.attempts - 1 else job.attempts)

/-- The claims of the job add up. -/
structure Balanced (job : Job) (t : Tally) : Prop where
  attempts : job.attempts + t.defers = t.claims
  waiting : job.status = .ready ∨ job.status = .retry → job.attempts = t.retries + t.lost
  leased : job.status = .leased → job.attempts = t.retries + t.lost + 1
  retries : t.retries ≤ policy.maxAttempts - 1

/-- The invariant of a run with a tally. -/
structure BudgetSound (id : Uuid) (s : Db × Tally) : Prop where
  work : WorkSound s.1
  absent : s.1.jobs.lookup id = none → s.2 = .zero
  job : ∀ job, s.1.jobs.lookup id = some job → Balanced job s.2

/-! ### The four operations -/

section Steps

variable {db : Db} {id : Uuid} {job : Job} {t : Tally}

/-- `defer` under the current lease gives the claim back. -/
theorem defer_refunds (h_job : db.jobs.lookup id = some job) {token : Option Uuid}
    (h_some : token.isSome) (h_token : job.leaseToken = token) (h_leased : job.status = .leased)
    (h_attempts : 1 ≤ job.attempts) (now : Time) :
    (db.step ⟨now, .defer id token false⟩).jobs.lookup id =
      some (Capacity.deferred now 1 job) := by
  show ((Capacity.defer now id token false db).commit db).jobs.lookup id = _
  unfold Capacity.defer
  rw [h_job]
  dsimp only
  have h_refund : ¬ job.attempts < (if false = true then 0 else 1) := not_lt.mpr h_attempts
  rw [if_pos ⟨h_some, h_token, h_leased⟩, if_neg h_refund, Outcome.commit_ok]
  exact Table.lookup_insert_self ..

/-- `defer` without a token does nothing. -/
theorem defer_none (now : Time) (id : Uuid) (attempted : Bool) (db : Db) :
    db.step ⟨now, .defer id none attempted⟩ = db := by
  show (Capacity.defer now id none attempted db).commit db = db
  unfold Capacity.defer
  split
  · rfl
  · rw [if_neg fun h => by cases h.1]
    rfl

/-- `finish` leaves a job in retry only while its budget lasts. -/
theorem attempts_lt_of_budgeted {status : JobStatus} {reason : JobReason}
    (h : (Worker.budgeted status reason job).1 = .retry) : job.attempts < policy.maxAttempts := by
  unfold Worker.budgeted at h
  split at h
  · cases h
  · rename_i h_budget
    exact not_le.mp fun h_exhausted => h_budget ⟨h, h_exhausted⟩

/-- `finish` under the current lease with a status of retry. -/
theorem finish_retries (h_job : db.jobs.lookup id = some job) {token : Option Uuid}
    (h_fence : Worker.fenced token job = false) {verdict : Worker.Verdict}
    (h_retry : verdict.status = .retry) (now jitter : Time) :
    ∃ job', (db.step ⟨now, .finish jitter id token verdict⟩).jobs.lookup id = some job' ∧
      job'.attempts = job.attempts ∧
      (job.attempts < policy.maxAttempts → job'.status = .retry) ∧
      (policy.maxAttempts ≤ job.attempts →
        job'.status = .dead ∧ job'.reason = some .retryExhausted) := by
  obtain ⟨backoff, h_after⟩ := settle_step now jitter verdict h_job h_fence
  refine ⟨_, h_after, rfl, fun h_left => ?_, fun h_exhausted => ?_⟩
  · have h_budget : Worker.budgeted verdict.status verdict.reason job =
        (verdict.status, verdict.reason) := if_neg fun h => absurd h_left (not_lt.mpr h.2)
    show (Worker.budgeted verdict.status verdict.reason job).1 = .retry
    rw [h_budget]
    exact h_retry
  · have h_budget : Worker.budgeted verdict.status verdict.reason job =
        (.dead, .retryExhausted) := if_pos ⟨h_retry, h_exhausted⟩
    constructor
    · show (Worker.budgeted verdict.status verdict.reason job).1 = .dead
      rw [h_budget]
    · show some (Worker.budgeted verdict.status verdict.reason job).2 = some .retryExhausted
      rw [h_budget]

end Steps

/-! ### The invariant -/

section Invariant

variable {id : Uuid} {db : Db} {t : Tally} {entry : Entry}

theorem Tally.step_kept (h : (db.step entry).jobs.lookup id = db.jobs.lookup id) :
    t.step id db entry = t := if_pos h

/-- The row of a job that was inserted counts nothing yet. -/
theorem balanced_inserted (now : Time) : Balanced (Job.inserted now) .zero :=
  ⟨rfl, fun _ => rfl, fun h => (by cases h), Nat.zero_le _⟩

/-- A claim adds an attempt that is open; a lease that has run out is lost. -/
theorem Balanced.claimed {job : Job} (h : Balanced job t) {now : Time}
    (h_due : Worker.due now job = true) (leaseSeconds : ℤ) (token : Uuid) :
    Balanced (Worker.leased now leaseSeconds token job) { t with
      claims := t.claims + 1
      lost := t.lost + if job.status = .leased then 1 else 0 } := by
  have h_attempts : (Worker.leased now leaseSeconds token job).attempts = job.attempts + 1 := rfl
  refine ⟨?_, fun h_status => ?_, fun _ => ?_, h.retries⟩
  · have h_sum := h.attempts
    dsimp only
    omega
  · rcases h_status with h_status | h_status <;> cases h_status
  · rw [h_attempts]
    dsimp only
    by_cases h_leased : job.status = .leased
    · rw [if_pos h_leased, h.leased h_leased]
      rfl
    · -- a waiting job has no open claim
      have h_waiting : job.status = .ready ∨ job.status = .retry := by
        rcases due_cases h_due with h_due | h_due
        · exact h_due.1
        · exact absurd h_due.1 h_leased
      rw [if_neg h_leased, h.waiting h_waiting]
      rfl

/-- `finish` closes the open attempt, as a retry if it leaves the job in retry. -/
theorem Balanced.finished {job : Job} (h : Balanced job t) (h_leased : job.status = .leased)
    (now backoff : Time) (verdict : Worker.Verdict) :
    Balanced (Worker.finished now backoff
      (Worker.budgeted verdict.status verdict.reason job).1
      (Worker.budgeted verdict.status verdict.reason job).2 verdict.remoteResult
      verdict.uncertain job) { t with
        retries := t.retries +
          if (Worker.budgeted verdict.status verdict.reason job).1 = .retry then 1 else 0 } := by
  have h_attempts := h.leased h_leased
  refine ⟨h.attempts, fun h_waiting => ?_, fun h_status => ?_, ?_⟩
  · have h_retry : (Worker.budgeted verdict.status verdict.reason job).1 = .retry := by
      -- no result of `finish` is ready
      rcases h_waiting with h_ready | h_retry
      · have h_result := budgeted_status verdict job
        have h_ready : (Worker.budgeted verdict.status verdict.reason job).1 = .ready := h_ready
        rw [h_ready] at h_result
        exact absurd h_result (by decide)
      · exact h_retry
    dsimp only
    rw [if_pos h_retry]
    show job.attempts = _
    omega
  · exact absurd h_status (budgeted_ne_leased verdict job)
  · dsimp only
    split
    · rename_i h_retry
      -- so that this retry is still within the budget
      have h_left := attempts_lt_of_budgeted h_retry
      omega
    · exact h.retries

/-- `defer` gives the open attempt back. -/
theorem Balanced.deferred {job : Job} (h : Balanced job t) (h_leased : job.status = .leased)
    (now : Time) : Balanced (Capacity.deferred now 1 job) { t with defers := t.defers + 1 } := by
  have h_attempts := h.leased h_leased
  have h_count : (Capacity.deferred now 1 job).attempts = job.attempts - 1 := rfl
  refine ⟨?_, fun _ => ?_, fun h_status => (by cases h_status), h.retries⟩
  · have h_sum := h.attempts
    rw [h_count]
    dsimp only
    omega
  · rw [h_count]
    dsimp only
    omega

/-- **One step keeps the claims of the job adding up.** Every call of `defer` gives its
attempt back. -/
theorem BudgetSound.step (h : BudgetSound id (db, t))
    (h_refund : ∀ key token, entry.tx ≠ .defer key token true) :
    BudgetSound id (tallied id (db, t) entry) := by
  have h_work : WorkSound (db.step entry) := h.work.step entry
  -- the row that a step has written, and the tally it leaves
  have written : ∀ (t' : Tally) {job' : Job}, (db.step entry).jobs.lookup id = some job' →
      t.step id db entry = t' → Balanced job' t' → BudgetSound id (tallied id (db, t) entry) := by
    intro t' job' h_after h_tally h_balanced
    refine ⟨h_work, fun h_none => ?_, fun job h_job => ?_⟩
    · cases h_after.symm.trans h_none
    · obtain rfl := Option.some.inj (h_after.symm.trans h_job)
      rw [show (tallied id (db, t) entry).2 = t' from h_tally]
      exact h_balanced
  cases job_move db entry id with
  | kept h_after =>
    have h_tally : t.step id db entry = t := Tally.step_kept h_after
    refine ⟨h_work, fun h_none => ?_, fun job h_job => ?_⟩
    · exact h_tally.trans (h.absent (h_after.symm.trans h_none))
    · rw [show (tallied id (db, t) entry).2 = t from h_tally]
      exact h.job job (h_after.symm.trans h_job)
  -- a job comes in with an empty tally, and leaves a dead letter with one
  | proposed actor command row h_tx _ _ h_fresh _ _ _ h_after =>
    obtain rfl : t = .zero := h.absent (h.work.no_job h_fresh)
    refine written _ h_after ?_ (balanced_inserted entry.now)
    unfold Tally.step
    rw [h_tx]
    exact ite_self _
  | approved utc utc' actor command proposal row h_tx _ h_before _ _ h_after =>
    obtain rfl : t = .zero := h.absent h_before
    refine written _ h_after ?_ (balanced_inserted entry.now)
    unfold Tally.step
    rw [h_tx]
    exact ite_self _
  | claimed leaseSeconds locked job h_tx _ h_before h_due _ _ h_after =>
    have h_old : Balanced job t := h.job job h_before
    have h_new : (db.step entry).jobs.lookup id ≠ db.jobs.lookup id := by
      rw [h_after, h_before]
      intro h_same
      have h_attempts : job.attempts + 1 = job.attempts :=
        congrArg Job.attempts (Option.some.inj h_same)
      omega
    refine written _ h_after ?_ (h_old.claimed h_due leaseSeconds db.supply)
    unfold Tally.step
    dsimp only
    rw [if_neg h_new, h_tx, h_before]
    dsimp only
    rw [Option.any_some]
    simp only [decide_eq_true_eq]
  | prepared utc token job mutation proposal row h_tx _ h_before _ _ _ _ _ _ h_after =>
    have h_old : Balanced job t := h.job job h_before
    refine written t h_after ?_
      ⟨h_old.attempts, h_old.waiting, h_old.leased, h_old.retries⟩
    unfold Tally.step
    rw [h_tx]
    exact ite_self _
  | finished jitter token verdict backoff job h_tx h_before h_fence h_after =>
    have h_old : Balanced job t := h.job job h_before
    have h_leased : job.status = .leased := (fenced_eq_false.mp h_fence).2
    have h_new : (db.step entry).jobs.lookup id ≠ db.jobs.lookup id := by
      rw [h_after, h_before]
      intro h_same
      have h_same := congrArg Job.status (Option.some.inj h_same)
      exact budgeted_ne_leased verdict job (h_same.trans h_leased)
    refine written _ h_after ?_ (h_old.finished h_leased entry.now backoff verdict)
    unfold Tally.step
    dsimp only
    rw [if_neg h_new, h_tx, h_after]
    dsimp only
    rw [Option.any_some]
    simp only [decide_eq_true_eq]
    rfl
  | deferred token attempted refund job h_tx h_before h_token h_leased h_after =>
    have h_old : Balanced job t := h.job job h_before
    have h_attempts := h_old.leased h_leased
    -- every call of `defer` is on an attempt that was not made
    obtain rfl : attempted = false := by
      cases attempted with
      | false => rfl
      | true => exact absurd h_tx (h_refund id token)
    obtain ⟨now, tx⟩ := entry
    obtain rfl : tx = .defer id token false := h_tx
    -- without a token the row would be as it was
    have h_some : token.isSome := by
      cases token with
      | some token => rfl
      | none =>
        rw [defer_none, h_before] at h_after
        have h_status := congrArg Job.status (Option.some.inj h_after)
        cases h_leased.symm.trans h_status
    have h_row := defer_refunds h_before h_some h_token h_leased (by omega) now
    refine written _ h_row ?_ (h_old.deferred h_leased now)
    unfold Tally.step
    refine if_neg ?_
    rw [h_row, h_before]
    intro h_same
    have h_status := congrArg Job.status (Option.some.inj h_same)
    cases h_leased.symm.trans h_status.symm
  | requeued actor exceptionId command row job h_tx _ _ _ _ h_before h_dead h_after =>
    refine written .zero h_after ?_
      ⟨rfl, fun _ => rfl, fun h => (by cases h), Nat.zero_le _⟩
    unfold Tally.step
    dsimp only
    rw [if_neg ?_, h_tx]
    rw [h_after, h_before]
    intro h_same
    have h_status := congrArg Job.status (Option.some.inj h_same)
    cases h_dead.symm.trans h_status.symm

end Invariant

/-! ### The account -/

/-- The account of one job at a moment of a run: what its counter says, and what the next
transaction on it does to the budget. -/
structure Accounted (id : Uuid) (db : Db) (t : Tally) : Prop where
  balance : ∀ job, db.jobs.lookup id = some job → job.attempts + t.defers = t.claims
  held : ∀ job, db.jobs.lookup id = some job → job.status = .leased → 1 ≤ job.attempts
  retries : t.retries ≤ policy.maxAttempts - 1
  /-- When no lease was lost, the retries had and left are the whole budget. -/
  available : ∀ job, db.jobs.lookup id = some job →
    job.status = .ready ∨ job.status = .retry ∨ job.status = .leased → t.lost = 0 →
      t.retries + retriesLeft job = policy.maxAttempts - 1
  /-- The next claim of a waiting job takes nothing. -/
  claim : ∀ now leaseSeconds locked job job', db.jobs.lookup id = some job →
    job.status = .ready ∨ job.status = .retry →
      (db.step ⟨now, .claim leaseSeconds locked⟩).jobs.lookup id = some job' →
        retriesLeft job' = retriesLeft job
  /-- The next retry takes one, and with none left it makes the job dead. -/
  retry : ∀ now jitter token verdict job, db.jobs.lookup id = some job →
    Worker.fenced token job = false → verdict.status = .retry →
      ∃ job', (db.step ⟨now, .finish jitter id token verdict⟩).jobs.lookup id = some job' ∧
        (0 < retriesLeft job → job'.status = .retry ∧ retriesLeft job' + 1 = retriesLeft job) ∧
        (retriesLeft job = 0 → job'.status = .dead ∧ job'.reason = some .retryExhausted)
  /-- The next deferral takes nothing. -/
  deferral : ∀ now token job, db.jobs.lookup id = some job → token.isSome →
    Worker.fenced token job = false →
      ∃ job', (db.step ⟨now, .defer id token false⟩).jobs.lookup id = some job' ∧
        job'.status = .retry ∧ job'.attempts + 1 = job.attempts ∧
        retriesLeft job' = retriesLeft job

theorem retriesLeft_waiting {job : Job} (h : job.status = .ready ∨ job.status = .retry) :
    retriesLeft job = policy.maxAttempts - 1 - job.attempts := by
  unfold retriesLeft
  rw [if_neg]
  rcases h with h | h
  · rw [h]
    decide
  · rw [h]
    decide

theorem retriesLeft_leased {job : Job} (h : job.status = .leased) :
    retriesLeft job = policy.maxAttempts - 1 - (job.attempts - 1) := by
  unfold retriesLeft
  rw [if_pos h]

/-- The invariant gives the account. -/
theorem BudgetSound.accounted {id : Uuid} {db : Db} {t : Tally} (h : BudgetSound id (db, t)) :
    Accounted id db t := by
  have h_balanced : ∀ {job}, db.jobs.lookup id = some job → Balanced job t :=
    fun {job} h_job => h.job job h_job
  refine
    { balance := fun job h_job => (h_balanced h_job).attempts
      held := fun job h_job h_leased => ?_
      retries := ?_
      available := fun job h_job h_status h_lost => ?_
      claim := fun now leaseSeconds locked job job' h_job h_waiting h_after => ?_
      retry := fun now jitter token verdict job h_job h_fence h_retry => ?_
      deferral := fun now token job h_job h_some h_fence => ?_ }
  · have h_attempts := (h_balanced h_job).leased h_leased
    omega
  · cases h_job : db.jobs.lookup id with
    | none =>
      obtain rfl : t = .zero := h.absent h_job
      exact Nat.zero_le _
    | some job => exact (h_balanced h_job).retries
  · have h_old := h_balanced h_job
    have h_retries := h_old.retries
    -- the open attempt of a lease is not spent yet
    by_cases h_leased : job.status = .leased
    · have h_attempts := h_old.leased h_leased
      rw [retriesLeft_leased h_leased]
      omega
    · have h_waiting : job.status = .ready ∨ job.status = .retry := by
        rcases h_status with h_ready | h_retry | h_is
        · exact .inl h_ready
        · exact .inr h_retry
        · exact absurd h_is h_leased
      have h_attempts := h_old.waiting h_waiting
      rw [retriesLeft_waiting h_waiting]
      omega
  -- the claim took this job or another one
  · cases job_move db ⟨now, .claim leaseSeconds locked⟩ id with
    | kept h_same =>
      rw [h_same, h_job] at h_after
      rw [Option.some.inj h_after]
    | claimed _ _ old _ _ h_before _ _ _ h_leased =>
      obtain rfl := Option.some.inj (h_before.symm.trans h_job)
      obtain rfl := Option.some.inj (h_leased.symm.trans h_after)
      rw [retriesLeft_waiting h_waiting, retriesLeft_leased rfl]
      rfl
    | proposed _ _ _ h_tx | approved _ _ _ _ _ _ h_tx | prepared _ _ _ _ _ _ h_tx
    | finished _ _ _ _ _ h_tx | deferred _ _ _ _ h_tx | requeued _ _ _ _ _ h_tx => cases h_tx
  · have h_leased := (fenced_eq_false.mp h_fence).2
    have h_attempts := (h_balanced h_job).leased h_leased
    obtain ⟨job', h_after, h_same, h_left, h_exhausted⟩ :=
      finish_retries h_job h_fence h_retry now jitter
    rw [retriesLeft_leased h_leased]
    refine ⟨job', h_after, fun h_some => ?_, fun h_none => h_exhausted (by omega)⟩
    have h_status := h_left (by omega)
    refine ⟨h_status, ?_⟩
    rw [retriesLeft_waiting (.inr h_status), h_same]
    omega
  · obtain ⟨h_token, h_leased⟩ := fenced_eq_false.mp h_fence
    have h_attempts := (h_balanced h_job).leased h_leased
    refine ⟨_, defer_refunds h_job h_some h_token h_leased (by omega) now, rfl, ?_, ?_⟩
    · show job.attempts - 1 + 1 = job.attempts
      omega
    · rw [retriesLeft_waiting (.inr rfl), retriesLeft_leased h_leased]
      rfl

/-! ### Runs -/

/-- Workers only defer an attempt that was not made. -/
theorem logged_refunds (registry : Table String Destination) (owners : Table String String)
    (labels : List Label) :
    ∀ entry ∈ ((World.initial registry owners).run labels).log,
      ∀ key token, entry.tx ≠ .defer key token true := by
  refine run_invariant (I := fun w : World => ∀ entry ∈ w.log,
    ∀ key token, entry.tx ≠ .defer key token true) (fun _ h => by cases h)
    (fun w label h => ?_) labels
  -- the log grows by one transaction at a time
  have appended : ∀ now tx, (∀ key token, tx ≠ .defer key token true) →
      ∀ entry ∈ w.log ++ [⟨now, tx⟩], ∀ key token, entry.tx ≠ .defer key token true := by
    intro now tx h_tx entry h_entry
    rcases List.mem_append.mp h_entry with h_old | h_new
    · exact h entry h_old
    · obtain rfl := List.mem_singleton.mp h_new
      exact h_tx
  have h_stepped := w.stepped label
  generalize w.step label = w' at h_stepped ⊢
  cases h_stepped with
  | stutter | planned | moved | sent | arrived => exact h
  | external now tx h_external =>
    refine appended now tx fun key token h_tx => ?_
    rw [h_tx] at h_external
    cases h_external
  | committed n now tx phase h_phase =>
    refine appended now tx fun key token h_tx => ?_
    -- a worker defers only a request that it got no permit for
    generalize w.phase n = old at h_phase
    cases h_phase <;> cases h_tx

/-- **Retry budget accounting.** At every moment of every run the counter of a job is the
number of its claims less those given back, at most `max_attempts - 1` calls of `finish` have
left it in retry, and the account says what the next claim, retry or deferral takes. -/
theorem budget_accounting (registry : Table String Destination) (owners : Table String String)
    (labels : List Label) (id : Uuid) :
    let w := (World.initial registry owners).run labels
    Accounted id w.db (tally id (Db.migrated registry owners) w.log) := by
  intro w
  -- no job is there yet
  have h_initial : BudgetSound id (Db.migrated registry owners, .zero) :=
    ⟨work_sound registry owners [], fun _ => rfl, fun _ h_job => by cases h_job⟩
  have h_run : BudgetSound id (run (tallied id) (Db.migrated registry owners, .zero) w.log) := by
    refine run_induction (tallied id) (Db.migrated registry owners, .zero)
      (P := fun entries s => (∀ entry ∈ entries, ∀ key token, entry.tx ≠ .defer key token true) →
        BudgetSound id s)
      (fun _ => h_initial) (fun entries entry ih h_refunds => ?_) w.log
      (logged_refunds registry owners labels)
    refine (ih fun entry h_entry => h_refunds entry (List.mem_append_left _ h_entry)).step ?_
    exact h_refunds entry (List.mem_append_right _ List.mem_cons_self)
  have h_db : (run (tallied id) (Db.migrated registry owners, .zero) w.log).1 = w.db :=
    (run_tallied id _ _).trans (World.db_eq_run registry owners labels).symm
  rw [← h_db]
  exact BudgetSound.accounted h_run

end ControlPlane
