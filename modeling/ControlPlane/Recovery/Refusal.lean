import ControlPlane.Dispatch.Steps
import ControlPlane.Transactions.Frames

/-!
# Workers that meet a closed gate

A worker that has claimed a job before the gate was closed is refused by `prepare`, and
`execute` passes the refusal to `finish` as a retry (`Refused.settling`). `finish` applies the
attempt budget to every retry, whatever its reason. So a refusal in the last attempt of the
budget is recorded as `retry_exhausted`: the closure of the gate makes the job dead and opens
an exception for it. In every earlier attempt the job goes back to retry and nothing else
changes (`closure_unharmed_iff`).

A refusal by the capacity of a destination has no such effect, because `defer` gives the
attempt back.
-/

namespace ControlPlane

open Framework

/-! ### A refused execution -/

/-- The worker takes no step. -/
def Rests (n : ℕ) (w : World) (label : Label) : Prop := (w.step label).phase n = w.phase n

/-- At the end of the run `as` the worker is about to `finish` a job whose `prepare` was
refused because the gate is closed. -/
def Refused (w : World) (as : List Label) (n : ℕ) (job : Worker.Claimed) : Prop :=
  ∃ pre now utc mid route, as = pre ++ .prepare n now utc :: mid ∧
    (w.run pre).phase n = .preparing job route ∧ (w.run pre).db.executionOpen = false ∧
    Meets World.step (Rests n) ((w.run pre).step (.prepare n now utc)) mid

/-- The refusal writes nothing, and `execute` goes on to `finish` with it. -/
theorem prepare_closed {w : World} {n : ℕ} {job : Worker.Claimed} {route : Route}
    (h_phase : w.phase n = .preparing job route) (h_closed : w.db.executionOpen = false)
    (now utc : Time) :
    (w.step (.prepare n now utc)).phase n = .settling job .recoveryClosed ∧
      (w.step (.prepare n now utc)).db = w.db := by
  have h_refused : Worker.prepare now utc job.id job.row.leaseToken w.db =
      .ok (.refused .recoveryClosed, w.db) := if_pos h_closed
  unfold World.step
  dsimp only
  rw [h_phase]
  dsimp only
  rw [h_refused]
  refine ⟨Function.update_self .., ?_⟩
  show (Worker.prepare now utc job.id job.row.leaseToken w.db).commit w.db = w.db
  rw [h_refused, Outcome.commit_ok]

theorem Refused.settling {w : World} {as : List Label} {n : ℕ} {job : Worker.Claimed}
    (h : Refused w as n job) : (w.run as).phase n = .settling job .recoveryClosed := by
  obtain ⟨pre, now, utc, mid, route, rfl, h_phase, h_closed, h_rests⟩ := h
  rw [World.run, run_append, run_cons]
  exact h_rests.invariant (I := fun w : World => w.phase n = .settling job .recoveryClosed)
    (prepare_closed h_phase h_closed now utc).1 fun _ _ h_rest h_phase => h_rest.trans h_phase

/-! ### Its `finish` -/

/-- The job has gone back to retry, or its lease was lost and nothing has changed. No other
job is touched and no exception is opened. -/
structure Unharmed (job : Worker.Claimed) (db db' : Db) : Prop where
  lost : ∀ row, db.jobs.lookup job.id = some row →
    Worker.fenced job.row.leaseToken row = true → db' = db
  retried : ∀ row, db.jobs.lookup job.id = some row →
    Worker.fenced job.row.leaseToken row = false →
      ∃ row', db'.jobs.lookup job.id = some row' ∧ row'.status = .retry
  others : ∀ id, id ≠ job.id → db'.jobs.lookup id = db.jobs.lookup id
  exceptions : db'.exceptions = db.exceptions

/-- The lease is lost, or the budget has another attempt. -/
def AttemptLeft (job : Worker.Claimed) (db : Db) : Prop :=
  ∀ row, db.jobs.lookup job.id = some row → Worker.fenced job.row.leaseToken row = false →
    row.attempts < policy.maxAttempts

/-- What `finish` makes of the refusal under the current lease. -/
theorem settle_closed {db : Db} {job : Worker.Claimed} {row : Job}
    (h_row : db.jobs.lookup job.id = some row)
    (h_fence : Worker.fenced job.row.leaseToken row = false) (now jitter : Time) :
    ∃ final, final = Worker.budgeted .retry (.denied .recoveryClosed) row ∧
      (db.step ⟨now, .finish jitter job.id job.row.leaseToken .recoveryClosed⟩).jobs =
        db.jobs.insert job.id
          (Worker.finished now (seconds 1) final.1 final.2 none none row) ∧
      (db.step ⟨now, .finish jitter job.id job.row.leaseToken .recoveryClosed⟩).exceptions =
        (if final.1 = .dead ∨ final.1 = .blocked then db.exceptions ++
          [⟨Worker.deadLetterCategory final.2, .id job.id, .execution final.2 row.uncertain,
            .opened, now⟩] else db.exceptions) := by
  refine ⟨_, rfl, ?_⟩
  rw [settle_current now jitter .recoveryClosed h_row h_fence]
  exact (Worker.conclude_frame ..).2.2.2.2

/-- One refused execution is harmless exactly when an attempt is left. -/
theorem unharmed_iff (db : Db) (job : Worker.Claimed) (now jitter : Time) :
    Unharmed job db (db.step ⟨now, .finish jitter job.id job.row.leaseToken .recoveryClosed⟩) ↔
      AttemptLeft job db := by
  -- a call whose lease was lost changes nothing at all
  by_cases h_current : ∀ row, db.jobs.lookup job.id = some row →
      Worker.fenced job.row.leaseToken row = true
  · rw [settle_lost now jitter .recoveryClosed h_current]
    refine iff_of_true ⟨fun _ _ _ => rfl, ?_, fun _ _ => rfl, rfl⟩ ?_
    · intro row h_row h_fence
      cases (h_current row h_row).symm.trans h_fence
    · intro row h_row h_fence
      cases (h_current row h_row).symm.trans h_fence
  push Not at h_current
  obtain ⟨row, h_row, h_fence⟩ := h_current
  rw [ne_eq, Bool.not_eq_true] at h_fence
  obtain ⟨final, h_final, h_jobs, h_exceptions⟩ := settle_closed h_row h_fence now jitter
  generalize db.step ⟨now, .finish jitter job.id job.row.leaseToken .recoveryClosed⟩ = db'
    at h_jobs h_exceptions ⊢
  have h_after : db'.jobs.lookup job.id =
      some (Worker.finished now (seconds 1) final.1 final.2 none none row) := by
    rw [h_jobs]
    exact Table.lookup_insert_self ..
  constructor
  · intro h other h_other _
    obtain rfl : row = other := Option.some.inj (h_row.symm.trans h_other)
    obtain ⟨row', h_row', h_status⟩ := h.retried row h_row h_fence
    obtain rfl := Option.some.inj (h_after.symm.trans h_row')
    -- an exhausted budget would have made it dead
    by_contra h_exhausted
    have h_dead : final = (.dead, .retryExhausted) :=
      h_final.trans (if_pos ⟨rfl, not_lt.mp h_exhausted⟩)
    rw [h_dead] at h_status
    cases h_status
  · intro h
    have h_retry : final = (.retry, .denied .recoveryClosed) :=
      h_final.trans (if_neg fun h_exhausted =>
        absurd (h row h_row h_fence) (not_lt.mpr h_exhausted.2))
    refine ⟨fun other h_other h_lost => ?_, fun _ _ _ => ⟨_, h_after, by rw [h_retry]; rfl⟩,
      fun id h_ne => ?_, ?_⟩
    · obtain rfl : row = other := Option.some.inj (h_row.symm.trans h_other)
      cases h_fence.symm.trans h_lost
    · rw [h_jobs, Table.lookup_insert_of_ne _ _ h_ne]
    · rw [h_exceptions, h_retry]
      rfl

theorem World.finish_settling {w : World} {n : ℕ} {job : Worker.Claimed}
    {verdict : Worker.Verdict} (h_phase : w.phase n = .settling job verdict)
    (now jitter : Time) : (w.step (.finish n now jitter)).db =
      w.db.step ⟨now, .finish jitter job.id job.row.leaseToken verdict⟩ := by
  unfold World.step
  dsimp only
  rw [h_phase]
  rfl

/-! ### Runs -/

/-- **Closing the gate makes no job dead, as long as its attempts last.** In a run every
refused execution leaves its job in retry, or untouched when its lease was lost, if and only
if none of them is the last attempt of the budget. -/
theorem closure_unharmed_iff (w : World) (labels : List Label) :
    (∀ as n job now jitter, as ++ [.finish n now jitter] <+: labels → Refused w as n job →
      Unharmed job (w.run as).db (w.run (as ++ [.finish n now jitter])).db) ↔
    ∀ as n job now jitter, as ++ [.finish n now jitter] <+: labels → Refused w as n job →
      AttemptLeft job (w.run as).db := by
  have h_each : ∀ as n job now jitter, Refused w as n job →
      (Unharmed job (w.run as).db (w.run (as ++ [.finish n now jitter])).db ↔
        AttemptLeft job (w.run as).db) := by
    intro as n job now jitter h_refused
    have h_run : w.run (as ++ [.finish n now jitter]) = (w.run as).step (.finish n now jitter) :=
      run_concat ..
    rw [h_run, World.finish_settling h_refused.settling]
    exact unharmed_iff _ job now jitter
  constructor
  · exact fun h as n job now jitter h_pre h_refused =>
      (h_each as n job now jitter h_refused).mp (h as n job now jitter h_pre h_refused)
  · exact fun h as n job now jitter h_pre h_refused =>
      (h_each as n job now jitter h_refused).mpr (h as n job now jitter h_pre h_refused)

/-- Three workers die over a job, and the gate is closed before the fourth one prepares. -/
def lastAttempt : List Label :=
  let event : SourceEvent := ⟨"event", "subject", 1, { (FieldMap.empty : FieldMap Field.Value)
    with email := some "a@example.test" }⟩
  [.commit 0 (.ingest .crm event),
    .commit 1 (.propose .agent ⟨100, 0, 1, .syncProfile, "synchronise", .welcome⟩),
    .claim 0 (seconds 1) 1 [], .crash 0, .claim 0 (seconds 3) 1 [], .crash 0,
    .claim 0 (seconds 5) 1 [], .crash 0, .claim 0 (seconds 7) 30 [], .route 0 fun _ => false,
    .commit (seconds 8) (.begin ⟨⟨"production", "revision", "source", "restored", "point"⟩,
      "remote"⟩)]

/-- The refusal of the fourth attempt makes the job dead and opens an exception. -/
theorem closure_kills_last_attempt :
    let w := World.initial ∅ ∅
    let as := lastAttempt ++ [.prepare 0 (seconds 9) (seconds 9)]
    ¬ ∀ n job now jitter, Refused w as n job →
      Unharmed job (w.run as).db (w.run (as ++ [.finish n now jitter])).db := by
  intro w as h
  let job : Worker.Claimed := ⟨100, .leased, 4, 1, some (seconds 37), some 4, false, none, none,
    none⟩
  have h_phase : (w.run lastAttempt).phase 0 = .preparing job none := by decide +kernel
  have h_closed : (w.run lastAttempt).db.executionOpen = false := by decide +kernel
  have h_unharmed := (h 0 job (seconds 9) 0
    ⟨lastAttempt, seconds 9, seconds 9, [], none, rfl, h_phase, h_closed, trivial⟩).exceptions
  have h_before : (w.run as).db.exceptions = [] := by decide +kernel
  have h_after : (w.run (as ++ [.finish 0 (seconds 9) 0])).db.exceptions.length = 1 := by
    decide +kernel
  rw [h_unharmed, h_before] at h_after
  cases h_after

end ControlPlane
