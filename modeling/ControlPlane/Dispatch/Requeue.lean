import ControlPlane.Dispatch.Lease

/-!
# Requeueing dead jobs

A job that dies of an exhausted budget or a rejection leaves one open exception behind, and
an operator requeues the job by it. `DeadLetterSound` ties the two rows together: the
exception is open only while the job is dead for this reason, and no job has two.

So a requeue always finds its job dead, closes the one exception there is, and revives this
job alone (`resolve_requeued`). The job is in retry then; before it can be requeued again it
has to die again (`died_between`), which opens an exception of its own. A `resolve` that
raises is rolled back.
-/

namespace ControlPlane

open Framework

/-! ### One requeue -/

/-- The operator's transaction requeues a job by the exception `k`. -/
def Requeues (db : Db) (entry : Entry) (k : ℕ) : Prop :=
  ∃ actor command db', entry.tx = .resolve actor k command ∧
    Service.resolve entry.now actor k command db = .ok (.requeued, db')

/-- What a requeue does: it closes an open dead letter and revives the job it is about. -/
structure Revives (db : Db) (entry : Entry) (k : ℕ) (id : Uuid) (job : Job) : Prop where
  letter : ∃ row, OpenDeadLetter db k row ∧ row.subject = .id id ∧
    (db.step entry).exceptions = db.exceptions.set (k - 1) { row with status := .requeued }
  before : db.jobs.lookup id = some job
  dead : job.status = .dead
  /-- The job is in retry, at once and with all of its attempts; its other columns are as before. -/
  after : (db.step entry).jobs.lookup id =
    some { job with status := .retry, attempts := 0, availableAt := entry.now }
  /-- No other job is touched. -/
  others : ∀ other, other ≠ id → (db.step entry).jobs.lookup other = db.jobs.lookup other

theorem requeue_result {now : Time} {row : ExceptionRow} {db db' : Db}
    (h : Service.requeue now row db = .ok db') :
    row.category.requeueable = true ∧ ∃ id job, row.subject = .id id ∧
      db.jobs.lookup id = some job ∧ job.status = .dead ∧
      db' = { db with jobs := db.jobs.insert id (Service.requeued now job) } := by
  -- every test that fails is an exception
  unfold Service.requeue at h
  split at h
  · cases h
  rename_i h_category
  rw [not_and_or, not_not, not_not] at h_category
  refine ⟨Category.requeueable_iff.mpr h_category, ?_⟩
  split at h
  · cases h
  · cases h
  rename_i id h_subject
  split at h
  · cases h
  rename_i job h_job
  split at h
  · cases h
  rename_i h_dead
  split at h
  · cases h
  cases h
  exact ⟨id, job, h_subject, h_job, not_not.mp h_dead, rfl⟩

/-- **A requeue revives one dead job** by the open exception that it closes. -/
theorem resolve_requeued {db : Db} {entry : Entry} {k : ℕ} (h : Requeues db entry k) :
    ∃ id job, Revives db entry k id job := by
  obtain ⟨now, tx⟩ := entry
  obtain ⟨actor, command, db', h_tx, h_ok⟩ := h
  obtain rfl : tx = .resolve actor k command := h_tx
  have h_step : db.step ⟨now, .resolve actor k command⟩ = db' := by
    show (Service.resolve now actor k command db).commit db = db'
    rw [h_ok, Outcome.commit_ok]
  -- of the commands, only one requeues
  unfold Service.resolve at h_ok
  split at h_ok
  · cases h_ok
  rename_i row h_row
  split at h_ok
  · cases h_ok
  rename_i h_open
  split at h_ok
  · cases h_ok
  split at h_ok
  · cases h_ok
  rename_i requeued h_requeue
  obtain ⟨h_category, id, job, h_subject, h_job, h_dead, rfl⟩ := requeue_result h_requeue
  cases h_ok
  have h_jobs : (db.step ⟨now, .resolve actor k command⟩).jobs =
      db.jobs.insert id (Service.requeued now job) := by
    rw [h_step]
    rfl
  refine ⟨id, job, ⟨row, ⟨h_row, not_not.mp h_open, h_category⟩, h_subject, by rw [h_step]; rfl⟩,
    h_job, h_dead, ?_, fun other h_other => ?_⟩
  · rw [h_jobs, Table.lookup_insert_self]
    rfl
  · rw [h_jobs, Table.lookup_insert_of_ne _ _ h_other]

/-- After a requeue the exception is closed, and every other open dead letter is still
open. -/
theorem Revives.letters {db : Db} {entry : Entry} {k : ℕ} {id : Uuid} {job : Job}
    (h : Revives db entry k id job) (n : ℕ) (found : ExceptionRow) :
    OpenDeadLetter (db.step entry) n found ↔ OpenDeadLetter db n found ∧ n ≠ k := by
  obtain ⟨row, ⟨h_row, -⟩, -, h_set⟩ := h.letter
  constructor
  · rintro ⟨h_found, h_opened, h_category⟩
    rcases exceptionRow_set h_row h_set h_found with ⟨rfl, rfl⟩ | ⟨h_ne, h_found⟩
    · cases h_opened
    · exact ⟨⟨h_found, h_opened, h_category⟩, h_ne⟩
  · rintro ⟨⟨h_found, h_rest⟩, h_ne⟩
    refine ⟨?_, h_rest⟩
    cases n with
    | zero => cases h_found
    | succ n =>
      cases k with
      | zero => cases h_row
      | succ k =>
        change (db.step entry).exceptions[n]? = some found
        rw [h_set, Nat.add_sub_cancel, List.getElem?_set_ne (by omega)]
        exact h_found

theorem readmission_fault {now : Time} {key : Uuid} {db : Db} {fault : Fault}
    (h : Capacity.readmission now key db = .error fault) : fault = .destinationOverloaded := by
  unfold Capacity.readmission Capacity.checkBacklog at h
  split at h
  · cases h
  split at h
  · cases h
  split at h
  · cases h
    rfl
  · cases h

/-- An open dead letter has its dead job, so a requeue of it never finds the job alive. -/
theorem resolve_ne_jobNotDead {db : Db} (h_dead : DeadLetterSound db) {k : ℕ}
    {row : ExceptionRow} (h_letter : OpenDeadLetter db k row) (now : Time) (actor : Actor)
    (command : Contract.Resolution) :
    Service.resolve now actor k command db ≠ .error .jobNotDead := by
  obtain ⟨id, job, reason, h_subject, h_job, h_status, -⟩ := h_dead.dead k row h_letter
  intro h
  -- the tests before the requeue raise other exceptions
  unfold Service.resolve at h
  rw [h_letter.1] at h
  dsimp only at h
  rw [if_neg (not_not.mpr h_letter.2.1)] at h
  split at h
  · cases h
  -- the requeue can only be refused by the backlog
  have h_requeue : Service.requeue now row db ≠ .error .jobNotDead := by
    intro h_error
    unfold Service.requeue at h_error
    rw [h_subject] at h_error
    dsimp only at h_error
    rw [h_job] at h_error
    dsimp only at h_error
    rw [if_neg (not_not.mpr h_status)] at h_error
    split at h_error
    · cases h_error
    split at h_error
    · rename_i fault h_full
      cases h_error
      cases readmission_fault h_full
    · cases h_error
  split at h
  · rename_i fault h_fault
    cases h
    exact h_requeue h_fault
  · cases h

/-- **An open dead letter can be requeued**, unless the destination of its job is overloaded. -/
theorem requeues_iff {db : Db} (h_dead : DeadLetterSound db) {k : ℕ} {row : ExceptionRow}
    (h_letter : OpenDeadLetter db k row) {id : Uuid} (h_subject : row.subject = .id id) (now : Time)
    (actor : Actor) {command : Contract.Resolution} (h_command : command.disposition = .requeue) :
    Requeues db ⟨now, .resolve actor k command⟩ k ↔ Capacity.readmission now id db = .ok () := by
  obtain ⟨id', job, reason, h_id, h_job, h_status, -⟩ := h_dead.dead k row h_letter
  obtain rfl := Subject.id.inj (h_subject.symm.trans h_id)
  have h_category := not_and_or.mpr ((Category.requeueable_iff.mp h_letter.2.2).imp
    not_not.mpr not_not.mpr)
  -- all tests pass but the one for the backlog
  have h_requeue : Service.requeue now row db = (Capacity.readmission now id db).map fun _ =>
      { db with jobs := db.jobs.insert id (Service.requeued now job) } := by
    unfold Service.requeue
    rw [if_neg h_category, h_subject]
    simp only [h_job]
    rw [if_neg (not_not.mpr h_status)]
    cases Capacity.readmission now id db <;> rfl
  have h_resolve : Service.resolve now actor k command db = (Service.requeue now row db).map
      fun db' => (.requeued, (Service.closeException k row .requeued db').audit now actor
        (.exception k) (.exceptionResolution command)) := by
    unfold Service.resolve
    rw [h_letter.1]
    simp only [h_command]
    rw [if_neg (not_not.mpr h_letter.2.1)]
    cases Service.requeue now row db <;> rfl
  constructor
  · rintro ⟨actor', command', db', h_tx, h_ok⟩
    obtain ⟨rfl, -, rfl⟩ := Tx.resolve.inj h_tx
    rw [h_resolve, h_requeue] at h_ok
    cases h_admitted : Capacity.readmission now id db with
    | ok => rfl
    | error fault =>
      rw [h_admitted] at h_ok
      cases h_ok
  · intro h_admitted
    rw [h_requeue, h_admitted] at h_resolve
    exact ⟨actor, command, _, rfl, h_resolve⟩

/-- A `resolve` that raises is rolled back. -/
theorem resolve_raised {db : Db} {now : Time} {actor : Actor} {k : ℕ}
    {command : Contract.Resolution} {fault : Fault}
    (h : Service.resolve now actor k command db = .error fault) :
    db.step ⟨now, .resolve actor k command⟩ = db := by
  show (Service.resolve now actor k command db).commit db = db
  rw [h, Outcome.commit_error]

/-! ### Two requeues -/

/-- There is such a job, and it is dead. -/
def Db.Dead (db : Db) (id : Uuid) : Prop :=
  ∃ job, db.jobs.lookup id = some job ∧ job.status = .dead

/-- Only a `finish` makes a job dead. -/
theorem dies_by_finish {db : Db} {entry : Entry} {id : Uuid} (h_before : ¬ db.Dead id)
    (h_after : (db.step entry).Dead id) :
    ∃ jitter token verdict, entry.tx = .finish jitter id token verdict := by
  obtain ⟨job', h_job', h_status⟩ := h_after
  cases job_move db entry id with
  | kept h_same => exact absurd ⟨job', h_same.symm.trans h_job', h_status⟩ h_before
  | finished jitter token verdict backoff job h_tx => exact ⟨jitter, token, verdict, h_tx⟩
  | prepared utc token job mutation proposal row h_tx _ h_job _ _ _ _ _ _ h_after =>
    obtain rfl := Option.some.inj (h_after.symm.trans h_job')
    exact absurd ⟨job, h_job, h_status⟩ h_before
  | proposed _ _ _ _ _ _ _ _ _ _ h_after | approved _ _ _ _ _ _ _ _ _ _ _ h_after
  | claimed _ _ _ _ _ _ _ _ _ h_after | deferred _ _ _ _ _ _ _ _ h_after
  | requeued _ _ _ _ _ _ _ _ _ _ _ _ h_after =>
    obtain rfl := Option.some.inj (h_after.symm.trans h_job')
    cases h_status

/-- **No death is requeued twice.** Between two requeues of a job it has died again. -/
theorem died_between {db : Db} {pre later : List Entry} {entry entry' : Entry} {k k' : ℕ}
    {id : Uuid} {job job' : Job} (h_later : pre ++ [entry] <+: later)
    (h_first : Revives (db.run pre) entry k id job)
    (h_second : Revives (db.run later) entry' k' id job') :
    ∃ mid death, pre ++ [entry] <+: mid ∧ mid ++ [death] <+: later ∧
      ¬ (db.run mid).Dead id ∧ (db.run (mid ++ [death])).Dead id ∧
      ∃ jitter token verdict, death.tx = .finish jitter id token verdict := by
  have h_alive : ¬ (db.run (pre ++ [entry])).Dead id := by
    rintro ⟨job', h_job', h_dead⟩
    rw [Db.run, run_concat, h_first.after] at h_job'
    obtain rfl := Option.some.inj h_job'
    cases h_dead
  obtain ⟨mid, death, h_mid, h_death, h_before, h_after⟩ := run_last_switch Db.step db
    (P := fun db => db.Dead id) h_later h_alive ⟨job', h_second.before, h_second.dead⟩
  have h_after := h_after (mid ++ [death]) (List.prefix_refl _) h_death
  refine ⟨mid, death, h_mid, h_death, h_before, h_after, dies_by_finish h_before ?_⟩
  rwa [run_concat] at h_after

/-! ### Runs -/

/-- The state of the dead letters at a moment of a run, and what a `resolve` does there. -/
structure LettersSound (db : Db) : Prop where
  /-- An open dead letter reports the death of its job, under its reason. -/
  dead : ∀ k row, OpenDeadLetter db k row → ∃ id job, row.subject = .id id ∧
    db.jobs.lookup id = some job ∧ job.status = .dead ∧
      (row.category = .retryExhausted ∧ job.reason = some .retryExhausted ∨
        row.category = .remoteRejected ∧ job.reason = some .remoteRejected)
  /-- No job has two of them. -/
  single : ∀ k k' row row', OpenDeadLetter db k row → OpenDeadLetter db k' row' →
    row.subject = row'.subject → k' = k
  /-- A requeue closes exactly one of them and revives exactly its job. -/
  requeue : ∀ entry k, Requeues db entry k → ∃ id job, Revives db entry k id job ∧
    (∀ n row, OpenDeadLetter (db.step entry) n row ↔ OpenDeadLetter db n row ∧ n ≠ k) ∧
    ∀ n row, OpenDeadLetter (db.step entry) n row → row.subject ≠ .id id
  /-- An operator who asks for it gets the requeue, unless the destination is overloaded. -/
  granted : ∀ k row id, OpenDeadLetter db k row → row.subject = .id id → ∀ now actor command,
    command.disposition = .requeue →
      (Requeues db ⟨now, .resolve actor k command⟩ k ↔ Capacity.readmission now id db = .ok ())
  alive : ∀ k row, OpenDeadLetter db k row → ∀ now actor command,
    Service.resolve now actor k command db ≠ .error .jobNotDead
  raised : ∀ now actor k command fault, Service.resolve now actor k command db = .error fault →
    db.step ⟨now, .resolve actor k command⟩ = db

theorem DeadLetterSound.letters {db : Db} (h : DeadLetterSound db) : LettersSound db := by
  refine
    { dead := fun k row h_letter => ?_
      single := h.single
      requeue := fun entry k h_requeues => ?_
      granted := fun k row id h_letter h_subject now actor command h_command =>
        requeues_iff h h_letter h_subject now actor h_command
      alive := fun k row h_letter now actor command =>
        resolve_ne_jobNotDead h h_letter now actor command
      raised := fun now actor k command fault h_error => resolve_raised h_error }
  · obtain ⟨id, job, reason, h_subject, h_job, h_dead, h_reason, h_category⟩ :=
      h.dead k row h_letter
    refine ⟨id, job, h_subject, h_job, h_dead, ?_⟩
    rcases requeueable_reason (h_category ▸ h_letter.2.2) with rfl | rfl
    · exact .inl ⟨h_category.symm, h_reason⟩
    · exact .inr ⟨h_category.symm, h_reason⟩
  · obtain ⟨id, job, h_revives⟩ := resolve_requeued h_requeues
    refine ⟨id, job, h_revives, h_revives.letters, fun n found h_found h_subject => ?_⟩
    obtain ⟨h_found, h_ne⟩ := (h_revives.letters n found).mp h_found
    obtain ⟨row, h_letter, h_id, -⟩ := h_revives.letter
    exact h_ne (h.single k n row found h_letter h_found (h_id.trans h_subject.symm))

/-- **Requeue exceptions track dead jobs.** At every moment of every run the open dead letters
are those of dead jobs, one for each at most, and a requeue takes one of them with its job;
a job that is requeued twice has died in between. -/
theorem requeue_tracks_deaths (registry : Table String Destination) (owners : Table String String)
    (entries : List Entry) :
    LettersSound ((Db.migrated registry owners).run entries) ∧
    ∀ pre later entry entry' k k' id job job', pre ++ [entry] <+: later →
      later ++ [entry'] <+: entries →
      Revives ((Db.migrated registry owners).run pre) entry k id job →
      Revives ((Db.migrated registry owners).run later) entry' k' id job' →
        ∃ mid death, pre ++ [entry] <+: mid ∧ mid ++ [death] <+: later ∧
          ¬ ((Db.migrated registry owners).run mid).Dead id ∧
          ((Db.migrated registry owners).run (mid ++ [death])).Dead id ∧
          ∃ jitter token verdict, death.tx = .finish jitter id token verdict :=
  ⟨(deadLetter_sound registry owners entries).letters,
    fun _ _ _ _ _ _ _ _ _ h_later _ h_first h_second => died_between h_later h_first h_second⟩

end ControlPlane
