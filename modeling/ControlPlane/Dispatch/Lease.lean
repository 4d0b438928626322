import ControlPlane.Dispatch.Origin

/-!
# The job state machine and its leases

A job is leased exactly when it carries a lease token and a deadline. Tokens are drawn
from the supply by `claim` alone and only ever cleared otherwise, so no token is shared
by two jobs (`LeaseSound`) and a token that stopped being current stays so
(`token_retired`). `prepare`, `finish` and `defer` each test the lease in their own way;
`stale_step` says that all three tests come to the same: without the current token the
transaction leaves the database as it is.

`Transition` is the state diagram. Its one subtle edge is the requeue of a dead job,
which looks at the category of an exception and not at the job's reason. It goes by the
invariant `DeadLetterSound`: an open dead letter that may be requeued belongs to a job
that is dead for that very reason, and no job has two of them.
-/

namespace ControlPlane

open Framework

/-! ### Current tokens -/

/-- The token under which the job is leased. -/
def Job.current (job : Job) : Option Uuid :=
  if job.status = .leased then job.leaseToken else none

/-- The lease token that is current for a job. -/
def Db.currentToken (db : Db) (id : Uuid) : Option Uuid :=
  (db.jobs.lookup id).bind Job.current

/-- What holds of leases in every database that is reached. -/
structure LeaseSound (db : Db) : Prop where
  /-- A leased job has a token and a deadline. -/
  leased : ∀ id job, db.jobs.lookup id = some job → job.status = .leased →
    job.leaseToken.isSome ∧ job.leaseUntil.isSome
  /-- A job that is not leased has neither. -/
  free : ∀ id job, db.jobs.lookup id = some job → job.status ≠ .leased →
    job.leaseToken = none ∧ job.leaseUntil = none
  /-- Tokens have been drawn from the supply. -/
  drawn : ∀ id job token, db.jobs.lookup id = some job → job.leaseToken = some token →
    token < db.supply
  /-- No two jobs carry the same token. -/
  distinct : ∀ id id' job job' token, db.jobs.lookup id = some job →
    db.jobs.lookup id' = some job' → job.leaseToken = some token →
    job'.leaseToken = some token → id' = id

/-- The fence lets the holder of the lease through, and nobody else. -/
theorem fenced_eq_false {token : Option Uuid} {job : Job} :
    Worker.fenced token job = false ↔ job.leaseToken = token ∧ job.status = .leased := by
  simp [Worker.fenced]

/-- **Where a token comes from.** After a step a job carries the token it carried before,
or the one that the step drew for it. -/
theorem token_step {db : Db} (entry : Entry) {id : Uuid} {job' : Job} {token : Uuid}
    (h_after : (db.step entry).jobs.lookup id = some job')
    (h_token : job'.leaseToken = some token) :
    (∃ job, db.jobs.lookup id = some job ∧ job.leaseToken = some token) ∨
    (token = db.supply ∧ (db.step entry).supply = db.supply + 1 ∧
      ∀ other, other ≠ id → (db.step entry).jobs.lookup other = db.jobs.lookup other) := by
  cases job_move db entry id with
  | kept h_kept => exact .inl ⟨job', h_kept.symm.trans h_after, h_token⟩
  | claimed _ _ job _ _ _ _ h_supply h_others h_new =>
    obtain rfl := Option.some.inj (h_new.symm.trans h_after)
    obtain rfl : db.supply = token := Option.some.inj h_token
    exact .inr ⟨rfl, h_supply, h_others⟩
  | prepared _ _ job _ _ _ _ _ h_before _ _ _ _ _ _ h_new
  | requeued _ _ _ _ job _ _ _ _ _ h_before _ h_new =>
    obtain rfl := Option.some.inj (h_new.symm.trans h_after)
    exact .inl ⟨job, h_before, h_token⟩
  | proposed _ _ _ _ _ _ _ _ _ _ h_new | approved _ _ _ _ _ _ _ _ _ _ _ h_new
  | finished _ _ _ _ _ _ _ _ h_new | deferred _ _ _ _ _ _ _ _ h_new =>
    obtain rfl := Option.some.inj (h_new.symm.trans h_after)
    cases h_token

/-- Every transaction keeps it. -/
theorem LeaseSound.step {db : Db} (h : LeaseSound db) (entry : Entry) :
    LeaseSound (db.step entry) := by
  have h_supply := supply_le_apply entry.now db entry.tx
  -- the two forms of a row, which only `kept` takes over from the old one
  have h_form : ∀ id job', (db.step entry).jobs.lookup id = some job' →
      (job'.status = .leased → job'.leaseToken.isSome ∧ job'.leaseUntil.isSome) ∧
      (job'.status ≠ .leased → job'.leaseToken = none ∧ job'.leaseUntil = none) := by
    intro id job' h_after
    cases job_move db entry id with
    | kept h_kept =>
      have h_job := h_kept.symm.trans h_after
      exact ⟨h.leased id job' h_job, h.free id job' h_job⟩
    | claimed _ _ job _ _ _ _ _ _ h_new =>
      obtain rfl := Option.some.inj (h_new.symm.trans h_after)
      exact ⟨fun _ => ⟨rfl, rfl⟩, fun h_ne => absurd rfl h_ne⟩
    | prepared _ _ job _ _ _ _ _ h_before _ _ _ _ _ _ h_new =>
      obtain rfl := Option.some.inj (h_new.symm.trans h_after)
      exact ⟨h.leased id job h_before, h.free id job h_before⟩
    -- a requeue leaves the lease fields alone, which are empty since the job was not leased
    | requeued _ _ _ _ job _ _ _ _ _ h_before h_dead h_new =>
      obtain rfl := Option.some.inj (h_new.symm.trans h_after)
      have h_ne : job.status ≠ .leased := fun h_eq => by
        rw [h_dead] at h_eq
        cases h_eq
      exact ⟨fun h_eq => (by cases h_eq), fun _ => h.free id job h_before h_ne⟩
    | finished _ _ verdict _ job _ _ _ h_new =>
      obtain rfl := Option.some.inj (h_new.symm.trans h_after)
      exact ⟨fun h_eq => absurd h_eq (budgeted_ne_leased verdict job), fun _ => ⟨rfl, rfl⟩⟩
    | proposed _ _ _ _ _ _ _ _ _ _ h_new | approved _ _ _ _ _ _ _ _ _ _ _ h_new
    | deferred _ _ _ _ _ _ _ _ h_new =>
      obtain rfl := Option.some.inj (h_new.symm.trans h_after)
      exact ⟨fun h_eq => (by cases h_eq), fun _ => ⟨rfl, rfl⟩⟩
  refine ⟨fun id job' h_after => (h_form id job' h_after).1,
    fun id job' h_after => (h_form id job' h_after).2, fun id job' token h_after h_token => ?_,
    fun id id' job job' token h_id h_id' h_token h_token' => ?_⟩
  · rcases token_step entry h_after h_token with ⟨job, h_job, h_token⟩ | ⟨rfl, h_eq, -⟩
    · exact (h.drawn id job token h_job h_token).trans_le h_supply
    · rw [h_eq]
      exact Nat.lt_succ_self db.supply
  · -- a drawn token is carried by no other job, neither before the step nor by the step
    by_contra h_ne
    rcases token_step entry h_id h_token with ⟨old, h_old, h_carried⟩ | ⟨rfl, -, h_others⟩
    · rcases token_step entry h_id' h_token' with ⟨old', h_old', h_carried'⟩ | ⟨rfl, -, -⟩
      · exact h_ne (h.distinct id id' old old' token h_old h_old' h_carried h_carried')
      · exact absurd (h.drawn id old _ h_old h_carried) (lt_irrefl _)
    · rw [h_others id' h_ne] at h_id'
      exact absurd (h.drawn id' job' _ h_id' h_token') (lt_irrefl _)

/-- So it holds after every run. -/
theorem lease_sound (registry : Table String Destination) (owners : Table String String)
    (entries : List Entry) : LeaseSound ((Db.migrated registry owners).run entries) :=
  run_invariant ⟨fun _ _ h => (by cases h), fun _ _ h => (by cases h),
    fun _ _ _ h => (by cases h), fun _ _ _ _ _ h => (by cases h)⟩
    (fun _ entry h => h.step entry) entries

/-- The current token of a job is that of its lease. -/
theorem currentToken_eq_some {db : Db} {id token : Uuid} :
    db.currentToken id = some token ↔
      ∃ job, db.jobs.lookup id = some job ∧ job.status = .leased ∧
        job.leaseToken = some token := by
  unfold Db.currentToken
  cases db.jobs.lookup id with
  | none => simp
  | some job => simp [Job.current]

/-- **A retired token stays retired.** Once a drawn token is carried by no job, it never
is again. -/
theorem token_retired (registry : Table String Destination) (owners : Table String String)
    {pre mid as : List Entry} (h_mid : pre <+: mid) (h_as : mid <+: as) {id token : Uuid}
    (h_pre : ((Db.migrated registry owners).run pre).currentToken id = some token)
    (h_replaced : ((Db.migrated registry owners).run mid).currentToken id ≠ some token)
    (id' : Uuid) : ((Db.migrated registry owners).run as).currentToken id' ≠ some token := by
  have h_sound := lease_sound registry owners
  -- from `pre` on the token has been drawn, and no other job carries it
  have h_only : ∀ {later}, pre <+: later →
      let db := (Db.migrated registry owners).run later
      token < db.supply ∧
        ∀ id' job, db.jobs.lookup id' = some job → job.leaseToken = some token → id' = id := by
    intro later h_later
    refine run_stable (P := fun db : Db => token < db.supply ∧ ∀ id' job,
      db.jobs.lookup id' = some job → job.leaseToken = some token → id' = id) ?_ h_later ?_
    · rintro db entry ⟨h_lt, h_id⟩
      refine ⟨h_lt.trans_le (supply_le_apply entry.now db entry.tx),
        fun id' job h_job h_token => ?_⟩
      rcases token_step entry h_job h_token with ⟨job, h_job, h_token⟩ | ⟨rfl, -, -⟩
      · exact h_id id' job h_job h_token
      · exact absurd h_lt (lt_irrefl _)
    · obtain ⟨job, h_job, -, h_token⟩ := currentToken_eq_some.mp h_pre
      exact ⟨(h_sound pre).drawn id job token h_job h_token, fun id' job' h_job' h_token' =>
        (h_sound pre).distinct id id' job job' token h_job h_job' h_token h_token'⟩
  -- from `mid` on nobody carries it
  have h_none : let db := (Db.migrated registry owners).run as
      token < db.supply ∧ ∀ id' job, db.jobs.lookup id' = some job →
        job.leaseToken ≠ some token := by
    refine run_stable (P := fun db : Db => token < db.supply ∧ ∀ id' job,
      db.jobs.lookup id' = some job → job.leaseToken ≠ some token) ?_ h_as ?_
    · rintro db entry ⟨h_lt, h_no⟩
      refine ⟨h_lt.trans_le (supply_le_apply entry.now db entry.tx),
        fun id' job h_job h_token => ?_⟩
      rcases token_step entry h_job h_token with ⟨job, h_job, h_token⟩ | ⟨rfl, -, -⟩
      · exact h_no id' job h_job h_token
      · exact absurd h_lt (lt_irrefl _)
    · refine ⟨(h_only h_mid).1, fun id' job h_job h_token => h_replaced ?_⟩
      obtain rfl := (h_only h_mid).2 id' job h_job h_token
      refine currentToken_eq_some.mpr ⟨job, h_job, ?_, h_token⟩
      by_contra h_status
      rw [((h_sound mid).free id' job h_job h_status).1] at h_token
      cases h_token
  intro h_current
  obtain ⟨job, h_job, -, h_token⟩ := currentToken_eq_some.mp h_current
  exact h_none.2 id' job h_job h_token

/-! ### Fencing -/

/-- The operations of a worker that hold a lease, with the lease they hold. -/
def Tx.lease : Tx → Option (Uuid × Option Uuid)
  | .prepare _ id token | .finish _ id token _ | .defer id token _ => some (id, token)
  | _ => none

/-- **Fencing.** A `prepare`, `finish` or `defer` whose token is not the job's current one
leaves the database as it is. -/
theorem stale_step {db : Db} {entry : Entry} {id : Uuid} {token : Option Uuid}
    (h_lease : entry.tx.lease = some (id, token))
    (h_stale : ∀ t, token = some t → db.currentToken id ≠ some t)
    (h_sound : LeaseSound db) : db.step entry = db := by
  -- whoever passes a fence holds the current token
  have h_held : ∀ job, db.jobs.lookup id = some job → job.leaseToken = token →
      job.status ≠ .leased := by
    intro job h_job h_token h_leased
    obtain ⟨t, h_t⟩ := Option.isSome_iff_exists.mp (h_sound.leased id job h_job h_leased).1
    exact h_stale t (h_token ▸ h_t) (currentToken_eq_some.mpr ⟨job, h_job, h_leased, h_t⟩)
  obtain ⟨now, tx⟩ := entry
  have h_committed := tx.committed now db
  generalize h_step : tx.apply now db = db' at h_committed
  replace h_step : db.step ⟨now, tx⟩ = db' := h_step
  rw [h_step]
  -- of the transactions, three go by a lease, and each tests it before it writes
  cases h_committed with
  | rolledBack => rfl
  | prepare h_case =>
    cases h_lease
    cases h_case with
    | authorized _ _ current _ _ _ _ h_job h_fence =>
      obtain ⟨h_token, h_leased⟩ := fenced_eq_false.mp h_fence
      exact absurd h_leased (h_held current h_job h_token)
    | _ => rfl
  | finish h_case =>
    cases h_lease
    cases h_case with
    | fenced => rfl
    | recorded current _ h_job h_fence =>
      obtain ⟨h_token, h_leased⟩ := fenced_eq_false.mp h_fence
      exact absurd h_leased (h_held current h_job h_token)
  | defer h_case =>
    cases h_lease
    cases h_case with
    | nothing => rfl
    | deferred _ job h_job h_token h_leased => exact absurd h_leased (h_held job h_job h_token)
  | _ => cases h_lease

/-! ### Dead letters -/

/-- The exception is an open dead letter that may be requeued. -/
def OpenDeadLetter (db : Db) (n : ℕ) (row : ExceptionRow) : Prop :=
  Service.exceptionRow db n = some row ∧ row.status = .opened ∧ row.category.requeueable = true

/-- What holds of open dead letters. -/
structure DeadLetterSound (db : Db) : Prop where
  /-- Its job is dead for the reason the exception reports. -/
  dead : ∀ n row, OpenDeadLetter db n row → ∃ id job reason, row.subject = .id id ∧
    db.jobs.lookup id = some job ∧ job.status = .dead ∧ job.reason = some reason ∧
    Worker.deadLetterCategory reason = row.category
  /-- No job has two of them. -/
  single : ∀ n n' row row', OpenDeadLetter db n row → OpenDeadLetter db n' row' →
    row.subject = row'.subject → n' = n

/-- An exception was there before, or is the one that was added. -/
theorem exceptionRow_append {db db' : Db} {row : ExceptionRow} {n : ℕ} {found : ExceptionRow}
    (h : db'.exceptions = db.exceptions ++ [row])
    (h_found : Service.exceptionRow db' n = some found) :
    Service.exceptionRow db n = some found ∨ (n = db.exceptions.length + 1 ∧ found = row) := by
  cases n with
  | zero => cases h_found
  | succ n =>
    change db'.exceptions[n]? = some found at h_found
    change db.exceptions[n]? = some found ∨ _
    rw [h] at h_found
    rcases Nat.lt_or_ge n db.exceptions.length with h_lt | h_ge
    · rw [List.getElem?_append_left h_lt] at h_found
      exact .inl h_found
    · rw [List.getElem?_append_right h_ge] at h_found
      obtain ⟨h_index, h_row⟩ := List.getElem?_eq_some_iff.mp h_found
      rw [List.length_singleton] at h_index
      exact .inr ⟨by omega, by simpa using h_row.symm⟩

/-- An exception is the one that was closed, or as before. -/
theorem exceptionRow_set {db db' : Db} {row closed : ExceptionRow} {k n : ℕ}
    {found : ExceptionRow} (h_row : Service.exceptionRow db k = some row)
    (h : db'.exceptions = db.exceptions.set (k - 1) closed)
    (h_found : Service.exceptionRow db' n = some found) :
    (n = k ∧ found = closed) ∨ (n ≠ k ∧ Service.exceptionRow db n = some found) := by
  cases k with
  | zero => cases h_row
  | succ k =>
    cases n with
    | zero => cases h_found
    | succ n =>
      change db'.exceptions[n]? = some found at h_found
      change _ ∨ (_ ∧ db.exceptions[n]? = some found)
      rw [h, Nat.add_sub_cancel] at h_found
      by_cases h_eq : k = n
      · subst h_eq
        rw [List.getElem?_set_self'] at h_found
        obtain ⟨_, -, h_closed⟩ := Option.map_eq_some_iff.mp h_found
        exact .inl ⟨rfl, h_closed.symm⟩
      · rw [List.getElem?_set_ne h_eq] at h_found
        exact .inr ⟨by omega, h_found⟩

/-- A step that is not a requeue leaves a dead job as it is. -/
theorem dead_kept {db : Db} (h_work : WorkSound db) (entry : Entry) {id : Uuid} {job : Job}
    (h_job : db.jobs.lookup id = some job) (h_dead : job.status = .dead)
    (h_tx : ∀ actor n command, entry.tx ≠ .resolve actor n command) :
    (db.step entry).jobs.lookup id = some job := by
  have h_leased : job.status ≠ .leased := fun h_eq => by
    rw [h_dead] at h_eq
    cases h_eq
  cases job_move db entry id with
  | kept h_kept => exact h_kept.trans h_job
  | proposed _ _ _ _ _ _ h_fresh =>
    rw [h_work.no_job h_fresh] at h_job
    cases h_job
  | approved _ _ _ _ _ _ _ _ h_before =>
    rw [h_job] at h_before
    cases h_before
  -- a dead job is neither due nor leased
  | claimed _ _ job' _ _ h_before h_due =>
    obtain rfl := Option.some.inj (h_before.symm.trans h_job)
    simp [Worker.due, h_dead] at h_due
  | prepared _ _ job' _ _ _ _ _ h_before h_fence | finished _ _ _ _ job' _ h_before h_fence =>
    obtain rfl := Option.some.inj (h_before.symm.trans h_job)
    exact absurd (fenced_eq_false.mp h_fence).2 h_leased
  | deferred _ _ _ job' _ h_before _ h_status =>
    obtain rfl := Option.some.inj (h_before.symm.trans h_job)
    exact absurd h_status h_leased
  | requeued actor n command _ _ h_eq => exact absurd h_eq (h_tx actor n command)

/-- The dead letter of a rejected or exhausted job: the job is dead. -/
theorem budgeted_dead {verdict : Worker.Verdict} {job : Job}
    (h : (Worker.deadLetterCategory
      (Worker.budgeted verdict.status verdict.reason job).2).requeueable = true) :
    (Worker.budgeted verdict.status verdict.reason job).1 = .dead := by
  unfold Worker.budgeted at h ⊢
  split
  · rfl
  · rename_i h_budget
    rw [if_neg h_budget] at h
    cases verdict with
    | rejected => rfl
    | _ => cases h

/-- Every transaction keeps it. -/
theorem DeadLetterSound.step {db : Db} (h_work : WorkSound db) (h : DeadLetterSound db)
    (entry : Entry) : DeadLetterSound (db.step entry) := by
  by_cases h_resolve : ∃ actor n command, entry.tx = .resolve actor n command
  · -- a requeue closes the one open dead letter of the job it reopens
    obtain ⟨actor, k, command, h_tx⟩ := h_resolve
    obtain ⟨now, tx⟩ := entry
    cases h_tx
    have h_committed := (Tx.resolve actor k command).committed now db
    generalize h_step : (Tx.resolve actor k command).apply now db = db' at h_committed
    replace h_step : db.step ⟨now, .resolve actor k command⟩ = db' := h_step
    rw [h_step]
    -- what is open afterwards was open before, and is not the exception that was closed
    have h_open : ∀ {row closed}, Service.exceptionRow db k = some row →
        db'.exceptions = db.exceptions.set (k - 1) closed → closed.status ≠ .opened →
        ∀ n found, OpenDeadLetter db' n found → n ≠ k ∧ OpenDeadLetter db n found := by
      intro row closed h_row h_set h_closed n found ⟨h_found, h_opened, h_category⟩
      rcases exceptionRow_set h_row h_set h_found with ⟨rfl, rfl⟩ | ⟨h_ne, h_found⟩
      · exact absurd h_opened h_closed
      · exact ⟨h_ne, h_found, h_opened, h_category⟩
    cases h_committed with
    | rolledBack => exact h
    | resolve h_case =>
      cases h_case with
      | acknowledged row h_row h_opened =>
        have h_open := h_open h_row rfl (by exact fun h => by cases h)
        exact ⟨fun n found h_found => h.dead n found (h_open n found h_found).2,
          fun n n' a b h_a h_b => h.single n n' a b (h_open n a h_a).2 (h_open n' b h_b).2⟩
      | requeued row key job h_row h_opened h_category h_subject h_job h_dead =>
        have h_open := h_open h_row rfl (by exact fun h => by cases h)
        refine ⟨fun n found h_found => ?_,
          fun n n' a b h_a h_b => h.single n n' a b (h_open n a h_a).2 (h_open n' b h_b).2⟩
        obtain ⟨h_ne, h_before⟩ := h_open n found h_found
        obtain ⟨id, job', reason, h_id, h_job', h_rest⟩ := h.dead n found h_before
        have h_key : id ≠ key := by
          rintro rfl
          refine h_ne (h.single k n row found ⟨h_row, h_opened, ?_⟩ h_before ?_)
          · exact Category.requeueable_iff.mpr h_category
          · rw [h_subject, h_id]
        exact ⟨id, job', reason, h_id, (Table.lookup_insert_of_ne _ _ h_key).trans h_job',
          h_rest⟩
  · have h_tx : ∀ actor n command, entry.tx ≠ .resolve actor n command :=
      fun actor n command h_eq => h_resolve ⟨actor, n, command, h_eq⟩
    -- the dead letters there were keep their jobs
    have h_old : ∀ n row, OpenDeadLetter db n row → ∃ id job reason, row.subject = .id id ∧
        (db.step entry).jobs.lookup id = some job ∧ job.status = .dead ∧
        job.reason = some reason ∧ Worker.deadLetterCategory reason = row.category := by
      intro n row h_row
      obtain ⟨id, job, reason, h_id, h_job, h_dead, h_rest⟩ := h.dead n row h_row
      exact ⟨id, job, reason, h_id, dead_kept h_work entry h_job h_dead h_tx, h_dead, h_rest⟩
    cases exception_move db entry with
    | closed actor n command _ _ h_eq => exact absurd h_eq (h_tx actor n command)
    -- no exception was added, or one of another kind
    | kept h_after =>
      have h_same : ∀ n row, OpenDeadLetter (db.step entry) n row → OpenDeadLetter db n row := by
        intro n row ⟨h_row, h_rest⟩
        refine ⟨?_, h_rest⟩
        cases n with
        | zero => cases h_row
        | succ n => exact (congrArg (·[n]?) h_after).symm.trans h_row
      exact ⟨fun n row h_row => h_old n row (h_same n row h_row),
        fun n n' a b h_a h_b => h.single n n' a b (h_same n a h_a) (h_same n' b h_b)⟩
    | appended row h_category h_after =>
      have h_same : ∀ n row, OpenDeadLetter (db.step entry) n row → OpenDeadLetter db n row := by
        intro n found ⟨h_found, h_opened, h_requeueable⟩
        rcases exceptionRow_append h_after h_found with h_found | ⟨-, rfl⟩
        · exact ⟨h_found, h_opened, h_requeueable⟩
        · rw [h_category] at h_requeueable
          cases h_requeueable
      exact ⟨fun n row h_row => h_old n row (h_same n row h_row),
        fun n n' a b h_a h_b => h.single n n' a b (h_same n a h_a) (h_same n' b h_b)⟩
    | deadLetter jitter id token verdict backoff job row h_eq h_before h_fence h_category
        h_subject h_after h_job =>
      -- the job was leased, so it had no open dead letter
      have h_fresh : ∀ n found, OpenDeadLetter db n found → found.subject ≠ row.subject := by
        intro n found h_found h_same
        obtain ⟨id', job', _, h_id', h_job', h_dead, -⟩ := h.dead n found h_found
        rw [h_same, h_subject] at h_id'
        cases h_id'
        obtain rfl := Option.some.inj (h_before.symm.trans h_job')
        rw [(fenced_eq_false.mp h_fence).2] at h_dead
        cases h_dead
      have h_cases : ∀ n found, OpenDeadLetter (db.step entry) n found →
          OpenDeadLetter db n found ∨ (n = db.exceptions.length + 1 ∧ found = row) := by
        intro n found ⟨h_found, h_rest⟩
        exact (exceptionRow_append h_after h_found).imp_left fun h => ⟨h, h_rest⟩
      refine ⟨fun n found h_found => ?_, fun n n' a b h_a h_b h_same => ?_⟩
      · rcases h_cases n found h_found with h_found | ⟨rfl, rfl⟩
        · exact h_old n found h_found
        · refine ⟨id, _, _, h_subject, h_job, ?_, rfl, h_category.symm⟩
          exact budgeted_dead (h_category ▸ h_found.2.2)
      · rcases h_cases n a h_a with h_a | ⟨rfl, rfl⟩ <;>
          rcases h_cases n' b h_b with h_b | ⟨rfl, rfl⟩
        · exact h.single n n' a b h_a h_b h_same
        · exact absurd h_same (h_fresh n a h_a)
        · exact absurd h_same.symm (h_fresh n' b h_b)
        · rfl

/-- So it holds after every run. -/
theorem deadLetter_sound (registry : Table String Destination) (owners : Table String String)
    (entries : List Entry) : DeadLetterSound ((Db.migrated registry owners).run entries) := by
  have h_empty : ∀ n row, ¬ OpenDeadLetter (Db.migrated registry owners) n row := by
    rintro (_ | n) row ⟨h_row, -⟩ <;> cases h_row
  exact (run_invariant (I := fun db => WorkSound db ∧ DeadLetterSound db)
    ⟨work_sound registry owners [], fun n row h => absurd h (h_empty n row),
      fun n _ row _ h => absurd h (h_empty n row)⟩
    (fun _ entry h => ⟨h.1.step entry, h.2.step h.1 entry⟩) entries).2

/-! ### The state diagram -/

/-- The edges of the state diagram, taken by a step from `db`: every other step keeps the
status and the token. -/
inductive Transition (db : Db) (entry : Entry) (id : Uuid) (job job' : Job) : Prop
  | stay (h_status : job'.status = job.status) (h_token : job'.leaseToken = job.leaseToken)
  | lease (h_from : job.status = .ready ∨ job.status = .retry)
      (h_available : job.availableAt ≤ entry.now) (h_to : job'.status = .leased)
      (h_token : job'.leaseToken = some db.supply)
  | reclaim (deadline : Time) (h_from : job.status = .leased)
      (h_deadline : job.leaseUntil = some deadline) (h_expired : deadline ≤ entry.now)
      (h_to : job'.status = .leased) (h_token : job'.leaseToken = some db.supply)
      (h_new : job'.leaseToken ≠ job.leaseToken)
  | finish (jitter : Time) (verdict : Worker.Verdict)
      (h_tx : entry.tx = .finish jitter id job.leaseToken verdict) (h_from : job.status = .leased)
      (h_to : job'.status ∈ [JobStatus.succeeded, .retry, .blocked, .dead])
      (h_token : job'.leaseToken = none)
  | defer (attempted : Bool) (h_tx : entry.tx = .defer id job.leaseToken attempted)
      (h_from : job.status = .leased) (h_to : job'.status = .retry)
      (h_token : job'.leaseToken = none)
  | requeue (actor : Actor) (n : ℕ) (command : Contract.Resolution)
      (h_tx : entry.tx = .resolve actor n command)
      (h_command : command.disposition = .requeue) (h_from : job.status = .dead)
      (h_reason : job.reason = some .retryExhausted ∨ job.reason = some .remoteRejected)
      (h_to : job'.status = .retry) (h_token : job'.leaseToken = none)

/-- A job that is due waits for its time, or its lease has run out. -/
theorem due_cases {now : Time} {job : Job} (h : Worker.due now job = true) :
    ((job.status = .ready ∨ job.status = .retry) ∧ job.availableAt ≤ now) ∨
    (job.status = .leased ∧ ∃ deadline, job.leaseUntil = some deadline ∧ deadline ≤ now) := by
  simpa [Worker.due, Option.any_eq_true] using h

/-- A finished job has one of the four results. -/
theorem budgeted_status (verdict : Worker.Verdict) (job : Job) :
    (Worker.budgeted verdict.status verdict.reason job).1 ∈
      [JobStatus.succeeded, .retry, .blocked, .dead] := by
  unfold Worker.budgeted
  split
  · decide
  · cases verdict <;> simp [Worker.Verdict.status]

/-- Only jobs that were exhausted or rejected can be requeued. -/
theorem requeueable_reason {reason : JobReason}
    (h : (Worker.deadLetterCategory reason).requeueable = true) :
    reason = .retryExhausted ∨ reason = .remoteRejected := by
  cases reason with
  | retryExhausted => exact .inl rfl
  | remoteRejected => exact .inr rfl
  | _ => cases h

/-- **Every step takes a job along an edge of the diagram.** -/
theorem job_transition {db : Db} (h_work : WorkSound db) (h_lease : LeaseSound db)
    (h_dead : DeadLetterSound db) (entry : Entry) {id : Uuid} {job : Job}
    (h_job : db.jobs.lookup id = some job) :
    ∃ job', (db.step entry).jobs.lookup id = some job' ∧ Transition db entry id job job' := by
  cases job_move db entry id with
  | kept h_after => exact ⟨job, h_after.trans h_job, .stay rfl rfl⟩
  -- a job that is there is not inserted again
  | proposed _ _ _ _ _ _ h_fresh =>
    rw [h_work.no_job h_fresh] at h_job
    cases h_job
  | approved _ _ _ _ _ _ _ _ h_before =>
    rw [h_job] at h_before
    cases h_before
  | claimed _ _ old _ _ h_before h_due _ _ h_after =>
    obtain rfl := Option.some.inj (h_before.symm.trans h_job)
    refine ⟨_, h_after, ?_⟩
    rcases due_cases h_due with ⟨h_from, h_available⟩ | ⟨h_from, deadline, h_deadline, h_expired⟩
    · exact .lease h_from h_available rfl rfl
    · refine .reclaim deadline h_from h_deadline h_expired rfl rfl fun h_same => ?_
      exact absurd (h_lease.drawn id old _ h_job h_same.symm) (lt_irrefl _)
  | prepared _ _ old _ _ _ _ _ h_before _ _ _ _ _ _ h_after =>
    obtain rfl := Option.some.inj (h_before.symm.trans h_job)
    exact ⟨_, h_after, .stay rfl rfl⟩
  | finished jitter token verdict _ old h_tx h_before h_fence h_after =>
    obtain rfl := Option.some.inj (h_before.symm.trans h_job)
    obtain ⟨rfl, h_leased⟩ := fenced_eq_false.mp h_fence
    exact ⟨_, h_after, .finish jitter verdict h_tx h_leased (budgeted_status verdict old) rfl⟩
  | deferred token attempted _ old h_tx h_before h_token h_leased h_after =>
    obtain rfl := Option.some.inj (h_before.symm.trans h_job)
    subst h_token
    exact ⟨_, h_after, .defer attempted h_tx h_leased rfl rfl⟩
  | requeued actor n command row old h_tx h_row h_opened h_category h_subject h_before h_status
      h_after h_command =>
    obtain rfl := Option.some.inj (h_before.symm.trans h_job)
    have h_free : old.status ≠ .leased := fun h_eq => by
      rw [h_status] at h_eq
      cases h_eq
    -- the exception that is requeued is the job's own dead letter
    obtain ⟨id', job', reason, h_id, h_job', -, h_reason, h_letter⟩ :=
      h_dead.dead n row ⟨h_row, h_opened, Category.requeueable_iff.mpr h_category⟩
    rw [h_subject] at h_id
    cases h_id
    obtain rfl := Option.some.inj (h_job.symm.trans h_job')
    refine ⟨_, h_after, .requeue actor n command h_tx h_command h_status ?_ rfl
      (h_lease.free id old h_job h_free).1⟩
    rw [h_reason]
    rw [← h_letter] at h_category
    rcases requeueable_reason (Category.requeueable_iff.mpr h_category) with rfl | rfl
    · exact .inl rfl
    · exact .inr rfl

/-- Succeeded and blocked jobs have no outgoing edge. -/
theorem Transition.final {db : Db} {entry : Entry} {id : Uuid} {job job' : Job}
    (h : Transition db entry id job job')
    (h_final : job.status = .succeeded ∨ job.status = .blocked) : job'.status = job.status := by
  cases h with
  | stay h_status => exact h_status
  | lease h_from =>
    rcases h_from with h_from | h_from <;> rcases h_final with h_final | h_final <;>
      rw [h_final] at h_from <;> cases h_from
  | reclaim _ h_from | finish _ _ _ h_from | defer _ _ h_from | requeue _ _ _ _ _ h_from =>
    rcases h_final with h_final | h_final <;> rw [h_final] at h_from <;> cases h_from

/-- **The job state machine and its fencing.** In every reachable state: a job has at most
one current token, no two jobs share one, and a job is leased exactly when it has both a
token and a deadline; a token that stopped being current is current for no job ever
after; an operation with a token that is not current changes nothing; every step takes
every job along an edge of `Transition`; and succeeded and blocked jobs stay so. -/
theorem job_state_machine (registry : Table String Destination) (owners : Table String String)
    (as : List Entry) :
    let db := (Db.migrated registry owners).run as
    (∀ id job, db.jobs.lookup id = some job →
      (∀ t t', Worker.fenced (some t) job = false → Worker.fenced (some t') job = false →
        t' = t) ∧
      (job.status = .leased ↔ job.leaseToken.isSome ∧ job.leaseUntil.isSome)) ∧
    (∀ id id' t, db.currentToken id = some t → db.currentToken id' = some t → id' = id) ∧
    (∀ pre mid id t, pre <+: mid → mid <+: as →
      ((Db.migrated registry owners).run pre).currentToken id = some t →
      ((Db.migrated registry owners).run mid).currentToken id ≠ some t →
      ∀ id', db.currentToken id' ≠ some t) ∧
    (∀ entry id token, entry.tx.lease = some (id, token) →
      (∀ t, token = some t → db.currentToken id ≠ some t) →
      (db.step entry).jobs = db.jobs ∧ (db.step entry).exceptions = db.exceptions) ∧
    (∀ entry id job, db.jobs.lookup id = some job →
      ∃ job', (db.step entry).jobs.lookup id = some job' ∧ Transition db entry id job job') ∧
    ∀ pre id job, pre <+: as → ((Db.migrated registry owners).run pre).jobs.lookup id = some job →
      job.status = .succeeded ∨ job.status = .blocked →
      ∃ job', db.jobs.lookup id = some job' ∧ job'.status = job.status := by
  have h_work := work_sound registry owners
  have h_lease := lease_sound registry owners
  have h_dead := deadLetter_sound registry owners
  refine ⟨fun id job h_job => ⟨fun t t' h_t h_t' => ?_, ?_⟩, fun id id' t h_t h_t' => ?_,
    fun pre mid id t h_mid h_as h_pre h_replaced id' =>
      token_retired registry owners h_mid h_as h_pre h_replaced id',
    fun entry id token h_tx h_stale => ?_,
    fun entry id job h_job => job_transition (h_work as) (h_lease as) (h_dead as) entry h_job,
    fun pre id job h h_job h_final => ?_⟩
  · have h_eq := (fenced_eq_false.mp h_t').1.symm.trans (fenced_eq_false.mp h_t).1
    exact Option.some.inj h_eq
  · refine ⟨(h_lease as).leased id job h_job, fun h_both => ?_⟩
    by_contra h_status
    rw [((h_lease as).free id job h_job h_status).1] at h_both
    cases h_both.1
  · obtain ⟨job, h_job, -, h_token⟩ := currentToken_eq_some.mp h_t
    obtain ⟨job', h_job', -, h_token'⟩ := currentToken_eq_some.mp h_t'
    exact (h_lease as).distinct id id' job job' t h_job h_job' h_token h_token'
  · rw [stale_step h_tx h_stale (h_lease as)]
    exact ⟨rfl, rfl⟩
  -- no edge leaves the two final states
  · refine run_stable_of Db.step (Db.migrated registry owners)
      (I := fun db => WorkSound db ∧ LeaseSound db ∧ DeadLetterSound db)
      (P := fun db => ∃ job', db.jobs.lookup id = some job' ∧ job'.status = job.status)
      (fun as => ⟨h_work as, h_lease as, h_dead as⟩) ?_ h ⟨job, h_job, rfl⟩
    rintro db entry ⟨h_work, h_lease, h_dead⟩ ⟨job', h_job', h_status⟩
    obtain ⟨job'', h_job'', h_edge⟩ := job_transition h_work h_lease h_dead entry h_job'
    exact ⟨job'', h_job'', (h_edge.final (h_status ▸ h_final)).trans h_status⟩

end ControlPlane
