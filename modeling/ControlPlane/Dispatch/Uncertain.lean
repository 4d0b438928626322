import ControlPlane.Dispatch.Ledger

/-!
# The uncertain flag

`prepare` sets `uncertain` before a request leaves, and `finish` clears it when the
outcome of the attempt is known. A certain job that has not succeeded should then have no
trace at the receiver: no effect under its id, and no POST on the way (`FlagSound`). The
comparison of a recovery and the shortcut that skips the lookup both read the flag so.

It does not hold of every run. A `429` and a permanent `4xx` answer clear the flag, and
what they answer is the attempt's own POST; a POST of an earlier attempt may still be out
(`overlapping_attempts`), and a POST may also leave after a later attempt has cleared the
flag.

`Harmless` is the exact condition: the flag is cleared by such an answer only while
nothing of the job is at the receiver or on the way, and a POST leaves only while the
flag is set. `flag_sound_iff` proves that the flag is sound at every moment of a run
exactly when every step of it is harmless.
-/

namespace ControlPlane

open Framework

/-! ### The property -/

/-- The receiver holds an effect under the id, or a POST for it is still undelivered. -/
def World.Exposed (w : World) (id : Uuid) : Prop :=
  (∃ effect, w.remote.effects.lookup id = some effect) ∨
    ∃ post ∈ w.sent, post.key = id ∧ post.response = none

/-- The job is known to have left a trace: it is uncertain, or it has succeeded. -/
def Job.flagged (job : Job) : Prop := job.uncertain = true ∨ job.status = .succeeded

/-- A certain job that has not succeeded has no trace at the receiver or on the way. -/
def FlagSound (w : World) : Prop :=
  ∀ id job, w.db.jobs.lookup id = some job → job.uncertain = false → job.status ≠ .succeeded →
    ¬ w.Exposed id

theorem flagSound_iff {w : World} : FlagSound w ↔
    ∀ id job, w.db.jobs.lookup id = some job → w.Exposed id → job.flagged := by
  refine forall_congr' fun id => forall_congr' fun job => forall_congr' fun _ => ?_
  unfold Job.flagged
  cases job.uncertain with
  | true => exact iff_of_true (fun h => by cases h) fun _ => .inl rfl
  | false =>
    by_cases h_status : job.status = .succeeded
    · exact iff_of_true (fun _ h => absurd h_status h) fun _ => .inr h_status
    · exact ⟨fun h h_exposed => absurd h_exposed (h rfl h_status), fun h _ _ h_exposed =>
        (h h_exposed).elim (fun h => by cases h) h_status⟩

/-! ### The condition -/

/-- The verdicts that clear the flag of a job that has not succeeded. -/
def Worker.Verdict.clears : Worker.Verdict → Bool
  | .rateLimited _ | .rejected => true
  | _ => false

/-- The condition on a step, in the world before it: a worker that is about to record a
`429` or a permanent `4xx` under its current lease finds no trace of the job, and a worker
that is about to send a POST finds its job flagged. -/
structure Harmless (w : World) (label : Label) : Prop where
  clear : ∀ n now jitter job verdict current, label = .finish n now jitter →
    w.phase n = .settling job verdict → verdict.clears = true →
    w.db.jobs.lookup job.id = some current →
    Worker.fenced job.row.leaseToken current = false → ¬ w.Exposed job.id
  send : ∀ n job route permit mutation current, label = .post n →
    w.phase n = .requesting job route permit (.dispatch mutation) →
    w.db.jobs.lookup job.id = some current → current.flagged

/-! ### What a step does to the trace -/

/-- A job with a trace exists. -/
theorem World.Exposed.job {w : World} (h : LedgerSound w) {id : Uuid} (h_exposed : w.Exposed id) :
    ∃ job, w.db.jobs.lookup id = some job := by
  rcases h_exposed with ⟨effect, h_effect⟩ | ⟨post, h_post, rfl, -⟩
  · obtain ⟨-, job, h_job, -⟩ := h.effect id effect h_effect
    exact ⟨job, h_job⟩
  · obtain ⟨i, h_i⟩ := List.getElem?_of_mem h_post
    obtain ⟨job, h_job, -⟩ := h.sent i post h_i
    exact ⟨job, h_job⟩

/-- The arrival of a POST leaves no new trace: what it commits was on the way. -/
theorem exposed_arrive {w : World} {ticket : ℕ} {post : Post} {handling : Receiver.Handling}
    (h_post : w.sent[ticket]? = some post) (h_waiting : post.response = none) {id : Uuid}
    (h : (w.arrive ticket post handling).Exposed id) : w.Exposed id := by
  rcases h with ⟨effect, h_effect⟩ | ⟨post', h_post', h_key, h_none⟩
  · have h_answered := answerPost_cases handling post.key post.mutation w.remote
    change (w.remote.answerPost handling post.key post.mutation).2.effects.lookup id = _
      at h_effect
    generalize w.remote.answerPost handling post.key post.mutation = answer
      at h_answered h_effect
    cases h_answered with
    | refused _ _ _ h_effects => exact .inl ⟨effect, h_effects ▸ h_effect⟩
    | conflict | repeated => exact .inl ⟨effect, h_effect⟩
    | committed fresh r' _ _ _ h_effects =>
      by_cases h_id : id = post.key
      · exact .inr ⟨post, List.mem_of_getElem? h_post, h_id.symm, h_waiting⟩
      · change r'.effects.lookup id = some effect at h_effect
        rw [h_effects, Table.lookup_insert_of_ne _ _ h_id] at h_effect
        exact .inl ⟨effect, h_effect⟩
  · obtain ⟨i, h_i⟩ := List.getElem?_of_mem h_post'
    rcases getElem?_set_cases h_i with h_old | ⟨-, rfl⟩
    · exact .inr ⟨post', List.mem_of_getElem? h_old, h_key, h_none⟩
    · cases h_none

/-- Sending a POST leaves a trace of its own job only. -/
theorem exposed_send {w : World} {n : ℕ} {job : Worker.Claimed} {route : Route}
    {permit : Option Held} {mutation : Mutation} {id : Uuid} :
    (w.send n job route permit mutation).Exposed id ↔ w.Exposed id ∨ id = job.id := by
  constructor
  · rintro (h_effect | ⟨post, h_post, h_key, h_none⟩)
    · exact .inl (.inl h_effect)
    · rcases List.mem_append.mp h_post with h_old | h_new
      · exact .inl (.inr ⟨post, h_old, h_key, h_none⟩)
      · rw [List.mem_singleton.mp h_new] at h_key
        exact .inr h_key.symm
  · rintro ((h_effect | ⟨post, h_post, h_key, h_none⟩) | rfl)
    · exact .inl h_effect
    · exact .inr ⟨post, List.mem_append_left _ h_post, h_key, h_none⟩
    · exact .inr ⟨_, List.mem_append_right _ (List.mem_singleton_self _), rfl, rfl⟩

/-- A transaction keeps the flag of a job, unless it records a verdict that clears it. -/
theorem flagged_step {db : Db} (h_work : WorkSound db) (entry : Entry) {id : Uuid}
    {job job' : Job} (h_job : db.jobs.lookup id = some job) (h_flagged : job.flagged)
    (h_after : (db.step entry).jobs.lookup id = some job')
    (h_finish : ∀ jitter token verdict, entry.tx = .finish jitter id token verdict →
      Worker.fenced token job = false → verdict.clears = false) : job'.flagged := by
  cases job_move db entry id with
  | kept h_kept =>
    obtain rfl := Option.some.inj (h_job.symm.trans (h_kept.symm.trans h_after))
    exact h_flagged
  | proposed _ _ _ _ _ _ h_fresh =>
    rw [h_work.no_job h_fresh] at h_job
    cases h_job
  | approved _ _ _ _ _ _ _ _ h_before =>
    rw [h_job] at h_before
    cases h_before
  | prepared _ _ _ _ _ _ _ _ _ _ _ _ _ _ _ h_new =>
    obtain rfl := Option.some.inj (h_new.symm.trans h_after)
    exact .inl rfl
  -- a job that has succeeded is not claimed, deferred, requeued or finished again
  | claimed _ _ old _ _ h_before h_due _ _ h_new =>
    obtain rfl := Option.some.inj (h_before.symm.trans h_job)
    obtain rfl := Option.some.inj (h_new.symm.trans h_after)
    refine .inl (h_flagged.resolve_right fun h_status => ?_)
    simp [Worker.due, h_status] at h_due
  | deferred _ _ _ old _ h_before _ h_leased h_new =>
    obtain rfl := Option.some.inj (h_before.symm.trans h_job)
    obtain rfl := Option.some.inj (h_new.symm.trans h_after)
    refine .inl (h_flagged.resolve_right fun h_status => ?_)
    rw [h_leased] at h_status
    cases h_status
  | requeued _ _ _ _ old _ _ _ _ _ h_before h_dead h_new =>
    obtain rfl := Option.some.inj (h_before.symm.trans h_job)
    obtain rfl := Option.some.inj (h_new.symm.trans h_after)
    refine .inl (h_flagged.resolve_right fun h_status => ?_)
    rw [h_dead] at h_status
    cases h_status
  | finished jitter token verdict _ old h_tx h_before h_fence h_new =>
    obtain rfl := Option.some.inj (h_before.symm.trans h_job)
    obtain rfl := Option.some.inj (h_new.symm.trans h_after)
    have h_uncertain : old.uncertain = true := h_flagged.resolve_right fun h_status => by
      rw [(fenced_eq_false.mp h_fence).2] at h_status
      cases h_status
    -- the verdicts that do not clear the flag leave it, or the job has succeeded
    have h_clears := h_finish jitter token verdict h_tx h_fence
    cases verdict with
    | rateLimited | rejected => cases h_clears
    | reconciled | committed => exact .inr rfl
    | _ => exact .inl h_uncertain

/-- A verdict that clears the flag leaves the job unflagged. -/
theorem not_flagged_of_clears {now backoff : Time} {verdict : Worker.Verdict} {current : Job}
    (h : verdict.clears = true) :
    ¬ (Worker.finished now backoff (Worker.budgeted verdict.status verdict.reason current).1
      (Worker.budgeted verdict.status verdict.reason current).2 verdict.remoteResult
      verdict.uncertain current).flagged := by
  cases verdict with
  | rejected =>
    rintro (h | h) <;> cases h
  | rateLimited delay =>
    rintro (h | h)
    · cases h
    · change (Worker.budgeted .retry .rateLimited current).1 = .succeeded at h
      unfold Worker.budgeted at h
      split at h <;> cases h
  | _ => cases h

/-! ### One step -/

/-- The flag stays sound over a harmless step. -/
theorem FlagSound.step {w : World} (h_ledger : LedgerSound w) (h : FlagSound w) {label : Label}
    (h_harmless : Harmless w label) : FlagSound (w.step label) := by
  rw [flagSound_iff] at h ⊢
  have h_stepped := w.stepped label
  generalize w.step label = w' at h_stepped ⊢
  -- a transaction: the trace is the same, and the job was there already
  have h_commit : ∀ now tx, (∀ jitter id token verdict current,
      tx = .finish jitter id token verdict → w.db.jobs.lookup id = some current →
      w.Exposed id → Worker.fenced token current = false → verdict.clears = false) →
      ∀ id job', (w.db.step ⟨now, tx⟩).jobs.lookup id = some job' → w.Exposed id →
        job'.flagged := by
    intro now tx h_finish id job' h_after h_exposed
    obtain ⟨job, h_job⟩ := h_exposed.job h_ledger
    exact flagged_step h_ledger.work ⟨now, tx⟩ h_job (h id job h_job h_exposed) h_after
      fun jitter token verdict h_tx h_fence =>
        h_finish jitter id token verdict job h_tx h_job h_exposed h_fence
  cases h_stepped with
  | stutter | planned | moved => exact h
  | external now tx h_external =>
    exact h_commit now tx fun _ _ _ _ _ h_tx =>
      absurd h_tx (isExternal_ne_finish h_external _ _ _ _)
  | committed n now tx phase h_phase h_label =>
    refine h_commit now tx fun jitter id token verdict current h_tx h_job h_exposed h_fence => ?_
    have h_is := h_label jitter id token verdict h_tx
    generalize h_old : w.phase n = old at h_phase
    cases h_phase with
    | finished jitter' job verdict' =>
      cases h_tx
      -- a verdict that clears the flag of an exposed job would be the harmful step
      by_contra h_clears
      exact h_harmless.clear n now _ job _ current h_is h_old (by simpa using h_clears) h_job
        h_fence h_exposed
    | _ => cases h_tx
  | sent n job route permit mutation h_phase h_label =>
    intro id current h_job h_exposed
    -- the send exposes its own job, whose flag it has found
    rcases exposed_send.mp h_exposed with h_exposed | rfl
    · exact h id current h_job h_exposed
    · exact h_harmless.send n job route permit mutation current h_label h_phase h_job
  | arrived ticket post handling h_post h_waiting =>
    exact fun id current h_job h_exposed =>
      h id current h_job (exposed_arrive h_post h_waiting h_exposed)

/-- Over any other step it does not. -/
theorem harmless_of_flagSound {w : World} {label : Label} (h : FlagSound (w.step label)) :
    Harmless w label := by
  rw [flagSound_iff] at h
  constructor
  · rintro n now jitter job verdict current rfl h_phase h_clears h_job h_fence h_exposed
    have h_step : w.step (.finish n now jitter) =
        w.commitMove n now (.finish jitter job.id job.row.leaseToken verdict) .idle := by
      unfold World.step
      dsimp only
      rw [h_phase]
    rw [h_step] at h
    obtain ⟨backoff, h_after⟩ := settle_step now jitter verdict h_job h_fence
    exact not_flagged_of_clears h_clears (h job.id _ h_after h_exposed)
  · rintro n job route permit mutation current rfl h_phase h_job
    have h_step : w.step (.post n) = w.send n job route permit mutation := by
      unfold World.step
      dsimp only
      rw [h_phase]
    rw [h_step] at h
    exact h job.id current h_job (exposed_send.mpr (.inr rfl))

/-! ### Runs -/

/-- **The exact condition.** At every moment of a run the flag is sound, if and only if
every step of the run is harmless. -/
theorem flag_sound_iff (registry : Table String Destination) (owners : Table String String)
    (labels : List Label) :
    (∀ pre, pre <+: labels → FlagSound ((World.initial registry owners).run pre)) ↔
      ∀ pre label, pre ++ [label] <+: labels →
        Harmless ((World.initial registry owners).run pre) label := by
  constructor
  · intro h pre label h_pre
    refine harmless_of_flagSound ?_
    have h_after := h _ h_pre
    rwa [World.run, run_concat] at h_after
  · intro h pre h_pre
    induction pre using List.reverseRecOn with
    | nil =>
      intro id job h_job
      cases h_job
    | append_singleton pre label ih =>
      rw [World.run, run_concat]
      exact (ih ((List.prefix_append pre [label]).trans h_pre)).step
        (ledger_sound registry owners pre) (h pre label h_pre)

/-- Two attempts of one job. The POST of the first is lost in transport, so it is still
on the way when the second attempt looks the receipt up and finds none; the second POST
overtakes it and is answered `429`. -/
def overlappingAttempts : List Label :=
  let event : SourceEvent := ⟨"event", "subject", 1, { (FieldMap.empty : FieldMap Field.Value)
    with email := some "a@example.test" }⟩
  [.commit 0 (.ingest .crm event),
    .commit 1 (.propose .agent ⟨100, 0, 1, .syncProfile, "synchronise", .welcome⟩),
    .claim 0 2 30 [], .route 0 fun _ => false, .prepare 0 3 3, .acquire 0 4, .post 0,
    .timeout 0, .finish 0 5 0,
    .plan 100 [.tooManyRequests],
    .claim 0 (seconds 4) 30 [], .route 0 fun _ => false, .acquire 0 (seconds 4),
    .get 0 (.served true (seconds 4)), .prepare 0 (seconds 4) (seconds 4),
    .acquire 0 (seconds 4), .post 0, .deliver 1 (.served true (seconds 4)), .receive 0,
    .finish 0 (seconds 4) 0]

/-- The second `finish` clears the flag under the first POST. -/
theorem overlapping_attempts :
    ¬ FlagSound ((World.initial ∅ ∅).run overlappingAttempts) := by
  intro h
  refine h 100 _ rfl rfl (by decide) (.inr ⟨_, List.mem_cons_self, rfl, rfl⟩)

end ControlPlane
