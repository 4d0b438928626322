import ControlPlane.Dispatch.Intent
import ControlPlane.Dispatch.Steps

/-!
# Ledger agreement

The receiver's ledger and the control database agree on every key, whatever the network
and the workers do. The invariant `LedgerSound` is one chain of custody for a mutation:
the job's row holds it before a request leaves (`IntentSound`); whatever a worker carries
in its phase, whatever was sent, and whatever the ledger holds under the job's id is that
same mutation; and what a worker was told about the ledger is what the ledger says.

Every clause refers to facts that no step takes back: an intent once written, an effect
once committed, a POST once sent. `Evolves` collects them, so that a step only has to
establish the clauses for what it changes itself.

The conflict answers are then unreachable: `mutate` compares two digests of the same
mutation, and so do the two checks of `execute`.
-/

namespace ControlPlane

open Framework

/-! ### What is never taken back -/

/-- The job's row holds the mutation. -/
def World.HasIntent (w : World) (id : Uuid) (mutation : Mutation) : Prop :=
  ∃ job, w.db.jobs.lookup id = some job ∧ job.mutation = some mutation

/-- A job has one intent. -/
theorem World.HasIntent.unique {w : World} {id : Uuid} {m m' : Mutation}
    (h : w.HasIntent id m) (h' : w.HasIntent id m') : m' = m := by
  obtain ⟨job, h_job, h_m⟩ := h
  obtain ⟨job', h_job', h_m'⟩ := h'
  obtain rfl := Option.some.inj (h_job.symm.trans h_job')
  exact Option.some.inj (h_m'.symm.trans h_m)

/-- The later world still has every intent, effect and POST of the earlier one. -/
structure Evolves (w w' : World) : Prop where
  intents : ∀ id mutation, w.HasIntent id mutation → w'.HasIntent id mutation
  effects : ∀ key effect, w.remote.effects.lookup key = some effect →
    w'.remote.effects.lookup key = some effect
  sent : ∀ (ticket : ℕ) (post : Post), w.sent[ticket]? = some post →
    ∃ post', w'.sent[ticket]? = some post' ∧ post'.key = post.key ∧
      post'.mutation = post.mutation

/-- An element of an updated list was there before, or is the new one. -/
theorem getElem?_set_cases {α : Type} {l : List α} {i j : ℕ} {a b : α}
    (h : (l.set i a)[j]? = some b) : l[j]? = some b ∨ (i = j ∧ b = a) := by
  by_cases h_eq : i = j
  · subst h_eq
    rw [List.getElem?_set_self'] at h
    obtain ⟨_, -, h_new⟩ := Option.map_eq_some_iff.mp h
    exact .inr ⟨rfl, h_new.symm⟩
  · rw [List.getElem?_set_ne h_eq] at h
    exact .inl h

/-- Committing a transaction keeps every intent. -/
theorem hasIntent_commit {w : World} (h_work : WorkSound w.db) (now : Time) (tx : Tx)
    {id : Uuid} {mutation : Mutation} (h : w.HasIntent id mutation) :
    (w.commit now tx).HasIntent id mutation := by
  obtain ⟨job, h_job, h_mutation⟩ := h
  exact mutation_kept h_work ⟨now, tx⟩ h_job h_mutation

/-- The handling of a POST keeps every effect. -/
theorem answerPost_effects {handling : Receiver.Handling} {key : Uuid} {mutation : Mutation}
    {r : Receiver} {key' : Uuid} {effect : Effect} (h : r.effects.lookup key' = some effect) :
    (r.answerPost handling key mutation).2.effects.lookup key' = some effect := by
  have h_answered := answerPost_cases handling key mutation r
  generalize r.answerPost handling key mutation = answer at h_answered ⊢
  cases h_answered with
  | refused _ _ _ h_effects => exact h_effects ▸ h
  | conflict | repeated => exact h
  | committed _ _ h_new _ _ h_effects =>
    exact h_effects ▸ Table.lookup_insert_of_none h_new h

/-- A step keeps intents and snapshots. -/
theorem evolves_step {w : World} (h_work : WorkSound w.db) (label : Label) :
    Evolves w (w.step label) := by
  have h_stepped := w.stepped label
  generalize w.step label = w' at h_stepped ⊢
  cases h_stepped with
  | stutter | planned | moved =>
    exact ⟨fun _ _ h => h, fun _ _ h => h, fun _ post h => ⟨post, h, rfl, rfl⟩⟩
  | external now tx | committed _ now tx =>
    exact ⟨fun _ _ h => hasIntent_commit h_work now tx h, fun _ _ h => h,
      fun _ post h => ⟨post, h, rfl, rfl⟩⟩
  | sent =>
    refine ⟨fun _ _ h => h, fun _ _ h => h, fun ticket post h => ⟨post, ?_, rfl, rfl⟩⟩
    exact (List.getElem?_append_left (List.getElem?_eq_some_iff.mp h).1).trans h
  | arrived ticket post handling h_post =>
    refine ⟨fun _ _ h => h, fun _ _ h => answerPost_effects h, fun ticket' post' h => ?_⟩
    by_cases h_eq : ticket = ticket'
    · subst h_eq
      obtain rfl := Option.some.inj (h_post.symm.trans h)
      exact ⟨_, (List.getElem?_set_self (List.getElem?_eq_some_iff.mp h).1), rfl, rfl⟩
    · exact ⟨post', (List.getElem?_set_ne h_eq).trans h, rfl, rfl⟩

/-! ### The invariant -/

section Sound

variable (w : World)

/-- The worker's snapshot of its job is older than the job's row, but not wrong. -/
structure SnapshotSound (job : Worker.Claimed) : Prop where
  intent : ∀ mutation, job.row.mutation = some mutation → w.HasIntent job.id mutation
  uncertain : job.row.uncertain = true → job.row.mutation ≠ none

/-- A lookup is only made for an uncertain job, and a POST only carries the intent. -/
def RequestSound (job : Worker.Claimed) : Request → Prop
  | .receipt => job.row.uncertain = true
  | .dispatch mutation => w.HasIntent job.id mutation

/-- What a worker is about to record agrees with the ledger. -/
def VerdictSound (job : Worker.Claimed) : Worker.Verdict → Prop
  | .identityConflict => False
  | .reconciled result | .committed result => ∃ effect,
      w.remote.effects.lookup job.id = some effect ∧ result = Receiver.receipt job.id effect
  | _ => True

/-- What a worker settles next fits the ledger. -/
def NextSound (job : Worker.Claimed) : Worker.Next → Prop
  | .settle verdict => VerdictSound w job verdict
  | _ => True

/-- What a worker knows in each phase fits the ledger. -/
def PhaseSound : Phase → Prop
  | .idle => True
  | .claimed job | .preparing job _ => SnapshotSound w job
  | .deferring _ => True
  | .acquiring job _ request | .requesting job _ _ request =>
      SnapshotSound w job ∧ RequestSound w job request
  | .awaiting job _ _ mutation ticket => SnapshotSound w job ∧ w.HasIntent job.id mutation ∧
      ∃ post, w.sent[ticket]? = some post ∧ post.key = job.id ∧ post.mutation = mutation
  | .releasing job _ _ _ _ next => SnapshotSound w job ∧ NextSound w job next
  | .settling job verdict => VerdictSound w job verdict

/-- The response to a POST under `key`: no conflict, and a success is the receipt of the
effect under the key. -/
structure ResponseSound (key : Uuid) (response : Response) : Prop where
  no_conflict : response.status ≠ 409
  success : response.status = 200 ∨ response.status = 201 → ∃ effect,
    w.remote.effects.lookup key = some effect ∧
      response.content = .object (Receiver.receipt key effect)

/-- What holds of the ledger in every world that is reached. -/
structure LedgerSound : Prop where
  work : WorkSound w.db
  intents : IntentSound w.db
  /-- An effect is the job's intent, under its digest. -/
  effect : ∀ key effect, w.remote.effects.lookup key = some effect →
    effect.hash = digest effect.body ∧ w.HasIntent key effect.body
  /-- A POST carries the job's intent. -/
  sent : ∀ (ticket : ℕ) (post : Post), w.sent[ticket]? = some post →
    w.HasIntent post.key post.mutation
  response : ∀ (ticket : ℕ) (post : Post) (response : Response), w.sent[ticket]? = some post →
    post.response = some response → ResponseSound w post.key response
  phase : ∀ n, PhaseSound w (w.phase n)
  /-- A succeeded job is certain and holds the receipt of its effect. -/
  succeeded : ∀ id job, w.db.jobs.lookup id = some job → job.status = .succeeded →
    job.uncertain = false ∧ ∃ effect, w.remote.effects.lookup id = some effect ∧
      job.remoteResult = some (Receiver.receipt id effect)
  /-- No job ends with an identity conflict. -/
  conflict : ∀ id job, w.db.jobs.lookup id = some job →
    job.reason ≠ some .remoteIdentityConflict

end Sound

/-! ### What a worker knows stays true -/

section Mono

variable {w w' : World}

/-- A snapshot fits every later world. -/
theorem SnapshotSound.mono (h_ev : Evolves w w') {job : Worker.Claimed}
    (h : SnapshotSound w job) : SnapshotSound w' job :=
  ⟨fun m h_m => h_ev.intents _ _ (h.intent m h_m), h.uncertain⟩

/-- A verdict fits every later world. -/
theorem VerdictSound.mono (h_ev : Evolves w w') {job : Worker.Claimed}
    {verdict : Worker.Verdict} (h : VerdictSound w job verdict) : VerdictSound w' job verdict := by
  cases verdict with
  | reconciled result | committed result =>
    obtain ⟨effect, h_effect, h_result⟩ := h
    exact ⟨effect, h_ev.effects _ _ h_effect, h_result⟩
  | _ => exact h

/-- A response fits every later world. -/
theorem ResponseSound.mono (h_ev : Evolves w w') {key : Uuid} {response : Response}
    (h : ResponseSound w key response) : ResponseSound w' key response :=
  ⟨h.no_conflict, fun h_status => by
    obtain ⟨effect, h_effect, h_content⟩ := h.success h_status
    exact ⟨effect, h_ev.effects _ _ h_effect, h_content⟩⟩

/-- What a worker knows fits every later world. -/
theorem PhaseSound.mono (h_ev : Evolves w w') {phase : Phase} (h : PhaseSound w phase) :
    PhaseSound w' phase := by
  cases phase with
  | idle | deferring => trivial
  | claimed | preparing => exact SnapshotSound.mono h_ev h
  | settling => exact VerdictSound.mono h_ev h
  | acquiring job route request | requesting job route permit request =>
    refine ⟨h.1.mono h_ev, ?_⟩
    cases request with
    | receipt => exact h.2
    | dispatch mutation => exact h_ev.intents _ _ h.2
  | awaiting job route permit mutation ticket =>
    obtain ⟨h_snapshot, h_intent, post, h_post, h_key, h_mutation⟩ := h
    obtain ⟨post', h_post', h_key', h_mutation'⟩ := h_ev.sent _ _ h_post
    exact ⟨h_snapshot.mono h_ev, h_ev.intents _ _ h_intent, post', h_post',
      h_key'.trans h_key, h_mutation'.trans h_mutation⟩
  | releasing job route held failed cooldown next =>
    refine ⟨h.1.mono h_ev, ?_⟩
    cases next with
    | settle verdict => exact VerdictSound.mono h_ev h.2
    | prepare | raise => trivial

end Mono

/-! ### The decisions of `execute` -/

section Decisions

variable {w : World} {job : Worker.Claimed}

/-- A worker goes on with what it settles next. -/
theorem NextSound.next (h_snapshot : SnapshotSound w job) {route : Route}
    {next : Worker.Next} (h : NextSound w job next) : PhaseSound w (.next job route next) := by
  cases next with
  | prepare => exact h_snapshot
  | settle verdict => exact h
  | raise => trivial

/-- A worker that gives its permit back goes on with the same. -/
theorem NextSound.leave (h_snapshot : SnapshotSound w job) {route : Route}
    {permit : Option Held} {failed : Bool} {cooldown : ℕ} {next : Worker.Next}
    (h : NextSound w job next) : PhaseSound w (.leave job route permit failed cooldown next) := by
  cases permit with
  | none => exact h.next h_snapshot
  | some held => exact ⟨h_snapshot, h⟩

/-- What the lookup finds is the job's own effect. -/
theorem afterLookup_sound (h : LedgerSound w) (h_snapshot : SnapshotSound w job)
    (h_uncertain : job.row.uncertain = true) (handling : Receiver.Handling) :
    NextSound w job (Worker.afterLookup job (w.remote.answerGet handling job.id)) := by
  obtain ⟨mutation, h_mutation⟩ := Option.ne_none_iff_exists'.mp (h_snapshot.uncertain h_uncertain)
  cases handling with
  | failed => trivial
  | served credential now =>
    unfold Receiver.answerGet Receiver.getEffect
    dsimp only
    split
    · trivial
    split
    · trivial
    · rename_i effect h_effect
      obtain ⟨h_hash, h_intent⟩ := h.effect job.id effect h_effect
      have h_body : effect.body = mutation :=
        (h_snapshot.intent mutation h_mutation).unique h_intent
      have h_same : (Receiver.receipt job.id effect).hash = some (digest mutation) :=
        congrArg some (h_hash.trans (congrArg digest h_body))
      unfold Worker.afterLookup
      rw [if_pos rfl, h_mutation]
      dsimp only
      rw [if_neg (not_not.mpr h_same)]
      exact ⟨effect, h_effect, rfl⟩

/-- What the response to a POST says is what the ledger holds. -/
theorem afterPost_sound (h : LedgerSound w) {mutation : Mutation}
    (h_intent : w.HasIntent job.id mutation) {response : Response}
    (h_response : ResponseSound w job.id response) :
    NextSound w job (Worker.afterPost mutation response) := by
  unfold Worker.afterPost
  split
  · rename_i h_status
    obtain ⟨effect, h_effect, h_content⟩ := h_response.success h_status
    rw [h_content]
    dsimp only
    obtain ⟨h_hash, h_body⟩ := h.effect job.id effect h_effect
    have h_same : (Receiver.receipt job.id effect).hash = some (digest mutation) :=
      congrArg some (h_hash.trans (congrArg digest (h_intent.unique h_body)))
    rw [if_neg (not_not.mpr h_same)]
    exact ⟨effect, h_effect, rfl⟩
  split
  · trivial
  split <;> trivial

/-- The receiver's answer to a POST of the job's intent, and the ledger it leaves. -/
theorem answerPost_sound (h : LedgerSound w) (handling : Receiver.Handling) {key : Uuid}
    {mutation : Mutation} (h_intent : w.HasIntent key mutation) :
    let answer := w.remote.answerPost handling key mutation
    answer.1.status ≠ 409 ∧
    (answer.1.status = 200 ∨ answer.1.status = 201 → ∃ effect,
      answer.2.effects.lookup key = some effect ∧
        answer.1.content = .object (Receiver.receipt key effect)) ∧
    ∀ key' effect, answer.2.effects.lookup key' = some effect →
      w.remote.effects.lookup key' = some effect ∨
        (key' = key ∧ effect.hash = digest mutation ∧ effect.body = mutation) := by
  have h_answered := answerPost_cases handling key mutation w.remote
  generalize w.remote.answerPost handling key mutation = answer at h_answered ⊢
  cases h_answered with
  | refused response r' h_status h_effects =>
    have h_not : ∀ status ∈ [200, 201, 409], response.status ≠ status :=
      fun status h_mem h_eq => h_status (h_eq ▸ h_mem)
    refine ⟨h_not 409 (by decide), fun h_ok => ?_, fun _ _ h_effect => .inl (h_effects ▸ h_effect)⟩
    rcases h_ok with h_ok | h_ok
    · exact absurd h_ok (h_not 200 (by decide))
    · exact absurd h_ok (h_not 201 (by decide))
  | conflict previous h_previous h_hash =>
    -- the ledger holds the same mutation
    obtain ⟨h_own, h_body⟩ := h.effect key previous h_previous
    exact absurd (h_own.trans (congrArg digest (h_intent.unique h_body))) h_hash
  | repeated previous h_previous =>
    exact ⟨fun h_eq => (by cases h_eq), fun _ => ⟨previous, h_previous, rfl⟩,
      fun _ _ h_effect => .inl h_effect⟩
  | committed effect r' h_new h_hash h_body h_effects =>
    refine ⟨fun h_eq => (by cases h_eq),
      fun _ => ⟨effect, h_effects ▸ Table.lookup_insert_self _ _ _, rfl⟩, fun key' other h => ?_⟩
    change r'.effects.lookup key' = some other at h
    rw [h_effects, Table.lookup_insert] at h
    split at h
    · rename_i h_key
      obtain rfl := Option.some.inj h
      exact .inr ⟨h_key, h_hash, h_body⟩
    · exact .inl h

end Decisions

/-! ### Results are recorded by `finish` -/

/-- A job that has succeeded after a step had succeeded before it, or the step recorded
the success. -/
theorem succeeded_step {db : Db} (entry : Entry) {id : Uuid} {job' : Job}
    (h_after : (db.step entry).jobs.lookup id = some job') (h_status : job'.status = .succeeded) :
    db.jobs.lookup id = some job' ∨
    ∃ jitter token verdict, entry.tx = .finish jitter id token verdict ∧
      verdict.status = .succeeded ∧ job'.remoteResult = verdict.remoteResult ∧
      verdict.uncertain = some job'.uncertain := by
  cases job_move db entry id with
  | kept h_kept => exact .inl (h_kept.symm.trans h_after)
  | finished jitter token verdict _ job h_tx _ _ h_new =>
    obtain rfl := Option.some.inj (h_new.symm.trans h_after)
    refine .inr ⟨jitter, token, verdict, h_tx, ?_⟩
    have h_budget : (Worker.budgeted verdict.status verdict.reason job).1 = .succeeded := h_status
    unfold Worker.budgeted at h_budget
    split at h_budget
    · cases h_budget
    · refine ⟨h_budget, rfl, ?_⟩
      cases verdict <;> first | rfl | cases h_budget
  -- `prepare` keeps the status, which is leased
  | prepared _ _ job _ _ _ _ _ _ h_fence _ _ _ _ _ h_new =>
    obtain rfl := Option.some.inj (h_new.symm.trans h_after)
    have h_leased := (fenced_eq_false.mp h_fence).2
    rw [show job.status = .succeeded from h_status] at h_leased
    cases h_leased
  | proposed _ _ _ _ _ _ _ _ _ _ h_new | approved _ _ _ _ _ _ _ _ _ _ _ h_new
  | claimed _ _ _ _ _ _ _ _ _ h_new | deferred _ _ _ _ _ _ _ _ h_new
  | requeued _ _ _ _ _ _ _ _ _ _ _ _ h_new =>
    obtain rfl := Option.some.inj (h_new.symm.trans h_after)
    cases h_status

/-- Likewise for the reason of a job, which only `finish` writes. -/
theorem reason_step {db : Db} (entry : Entry) {id : Uuid} {job' : Job} {reason : JobReason}
    (h_after : (db.step entry).jobs.lookup id = some job') (h_reason : job'.reason = some reason) :
    (∃ job, db.jobs.lookup id = some job ∧ job.reason = some reason) ∨
    ∃ jitter token verdict, entry.tx = .finish jitter id token verdict ∧
      (reason = .retryExhausted ∨ reason = verdict.reason) := by
  cases job_move db entry id with
  | kept h_kept => exact .inl ⟨job', h_kept.symm.trans h_after, h_reason⟩
  | finished jitter token verdict _ job h_tx _ _ h_new =>
    obtain rfl := Option.some.inj (h_new.symm.trans h_after)
    refine .inr ⟨jitter, token, verdict, h_tx, ?_⟩
    have h_budget := Option.some.inj h_reason
    unfold Worker.budgeted at h_budget
    split at h_budget
    · exact .inl h_budget.symm
    · exact .inr h_budget.symm
  | proposed _ _ _ _ _ _ _ _ _ _ h_new | approved _ _ _ _ _ _ _ _ _ _ _ h_new =>
    obtain rfl := Option.some.inj (h_new.symm.trans h_after)
    cases h_reason
  | prepared _ _ old _ _ _ _ _ h_before _ _ _ _ _ _ h_new
  | claimed _ _ old _ _ h_before _ _ _ h_new | deferred _ _ _ old _ h_before _ _ h_new
  | requeued _ _ _ _ old _ _ _ _ _ h_before _ h_new =>
    obtain rfl := Option.some.inj (h_new.symm.trans h_after)
    exact .inl ⟨old, h_before, h_reason⟩

/-! ### The invariant holds -/

/-- What a step has to show: the clauses for what it changed. -/
structure Renewed (w w' : World) : Prop where
  work : WorkSound w'.db
  intents : IntentSound w'.db
  effect : ∀ key effect, w'.remote.effects.lookup key = some effect →
    w.remote.effects.lookup key = some effect ∨
      (effect.hash = digest effect.body ∧ w'.HasIntent key effect.body)
  sent : ∀ (ticket : ℕ) (post' : Post), w'.sent[ticket]? = some post' →
    (∃ post, w.sent[ticket]? = some post ∧ post'.key = post.key ∧
      post'.mutation = post.mutation) ∨ w'.HasIntent post'.key post'.mutation
  response : ∀ (ticket : ℕ) (post' : Post) (response : Response),
    w'.sent[ticket]? = some post' → post'.response = some response →
    w.sent[ticket]? = some post' ∨ ResponseSound w' post'.key response
  phase : ∀ n, w'.phase n = w.phase n ∨ PhaseSound w' (w'.phase n)
  succeeded : ∀ id job, w'.db.jobs.lookup id = some job → job.status = .succeeded →
    w.db.jobs.lookup id = some job ∨
      (job.uncertain = false ∧ ∃ effect, w'.remote.effects.lookup id = some effect ∧
        job.remoteResult = some (Receiver.receipt id effect))
  conflict : ∀ id job, w'.db.jobs.lookup id = some job →
    job.reason = some .remoteIdentityConflict →
    ∃ old, w.db.jobs.lookup id = some old ∧ old.reason = some .remoteIdentityConflict

/-- A step that sends and effects nothing keeps the ledger. -/
theorem LedgerSound.of_renewed {w w' : World} (h : LedgerSound w) (h_ev : Evolves w w')
    (h_new : Renewed w w') : LedgerSound w' where
  -- what is old is kept by the evolution, what is fresh is sound already
  work := h_new.work
  intents := h_new.intents
  effect key effect h_effect := by
    rcases h_new.effect key effect h_effect with h_old | h_fresh
    · exact ⟨(h.effect key effect h_old).1, h_ev.intents _ _ (h.effect key effect h_old).2⟩
    · exact h_fresh
  sent ticket post' h_post' := by
    rcases h_new.sent ticket post' h_post' with ⟨post, h_post, h_key, h_mutation⟩ | h_fresh
    · rw [h_key, h_mutation]
      exact h_ev.intents _ _ (h.sent ticket post h_post)
    · exact h_fresh
  response ticket post' response h_post' h_response := by
    rcases h_new.response ticket post' response h_post' h_response with h_old | h_fresh
    · exact (h.response ticket post' response h_old h_response).mono h_ev
    · exact h_fresh
  phase n := by
    rcases h_new.phase n with h_old | h_fresh
    · exact h_old ▸ (h.phase n).mono h_ev
    · exact h_fresh
  succeeded id job h_job h_status := by
    rcases h_new.succeeded id job h_job h_status with h_old | h_fresh
    · obtain ⟨h_certain, effect, h_effect, h_result⟩ := h.succeeded id job h_old h_status
      exact ⟨h_certain, effect, h_ev.effects _ _ h_effect, h_result⟩
    · exact h_fresh
  conflict id job h_job h_reason := by
    obtain ⟨old, h_old, h_reason⟩ := h_new.conflict id job h_job h_reason
    exact h.conflict id old h_old h_reason

/-- A step that leaves the tables, the ledger and the POSTs alone renews nothing but
phases. -/
theorem Renewed.of_phases {w w' : World} (h : LedgerSound w) (h_db : w'.db = w.db)
    (h_effects : w'.remote.effects = w.remote.effects) (h_sent : w'.sent = w.sent)
    (h_phase : ∀ n, w'.phase n = w.phase n ∨ PhaseSound w' (w'.phase n)) : Renewed w w' where
  work := h_db ▸ h.work
  intents := h_db ▸ h.intents
  effect _ _ h_effect := .inl (h_effects ▸ h_effect)
  sent _ post h_post := .inl ⟨post, h_sent ▸ h_post, rfl, rfl⟩
  response _ _ _ h_post _ := .inl (h_sent ▸ h_post)
  phase := h_phase
  succeeded _ _ h_job _ := .inl (h_db ▸ h_job)
  conflict _ job h_job h_reason := ⟨job, h_db ▸ h_job, h_reason⟩

/-- The worker that moved has the new phase, the others have theirs. -/
theorem phase_move {w w' : World} {n : ℕ} {phase : Phase}
    (h : w'.phase = Function.update w.phase n phase) (h_new : PhaseSound w' phase) (n' : ℕ) :
    w'.phase n' = w.phase n' ∨ PhaseSound w' (w'.phase n') := by
  by_cases h_eq : n' = n
  · subst h_eq
    rw [h, Function.update_self]
    exact .inr h_new
  · rw [h, Function.update_of_ne h_eq]
    exact .inl rfl

/-- The snapshot that `claim` returns is the row it wrote. -/
theorem claimed_snapshot {w w' : World} (h : IntentSound w.db) {now : Time} {leaseSeconds : ℤ}
    {locked : List Uuid} {job : Worker.Claimed} {db' : Db}
    (h_db : w'.db = w.db.step ⟨now, .claim leaseSeconds locked⟩)
    (h_claim : Worker.claim now leaseSeconds locked w.db = .ok (some job, db')) :
    SnapshotSound w' job := by
  replace h_db : w'.db = db' := by
    rw [h_db]
    change (Worker.claim now leaseSeconds locked w.db).commit w.db = db'
    rw [h_claim]
    rfl
  generalize h_reply : some job = reply at h_claim
  cases Worker.claim_cases h_claim with
  | nothing => cases h_reply
  | leased id old h_open h_job h_due =>
    obtain rfl := Option.some.inj h_reply
    have h_row : w'.db.jobs.lookup id =
        some (Worker.leased now leaseSeconds w.db.supply old) := by
      rw [h_db]
      exact Table.lookup_insert_self _ _ _
    exact ⟨fun m h_m => ⟨_, h_row, h_m⟩, h.uncertain id old h_job⟩

/-- The intent that `prepare` answers with is the one it wrote. -/
theorem prepared_sound {w w' : World} {now utc : Time} {job : Worker.Claimed} (route : Route)
    (h_db : w'.db = w.db.step ⟨now, .prepare utc job.id job.row.leaseToken⟩)
    (h_snapshot : SnapshotSound w' job) :
    PhaseSound w'
      (.prepared job route (Worker.prepare now utc job.id job.row.leaseToken w.db).answer) := by
  cases h_ok : Worker.prepare now utc job.id job.row.leaseToken w.db with
  | error fault => cases fault <;> trivial
  | ok answer =>
    obtain ⟨reply, db'⟩ := answer
    replace h_db : w'.db = db' := by
      rw [h_db]
      change (Worker.prepare now utc job.id job.row.leaseToken w.db).commit w.db = db'
      rw [h_ok]
      rfl
    cases Worker.prepare_cases h_ok with
    | closed | fenced => trivial
    -- no refusal of `prepare` leads to a verdict that speaks of an effect
    | invalid _ _ reason | changed =>
      unfold Phase.prepared Outcome.answer
      dsimp only
      split
      · rename_i verdict h_verdict
        cases verdict with
        | identityConflict | reconciled | committed =>
          unfold Worker.afterPrepare at h_verdict
          split at h_verdict <;> cases h_verdict
        | _ => trivial
      · trivial
    | authorized proposal row current mutation =>
      refine ⟨h_snapshot, Worker.intended mutation current, ?_, rfl⟩
      rw [h_db]
      exact Table.lookup_insert_self _ _ _

/-- Committing a transaction that is no `finish` renews nothing but phases. -/
theorem Renewed.of_commit {w w' : World} (h : LedgerSound w) (now : Time) (tx : Tx)
    (h_db : w'.db = w.db.step ⟨now, tx⟩) (h_remote : w'.remote = w.remote)
    (h_sent : w'.sent = w.sent)
    (h_phase : ∀ n, w'.phase n = w.phase n ∨ PhaseSound w' (w'.phase n))
    (h_finish : ∀ jitter id token verdict, tx = .finish jitter id token verdict →
      (verdict.status = .succeeded → verdict.uncertain = some false ∧
        ∃ effect, w.remote.effects.lookup id = some effect ∧
          verdict.remoteResult = some (Receiver.receipt id effect)) ∧
      verdict.reason ≠ .remoteIdentityConflict) : Renewed w w' where
  work := h_db ▸ h.work.step ⟨now, tx⟩
  intents := h_db ▸ h.intents.step h.work ⟨now, tx⟩
  effect _ _ h_effect := .inl (h_remote ▸ h_effect)
  sent _ post h_post := .inl ⟨post, h_sent ▸ h_post, rfl, rfl⟩
  response _ _ _ h_post _ := .inl (h_sent ▸ h_post)
  phase := h_phase
  succeeded id job h_job h_status := by
    rw [h_db] at h_job
    -- a job that succeeds now does so by its `finish`, whose receipt is of an effect
    rcases succeeded_step _ h_job h_status with h_old | ⟨jitter, token, verdict, h_tx, h_verdict,
      h_result, h_uncertain⟩
    · exact .inl h_old
    · obtain ⟨h_certain, effect, h_effect, h_receipt⟩ := (h_finish _ _ _ _ h_tx).1 h_verdict
      rw [h_certain] at h_uncertain
      rw [h_remote]
      exact .inr ⟨(Option.some.inj h_uncertain).symm, effect, h_effect, h_result.trans h_receipt⟩
  conflict id job h_job h_reason := by
    rw [h_db] at h_job
    rcases reason_step _ h_job h_reason with h_old | ⟨_, _, _, h_tx, h_eq | h_eq⟩
    · exact h_old
    · cases h_eq
    · exact absurd h_eq.symm (h_finish _ _ _ _ h_tx).2

/-- A verdict that agrees with the ledger is safe to record. -/
theorem VerdictSound.safe {w : World} {job : Worker.Claimed} {verdict : Worker.Verdict}
    (h : VerdictSound w job verdict) :
    (verdict.status = .succeeded → verdict.uncertain = some false ∧
      ∃ effect, w.remote.effects.lookup job.id = some effect ∧
        verdict.remoteResult = some (Receiver.receipt job.id effect)) ∧
    verdict.reason ≠ .remoteIdentityConflict := by
  cases verdict with
  | identityConflict => exact absurd h id
  | reconciled result | committed result =>
    obtain ⟨effect, h_effect, rfl⟩ := h
    exact ⟨fun _ => ⟨rfl, effect, h_effect, rfl⟩, fun h_eq => by cases h_eq⟩
  | _ => exact ⟨fun h_eq => (by cases h_eq), fun h_eq => by cases h_eq⟩

/-- Nobody but the worker records a result. -/
theorem isExternal_ne_finish {tx : Tx} (h : tx.isExternal = true) (jitter : Time) (id : Uuid)
    (token : Option Uuid) (verdict : Worker.Verdict) : tx ≠ .finish jitter id token verdict := by
  rintro rfl
  cases h

/-- **Every step keeps the ledger invariant.** -/
theorem LedgerSound.step {w : World} (h : LedgerSound w) (label : Label) :
    LedgerSound (w.step label) := by
  have h_ev := evolves_step h.work label
  have h_stepped := w.stepped label
  generalize w.step label = w' at h_stepped h_ev ⊢
  cases h_stepped with
  | stutter => exact h
  | planned => exact h.of_renewed h_ev (.of_phases h rfl rfl rfl fun _ => .inl rfl)
  | external now tx h_external =>
    refine h.of_renewed h_ev (.of_commit h now tx rfl rfl rfl (fun _ => .inl rfl) ?_)
    exact fun _ _ _ _ h_tx => absurd h_tx (isExternal_ne_finish h_external _ _ _ _)
  | moved n phase h_move =>
    have h_phase := h.phase n
    refine h.of_renewed h_ev (.of_phases h rfl rfl rfl (phase_move rfl ?_))
    refine PhaseSound.mono h_ev ?_
    -- a phase is sound for the state it was reached in, and for every later one
    generalize w.phase n = old at h_move h_phase
    cases h_move with
    | crashed | refused => trivial
    | look job route h_uncertain => exact ⟨h_phase, h_uncertain⟩
    | skip => exact h_phase
    | direct => exact h_phase
    | looked job route permit handling =>
      exact (afterLookup_sound h h_phase.1 h_phase.2 handling).leave h_phase.1
    | received job route permit mutation ticket post response h_post h_response =>
      obtain ⟨h_snapshot, h_intent, post', h_post', h_key, -⟩ := h_phase
      obtain rfl := Option.some.inj (h_post.symm.trans h_post')
      have h_sound := h.response ticket post response h_post h_response
      rw [h_key] at h_sound
      exact (afterPost_sound h h_intent h_sound).leave h_snapshot
    | unsent | unanswered =>
      exact NextSound.leave h_phase.1 (trivial : NextSound _ _ (.settle .outcomeUnknown))
  | committed n now tx phase h_commit =>
    have h_phase := (h.phase n).mono h_ev
    refine h.of_renewed h_ev (.of_commit h now tx rfl rfl rfl (phase_move rfl ?_) ?_)
    · generalize w.phase n = old at h_commit h_phase
      cases h_commit with
      | claimed leaseSeconds locked job db' h_claim => exact claimed_snapshot h.intents rfl h_claim
      | unclaimed | unreleased | finished | deferred => trivial
      | permitted => exact h_phase
      | postponed => trivial
      | prepared utc job route => exact prepared_sound route rfl h_phase
      | released job route held failed cooldown next => exact NextSound.next h_phase.1 h_phase.2
    · have h_old := h.phase n
      generalize w.phase n = old at h_commit h_old
      intro jitter id token verdict h_tx
      cases h_commit with
      | finished jitter' job verdict' =>
        cases h_tx
        exact VerdictSound.safe h_old
      | _ => cases h_tx
  -- the post in flight is the intent of the job
  | sent n job route permit mutation h_requesting =>
    have h_phase := (h.phase n).mono h_ev
    rw [h_requesting] at h_phase
    have h_moved : Renewed w (w.move n .idle) :=
      .of_phases h rfl rfl rfl (phase_move rfl trivial)
    refine h.of_renewed h_ev { h_moved with
      sent := fun ticket post' h_post' => ?_
      response := fun ticket post' response h_post' h_response => ?_
      phase := phase_move rfl ⟨h_phase.1, h_phase.2, _, List.getElem?_concat_length, rfl, rfl⟩ }
    all_goals
      change (w.sent ++ [_])[ticket]? = some post' at h_post'
      rw [List.getElem?_append] at h_post'
      split at h_post'
    · exact .inl ⟨post', h_post', rfl, rfl⟩
    · obtain ⟨-, rfl⟩ := List.mem_singleton.mp (List.mem_of_getElem? h_post')
      exact .inr h_phase.2
    · exact .inl h_post'
    · rw [List.mem_singleton.mp (List.mem_of_getElem? h_post')] at h_response
      cases h_response
  -- the receiver answers from its ledger, or commits this mutation
  | arrived ticket post handling h_post h_waiting =>
    have h_intent := h.sent ticket post h_post
    obtain ⟨h_status, h_success, h_effects⟩ := answerPost_sound h handling h_intent
    refine h.of_renewed h_ev
      { work := h.work
        intents := h.intents
        effect := fun key effect h_effect => ?_
        sent := fun ticket' post' h_post' => ?_
        response := fun ticket' post' response h_post' h_response => ?_
        phase := fun _ => .inl rfl
        succeeded := fun _ _ h_job _ => .inl h_job
        conflict := fun _ job h_job h_reason => ⟨job, h_job, h_reason⟩ }
    · rcases h_effects key effect h_effect with h_old | ⟨rfl, h_hash, h_body⟩
      · exact .inl h_old
      · refine .inr ⟨h_hash.trans (congrArg digest h_body.symm), ?_⟩
        rw [h_body]
        exact h_intent
    · rcases getElem?_set_cases h_post' with h_old | ⟨rfl, rfl⟩
      · exact .inl ⟨post', h_old, rfl, rfl⟩
      · exact .inl ⟨post, h_post, rfl, rfl⟩
    · rcases getElem?_set_cases h_post' with h_old | ⟨rfl, rfl⟩
      · exact .inl h_old
      · obtain rfl := Option.some.inj h_response
        exact .inr ⟨h_status, h_success⟩

/-- The ledger fits in every run of the world. -/
theorem ledger_sound (registry : Table String Destination) (owners : Table String String)
    (labels : List Label) : LedgerSound ((World.initial registry owners).run labels) := by
  refine run_invariant ?_ (fun _ label h => h.step label) labels
  exact
    { work := work_sound registry owners []
      intents := intent_sound registry owners []
      effect := fun _ _ h => (by cases h)
      sent := fun _ _ h => (by cases h)
      response := fun _ _ _ h => (by cases h)
      phase := fun _ => trivial
      succeeded := fun _ _ h => (by cases h)
      conflict := fun _ _ h => (by cases h) }

/-- A committed effect never changes. -/
theorem effect_stable (registry : Table String Destination) (owners : Table String String)
    {pre labels : List Label} (h : pre <+: labels) {key : Uuid} {effect : Effect}
    (h_effect : ((World.initial registry owners).run pre).remote.effects.lookup key =
      some effect) :
    ((World.initial registry owners).run labels).remote.effects.lookup key = some effect :=
  run_stable_of World.step _ (P := fun w => w.remote.effects.lookup key = some effect)
    (ledger_sound registry owners)
    (fun _ label h h_effect => (evolves_step h.work label).effects _ _ h_effect) h h_effect

/-- **Ledger agreement.** In every reachable world: (a) the ledger has at most one effect
per key, and an effect committed at any earlier moment is still there unchanged; (b) every
effect is under the id of a job whose stored mutation has the effect's digest, all POSTs
under one key carry one mutation, no POST is or would be answered 409, `prepare` never
answers `mutationChanged`, and no job has the reason of an identity conflict; (c) every
succeeded job is certain and holds the receipt and hash of the effect under its id. -/
theorem ledger_agreement (registry : Table String Destination) (owners : Table String String)
    (labels : List Label) :
    let w := (World.initial registry owners).run labels
    (w.remote.effects.keys.Nodup ∧ ∀ pre, pre <+: labels → ∀ key effect,
      ((World.initial registry owners).run pre).remote.effects.lookup key = some effect →
      w.remote.effects.lookup key = some effect) ∧
    (∀ key effect, w.remote.effects.lookup key = some effect → ∃ job mutation,
      w.db.jobs.lookup key = some job ∧ job.mutation = some mutation ∧
        digest mutation = effect.hash) ∧
    (∀ post ∈ w.sent, ∀ post' ∈ w.sent, post'.key = post.key →
      post'.mutation = post.mutation) ∧
    (∀ post ∈ w.sent,
      (∀ handling, (w.remote.answerPost handling post.key post.mutation).1.status ≠ 409) ∧
      ∀ response, post.response = some response → response.status ≠ 409) ∧
    (∀ now utc id token db',
      Worker.prepare now utc id token w.db ≠ .ok (.refused .mutationChanged, db')) ∧
    (∀ id job, w.db.jobs.lookup id = some job → job.reason ≠ some .remoteIdentityConflict) ∧
    ∀ id job, w.db.jobs.lookup id = some job → job.status = .succeeded →
      job.uncertain = false ∧ ∃ effect result, w.remote.effects.lookup id = some effect ∧
        job.remoteResult = some result ∧ result.receipt = some effect.receipt ∧
        result.hash = some effect.hash := by
  have h := ledger_sound registry owners labels
  refine ⟨⟨AList.keys_nodup _, fun pre h_pre key effect h_effect =>
      effect_stable registry owners h_pre h_effect⟩, fun key effect h_effect => ?_,
    fun post h_post post' h_post' h_key => ?_, fun post h_post => ⟨fun handling => ?_, ?_⟩,
    fun now utc id token db' => prepare_ne_mutationChanged h.intents now utc id token db',
    h.conflict, fun id job h_job h_status => ?_⟩
  · obtain ⟨h_hash, job, h_job, h_mutation⟩ := h.effect key effect h_effect
    exact ⟨job, effect.body, h_job, h_mutation, h_hash.symm⟩
  -- two posts of one job carry its one intent
  · obtain ⟨i, h_i⟩ := List.getElem?_of_mem h_post
    obtain ⟨j, h_j⟩ := List.getElem?_of_mem h_post'
    have h_intent' := h.sent j post' h_j
    rw [h_key] at h_intent'
    exact (h.sent i post h_i).unique h_intent'
  · obtain ⟨i, h_i⟩ := List.getElem?_of_mem h_post
    exact (answerPost_sound h handling (h.sent i post h_i)).1
  · obtain ⟨i, h_i⟩ := List.getElem?_of_mem h_post
    exact fun response h_response => (h.response i post response h_i h_response).no_conflict
  · obtain ⟨h_certain, effect, h_effect, h_result⟩ := h.succeeded id job h_job h_status
    exact ⟨h_certain, effect, _, h_effect, h_result, rfl, rfl⟩

end ControlPlane
