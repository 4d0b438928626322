import ControlPlane.Dispatch.Uncertain
import ControlPlane.Recovery.Compare

/-!
# Resuming on a safe comparison

A recovery replaces the control database by an earlier state of the run, while the ledger
of the receiver keeps all its effects (`World.restored`). The restored database may not
know of an effect at all, or only as an intent; the comparison against the ledger is what
rules this out. A safe comparison restores the invariant of the ledger
(`restored_sound`), so everything proved from it holds of every continuation.

A receipt that the comparison accepts for a job that has not succeeded belongs to a job
flagged uncertain. Such a job is looked up before anything else, the lookup finds the
effect, and so its `execute` never comes to a POST (`Reconciling`). More generally every
POST is sent by an attempt that had found its job certain when it claimed it, or that has
consulted the receiver since (`Consulted`).
-/

namespace ControlPlane

open Framework

/-! ### Restored worlds -/

/-- The receipts that the comparison reads from the ledger, `ORDER BY key`. -/
def Receiver.receipts (r : Receiver) : List (ReceiptView Mutation (Digest Mutation)) :=
  (sortedItems r.effects).map fun row => ⟨row.1, row.2.hash, some row.2.body, row.2.receipt⟩

/-- The control database is replaced by `db`, everything is stopped and nothing is on the
way. The ids drawn from now on are as fresh as ever: the supply does not run backward. -/
def World.restored (w : World) (db : Db) (supply : Uuid) : World where
  db := { db with supply := supply }
  remote := w.remote
  sent := []
  phase := fun _ => .idle
  log := []

/-- `recovery_snapshot` of the restored database against the ledger is safe. -/
def World.Safe (w : World) : Prop :=
  (Recovery.compareJobs w.db w.remote.receipts).safeToResume = true

/-! ### What a safe comparison says about the two databases -/

/-- An effect is among the receipts. -/
theorem mem_receipts {r : Receiver} {key : Uuid} {effect : Effect}
    (h : r.effects.lookup key = some effect) :
    (⟨key, effect.hash, some effect.body, effect.receipt⟩ :
      ReceiptView Mutation (Digest Mutation)) ∈ r.receipts :=
  List.mem_map.mpr ⟨⟨key, effect⟩, mem_sortedItems.mpr h, rfl⟩

/-- **A safe comparison, for one effect.** Its key is a job with an intent of the same
digest, which has succeeded or is flagged uncertain and not terminal. -/
theorem World.Safe.effect {w : World} (h : w.Safe) {key : Uuid} {effect : Effect}
    (h_effect : w.remote.effects.lookup key = some effect) :
    ∃ job mutation, w.db.jobs.lookup key = some job ∧ job.mutation = some mutation ∧
      digest mutation = effect.hash ∧ job.flagged := by
  have h_keys : (w.remote.receipts.map ReceiptView.key).Nodup := by
    unfold Receiver.receipts
    rw [List.map_map]
    exact keys_nodup_sortedItems w.remote.effects
  obtain ⟨view, h_view, h_key, ⟨mutation, h_mutation, -, h_digest⟩, h_case⟩ :=
    ((compare_iff (nodup_jobViews w.db) h_keys).mp h).intent _ (mem_receipts h_effect)
  obtain ⟨job, h_job, h_eq⟩ := mem_jobViews.mp h_view
  rw [h_eq] at h_mutation h_case
  have h_id : view.id = key := h_key
  rw [h_id] at h_job
  refine ⟨job, mutation, h_job, h_mutation, h_digest, ?_⟩
  rcases h_case with ⟨h_status, -⟩ | ⟨h_uncertain, -⟩
  · exact .inr h_status
  · exact .inl h_uncertain

/-- **A safe comparison restores the ledger invariant.** -/
theorem restored_sound {w w₀ : World} (h : LedgerSound w) (h₀ : LedgerSound w₀)
    (h_kept : ∀ key effect, w₀.remote.effects.lookup key = some effect →
      w.remote.effects.lookup key = some effect) {supply : Uuid}
    (h_supply : w₀.db.supply ≤ supply) (h_safe : (w.restored w₀.db supply).Safe) :
    LedgerSound (w.restored w₀.db supply) where
  work := ⟨fun id row h_row => (h₀.work.drawn id row h_row).trans_le h_supply, h₀.work.job,
    h₀.work.proposal⟩
  intents := ⟨fun id job mutation h_job h_mutation => by
    obtain ⟨p, row, h_intended⟩ := h₀.intents.intent id job mutation h_job h_mutation
    exact ⟨p, row, h_intended.h_proposal, h_intended.h_row, h_intended.h_revision,
      h_intended.h_le, h_intended.h_current⟩, h₀.intents.uncertain⟩
  effect key effect h_effect := by
    obtain ⟨h_hash, -⟩ := h.effect key effect h_effect
    obtain ⟨job, mutation, h_job, h_mutation, h_digest, -⟩ := h_safe.effect h_effect
    obtain rfl : mutation = effect.body := digest_inj.mp (h_digest.trans h_hash)
    exact ⟨h_hash, job, h_job, h_mutation⟩
  sent _ _ h_post := by cases h_post
  response _ _ _ h_post := by cases h_post
  phase _ := trivial
  succeeded id job h_job h_status := by
    obtain ⟨h_certain, effect, h_effect, h_result⟩ := h₀.succeeded id job h_job h_status
    exact ⟨h_certain, effect, h_kept id effect h_effect, h_result⟩
  conflict := h₀.conflict

/-! ### An effect that is there is looked up first -/

/-- The phases of a worker that has not passed the lookup of the job `id`, and will record
no verdict that clears its flag. -/
def Phase.Looking (id : Uuid) : Phase → Prop
  | .idle | .deferring _ => True
  | .claimed job => job.id = id → job.row.uncertain = true
  | .acquiring job _ request | .requesting job _ _ request => job.id = id → request = .receipt
  | .releasing job _ _ _ _ next => job.id = id →
      ∃ verdict, next = .settle verdict ∧ verdict.clears = false
  | .settling job verdict => job.id = id → verdict.clears = false
  | .preparing job _ | .awaiting job _ _ _ _ => job.id ≠ id

/-- The job `id` has its effect at the receiver, every attempt of it begins with a lookup,
and none has come to a POST. -/
structure Reconciling (w : World) (id : Uuid) : Prop where
  effect : ∃ effect, w.remote.effects.lookup id = some effect
  flagged : ∀ job, w.db.jobs.lookup id = some job → job.flagged
  phase : ∀ n, (w.phase n).Looking id
  sent : ∀ post ∈ w.sent, post.key ≠ id

/-- A worker goes on with a lookup. -/
theorem Phase.Looking.next {id : Uuid} {job : Worker.Claimed} {route : Route} {next : Worker.Next}
    (h : job.id = id → ∃ verdict, next = .settle verdict ∧ verdict.clears = false) :
    (Phase.next job route next).Looking id := by
  cases next with
  | prepare =>
    intro h_id
    obtain ⟨_, h_next, -⟩ := h h_id
    cases h_next
  | settle verdict =>
    intro h_id
    obtain ⟨_, h_next, h_clears⟩ := h h_id
    cases h_next
    exact h_clears
  | raise => trivial

/-- A worker that gives its permit back goes on with it. -/
theorem Phase.Looking.leave {id : Uuid} {job : Worker.Claimed} {route : Route}
    {permit : Option Held} {failed : Bool} {cooldown : ℕ} {next : Worker.Next}
    (h : job.id = id → ∃ verdict, next = .settle verdict ∧ verdict.clears = false) :
    (Phase.leave job route permit failed cooldown next).Looking id := by
  cases permit with
  | none => exact .next h
  | some held => exact h

/-- A lookup never answers that an existing effect is absent. -/
theorem afterLookup_of_effect {r : Receiver} {job : Worker.Claimed} {effect : Effect}
    (h_effect : r.effects.lookup job.id = some effect) (handling : Receiver.Handling) :
    ∃ verdict, Worker.afterLookup job (r.answerGet handling job.id) = .settle verdict ∧
      verdict.clears = false := by
  cases handling with
  | failed => exact ⟨.reconciliationUnavailable, rfl, rfl⟩
  | served credential now =>
    unfold Receiver.answerGet Receiver.getEffect
    dsimp only
    split
    · exact ⟨.reconciliationUnavailable, rfl, rfl⟩
    rw [h_effect]
    unfold Worker.afterLookup
    rw [if_pos rfl]
    cases job.row.mutation with
    | none => exact ⟨.identityConflict, rfl, rfl⟩
    | some mutation =>
      dsimp only
      split
      · exact ⟨.identityConflict, rfl, rfl⟩
      · exact ⟨.reconciled _, rfl, rfl⟩

/-- The other phases are left alone, and the new one is looking. -/
theorem looking_update {w w' : World} {id : Uuid} {n : ℕ} {phase : Phase}
    (h : ∀ m, (w.phase m).Looking id) (h_phase : w'.phase = Function.update w.phase n phase)
    (h_new : phase.Looking id) (m : ℕ) : (w'.phase m).Looking id := by
  rw [h_phase]
  by_cases h_eq : m = n
  · rw [h_eq, Function.update_self]
    exact h_new
  · rw [Function.update_of_ne h_eq]
    exact h m

/-- A job that is claimed while it is flagged is claimed uncertain. -/
theorem claimed_uncertain {now : Time} {leaseSeconds : ℤ} {locked : List Uuid} {db db' : Db}
    {job : Worker.Claimed} (h : Worker.claim now leaseSeconds locked db = .ok (some job, db'))
    (h_flagged : ∀ row, db.jobs.lookup job.id = some row → row.flagged) :
    job.row.uncertain = true := by
  generalize h_reply : some job = reply at h
  cases Worker.claim_cases h with
  | nothing => cases h_reply
  | leased id row _ h_row h_due =>
    obtain rfl := Option.some.inj h_reply
    exact (h_flagged row h_row).resolve_right fun h_status => by
      simp [Worker.due, h_status] at h_due

/-- `prepare` does not bring another job's worker to this job. -/
theorem prepared_looking {id : Uuid} {job : Worker.Claimed} (h : job.id ≠ id) (route : Route)
    (answer : Except Fault Worker.Prepared) : (Phase.prepared job route answer).Looking id := by
  unfold Phase.prepared
  split
  · exact fun h_id => absurd h_id h
  · split
    · exact fun h_id => absurd h_id h
    · trivial
  · exact fun h_id => absurd h_id h
  · trivial

/-- A job under reconciliation stays so. -/
theorem Reconciling.step {w : World} (h_ledger : LedgerSound w) {id : Uuid}
    (h : Reconciling w id) (label : Label) : Reconciling (w.step label) id := by
  have h_ev := evolves_step h_ledger.work label
  have h_stepped := w.stepped label
  generalize w.step label = w' at h_stepped h_ev ⊢
  obtain ⟨effect, h_effect⟩ := h.effect
  have h_found : ∃ effect, w'.remote.effects.lookup id = some effect :=
    ⟨effect, h_ev.effects id effect h_effect⟩
  obtain ⟨-, job₀, h_job₀, -⟩ := h_ledger.effect id effect h_effect
  -- a transaction keeps the flag, unless it finishes this job with a verdict that clears it
  have h_commit : ∀ now tx, (∀ jitter token verdict, tx = .finish jitter id token verdict →
      verdict.clears = false) →
      ∀ job, (w.db.step ⟨now, tx⟩).jobs.lookup id = some job → job.flagged :=
    fun now tx h_finish job h_job => flagged_step h_ledger.work ⟨now, tx⟩ h_job₀
      (h.flagged job₀ h_job₀) h_job fun jitter token verdict h_tx _ =>
        h_finish jitter token verdict h_tx
  cases h_stepped with
  | stutter | planned => exact ⟨h_found, h.flagged, h.phase, h.sent⟩
  | external now tx h_external =>
    exact ⟨h_found, h_commit now tx fun _ _ _ h_tx =>
      absurd h_tx (isExternal_ne_finish h_external _ _ _ _), h.phase, h.sent⟩
  | moved n phase h_move =>
    refine ⟨h_found, h.flagged, looking_update h.phase rfl ?_, h.sent⟩
    have h_phase := h.phase n
    generalize w.phase n = old at h_move h_phase
    cases h_move with
    | crashed => trivial
    | refused => exact fun _ => rfl
    -- the flag makes `execute` look first
    | look => exact fun _ => rfl
    | skip job route h_certain =>
      intro h_id
      rw [h_phase h_id] at h_certain
      cases h_certain
    | direct => exact h_phase
    -- the effect is found, so the lookup does not lead to `prepare`
    | looked job route permit handling =>
      refine Phase.Looking.leave fun h_id => ?_
      rw [← h_id] at h_effect
      exact afterLookup_of_effect h_effect handling
    | received => exact Phase.Looking.leave fun h_id => absurd h_id h_phase
    | unsent | unanswered => exact Phase.Looking.leave fun _ => ⟨.outcomeUnknown, rfl, rfl⟩
  | committed n now tx phase h_phaseCommit =>
    have h_phase := h.phase n
    generalize w.phase n = old at h_phaseCommit h_phase
    refine ⟨h_found, h_commit now tx fun jitter token verdict h_tx => ?_,
      looking_update h.phase rfl ?_, h.sent⟩
    · cases h_phaseCommit with
      | finished jitter' job verdict' =>
        cases h_tx
        exact h_phase rfl
      | _ => cases h_tx
    -- a claim takes the flag with it
    · cases h_phaseCommit with
      | claimed leaseSeconds locked job db' h_claim =>
        exact fun h_id => claimed_uncertain h_claim (h_id ▸ h.flagged)
      | unclaimed | postponed | unreleased | finished | deferred => trivial
      | permitted => exact h_phase
      | prepared utc job route => exact prepared_looking h_phase route _
      | released => exact .next h_phase
  | sent n job route permit mutation h_requesting =>
    have h_phase := h.phase n
    rw [h_requesting] at h_phase
    -- a worker at its POST is at another job
    have h_other : job.id ≠ id := fun h_id => by cases h_phase h_id
    refine ⟨h_found, h.flagged, looking_update h.phase rfl h_other, fun post h_post => ?_⟩
    rcases List.mem_append.mp h_post with h_old | h_new
    · exact h.sent post h_old
    · rw [List.mem_singleton.mp h_new]
      exact h_other
  | arrived ticket post handling h_post =>
    refine ⟨h_found, h.flagged, h.phase, fun post' h_post' => ?_⟩
    rcases List.mem_or_eq_of_mem_set h_post' with h_old | rfl
    · exact h.sent post' h_old
    · exact h.sent post (List.mem_of_getElem? h_post)

/-! ### Every attempt of an uncertain job consults the receiver -/

section Attempts

variable (r : World)

/-- Since `r`, a worker has claimed the job with this row. -/
def ClaimedIn (labels : List Label) (job : Worker.Claimed) : Prop :=
  ∃ pre n, pre <+: labels ∧ (r.run pre).phase n = .claimed job

/-- Since `r`, a worker that had claimed the job with this row has looked up its receipt,
and was answered that there is none. -/
inductive Consulted (labels : List Label) (job : Worker.Claimed) : Prop
  | intro (pre : List Label) (n : ℕ) (handling : Receiver.Handling) (route : Route)
      (permit : Option Held) (h_step : pre ++ [.get n handling] <+: labels)
      (h_phase : (r.run pre).phase n = .requesting job route permit .receipt)
      (h_answer : ((r.run pre).remote.answerGet handling job.id).status = 404)

/-- The job was claimed certain, or the receiver has been consulted. -/
def Cleared (labels : List Label) (job : Worker.Claimed) : Prop :=
  ClaimedIn r labels job ∧ (job.row.uncertain = true → Consulted r labels job)

/-- The attempt that sent the POST was cleared to. -/
def Attempted (labels : List Label) (post : Post) : Prop :=
  ∃ job, post.key = job.id ∧ post.lease = job.row.leaseToken ∧ Cleared r labels job

/-- A worker that is past the lookup was cleared to be. -/
def PhaseCleared (labels : List Label) : Phase → Prop
  | .idle | .deferring _ | .settling _ _ => True
  | .claimed job | .acquiring job _ .receipt | .requesting job _ _ .receipt
  | .awaiting job _ _ _ _ => ClaimedIn r labels job
  | .preparing job _ | .acquiring job _ (.dispatch _) | .requesting job _ _ (.dispatch _) =>
      Cleared r labels job
  | .releasing job _ _ _ _ next =>
      ClaimedIn r labels job ∧ (next = .prepare → Cleared r labels job)

/-- What holds of attempts in every run: a POST of an uncertain job comes behind its lookup. -/
structure AttemptsSound (labels : List Label) (w : World) : Prop where
  phase : ∀ n, PhaseCleared r labels (w.phase n)
  sent : ∀ post ∈ w.sent, Attempted r labels post

variable {r}

/-- A job that was claimed was so in any longer run. -/
theorem ClaimedIn.later {labels labels' : List Label} {job : Worker.Claimed}
    (h : ClaimedIn r labels job) (h_labels : labels <+: labels') : ClaimedIn r labels' job := by
  obtain ⟨pre, n, h_pre, h_phase⟩ := h
  exact ⟨pre, n, h_pre.trans h_labels, h_phase⟩

/-- So was a job that was cleared. -/
theorem Cleared.later {labels labels' : List Label} {job : Worker.Claimed}
    (h : Cleared r labels job) (h_labels : labels <+: labels') : Cleared r labels' job := by
  refine ⟨h.1.later h_labels, fun h_uncertain => ?_⟩
  obtain ⟨pre, n, handling, route, permit, h_step, h_phase, h_answer⟩ := h.2 h_uncertain
  exact ⟨pre, n, handling, route, permit, h_step.trans h_labels, h_phase, h_answer⟩

/-- So was one that was attempted. -/
theorem Attempted.later {labels labels' : List Label} {post : Post}
    (h : Attempted r labels post) (h_labels : labels <+: labels') : Attempted r labels' post := by
  obtain ⟨job, h_key, h_lease, h_cleared⟩ := h
  exact ⟨job, h_key, h_lease, h_cleared.later h_labels⟩

/-- So it is for every phase. -/
theorem PhaseCleared.later {labels labels' : List Label} {phase : Phase}
    (h : PhaseCleared r labels phase) (h_labels : labels <+: labels') :
    PhaseCleared r labels' phase := by
  cases phase with
  | idle | deferring | settling => trivial
  | claimed | awaiting => exact ClaimedIn.later h h_labels
  | preparing => exact Cleared.later h h_labels
  | acquiring job route request | requesting job route permit request =>
    cases request with
    | receipt => exact ClaimedIn.later h h_labels
    | dispatch => exact Cleared.later h h_labels
  | releasing => exact ⟨h.1.later h_labels, fun h_next => (h.2 h_next).later h_labels⟩

/-- A worker prepares a cleared job only. -/
theorem PhaseCleared.next {labels : List Label} {job : Worker.Claimed} {route : Route}
    {next : Worker.Next} (h : next = .prepare → Cleared r labels job) :
    PhaseCleared r labels (.next job route next) := by
  cases next with
  | prepare => exact h rfl
  | settle | raise => trivial

/-- So does one that gives its permit back. -/
theorem PhaseCleared.leave {labels : List Label} {job : Worker.Claimed} {route : Route}
    {permit : Option Held} {failed : Bool} {cooldown : ℕ} {next : Worker.Next}
    (h_claimed : ClaimedIn r labels job) (h : next = .prepare → Cleared r labels job) :
    PhaseCleared r labels (.leave job route permit failed cooldown next) := by
  cases permit with
  | none => exact .next h
  | some held => exact ⟨h_claimed, h⟩

/-- `execute` goes on from a lookup to `prepare` only on a `404`. -/
theorem afterLookup_eq_prepare {job : Worker.Claimed} {response : Response}
    (h : Worker.afterLookup job response = .prepare) : response.status = 404 := by
  unfold Worker.afterLookup at h
  split at h
  · split at h
    · cases h
    · cases h
    · cases h
    · split at h <;> cases h
  · split at h
    · cases h
    · rename_i h_status
      exact not_not.mp h_status

/-- No POST is followed by another one. -/
theorem afterPost_ne_prepare (mutation : Mutation) (response : Response) :
    Worker.afterPost mutation response ≠ .prepare := by
  unfold Worker.afterPost
  intro h
  split at h
  · split at h
    · cases h
    · cases h
    · split at h <;> cases h
  split at h
  · cases h
  split at h <;> cases h

/-- What is prepared was cleared. -/
theorem prepared_cleared {labels : List Label} {job : Worker.Claimed}
    (h : Cleared r labels job) (route : Route) (answer : Except Fault Worker.Prepared) :
    PhaseCleared r labels (.prepared job route answer) := by
  unfold Phase.prepared
  split
  · exact h
  · split <;> trivial
  · trivial
  · trivial

/-- Every step keeps it. -/
theorem AttemptsSound.step {labels : List Label} (h : AttemptsSound r labels (r.run labels))
    (label : Label) : AttemptsSound r (labels ++ [label]) ((r.run labels).step label) := by
  have h_later : labels <+: labels ++ [label] := List.prefix_append labels [label]
  have h_run : r.run (labels ++ [label]) = (r.run labels).step label := run_concat labels label
  have h_sent : ∀ post ∈ (r.run labels).sent, Attempted r (labels ++ [label]) post :=
    fun post h_post => (h.sent post h_post).later h_later
  have h_others : ∀ n, PhaseCleared r (labels ++ [label]) ((r.run labels).phase n) :=
    fun n => (h.phase n).later h_later
  -- a worker that moves has to be cleared for its new phase
  have h_move : ∀ (w' : World) n phase,
      w'.phase = Function.update (r.run labels).phase n phase →
      PhaseCleared r (labels ++ [label]) phase →
      ∀ m, PhaseCleared r (labels ++ [label]) (w'.phase m) := by
    intro w' n phase h_phase h_new m
    rw [h_phase]
    by_cases h_eq : m = n
    · rw [h_eq, Function.update_self]
      exact h_new
    · rw [Function.update_of_ne h_eq]
      exact h_others m
  have h_stepped := (r.run labels).stepped label
  generalize h_w' : (r.run labels).step label = w' at h_stepped h_run ⊢
  cases h_stepped with
  | stutter | planned | external => exact ⟨h_others, h_sent⟩
  | moved n phase h_moved =>
    refine ⟨h_move _ n phase rfl ?_, h_sent⟩
    have h_phase := h_others n
    generalize h_old : (r.run labels).phase n = old at h_moved h_phase
    cases h_moved with
    | crashed | refused => trivial
    | look => exact h_phase
    | skip job route h_certain =>
      exact ⟨h_phase, fun h_uncertain => by rw [h_certain] at h_uncertain; cases h_uncertain⟩
    | direct job request => cases request <;> exact h_phase
    -- this lookup is the one that the attempt has to have made
    | looked job route permit handling h_label =>
      refine .leave h_phase fun h_next => ⟨h_phase, fun _ => ?_⟩
      rw [h_label]
      exact ⟨labels, n, handling, route, permit, List.prefix_refl _, h_old,
        afterLookup_eq_prepare h_next⟩
    | received job route permit mutation ticket post response =>
      exact .leave h_phase fun h_next => absurd h_next (afterPost_ne_prepare mutation response)
    | unsent job route permit request =>
      refine .leave ?_ fun h_next => by cases h_next
      cases request with
      | receipt => exact h_phase
      | dispatch => exact h_phase.1
    | unanswered => exact .leave h_phase fun h_next => by cases h_next
  | committed n now tx phase h_commit =>
    refine ⟨h_move _ n phase rfl ?_, h_sent⟩
    have h_phase := h_others n
    generalize (r.run labels).phase n = old at h_commit h_phase
    cases h_commit with
    | claimed leaseSeconds locked job db' h_claim =>
      refine ⟨labels ++ [label], n, List.prefix_refl _, ?_⟩
      rw [h_run]
      exact Function.update_self n _ _
    | unclaimed | postponed | unreleased | finished | deferred => trivial
    | permitted job name destination request => cases request <;> exact h_phase
    | prepared utc job route => exact prepared_cleared h_phase route _
    | released => exact .next h_phase.2
  -- the worker was cleared for this POST
  | sent n job route permit mutation h_requesting =>
    have h_cleared := h_others n
    rw [h_requesting] at h_cleared
    refine ⟨h_move _ n _ rfl h_cleared.1, fun post h_post => ?_⟩
    rcases List.mem_append.mp h_post with h_old | h_new
    · exact h_sent post h_old
    · rw [List.mem_singleton.mp h_new]
      exact ⟨job, rfl, rfl, h_cleared⟩
  | arrived ticket post handling h_post =>
    refine ⟨h_others, fun post' h_post' => ?_⟩
    rcases List.mem_or_eq_of_mem_set h_post' with h_old | rfl
    · exact h_sent post' h_old
    · exact h_sent post (List.mem_of_getElem? h_post)

end Attempts

/-! ### Resuming -/

/-- **The comparison is exact, and resuming on it is safe.** First, for arbitrary rows with
distinct keys the verdict is safe exactly when the rows are `Comparable`. Second, let the
control database of any run be replaced by its state at any earlier moment, with
everything stopped, and let the comparison against the current ledger be safe. Then after
every continuation the effects of the ledger are still there, every effect is bound to a
job of the same digest, no POST has carried other content than the effect under its key,
and no POST was sent under a key that had its effect already; every POST comes from an
attempt that had found its job certain or consulted the receiver before. -/
theorem recovery_comparison :
    (∀ (Doc Hash : Type) [DecidableEq Hash] (digest : Doc → Hash) (isEmpty : Doc → Bool)
      (jobs : List (JobView Doc Hash)) (receipts : List (ReceiptView Doc Hash)),
      (jobs.map JobView.id).Nodup → (receipts.map ReceiptView.key).Nodup →
      ((compareReceipts digest isEmpty jobs receipts).safeToResume = true ↔
        Comparable digest isEmpty jobs receipts)) ∧
    ∀ (registry : Table String Destination) (owners : Table String String)
      (pre labels : List Label) (supply : Uuid), pre <+: labels →
      ((World.initial registry owners).run pre).db.supply ≤ supply →
      let r := ((World.initial registry owners).run labels).restored
        ((World.initial registry owners).run pre).db supply
      r.Safe → ∀ more,
        (∀ key effect, r.remote.effects.lookup key = some effect →
          (r.run more).remote.effects.lookup key = some effect) ∧
        (∀ key effect, (r.run more).remote.effects.lookup key = some effect → ∃ job mutation,
          (r.run more).db.jobs.lookup key = some job ∧ job.mutation = some mutation ∧
            digest mutation = effect.hash) ∧
        (∀ post ∈ (r.run more).sent, ∀ effect,
          (r.run more).remote.effects.lookup post.key = some effect →
            digest post.mutation = effect.hash) ∧
        ∀ post ∈ (r.run more).sent,
          r.remote.effects.lookup post.key = none ∧ Attempted r more post := by
  refine ⟨fun _ _ _ _ _ _ _ h_jobs h_receipts => compare_iff h_jobs h_receipts, ?_⟩
  intro registry owners pre labels supply h_pre h_supply r h_safe more
  -- the restored world is a world whose ledger agrees, so the run goes on from there
  have h_restored : LedgerSound r := restored_sound (ledger_sound registry owners labels)
    (ledger_sound registry owners pre)
    (fun _ _ h => effect_stable registry owners h_pre h) h_supply h_safe
  have h_sound : ∀ more, LedgerSound (r.run more) :=
    run_invariant h_restored fun _ label h => h.step label
  have h_attempts : AttemptsSound r more (r.run more) :=
    run_induction World.step r (P := AttemptsSound r)
      ⟨fun _ => trivial, fun _ h => (by cases h)⟩ (fun _ label h => h.step label) more
  refine ⟨fun key effect h_effect => ?_, fun key effect h_effect => ?_,
    fun post h_post effect h_effect => ?_, fun post h_post => ⟨?_, h_attempts.sent post h_post⟩⟩
  · exact run_stable_of World.step r
      (P := fun w => w.remote.effects.lookup key = some effect) h_sound
      (fun _ label h h_found => (evolves_step h.work label).effects _ _ h_found)
      (List.nil_prefix (l := more)) h_effect
  · obtain ⟨h_hash, job, h_job, h_mutation⟩ := (h_sound more).effect key effect h_effect
    exact ⟨job, effect.body, h_job, h_mutation, h_hash.symm⟩
  · obtain ⟨h_hash, h_body⟩ := (h_sound more).effect post.key effect h_effect
    obtain ⟨i, h_i⟩ := List.getElem?_of_mem h_post
    rw [((h_sound more).sent i post h_i).unique h_body] at h_hash
    exact h_hash.symm
  · cases h_effect : r.remote.effects.lookup post.key with
    | none => rfl
    | some effect =>
      -- the effect was there, so no attempt of its job has come to a POST
      have h_reconciling : Reconciling (r.run more) post.key := by
        refine (run_invariant (I := fun w => LedgerSound w ∧ Reconciling w post.key)
          ⟨h_restored, ⟨effect, h_effect⟩, fun job h_job => ?_, fun _ => trivial,
            fun _ h => (by cases h)⟩ (fun _ label h => ⟨h.1.step label, h.2.step h.1 label⟩) more).2
        obtain ⟨job', -, h_job', -, -, h_flagged⟩ := h_safe.effect h_effect
        obtain rfl := Option.some.inj (h_job'.symm.trans h_job)
        exact h_flagged
      exact absurd rfl (h_reconciling.sent post h_post)

end ControlPlane
