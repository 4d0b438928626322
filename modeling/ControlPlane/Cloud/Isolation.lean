import ControlPlane.Framework.Fallible
import ControlPlane.Model.Isolation
import Mathlib.Algebra.Order.Group.Multiset
import Mathlib.Data.List.Forall2

/-!
# What the isolation checker has established

A record that `check` accepts has its succeeded jobs and its effects in one to one
correspondence: the loop over the destinations collects all effects by key (`lanes_collected`), and
the loop over the jobs takes the effect of each succeeded job out of them until none is left
(`jobs_settled`). The sweep over the permits is exact (`concurrencyHolds_iff`), and
`isolation_sound` puts the clauses together.
-/

namespace ControlPlane.Isolation

open Framework

variable {record : Record} {report : Report}

/-- An assertion passes exactly if its test does. -/
theorem ensure_ok {test : Bool} {failure : Failure} {u : Unit} :
    ensure test failure = .ok u ↔ test = true := by
  cases test with
  | false => exact iff_of_false nofun nofun
  | true => exact iff_of_true rfl rfl

/-- An assertion fails only with its own failure. -/
theorem ensure_error {test : Bool} {failure failure' : Failure} :
    ensure test failure = .error failure' ↔ test = false ∧ failure' = failure := by
  cases test with
  | false => exact ⟨fun h => ⟨rfl, (Except.error.inj h).symm⟩, fun h => congrArg _ h.2.symm⟩
  | true => exact iff_of_false nofun nofun

/-! ### Statements about a record -/

/-- The effects of all destinations, each with its destination. -/
def Record.effects (record : Record) : List (String × Effect) :=
  record.destinations.entries.flatMap fun lane => lane.2.effects.map fun effect =>
    (lane.1, effect)

/-- The requests of all destinations, each with its destination. -/
def Record.requests (record : Record) : List (String × Request) :=
  record.destinations.entries.flatMap fun lane => lane.2.requests.map fun request =>
    (lane.1, request)

/-- The jobs that have succeeded. -/
def Record.succeeded (record : Record) : List Job :=
  record.jobs.filter (·.status = "succeeded")

/-- The effect of a succeeded job, in the job's own destination. -/
structure Fulfils (job : Job) (effect : String × Effect) : Prop where
  key : effect.2.key = job.id
  destination : effect.1 = job.destination
  hash : effect.2.hash = job.hash
  receipt : some effect.2.receipt = job.receipt

/-- How many permits of the destination are held at an instant. -/
def held (record : Record) (destination : String) (x : ℚ) : ℕ :=
  record.grants.countP fun grant =>
    grant.destination = destination && grant.issuedAt ≤ x && x < grant.finishedAt

/-- What an accepted record of a long run has established. -/
structure Isolated (record : Record) : Prop where
  /-- Succeeded jobs and effects correspond one to one, by key. -/
  fulfilled : ∃ effects, effects.Perm record.effects ∧
    List.Forall₂ Fulfils record.succeeded effects
  keys : (record.effects.map fun effect => effect.2.key).Nodup
  terminal : ∀ job ∈ record.jobs, job.status ∈ ["succeeded", "blocked", "dead"]
  permitted : ∀ request ∈ record.requests, ∃ grant ∈ record.grants,
    grant.token = request.2.permit ∧ grant.destination = request.1 ∧
      grant.kind = request.2.kind
  tokens : (record.grants.map (·.token)).Nodup
  unshared : (record.requests.map fun request => request.2.permit).Nodup
  budget : ∀ destination window, (record.grants.countP fun grant =>
    grant.destination = destination && grant.windowId = window) ≤ record.protocol.requestsPerSecond
  concurrency : ∀ destination x,
    held record destination x ≤ record.protocol.clientConcurrency

/-! ### The sweep -/

/-- What the sweep counts at a time are the permits held then. -/
theorem overlap_spans (destination : String) (x : ℚ) :
    Sweep.overlap (spans record.grants destination) x = held record destination x := by
  unfold Sweep.overlap spans held
  rw [List.countP_map, List.countP_filter]
  refine congrArg (List.countP · record.grants) (funext fun grant => ?_)
  show (decide (grant.issuedAt ≤ x ∧ x < grant.finishedAt) && decide (_ = destination)) = _
  -- the sweep filters by the destination first
  rw [Bool.and_comm, Bool.decide_and, ← Bool.and_assoc]

/-- The sweeps together are exact. -/
theorem concurrencyHolds_iff (h : ∀ grant ∈ record.grants, grant.issuedAt ≤ grant.finishedAt) :
    concurrencyHolds record = true ↔
      ∀ destination x, held record destination x ≤ record.protocol.clientConcurrency := by
  have h_spans : ∀ destination, ∀ span ∈ spans record.grants destination,
      span.start ≤ span.finish := by
    intro destination span h_span
    obtain ⟨grant, h_grant, rfl⟩ := List.mem_map.mp h_span
    exact h grant (List.mem_filter.mp h_grant).1
  unfold concurrencyHolds
  rw [List.all_eq_true]
  constructor
  · intro h_all destination x
    by_cases h_mem : destination ∈ (record.grants.map (·.destination)).dedup
    · rw [← overlap_spans]
      exact (Sweep.within_iff (h_spans destination)).mp (h_all destination h_mem) x
    · -- a destination without grants holds no permit
      have h_none : held record destination x = 0 := by
        refine List.countP_eq_zero.mpr fun grant h_grant h_held => h_mem ?_
        rw [Bool.and_eq_true, Bool.and_eq_true, decide_eq_true_eq] at h_held
        exact List.mem_dedup.mpr (List.mem_map.mpr ⟨grant, h_grant, h_held.1.1⟩)
      rw [h_none]
      exact Nat.zero_le _
  · intro h_held destination _
    refine (Sweep.within_iff (h_spans destination)).mpr fun x => ?_
    rw [overlap_spans]
    exact h_held destination x

/-! ### Counters -/

/-- No count is greater than the maximum. -/
theorem le_maximum {counts : List ℕ} {n : ℕ} (h : n ∈ counts) : n ≤ maximum counts := by
  induction counts with
  | nil => cases h
  | cons m counts ih =>
    rcases List.mem_cons.mp h with rfl | h
    · exact le_max_left _ _
    · exact (ih h).trans (le_max_right _ _)

/-- So no value occurs more often than the greatest counter says. -/
theorem count_le_maximum {α : Type} [DecidableEq α] (values : List α) (value : α) :
    values.count value ≤ maximum ((counter values).map Prod.snd) := by
  by_cases h : value ∈ values
  · refine le_maximum (List.mem_map.mpr ⟨(value, values.count value), ?_, rfl⟩)
    exact List.mem_map.mpr ⟨value, List.mem_dedup.mpr h, rfl⟩
  · rw [List.count_eq_zero.mpr h]
    exact Nat.zero_le _

/-! ### The loop over the destinations -/

/-- The row under which an effect is collected. -/
def row (effect : String × Effect) : Sigma fun _ : String => String × Effect :=
  ⟨effect.2.key, effect⟩

/-- The rows of effects, in no order. -/
def rowsOf (effects : List (String × Effect)) :
    Multiset (Sigma fun _ : String => String × Effect) :=
  (effects.map row : List _)

/-- The rows of two parts of the effects. -/
theorem rowsOf_append (a b : List (String × Effect)) : rowsOf (a ++ b) = rowsOf a + rowsOf b := by
  rw [rowsOf, List.map_append, ← Multiset.coe_add]
  rfl

/-- The loop over the effects of a lane collects a row for each. -/
theorem effects_rows {destination : String} {effects : List Effect} {receipts receipts' : Receipts}
    (h : effects.foldlM (checkEffect destination) receipts = .ok receipts') :
    receipts'.rows = rowsOf (effects.map fun effect => (destination, effect)) + receipts.rows := by
  -- the rows of what is to come and of what was collected make up all of them
  have h_end := foldlM_ok (I := fun rest now =>
    rowsOf (rest.map fun effect => (destination, effect)) + now.rows =
      rowsOf (effects.map fun effect => (destination, effect)) + receipts.rows) ?_ rfl h
  · rwa [List.map_nil, rowsOf, List.map_nil, Multiset.coe_nil, zero_add] at h_end
  · intro effect rest now now' h_now h_turn
    obtain ⟨_, h_new, h_insert⟩ := bind_eq_ok.mp h_turn
    obtain rfl := Except.ok.inj h_insert
    rw [Table.rows_insert_of_none (of_decide_eq_true (ensure_ok.mp h_new)), ← h_now,
      Multiset.add_cons, List.map_cons, ← Multiset.cons_add]
    rfl

/-- The permits and the effects of a stretch of destinations. -/
def permitsOf (lanes : List (Sigma fun _ : String => Lane)) : List String :=
  lanes.flatMap fun lane => lane.2.requests.map (·.permit)

/-- All effects, each with its destination. -/
def effectsOf (lanes : List (Sigma fun _ : String => Lane)) : List (String × Effect) :=
  lanes.flatMap fun lane => lane.2.effects.map fun effect => (lane.1, effect)

/-- **The loop over the destinations** collects the permits and the effects of all of them. -/
theorem lanes_collected {grants : List Grant} {lanes : List (Sigma fun _ : String => Lane)}
    {sent : List String} {receipts : Receipts}
    (h : lanes.foldlM (checkLane grants) ([], ∅) = .ok (sent, receipts)) :
    sent = permitsOf lanes ∧ receipts.rows = rowsOf (effectsOf lanes) ∧
      ∀ lane ∈ lanes, ∀ request ∈ lane.2.requests, checkRequest grants lane.1 request = .ok () := by
  -- the same invariant over the lanes, with the permits and the tests beside it
  have h_end := foldlM_ok (I := fun rest now => now.1 ++ permitsOf rest = permitsOf lanes ∧
    now.2.rows + rowsOf (effectsOf rest) = rowsOf (effectsOf lanes) ∧
    ∀ lane ∈ lanes, lane ∈ rest ∨
      ∀ request ∈ lane.2.requests, checkRequest grants lane.1 request = .ok ()) ?_ ?_ h
  · obtain ⟨h_sent, h_rows, h_requests⟩ := h_end
    refine ⟨?_, ?_, fun lane h_lane => (h_requests lane h_lane).resolve_left List.not_mem_nil⟩
    · rwa [permitsOf, List.flatMap_nil, List.append_nil] at h_sent
    · rwa [effectsOf, List.flatMap_nil, rowsOf, List.map_nil, Multiset.coe_nil, add_zero] at h_rows
  · rintro lane rest ⟨sent, receipts⟩ now ⟨h_sent, h_rows, h_requests⟩ h_turn
    obtain ⟨_, h_lane, h_turn⟩ := bind_eq_ok.mp h_turn
    obtain ⟨collected, h_effects, h_turn⟩ := bind_eq_ok.mp h_turn
    obtain rfl := Except.ok.inj h_turn
    refine ⟨?_, ?_, fun other h_other => ?_⟩
    · rw [List.append_assoc]
      exact h_sent
    · have h_split : effectsOf (lane :: rest) =
          lane.2.effects.map (fun effect => (lane.1, effect)) ++ effectsOf rest := List.flatMap_cons
      rw [effects_rows h_effects, ← h_rows, h_split, rowsOf_append, add_comm (rowsOf _), add_assoc]
    · rcases h_requests other h_other with h_mem | h_checked
      · rcases List.mem_cons.mp h_mem with rfl | h_mem
        · exact .inr (forM_ok h_lane)
        · exact .inl h_mem
      · exact .inr h_checked
  · refine ⟨rfl, ?_, fun lane h_lane => .inl h_lane⟩
    exact zero_add _

/-! ### The loop over the jobs -/

/-- **One job.** A succeeded job takes its effect out; any other job has none. -/
theorem checkJob_ok {receipts receipts' : Receipts} {job : Job}
    (h : checkJob receipts job = .ok receipts') :
    receipts' = receipts.erase job.id ∧ job.status ∈ ["succeeded", "blocked", "dead"] ∧
      ((job.status = "succeeded" ∧ ∃ effect, receipts.lookup job.id = some effect ∧
          effect.1 = job.destination ∧ effect.2.hash = job.hash ∧
          some effect.2.receipt = job.receipt) ∨
        (job.status ≠ "succeeded" ∧ receipts.lookup job.id = none)) := by
  obtain ⟨_, -, h⟩ := bind_eq_ok.mp h
  obtain ⟨_, h_receipt, h⟩ := bind_eq_ok.mp h
  obtain ⟨_, h_terminal, h⟩ := bind_eq_ok.mp h
  refine ⟨(Except.ok.inj h).symm, by simpa [or_assoc] using ensure_ok.mp h_terminal, ?_⟩
  -- only for a succeeded job is the effect looked up
  unfold checkReceipt at h_receipt
  split at h_receipt
  next h_succeeded =>
    refine .inl ⟨h_succeeded, ?_⟩
    split at h_receipt
    next => cases h_receipt
    next effect h_lookup =>
      obtain ⟨_, h_destination, h_receipt⟩ := bind_eq_ok.mp h_receipt
      obtain ⟨_, h_hash, h_receipt⟩ := bind_eq_ok.mp h_receipt
      exact ⟨effect, h_lookup, of_decide_eq_true (ensure_ok.mp h_destination),
        of_decide_eq_true (ensure_ok.mp h_hash), of_decide_eq_true (ensure_ok.mp h_receipt)⟩
  next h_not =>
    exact .inr ⟨h_not, Option.isNone_iff_eq_none.mp (ensure_ok.mp h_receipt)⟩

/-- The account of the jobs so far: what they took out of `receipts`, and what is left. -/
structure Settled (receipts : Receipts) (jobs : List Job) (left : Receipts) : Prop where
  keyed : ∀ key effect, left.lookup key = some effect → effect.2.key = key
  terminal : ∀ job ∈ jobs, job.status ∈ ["succeeded", "blocked", "dead"]
  taken : ∃ effects, List.Forall₂ Fulfils (jobs.filter (·.status = "succeeded")) effects ∧
    receipts.rows = rowsOf effects + left.rows

/-- One more job is settled. -/
theorem Settled.step {receipts left left' : Receipts} {jobs : List Job} {job : Job}
    (h : Settled receipts jobs left) (h_job : checkJob left job = .ok left') :
    Settled receipts (jobs ++ [job]) left' := by
  obtain ⟨rfl, h_terminal, h_receipt⟩ := checkJob_ok h_job
  obtain ⟨effects, h_fulfils, h_rows⟩ := h.taken
  refine ⟨fun key effect h_lookup => h.keyed key effect (Table.lookup_of_erase h_lookup), ?_, ?_⟩
  · intro other h_other
    rcases List.mem_append.mp h_other with h_other | h_other
    · exact h.terminal other h_other
    · exact List.mem_singleton.mp h_other ▸ h_terminal
  · rw [List.filter_append]
    rcases h_receipt with ⟨h_succeeded, effect, h_lookup, h_match⟩ | ⟨h_not, h_none⟩
    · obtain ⟨h_destination, h_hash, h_remote⟩ := h_match
      refine ⟨effects ++ [effect], ?_, ?_⟩
      · rw [List.filter_singleton, h_succeeded]
        exact List.rel_append h_fulfils
          (.cons ⟨h.keyed _ _ h_lookup, h_destination, h_hash, h_remote⟩ .nil)
      -- the effect leaves the receipts and joins those taken
      · have h_row : row effect = ⟨job.id, effect⟩ := Sigma.ext (h.keyed _ _ h_lookup) HEq.rfl
        have h_single : rowsOf [effect] = {⟨job.id, effect⟩} := by
          show ({row effect} : Multiset _) = _
          rw [h_row]
        rw [h_rows, Table.rows_erase_of_some h_lookup, rowsOf_append, h_single, add_assoc,
          Multiset.singleton_add]
    · refine ⟨effects, ?_, ?_⟩
      · rw [List.filter_singleton, decide_eq_false h_not]
        exact (List.append_nil _).symm ▸ h_fulfils
      · rw [h_rows, Table.rows_erase_of_none h_none]

/-- **The loop over the jobs.** -/
theorem jobs_settled {receipts left : Receipts} {jobs : List Job}
    (h_keyed : ∀ key effect, receipts.lookup key = some effect → effect.2.key = key)
    (h : jobs.foldlM checkJob receipts = .ok left) : Settled receipts jobs left := by
  have h_end := foldlM_ok (I := fun rest now => ∃ settled, jobs = settled ++ rest ∧
    Settled receipts settled now) ?_ ?_ h
  · obtain ⟨settled, h_jobs, h_settled⟩ := h_end
    rwa [h_jobs, List.append_nil]
  · rintro job rest now now' ⟨settled, rfl, h_settled⟩ h_turn
    exact ⟨settled ++ [job], by simp, h_settled.step h_turn⟩
  · exact ⟨[], rfl, h_keyed, nofun, [], .nil, (zero_add _).symm⟩

/-! ### Acceptance -/

/-- Succeeded jobs and effects correspond, where both loops run and leave nothing. -/
theorem fulfilled_of_loops {receipts left : Receipts} {sent : List String}
    (h_lanes : record.destinations.entries.foldlM (checkLane record.grants) ([], ∅) =
      .ok (sent, receipts))
    (h_jobs : record.jobs.foldlM checkJob receipts = .ok left) (h_left : left.entries = []) :
    (∃ effects, effects.Perm record.effects ∧ List.Forall₂ Fulfils record.succeeded effects) ∧
      (record.effects.map fun effect => effect.2.key).Nodup ∧
      ∀ job ∈ record.jobs, job.status ∈ ["succeeded", "blocked", "dead"] := by
  obtain ⟨-, h_rows, -⟩ := lanes_collected h_lanes
  have h_perm : receipts.entries.Perm (record.effects.map row) := Multiset.coe_eq_coe.mp h_rows
  have h_settled := jobs_settled (fun key effect h_lookup => ?_) h_jobs
  · obtain ⟨effects, h_fulfils, h_taken⟩ := h_settled.taken
    refine ⟨⟨effects, ?_, h_fulfils⟩, ?_, h_settled.terminal⟩
    · -- nothing is left, so the effects taken out are all of them
      have h_none : left.rows = 0 := congrArg _ h_left
      rw [h_rows, h_none, add_zero] at h_taken
      have h_map : (record.effects.map row).Perm (effects.map row) := Multiset.coe_eq_coe.mp h_taken
      have h_second := (h_map.map Sigma.snd).symm
      rwa [List.map_map, List.map_map, show Sigma.snd ∘ row = id from rfl, List.map_id,
        List.map_id] at h_second
    · have h_keys := (h_perm.map Sigma.fst).nodup_iff.mp receipts.nodupKeys
      rwa [List.map_map] at h_keys
  · -- an effect is collected under its own key
    obtain ⟨effect', -, h_row⟩ := List.mem_map.mp
      (h_perm.mem_iff.mp (Table.mem_entries.mpr h_lookup))
    cases h_row
    rfl

/-- The requests of an accepted record had permits of their own. -/
theorem permitted_of_lanes {receipts : Receipts} {sent : List String}
    (h_lanes : record.destinations.entries.foldlM (checkLane record.grants) ([], ∅) =
      .ok (sent, receipts)) :
    sent = (record.requests.map fun request => request.2.permit) ∧
      ∀ request ∈ record.requests, ∃ grant ∈ record.grants, grant.token = request.2.permit ∧
        grant.destination = request.1 ∧ grant.kind = request.2.kind := by
  obtain ⟨h_sent, -, h_checked⟩ := lanes_collected h_lanes
  refine ⟨?_, fun request h_request => ?_⟩
  · rw [h_sent, permitsOf, Record.requests, List.map_flatMap]
    refine congrArg (List.flatMap · _) (funext fun lane => ?_)
    rw [List.map_map]
    rfl
  · obtain ⟨lane, h_lane, h_request⟩ := List.mem_flatMap.mp h_request
    obtain ⟨request, h_mem, rfl⟩ := List.mem_map.mp h_request
    have h_check := h_checked lane h_lane request h_mem
    unfold checkRequest grantOf at h_check
    split at h_check
    next => cases h_check
    next grant h_find =>
      obtain ⟨_, h_destination, h_kind⟩ := bind_eq_ok.mp h_check
      have h_token := List.find?_some h_find
      exact ⟨grant, List.mem_of_find?_eq_some h_find, of_decide_eq_true h_token,
        of_decide_eq_true (ensure_ok.mp h_destination), of_decide_eq_true (ensure_ok.mp h_kind)⟩

/-- What a long run that is accepted has passed. -/
theorem concurrency_of_sustained {healthy : Lane} (h_long : record.protocol.sustained = true)
    (h : checkDuration record healthy = .ok ()) : concurrencyHolds record = true := by
  rw [checkDuration, if_pos h_long] at h
  obtain ⟨_, -, h⟩ := bind_eq_ok.mp h
  obtain ⟨_, -, h⟩ := bind_eq_ok.mp h
  obtain ⟨_, h_sweep, -⟩ := bind_eq_ok.mp h
  exact ensure_ok.mp h_sweep

/-- The record of a check that passes is isolated. -/
theorem isolated_of_check (h_long : record.protocol.sustained = true)
    (h_spans : ∀ grant ∈ record.grants, grant.issuedAt ≤ grant.finishedAt)
    (h : check record = .ok report) : Isolated record := by
  -- the assertions, one after the other
  obtain ⟨_, h_tokens, h⟩ := bind_eq_ok.mp h
  obtain ⟨_, h_budget, h⟩ := bind_eq_ok.mp h
  obtain ⟨⟨sent, receipts⟩, h_lanes, h⟩ := bind_eq_ok.mp h
  obtain ⟨_, h_sent, h⟩ := bind_eq_ok.mp h
  obtain ⟨left, h_jobs, h⟩ := bind_eq_ok.mp h
  obtain ⟨_, h_left, h⟩ := bind_eq_ok.mp h
  obtain ⟨healthy, -, h⟩ := bind_eq_ok.mp h
  obtain ⟨_, -, h⟩ := bind_eq_ok.mp h
  obtain ⟨_, -, h⟩ := bind_eq_ok.mp h
  obtain ⟨_, -, h⟩ := bind_eq_ok.mp h
  obtain ⟨_, -, h⟩ := bind_eq_ok.mp h
  obtain ⟨_, h_duration, -⟩ := bind_eq_ok.mp h
  obtain ⟨h_fulfilled, h_keys, h_terminal⟩ :=
    fulfilled_of_loops h_lanes h_jobs (List.isEmpty_iff.mp (ensure_ok.mp h_left))
  obtain ⟨h_permits, h_permitted⟩ := permitted_of_lanes h_lanes
  refine ⟨h_fulfilled, h_keys, h_terminal, h_permitted, of_decide_eq_true (ensure_ok.mp h_tokens),
    h_permits ▸ of_decide_eq_true (ensure_ok.mp h_sent), fun destination window => ?_,
    (concurrencyHolds_iff h_spans).mp (concurrency_of_sustained h_long h_duration)⟩
  -- the greatest counter bounds the pair of this destination and this window
  have h_count := count_le_maximum (record.grants.map fun p => (p.destination, p.windowId))
    (destination, window)
  unfold List.count at h_count
  rw [List.countP_map] at h_count
  refine (List.countP_mono_left fun grant _ h_grant => ?_).trans
    (h_count.trans (of_decide_eq_true (ensure_ok.mp h_budget)))
  simpa using h_grant

/-! ### The failure of the sweep -/

/-- The computation does not fail with the assertion of the sweep. -/
def Silent {α : Type} (x : Except Failure α) : Prop := x ≠ .error .clientConcurrency

section Silent

variable {α β : Type}

/-- What returns does not fail. -/
theorem silent_ok {a : α} : Silent (.ok a : Except Failure α) := nofun

/-- An assertion with another failure. -/
theorem silent_ensure {test : Bool} {failure : Failure} (h : failure ≠ .clientConcurrency) :
    Silent (ensure test failure) := fun h_error => h (ensure_error.mp h_error).2.symm

/-- Two parts, neither of which fails in this way. -/
theorem Silent.bind {x : Except Failure α} {f : α → Except Failure β} (h_x : Silent x)
    (h_f : ∀ a, Silent (f a)) : Silent (x >>= f) := fun h_error => by
  rcases bind_eq_error.mp h_error with h | ⟨a, -, h⟩
  · exact h_x h
  · exact h_f a h

/-- A failure of the sweep comes from behind a silent step. -/
theorem Silent.behind {x : Except Failure α} {f : α → Except Failure β} (h_x : Silent x)
    (h : x >>= f = .error .clientConcurrency) :
    ∃ a, x = .ok a ∧ f a = .error .clientConcurrency :=
  (bind_eq_error.mp h).resolve_left h_x

end Silent

/-- The loop over a lane never fails because of the concurrency. -/
theorem silent_checkLane (grants : List Grant) (state : List String × Receipts)
    (lane : Sigma fun _ : String => Lane) : Silent (checkLane grants state lane) := by
  refine Silent.bind (fun h => ?_) fun _ => Silent.bind (fun h => ?_) fun _ => silent_ok
  · obtain ⟨request, -, h⟩ := forM_error h
    unfold checkRequest at h
    split at h
    next => cases h
    next => exact (silent_ensure (by decide)).bind (fun _ => silent_ensure (by decide)) h
  · obtain ⟨effect, -, now, h⟩ := foldlM_error h
    exact (silent_ensure (by decide)).bind (fun _ => silent_ok) h

/-- Neither does the loop over the jobs. -/
theorem silent_checkJob (receipts : Receipts) (job : Job) : Silent (checkJob receipts job) := by
  refine Silent.bind ?_ fun _ => Silent.bind ?_ fun _ =>
    (silent_ensure (by decide)).bind fun _ => silent_ok
  -- a record without claims is not asked for them
  · unfold checkClaims
    split
    next => exact silent_ensure (by decide)
    next => exact silent_ok
  · unfold checkReceipt
    split
    next =>
      split
      next => exact nofun
      next =>
        exact (silent_ensure (by decide)).bind fun _ =>
          (silent_ensure (by decide)).bind fun _ => silent_ensure (by decide)
    next => exact silent_ensure (by decide)

/-- Neither do the assertions on the alerts. -/
theorem silent_checkAlerts (healthy : Lane) : Silent (checkAlerts record healthy) :=
  (silent_ensure (by decide)).bind fun _ => (silent_ensure (by decide)).bind fun _ =>
    silent_ensure (by decide)

/-- The sweep fails only where the assertion says so. -/
theorem not_concurrencyHolds {healthy : Lane}
    (h : checkDuration record healthy = .error .clientConcurrency) :
    concurrencyHolds record = false := by
  unfold checkDuration at h
  split at h
  next =>
    obtain ⟨_, -, h⟩ := (silent_ensure (by decide)).behind h
    obtain ⟨_, -, h⟩ := (silent_ensure (by decide)).behind h
    rcases bind_eq_error.mp h with h | ⟨_, -, h⟩
    · exact (ensure_error.mp h).1
    · obtain ⟨_, -, h⟩ := (silent_ensure (by decide)).behind h
      split at h
      · exact absurd h (silent_checkAlerts healthy)
      · cases h
  next => cases h

/-- So this failure comes from the sweep alone. -/
theorem concurrency_of_failure (h : check record = .error .clientConcurrency) :
    concurrencyHolds record = false := by
  obtain ⟨_, -, h⟩ := (silent_ensure (by decide)).behind h
  obtain ⟨_, -, h⟩ := (silent_ensure (by decide)).behind h
  -- nothing before the sweep fails with this assertion
  have h_lanes : Silent (record.destinations.entries.foldlM (checkLane record.grants) ([], ∅)) := by
    intro h_error
    obtain ⟨lane, -, state, h_turn⟩ := foldlM_error h_error
    exact silent_checkLane _ state lane h_turn
  obtain ⟨⟨sent, receipts⟩, -, h⟩ := h_lanes.behind h
  obtain ⟨_, -, h⟩ := (silent_ensure (by decide)).behind h
  have h_jobs : Silent (record.jobs.foldlM checkJob receipts) := by
    intro h_error
    obtain ⟨job, -, now, h_turn⟩ := foldlM_error h_error
    exact silent_checkJob now job h_turn
  obtain ⟨left, -, h⟩ := h_jobs.behind h
  obtain ⟨_, -, h⟩ := (silent_ensure (by decide)).behind h
  have h_lookup : Silent ((record.destinations.lookup "healthy").elim
      (.error .noHealthyDestination) .ok) := by
    cases record.destinations.lookup "healthy" with
    | none => exact nofun
    | some healthy => exact silent_ok
  obtain ⟨healthy, -, h⟩ := h_lookup.behind h
  obtain ⟨_, -, h⟩ := (silent_ensure (by decide)).behind h
  obtain ⟨_, -, h⟩ := (silent_ensure (by decide)).behind h
  obtain ⟨_, -, h⟩ := (silent_ensure (by decide)).behind h
  obtain ⟨_, -, h⟩ := (silent_ensure (by decide)).behind h
  rcases bind_eq_error.mp h with h | ⟨_, -, h⟩
  · exact not_concurrencyHolds h
  · cases h

/-- **Soundness of the isolation checker**, for a record of a run of at least five minutes whose
grants do not end before they were issued; and the sweep fails only where some instant exceeds
the limit. -/
theorem isolation_sound (record : Record)
    (h_long : 300 ≤ record.protocol.durationSeconds.getD 0)
    (h_spans : ∀ grant ∈ record.grants, grant.issuedAt ≤ grant.finishedAt) :
    (∀ report, check record = .ok report → Isolated record) ∧
      (check record = .error .clientConcurrency →
        ∃ destination x, record.protocol.clientConcurrency < held record destination x) := by
  refine ⟨fun report => isolated_of_check (decide_eq_true h_long) h_spans, fun h => ?_⟩
  by_contra h_none
  have h_holds := (concurrencyHolds_iff h_spans).mpr fun destination x =>
    not_lt.mp fun h_exceeds => h_none ⟨destination, x, h_exceeds⟩
  rw [concurrency_of_failure h] at h_holds
  cases h_holds

/-- A run of five minutes over two destinations, one of which fails. Of the permits of the other
one, which may have two at a time, the second overlaps the first, and the third is issued at the
instant at which the first is finished. -/
def twoDestinations : Record where
  protocol := {
    requestsPerSecond := 1, clientConcurrency := 2, backlogLimit := 2, faultStart := 10
    faultEnd := 20, fault := "server_error", minimumHealthyDuringFault := 3, proposals := 5
    durationSeconds := some 300 }
  grants := [⟨"p", "healthy", 12, "dispatch", 12, 14⟩, ⟨"q", "healthy", 13, "dispatch", 13, 15⟩,
    ⟨"r", "healthy", 14, "dispatch", 14, 16⟩, ⟨"s", "failing", 12, "dispatch", 12, 14⟩,
    ⟨"t", "failing", 14, "receipt", 14, 15⟩]
  destinations := ((∅ : Table String Lane).insert "healthy"
    { requests := [⟨"p", "POST", 12, 201⟩, ⟨"q", "POST", 13, 201⟩, ⟨"r", "POST", 14, 200⟩]
      effects := [⟨"a", "h", "x"⟩, ⟨"b", "i", "y"⟩, ⟨"c", "j", "z"⟩]
      alerts := [⟨"firing", .null⟩, ⟨"cleared", .null⟩] }).insert "failing"
    { requests := [⟨"s", "POST", 12, 500⟩, ⟨"t", "GET", 14, 404⟩], effects := [], alerts := [] }
  jobs := [⟨"a", "healthy", "succeeded", "h", some "x", 1, some 1⟩,
    ⟨"b", "healthy", "succeeded", "i", some "y", 1, some 2⟩,
    ⟨"c", "healthy", "succeeded", "j", some "z", 1, some 1⟩,
    ⟨"d", "failing", "dead", "k", none, 4, some 5⟩]
  proposed := 5
  accepted := 4
  rejected := 1
  safeToResume := true
  samples := [⟨2, [1, 2]⟩]
  alerts := [⟨"firing", .null⟩, ⟨"cleared", .null⟩]

/-- This record passes, and is isolated. -/
theorem twoDestinations_isolated : Isolated twoDestinations := by
  have h_sound := isolation_sound twoDestinations (by decide) (by decide)
  cases h_check : check twoDestinations with
  | ok report => exact h_sound.1 report h_check
  | error failure =>
    have h_some : (check twoDestinations).toOption.isSome = true := by decide
    rw [h_check] at h_some
    cases h_some

end ControlPlane.Isolation
