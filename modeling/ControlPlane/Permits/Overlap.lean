import ControlPlane.Model.Clients
import ControlPlane.Permits.Safety

/-!
# Requests at the same time

A permit row stands for a request for thirty seconds, and `acquire` counts the rows. So the
requests to a destination are bounded by its concurrency as long as no permit is granted
while one of them has outlived its own (`Timely`): the rows of those in flight are then all
counted.

The timeout does not see to that. It bounds each wait of a request and not the request, and a
receiver that sends its response in pieces keeps one going for as long as it likes
(`slowResponse`).
-/

namespace ControlPlane

open Framework

/-! ### The bound -/

/-- At most `limit` workers are in a request to the destination. -/
def Bounded (w : World) (name : String) (limit : ℕ) : Prop :=
  ∀ workers : List ℕ, workers.Nodup →
    (∀ n ∈ workers, ∃ permit, (w.phase n).outgoing = some (name, permit)) →
      workers.length ≤ limit

/-- When a permit is granted, no request to the destination has outlived its own permit: the
row is there, and has not expired at the reading of the clock. -/
def Timely (c : Clients) : Happening → Prop
  | .act (.acquire n now) => ∀ job name destination request,
      c.world.phase n = .acquiring job (some (name, destination)) request →
      Capacity.Granted now name destination request.kind c.world.db →
      ∀ m held, (c.world.phase m).outgoing = some (name, some held) →
        ∃ permit, c.world.db.requestPermits.lookup held.token = some permit ∧ now < permit.expires
  | _ => True

theorem Bounded.of_outgoing {w w' : World} {name : String} {limit : ℕ} (h : Bounded w name limit)
    (h_outgoing : ∀ n permit, (w'.phase n).outgoing = some (name, permit) →
      ∃ permit', (w.phase n).outgoing = some (name, permit')) : Bounded w' name limit := by
  intro workers h_nodup h_workers
  refine h workers h_nodup fun n h_n => ?_
  obtain ⟨permit, h_permit⟩ := h_workers n h_n
  exact h_outgoing n permit h_permit

/-! ### Which steps start a request -/

section Steps

variable {w : World} {n : ℕ} {label : Label} {now : Time} {tx : Tx} {phase phase' : Phase}

theorem leave_outgoing (job : Worker.Claimed) (route : Route) (permit : Option Held)
    (failed : Bool) (cooldown : ℕ) (decision : Worker.Next) :
    (Phase.leave job route permit failed cooldown decision).outgoing = none := by
  cases permit with
  | none => cases decision <;> rfl
  | some held => rfl

/-- Between its transactions a worker starts no request to a registered destination. -/
theorem PhaseMove.outgoing (h : PhaseMove w n label phase phase') : phase'.outgoing = none := by
  cases h with
  | crashed | refused | look | skip | direct => rfl
  | looked | received | unsent | unanswered => exact leave_outgoing ..

/-- A request starts with its permit. -/
theorem PhaseCommit.outgoing (h : PhaseCommit w now tx phase phase')
    {name : String} {permit : Option Held} (h_outgoing : phase'.outgoing = some (name, permit)) :
    ∃ job destination request, phase = .acquiring job (some (name, destination)) request ∧
      tx = .acquire name destination request.kind ∧
      ∃ token db', Capacity.acquire now name destination request.kind w.db =
        .ok (some token, db') := by
  cases h with
  | claimed | unclaimed | postponed | unreleased | finished | deferred => cases h_outgoing
  | released job route held failed cooldown next =>
    cases next <;> cases h_outgoing
  | prepared utc job route =>
    generalize (Worker.prepare now utc job.id job.row.leaseToken w.db).answer = answer
      at h_outgoing
    unfold Phase.prepared at h_outgoing
    split at h_outgoing
    · cases h_outgoing
    · split at h_outgoing <;> cases h_outgoing
    · cases h_outgoing
    · cases h_outgoing
  | permitted job name' destination request token db' h_acquire =>
    cases h_outgoing
    exact ⟨job, destination, request, rfl, rfl, token, db', h_acquire⟩

/-- **A request starts with its permit.** -/
theorem outgoing_step (w : World) (label : Label) {name : String} {m : ℕ} {permit : Option Held}
    (h : ((w.step label).phase m).outgoing = some (name, permit)) :
    (∃ permit', (w.phase m).outgoing = some (name, permit')) ∨
      ∃ now job destination request, label = .acquire m now ∧
        w.phase m = .acquiring job (some (name, destination)) request ∧
        Capacity.Granted now name destination request.kind w.db := by
  have h_stepped := w.stepped label
  generalize w.step label = w' at h_stepped h
  -- another worker than the one that has moved
  have h_other : ∀ n phase, (Function.update w.phase n phase m).outgoing = some (name, permit) →
      m ≠ n → (w.phase m).outgoing = some (name, permit) := by
    intro n phase h_update h_ne
    rw [Function.update_of_ne h_ne] at h_update
    exact h_update
  cases h_stepped with
  | stutter | planned | external | arrived => exact .inl ⟨permit, h⟩
  | moved n phase h_move =>
    by_cases h_same : m = n
    · subst h_same
      have h_phase : (w.move m phase).phase m = phase := Function.update_self ..
      rw [h_phase, h_move.outgoing] at h
      cases h
    · exact .inl ⟨permit, h_other n phase h h_same⟩
  | committed n now tx phase h_commit h_label h_acquire =>
    by_cases h_same : m = n
    · subst h_same
      have h_phase : (w.commitMove m now tx phase).phase m = phase := Function.update_self ..
      rw [h_phase] at h
      -- of the transactions, only an `acquire` that was granted starts a request
      obtain ⟨job, destination, request, h_before, h_tx, token, db', h_ok⟩ := h_commit.outgoing h
      refine .inr ⟨now, job, destination, request, h_acquire _ _ _ h_tx, h_before, ?_⟩
      obtain ⟨reply, db'', h_ok', h_result⟩ :=
        Capacity.acquire_result now name destination request.kind w.db
      rw [h_ok'] at h_ok
      cases h_ok
      cases h_result with
      | granted h_granted => exact h_granted
    · exact .inl ⟨permit, h_other n phase h h_same⟩
  -- the request goes on while the worker waits for its response
  | sent n job route permit' mutation h_before =>
    by_cases h_same : m = n
    · subst h_same
      have h_phase : (w.send m job route permit' mutation).phase m =
          .awaiting job route permit' mutation w.sent.length := Function.update_self ..
      rw [h_phase] at h
      refine .inl ⟨permit, ?_⟩
      rw [h_before]
      cases route with
      | none => cases h
      | some route => exact h
    · exact .inl ⟨permit, h_other n _ h h_same⟩

end Steps

/-! ### The permits of the requests in flight -/

/-- The token of the permit that the worker holds. -/
def Phase.token (phase : Phase) : Uuid := phase.held.elim 0 Held.token

/-- A request to a registered destination holds a permit that is logged for it. -/
theorem CarriedBy.outgoing {db : Db} {phase : Phase} (h : CarriedBy db phase) {name : String}
    {permit : Option Held} (h_outgoing : phase.outgoing = some (name, permit)) :
    ∃ held row, permit = some held ∧ phase.held = some held ∧
      db.capacityRequests.lookup held.token = some row ∧ row.destination = name := by
  have h_carried : ∃ kind route, Carried db kind (some (name, route)) permit ∧
      phase.held = permit := by
    cases phase with
    | requesting job route permit' request =>
      cases route with
      | none => cases h_outgoing
      | some route =>
        cases h_outgoing
        exact ⟨_, _, h, rfl⟩
    | awaiting job route permit' mutation ticket =>
      cases route with
      | none => cases h_outgoing
      | some route =>
        cases h_outgoing
        exact ⟨_, _, h, rfl⟩
    | _ => cases h_outgoing
  obtain ⟨kind, route, h_carried, h_held⟩ := h_carried
  obtain ⟨held, rfl, h_destination⟩ := Option.map_eq_some_iff.mp h_carried.own
  obtain ⟨row, h_row, h_same, -⟩ := h_carried.logged held rfl
  exact ⟨held, row, rfl, h_held, h_row, h_same.trans h_destination⟩

/-- While their permits have not expired, the requests in flight are counted by `acquire`. -/
theorem PermitsSound.counted {registry : Table String Destination} {w : World}
    (h : PermitsSound registry w) {name : String} {now : Time}
    (h_live : ∀ m held, (w.phase m).outgoing = some (name, some held) →
      ∃ permit, w.db.requestPermits.lookup held.token = some permit ∧ now < permit.expires) :
    Bounded w name (Capacity.outstanding (Capacity.refresh now name w.db) name) := by
  intro workers h_nodup h_workers
  have h_held : ∀ n ∈ workers, ∃ held row, (w.phase n).outgoing = some (name, some held) ∧
      (w.phase n).held = some held ∧ w.db.capacityRequests.lookup held.token = some row ∧
      row.destination = name := by
    intro n h_n
    obtain ⟨permit, h_outgoing⟩ := h_workers n h_n
    obtain ⟨held, row, rfl, h_held, h_row⟩ := (h.carried n).outgoing h_outgoing
    exact ⟨held, row, h_outgoing, h_held, h_row⟩
  have h_token : ∀ n held, (w.phase n).held = some held → (w.phase n).token = held.token := by
    intro n held h_some
    rw [Phase.token, h_some]
    rfl
  -- the workers have different tokens
  have h_tokens : (workers.map fun n => (w.phase n).token).Nodup := by
    refine List.Nodup.map_on (fun n h_n m h_m h_same => ?_) h_nodup
    obtain ⟨held, -, -, h_n, -⟩ := h_held n h_n
    obtain ⟨held', -, -, h_m, -⟩ := h_held m h_m
    by_contra h_ne
    rw [h_token n held h_n, h_token m held' h_m] at h_same
    exact h.distinct n m held held' h_ne h_n h_m h_same
  rw [← List.length_map fun n => (w.phase n).token]
  -- each of them has its row, which has not expired
  refine Table.length_le_count h_tokens fun token h_mem => ?_
  obtain ⟨n, h_n, rfl⟩ := List.mem_map.mp h_mem
  obtain ⟨held, row, h_outgoing, h_some, h_row, h_destination⟩ := h_held n h_n
  obtain ⟨permit, h_permit, h_expires⟩ := h_live n held h_outgoing
  obtain ⟨row', h_row', h_same⟩ := h.log.rows held.token permit h_permit
  obtain rfl := Option.some.inj (h_row.symm.trans h_row')
  rw [h_token n held h_some]
  refine ⟨permit, Table.lookup_filter_eq_some.mpr ⟨h_permit, ?_⟩, ?_⟩
  · rw [decide_eq_false (not_le.mpr h_expires), Bool.and_false]
    rfl
  · exact decide_eq_true (h_same.symm.trans h_destination)

/-! ### One step -/

theorem Clients.world_step (c : Clients) (happening : Happening) :
    (c.step happening).world = c.world ∨
      ∃ label, happening = .act label ∧ (c.step happening).world = c.world.step label := by
  cases happening with
  | piece | pass => exact .inl rfl
  | act label =>
    refine .inr ⟨label, rfl, ?_⟩
    show (c.act label).world = c.world.step label
    unfold Clients.act
    cases label <;> rfl

/-- **A timely step keeps the bound.** -/
theorem Bounded.step {registry : Table String Destination} {c : Clients} {name : String}
    {route : Destination} (h : Bounded c.world name route.concurrency)
    (h_sound : PermitsSound registry c.world) (h_route : registry.lookup name = some route)
    {happening : Happening} (h_timely : Timely c happening) :
    Bounded (c.step happening).world name route.concurrency := by
  rcases c.world_step happening with h_same | ⟨label, rfl, h_step⟩
  · rw [h_same]
    exact h
  rw [h_step]
  by_cases h_start : ∃ n now job destination request, label = .acquire n now ∧
      c.world.phase n = .acquiring job (some (name, destination)) request ∧
      Capacity.Granted now name destination request.kind c.world.db
  · obtain ⟨n, now, job, destination, request, rfl, h_phase, h_granted⟩ := h_start
    -- workers carry the routes of the registry
    obtain rfl : destination = route := by
      refine Option.some.inj (Eq.trans ?_ h_route)
      refine (h_sound.routed n name destination ?_).symm
      rw [h_phase]
      rfl
    have h_counted := h_sound.counted (h_timely job name destination request h_phase h_granted)
    intro workers h_nodup h_workers
    -- all but the one that has just got its permit were in a request before
    have h_before : (workers.erase n).length ≤
        Capacity.outstanding (Capacity.refresh now name c.world.db) name := by
      refine h_counted _ (h_nodup.erase n) fun m h_m => ?_
      obtain ⟨permit, h_permit⟩ := h_workers m (List.mem_of_mem_erase h_m)
      rcases outgoing_step c.world _ h_permit with h_old | ⟨now', _, _, _, h_label, -⟩
      · exact h_old
      · cases h_label
        exact absurd rfl (h_nodup.mem_erase_iff.mp h_m).1
    calc workers.length ≤ (workers.erase n).length + 1 := by
          rw [List.length_erase]
          split <;> omega
      _ ≤ Capacity.outstanding (Capacity.refresh now name c.world.db) name + 1 :=
          Nat.succ_le_succ h_before
      _ ≤ destination.concurrency := h_granted.live
  · refine h.of_outgoing fun m permit h_permit => ?_
    rcases outgoing_step c.world label h_permit with
      h_old | ⟨now, job, destination, request, h_label, h_phase, h_granted⟩
    · exact h_old
    · exact absurd ⟨m, now, job, destination, request, h_label, h_phase, h_granted⟩ h_start

/-! ### Runs -/

/-- **Client concurrency.** As long as every permit is granted in time, the requests to a
destination in flight are no more than its concurrency. -/
theorem client_concurrency (registry : Table String Destination) (owners : Table String String)
    (happenings : List Happening)
    (h_timely : Meets Clients.step Timely (Clients.initial registry owners) happenings)
    {name : String} {route : Destination} (h_route : registry.lookup name = some route) :
    Bounded ((Clients.initial registry owners).run happenings).world name route.concurrency := by
  refine (Meets.invariant (I := fun c : Clients => PermitsSound registry c.world ∧
    Bounded c.world name route.concurrency) ⟨permits_sound registry owners [], ?_⟩
    (fun c happening h_ok h => ⟨?_, h.2.step h.1 h_route h_ok⟩) h_timely).2
  · intro workers h_nodup h_workers
    cases workers with
    | nil => exact Nat.zero_le _
    | cons n workers =>
      obtain ⟨permit, h_permit⟩ := h_workers n List.mem_cons_self
      cases h_permit
  · rcases c.world_step happening with h_same | ⟨label, -, h_step⟩
    · rw [h_same]
      exact h.1
    · rw [h_step]
      exact h.1.step label

/-- One destination, which admits one request at a time. -/
def sinkRegistry : Table String Destination :=
  AList.insert "sink" ⟨⟨"http", "", "", "localhost", "", ""⟩, "TOKEN", 10, 1, 10⟩ ∅

def sinkOwners : Table String String := AList.insert "sales" "sink" ∅

/-- Two jobs wait for the destination, and a worker sends the request of the first. -/
def firstRequest : List Happening :=
  let event : SourceEvent := ⟨"event", "subject", 1, { (FieldMap.empty : FieldMap Field.Value)
    with email := some "a@example.test", owner := some "sales" }⟩
  [.act (.commit 0 (.ingest .crm event)),
    .act (.commit 0 (.propose .agent ⟨100, 0, 1, .syncProfile, "synchronise", .welcome⟩)),
    .act (.commit 0 (.propose .agent ⟨200, 0, 1, .syncProfile, "synchronise", .welcome⟩)),
    .act (.claim 0 0 60 []), .act (.route 0 fun _ => true), .act (.prepare 0 0 0),
    .act (.acquire 0 0), .act (.post 0)]

/-- One destination, which admits two requests at a time. -/
def twinRegistry : Table String Destination :=
  AList.insert "sink" ⟨⟨"http", "", "", "localhost", "", ""⟩, "TOKEN", 10, 2, 10⟩ ∅

/-- A second worker sends the request of the other job. -/
def bothRequests : List Happening := firstRequest ++
  [.act (.claim 1 0 60 []), .act (.route 1 fun _ => true), .act (.prepare 1 0 0),
    .act (.acquire 1 0), .act (.post 1)]

/-- The bound is met by two requests in flight, the second of which was granted while the permit
of the first had not expired. -/
theorem both_requests_bounded :
    Meets Clients.step Timely (Clients.initial twinRegistry sinkOwners) bothRequests ∧
      Bounded ((Clients.initial twinRegistry sinkOwners).run bothRequests).world "sink" 2 ∧
      ∀ n ∈ [0, 1], ∃ permit, (((Clients.initial twinRegistry sinkOwners).run
        bothRequests).world.phase n).outgoing = some ("sink", permit) := by
  have h_timely : Meets Clients.step Timely (Clients.initial twinRegistry sinkOwners)
      bothRequests := by
    refine ⟨trivial, trivial, trivial, trivial, trivial, trivial, ?_, trivial, trivial, trivial,
      trivial, ?_, trivial, trivial⟩
    · intro job name destination request h_phase h_granted m held h_held
      match m with
      | 0 => cases h_held
      | m + 1 => cases h_held
    -- the first request has the permit of the first grant
    · intro job name destination request h_phase h_granted m held h_held
      match m with
      | 0 =>
        cases h_held
        exact ⟨_, rfl, by decide⟩
      | 1 => cases h_held
      | m + 2 => cases h_held
  have h_route : twinRegistry.lookup "sink" =
      some ⟨⟨"http", "", "", "localhost", "", ""⟩, "TOKEN", 10, 2, 10⟩ := rfl
  refine ⟨h_timely, client_concurrency twinRegistry sinkOwners bothRequests h_timely h_route, ?_⟩
  simp only [List.mem_cons, List.not_mem_nil, or_false]
  rintro n (rfl | rfl)
  · exact ⟨_, rfl⟩
  · exact ⟨_, rfl⟩

/-! ### A slow response -/

/-- The response comes in pieces, five seconds apart. After thirty seconds the permit has
expired, and a second worker is granted the next one. -/
def slowResponse : List Happening := firstRequest ++
  [.pass 5000000, .piece 0, .pass 5000000, .piece 0, .pass 5000000, .piece 0,
    .pass 5000000, .piece 0, .pass 5000000, .piece 0, .pass 5000000, .piece 0,
    .act (.claim 1 (seconds 30) 60 []), .act (.route 1 fun _ => true),
    .act (.prepare 1 (seconds 30) (seconds 30)), .act (.acquire 1 (seconds 30))]

/-- While the first worker waits for the next piece, at most five seconds pass. -/
theorem prompt_wait {c : Clients} (h_first : (c.world.phase 0).inRequest = true)
    (h_others : ∀ n, c.world.phase (n + 1) = .idle) (h_waiting : c.waiting 0 = c.time) :
    Clients.Prompt c (.pass 5000000) := by
  intro n
  cases n with
  | zero => exact .inr ⟨h_first, by rw [h_waiting]; exact le_refl _⟩
  | succ n => exact .inl (h_others n)

/-- Every wait of the run is within the timeout and the clock of the database shows the time,
and still two requests are in flight to a destination that admits one. -/
theorem slow_response_overlaps :
    Meets Clients.step Clients.Prompt (Clients.initial sinkRegistry sinkOwners) slowResponse ∧
      Meets Clients.step Clients.Honest (Clients.initial sinkRegistry sinkOwners) slowResponse ∧
      ¬ Bounded ((Clients.initial sinkRegistry sinkOwners).run slowResponse).world "sink" 1 := by
  refine ⟨⟨trivial, trivial, trivial, trivial, trivial, trivial, trivial, trivial,
    prompt_wait rfl (fun _ => rfl) rfl, trivial, prompt_wait rfl (fun _ => rfl) rfl, trivial,
    prompt_wait rfl (fun _ => rfl) rfl, trivial, prompt_wait rfl (fun _ => rfl) rfl, trivial,
    prompt_wait rfl (fun _ => rfl) rfl, trivial, prompt_wait rfl (fun _ => rfl) rfl, trivial,
    trivial, trivial, trivial, trivial, trivial⟩,
    ⟨trivial, trivial, trivial, trivial, trivial, trivial, rfl, trivial, trivial, trivial,
      trivial, trivial, trivial, trivial, trivial, trivial, trivial, trivial, trivial, trivial,
      trivial, trivial, trivial, rfl, trivial⟩, ?_⟩
  intro h
  have h_two := h [0, 1] (by decide) fun n h_n => ?_
  · exact absurd h_two (by decide)
  · rcases List.mem_pair.mp h_n with rfl | rfl
    · exact ⟨_, rfl⟩
    · exact ⟨_, rfl⟩

end ControlPlane
