import ControlPlane.Dispatch.Steps
import ControlPlane.Permits.Bucket

/-!
# A permit for every request

`Client.request` takes a permit, performs one request under it and gives it back, and the
process may die at any point in between. So a permit is carried by one worker from the grant
on (`Carried`), by no other one, and it is completed by the worker that carries it or by
nobody: what a crash leaves behind is a row that expires, and a token that nobody has.
-/

namespace ControlPlane

open Framework

/-! ### What a worker carries -/

namespace Phase

/-- The route of the job, where it is known. -/
def route : Phase → Route
  | .acquiring _ route _ | .requesting _ route _ _ | .awaiting _ route _ _ _
  | .releasing _ route _ _ _ _ | .preparing _ route => route
  | _ => none

/-- The permit that the worker holds. -/
def held : Phase → Option Held
  | .requesting _ _ permit _ | .awaiting _ _ permit _ _ => permit
  | .releasing _ _ held _ _ _ => some held
  | _ => none

end Phase

/-- The permit is logged for the destination and the kind of the request, and is not
completed. -/
structure Carried (db : Db) (kind : Option RequestKind) (route : Route) (permit : Option Held) :
    Prop where
  own : permit.map Held.destination = route.map Prod.fst
  logged : ∀ held, permit = some held → ∃ row, db.capacityRequests.lookup held.token = some row ∧
    row.destination = held.destination ∧ ∀ k, kind = some k → row.kind = k
  unfinished : ∀ held, permit = some held → db.capacityCompletions.lookup held.token = none

/-- The worker carries the permit that its phase needs. -/
def CarriedBy (db : Db) : Phase → Prop
  | .requesting _ route permit request => Carried db (some request.kind) route permit
  | .awaiting _ route permit _ _ => Carried db (some .dispatch) route permit
  | .releasing _ route held _ _ _ => Carried db none route (some held)
  | _ => True

/-- The invariant of the workers and the traffic. -/
structure PermitsSound (registry : Table String Destination) (w : World) : Prop where
  destinations : w.db.destinations = registry
  log : LogSound w.db
  routed : ∀ n name destination, (w.phase n).route = some (name, destination) →
    registry.lookup name = some destination
  carried : ∀ n, CarriedBy w.db (w.phase n)
  distinct : ∀ n m held held', n ≠ m → (w.phase n).held = some held →
    (w.phase m).held = some held' → held.token ≠ held'.token

/-! ### Between two transactions -/

section Moves

variable {db : Db} {w : World} {n : ℕ} {label : Label} {phase phase' : Phase}

theorem CarriedBy.logged (h : CarriedBy db phase) {held : Held} (h_held : phase.held = some held) :
    (db.capacityRequests.lookup held.token).isSome ∧
      db.capacityCompletions.lookup held.token = none := by
  have h_carried : ∃ kind route permit, Carried db kind route permit ∧ permit = some held := by
    cases phase with
    | requesting job route permit request => exact ⟨_, _, _, h, h_held⟩
    | awaiting job route permit mutation ticket => exact ⟨_, _, _, h, h_held⟩
    | releasing job route held' failed cooldown next => exact ⟨_, _, _, h, h_held⟩
    | _ => cases h_held
  obtain ⟨kind, route, permit, h_carried, h_permit⟩ := h_carried
  obtain ⟨row, h_row, -⟩ := h_carried.logged held h_permit
  exact ⟨Option.isSome_iff_exists.mpr ⟨row, h_row⟩, h_carried.unfinished held h_permit⟩

/-- What the phase after a request carries: the permit, if there is one. -/
theorem leave_carried {kind : Option RequestKind} {route : Route} {permit : Option Held}
    (h : Carried db kind route permit) (job : Worker.Claimed) (failed : Bool) (cooldown : ℕ)
    (decision : Worker.Next) :
    CarriedBy db (.leave job route permit failed cooldown decision) ∧
      (Phase.leave job route permit failed cooldown decision).held = permit := by
  cases permit with
  | none => cases decision <;> exact ⟨trivial, rfl⟩
  | some held => exact ⟨⟨h.own, fun held' h_held => by
      obtain ⟨row, h_row, h_destination, -⟩ := h.logged held' h_held
      exact ⟨row, h_row, h_destination, nofun⟩, h.unfinished⟩, rfl⟩

/-- A worker that moves on keeps its permit, or has none. -/
theorem PhaseMove.carried (h : PhaseMove w n label phase phase') (h_carried : CarriedBy db phase) :
    CarriedBy db phase' ∧ ∀ held, phase'.held = some held → phase.held = some held := by
  cases h with
  | crashed | refused | look | skip => exact ⟨trivial, nofun⟩
  | direct => exact ⟨⟨rfl, nofun, nofun⟩, nofun⟩
  | looked job route permit handling =>
    have h_leave := leave_carried h_carried job
    exact ⟨(h_leave ..).1, fun held h_held => (h_leave ..).2.symm.trans h_held⟩
  | received job route permit mutation ticket post response =>
    have h_leave := leave_carried h_carried job
    exact ⟨(h_leave ..).1, fun held h_held => (h_leave ..).2.symm.trans h_held⟩
  | unsent job route permit request | unanswered job route permit mutation ticket =>
    have h_leave := leave_carried h_carried job
    exact ⟨(h_leave ..).1, fun held h_held => (h_leave ..).2.symm.trans h_held⟩

/-- The route that `capacity.destination` returns is the registered one. -/
theorem destination_registered {environ : String → Bool} {id : Uuid} {name : String}
    {destination : Destination}
    (h : Capacity.destination environ id db = .ok (some (name, destination))) :
    db.destinations.lookup name = some destination := by
  unfold Capacity.destination at h
  split at h
  · split at h <;> cases h
  · rename_i name' route h_route
    dsimp only at h
    split at h
    · cases h
    split at h
    · cases h
    split at h
    · cases h
    cases h
    obtain ⟨name', -, h_name⟩ := Option.bind_eq_some_iff.mp h_route
    obtain ⟨destination', h_lookup, h_eq⟩ := Option.map_eq_some_iff.mp h_name
    cases h_eq
    exact h_lookup

theorem leave_route (job : Worker.Claimed) (route : Route) (permit : Option Held) (failed : Bool)
    (cooldown : ℕ) (decision : Worker.Next) :
    (Phase.leave job route permit failed cooldown decision).route = route ∨
      (Phase.leave job route permit failed cooldown decision).route = none := by
  cases permit with
  | none => cases decision <;> first | exact .inl rfl | exact .inr rfl
  | some held => exact .inl rfl

/-- The route of a job comes from the registry. -/
theorem PhaseMove.routed (h : PhaseMove w n label phase phase') {name : String}
    {destination : Destination} (h_route : phase'.route = some (name, destination)) :
    phase.route = some (name, destination) ∨
      w.db.destinations.lookup name = some destination := by
  have h_leave : ∀ {job route permit failed cooldown decision},
      (Phase.leave job route permit failed cooldown decision).route = some (name, destination) →
      route = some (name, destination) := by
    intro job route permit failed cooldown decision h_leave
    rcases leave_route job route permit failed cooldown decision with h_same | h_none
    · exact h_same.symm.trans h_leave
    · rw [h_none] at h_leave
      cases h_leave
  cases h with
  | crashed | refused | direct => cases h_route
  | look job route h_uncertain environ h_destination
  | skip job route h_certain environ h_destination =>
    obtain rfl : route = some (name, destination) := h_route
    exact .inr (destination_registered h_destination)
  | looked | received | unsent | unanswered => exact .inl (h_leave h_route)

end Moves

/-! ### Transactions -/

section Commits

variable {db : Db} {w : World} {now : Time} {tx : Tx} {phase phase' : Phase}

/-- Nobody writes the registry. -/
theorem destinations_step (db : Db) (entry : Entry) :
    (db.step entry).destinations = db.destinations := by
  obtain ⟨now, tx⟩ := entry
  by_cases h_propose : ∀ actor command, tx ≠ .propose actor command
  · exact congrArg Routing.destinations (routing_apply now db h_propose)
  push Not at h_propose
  obtain ⟨actor, command, rfl⟩ := h_propose
  have h_committed := (Tx.propose actor command).committed now db
  show ((Tx.propose actor command).apply now db).destinations = db.destinations
  generalize (Tx.propose actor command).apply now db = db' at h_committed ⊢
  cases h_committed with
  | rolledBack => rfl
  | propose h_case =>
    cases h_case with
    | closed | repeated | conflict => rfl
    | admitted row destination =>
      have h_routing := (Service.enqueue_routing now actor command row
        (actionDecision command.action row.state row.revision command.expectedRevision)
        destination db).1
      refine (congrArg Routing.destinations h_routing).trans ?_
      cases destination <;> rfl

/-- Only its own release completes a permit. -/
theorem unfinished_step {entry : Entry} {token : Uuid}
    (h_open : db.capacityCompletions.lookup token = none)
    (h_not : ∀ name failed cooldown, entry.tx ≠ .release name token failed cooldown) :
    (db.step entry).capacityCompletions.lookup token = none := by
  cases traffic_move db entry with
  | kept _ h_traffic =>
    have h_completions : (db.step entry).capacityCompletions = db.capacityCompletions :=
      congrArg Traffic.capacityCompletions h_traffic
    rw [h_completions]
    exact h_open
  | refused now name route kind h_granted h_step | granted now name route kind h_granted h_step =>
    rw [h_step]
    exact h_open
  | released now name token' failed cooldown h_released =>
    rw [h_released.completions, Table.lookup_insert_of_ne _ _ ?_]
    · exact h_open
    · rintro rfl
      exact h_not name failed cooldown rfl

theorem Carried.step {kind : Option RequestKind} {route : Route} {permit : Option Held}
    (h : Carried db kind route permit) (h_log : LogSound db) {entry : Entry}
    (h_not : ∀ held, permit = some held →
      ∀ name failed cooldown, entry.tx ≠ .release name held.token failed cooldown) :
    Carried (db.step entry) kind route permit where
  own := h.own
  logged held h_held := by
    obtain ⟨row, h_row, h_rest⟩ := h.logged held h_held
    exact ⟨row, (logs_persist h_log entry).1 row h_row, h_rest⟩
  unfinished held h_held := unfinished_step (h.unfinished held h_held) (h_not held h_held)

theorem CarriedBy.step (h : CarriedBy db phase) (h_log : LogSound db) {entry : Entry}
    (h_not : ∀ held, phase.held = some held →
      ∀ name failed cooldown, entry.tx ≠ .release name held.token failed cooldown) :
    CarriedBy (db.step entry) phase := by
  cases phase with
  | requesting | awaiting | releasing => exact Carried.step h h_log h_not
  | _ => trivial

/-- After a transaction a worker holds nothing, or the permit that it has just taken. -/
theorem PhaseCommit.carried (h : PhaseCommit w now tx phase phase') (h_log : LogSound w.db) :
    CarriedBy (w.db.step ⟨now, tx⟩) phase' ∧
      ∀ held, phase'.held = some held → held.token = w.db.supply := by
  cases h with
  | claimed | unclaimed | postponed | unreleased | finished | deferred => exact ⟨trivial, nofun⟩
  | released job route held failed cooldown next => cases next <;> exact ⟨trivial, nofun⟩
  | prepared utc job route =>
    generalize (Worker.prepare now utc job.id job.row.leaseToken w.db).answer = answer
    unfold Phase.prepared
    split
    · exact ⟨trivial, nofun⟩
    · split <;> exact ⟨trivial, nofun⟩
    · exact ⟨trivial, nofun⟩
    · exact ⟨trivial, nofun⟩
  -- the token that a worker carries on is the one its `acquire` has drawn
  | permitted job name destination request token db' h_acquire =>
    obtain ⟨reply, db'', h_ok, h_result⟩ :=
      Capacity.acquire_result now name destination request.kind w.db
    have h_step : w.db.step ⟨now, .acquire name destination request.kind⟩ = db'' := by
      show (Capacity.acquire now name destination request.kind w.db).commit w.db = db''
      rw [h_ok, Outcome.commit_ok]
    rw [h_ok] at h_acquire
    cases h_acquire
    cases h_result with
    | granted h_granted =>
      have h_logged : (w.db.step ⟨now, .acquire name destination request.kind⟩).capacityRequests =
          w.db.capacityRequests.insert w.db.supply
            ⟨name, Capacity.window now name w.db, request.kind, now⟩ := by
        rw [h_step]
        rfl
      have h_completions : (w.db.step
          ⟨now, .acquire name destination request.kind⟩).capacityCompletions =
            w.db.capacityCompletions := by
        rw [h_step]
        rfl
      refine ⟨⟨rfl, fun held h_held => ?_, fun held h_held => ?_⟩, fun held h_held => ?_⟩
      · obtain rfl := Option.some.inj h_held
        refine ⟨⟨name, Capacity.window now name w.db, request.kind, now⟩, ?_, rfl,
          fun k h_k => Option.some.inj h_k⟩
        rw [h_logged]
        exact Table.lookup_insert_self _ _ _
      · obtain rfl := Option.some.inj h_held
        rw [h_completions]
        cases h_row : w.db.capacityCompletions.lookup w.db.supply with
        | none => rfl
        | some row =>
          have h_some := h_log.completions _ row h_row
          rw [h_log.requests_free] at h_some
          cases h_some
      · obtain rfl := Option.some.inj h_held
        rfl

theorem PhaseCommit.routed (h : PhaseCommit w now tx phase phase') {name : String}
    {destination : Destination} (h_route : phase'.route = some (name, destination)) :
    phase.route = some (name, destination) := by
  cases h with
  | claimed | unclaimed | postponed | unreleased | finished | deferred => cases h_route
  | permitted => exact h_route
  | released job route held failed cooldown next =>
    cases next with
    | prepare => exact h_route
    | settle | raise => cases h_route
  | prepared utc job route =>
    generalize (Worker.prepare now utc job.id job.row.leaseToken w.db).answer = answer at h_route
    unfold Phase.prepared at h_route
    split at h_route
    · exact h_route
    · split at h_route <;> cases h_route
    · cases h_route
    · cases h_route

/-- A worker releases the permit it holds. -/
theorem PhaseCommit.releases (h : PhaseCommit w now tx phase phase') {name : String} {token : Uuid}
    {failed : Bool} {cooldown : ℕ} (h_tx : tx = .release name token failed cooldown) :
    ∃ held, phase.held = some held ∧ held.token = token := by
  cases h with
  | released job route held | unreleased job route held =>
    cases h_tx
    exact ⟨held, rfl, rfl⟩
  | _ => cases h_tx

/-- A worker takes its permits by the limits of its route. -/
theorem PhaseCommit.acquires (h : PhaseCommit w now tx phase phase') {name : String}
    {destination : Destination} {kind : RequestKind} (h_tx : tx = .acquire name destination kind) :
    phase.route = some (name, destination) := by
  cases h with
  | permitted | postponed =>
    cases h_tx
    rfl
  | _ => cases h_tx

end Commits

/-! ### One step of the world -/

section Step

variable {registry : Table String Destination} {w w' : World}

/-- One worker moves, and the others keep what they carry. -/
theorem PermitsSound.update (h : PermitsSound registry w) (n : ℕ)
    (h_destinations : w'.db.destinations = registry) (h_log : LogSound w'.db)
    (h_phase : ∀ m, m ≠ n → w'.phase m = w.phase m)
    (h_others : ∀ m, m ≠ n → CarriedBy w'.db (w.phase m)) (h_own : CarriedBy w'.db (w'.phase n))
    (h_routed : ∀ name destination, (w'.phase n).route = some (name, destination) →
      registry.lookup name = some destination)
    (h_distinct : ∀ held, (w'.phase n).held = some held → ∀ m, m ≠ n → ∀ held',
      (w.phase m).held = some held' → held.token ≠ held'.token) : PermitsSound registry w' where
  destinations := h_destinations
  log := h_log
  -- each part for the worker that has moved, and for the others
  routed m name destination h_route := by
    by_cases h_same : m = n
    · rw [h_same] at h_route
      exact h_routed name destination h_route
    · rw [h_phase m h_same] at h_route
      exact h.routed m name destination h_route
  carried m := by
    by_cases h_same : m = n
    · rw [h_same]
      exact h_own
    · rw [h_phase m h_same]
      exact h_others m h_same
  distinct m m' held held' h_ne h_held h_held' := by
    by_cases h_same : m = n
    · have h_other : m' ≠ n := fun h_eq => h_ne (h_same.trans h_eq.symm)
      rw [h_same] at h_held
      rw [h_phase m' h_other] at h_held'
      exact h_distinct held h_held m' h_other held' h_held'
    · rw [h_phase m h_same] at h_held
      by_cases h_other : m' = n
      · rw [h_other] at h_held'
        exact (h_distinct held' h_held' m h_same held h_held).symm
      · rw [h_phase m' h_other] at h_held'
        exact h.distinct m m' held held' h_ne h_held h_held'

/-- **One step keeps the permits sound.** -/
theorem PermitsSound.step (h : PermitsSound registry w) (label : Label) :
    PermitsSound registry (w.step label) := by
  have h_stepped := w.stepped label
  generalize w.step label = w' at h_stepped ⊢
  cases h_stepped with
  | stutter => exact h
  | planned | arrived => exact ⟨h.destinations, h.log, h.routed, h.carried, h.distinct⟩
  | external now tx h_external =>
    refine ⟨(destinations_step w.db ⟨now, tx⟩).trans h.destinations, h.log.step ⟨now, tx⟩, h.routed,
      fun n => (h.carried n).step h.log ?_, h.distinct⟩
    rintro held - name failed cooldown rfl
    cases h_external
  | moved n phase h_move =>
    obtain ⟨h_own, h_held⟩ := h_move.carried (h.carried n)
    have h_phase : (w.move n phase).phase n = phase := Function.update_self ..
    refine h.update n h.destinations h.log (fun m h_ne => Function.update_of_ne h_ne ..)
      (fun m _ => h.carried m) (by rw [h_phase]; exact h_own) (fun name destination h_route => ?_)
      fun held h_new m h_ne held' h_held' => ?_
    · rw [h_phase] at h_route
      rcases h_move.routed h_route with h_old | h_registered
      · exact h.routed n name destination h_old
      · rw [← h.destinations]
        exact h_registered
    · rw [h_phase] at h_new
      exact h.distinct n m held held' h_ne.symm (h_held held h_new) h_held'
  | committed n now tx phase h_commit h_label =>
    obtain ⟨h_own, h_fresh⟩ := h_commit.carried h.log
    have h_phase : (w.commitMove n now tx phase).phase n = phase := Function.update_self ..
    refine h.update n ((destinations_step w.db ⟨now, tx⟩).trans h.destinations)
      (h.log.step ⟨now, tx⟩) (fun m h_ne => Function.update_of_ne h_ne ..) (fun m h_ne => ?_)
      (by rw [h_phase]; exact h_own) (fun name destination h_route => ?_)
      fun held h_new m h_ne held' h_held' => ?_
    · -- the permit of another worker is not the one released here
      refine (h.carried m).step h.log fun held' h_held' name failed cooldown h_tx => ?_
      obtain ⟨held, h_held, h_token⟩ := h_commit.releases h_tx
      exact h.distinct n m held held' h_ne.symm h_held h_held' h_token
    · rw [h_phase] at h_route
      exact h.routed n name destination (h_commit.routed h_route)
    · -- a permit just taken has a token that nobody has
      rw [h_phase] at h_new
      obtain ⟨row, h_row⟩ := Option.isSome_iff_exists.mp ((h.carried m).logged h_held').1
      rw [h_fresh held h_new]
      exact (h.log.requests _ row h_row).ne'
  | sent n job route permit mutation h_before h_label =>
    have h_carried := h.carried n
    rw [h_before] at h_carried
    have h_phase : (w.send n job route permit mutation).phase n =
        .awaiting job route permit mutation w.sent.length := Function.update_self ..
    refine h.update n h.destinations h.log (fun m h_ne => Function.update_of_ne h_ne ..)
      (fun m _ => h.carried m) ?_ (fun name destination h_route => ?_)
      fun held h_new m h_ne held' h_held' => ?_
    · rw [h_phase]
      exact h_carried
    · rw [h_phase] at h_route
      refine h.routed n name destination ?_
      rw [h_before]
      exact h_route
    · rw [h_phase] at h_new
      refine h.distinct n m held held' h_ne.symm ?_ h_held'
      rw [h_before]
      exact h_new

end Step

theorem permits_sound (registry : Table String Destination) (owners : Table String String)
    (labels : List Label) :
    PermitsSound registry ((World.initial registry owners).run labels) := by
  refine run_invariant (I := PermitsSound registry) ?_ (fun _ label h => h.step label) labels
  refine ⟨rfl, ⟨nofun, nofun, nofun, nofun, nofun⟩, fun n name destination h => ?_,
    fun n => trivial,
    fun n m held held' _ h => ?_⟩
  · cases h
  · cases h

end ControlPlane
