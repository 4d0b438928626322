import ControlPlane.Permits.Carried

/-!
# Permit safety

The limits of all destinations in every run of the workers, whatever the clock does and
whoever dies. The buckets (`BucketSound`) bound what is granted in a window and what is
outstanding; that a request carries its own permit and that nobody carries it again follows
from `Carried`, since a token is drawn once and the worker that has sent a request under it
never goes back to a request (`Retired`); and a failed request moves the probe, behind which
nothing is granted.
-/

namespace ControlPlane

open Framework

/-! ### The buckets in a run -/

/-- The buckets of all registered destinations are sound. -/
def BucketsSound (registry : Table String Destination) (db : Db) : Prop :=
  ∀ name route, registry.lookup name = some route → BucketSound db name route

theorem BucketsSound.step {registry : Table String Destination} {w : World}
    (h : BucketsSound registry w.db) (h_sound : PermitsSound registry w) (label : Label) :
    BucketsSound registry (w.step label).db := by
  intro name route h_route
  have h_bucket := h name route h_route
  have h_stepped := w.stepped label
  generalize w.step label = w' at h_stepped ⊢
  cases h_stepped with
  | stutter | planned | moved | sent | arrived => exact h_bucket
  | external now tx h_external =>
    refine h_bucket.step h_sound.log ⟨now, tx⟩ ?_
    rintro route' kind rfl
    cases h_external
  | committed n now tx phase h_commit =>
    refine h_bucket.step h_sound.log ⟨now, tx⟩ fun route' kind h_tx => ?_
    have h_registered := h_sound.routed n name route' (h_commit.acquires h_tx)
    exact Option.some.inj (h_registered.symm.trans h_route)

theorem buckets_sound (registry : Table String Destination) (owners : Table String String)
    (labels : List Label) :
    BucketsSound registry ((World.initial registry owners).run labels).db := by
  refine (run_invariant (s := World.initial registry owners)
    (I := fun w : World => PermitsSound registry w ∧ BucketsSound registry w.db)
    ⟨permits_sound registry owners [], fun name route _ => ?_⟩
    (fun w label h => ⟨h.1.step label, h.2.step h.1 label⟩) labels).2
  refine ⟨rfl, fun _ _ => rfl, fun _ => Nat.zero_le _, fun _ => Nat.zero_le _, Nat.zero_le _⟩

/-! ### Persistence -/

/-- What every transaction keeps, every step of the world keeps. -/
theorem World.keeps {P : Db → Prop} {w : World} (h_step : ∀ entry, P w.db → P (w.db.step entry))
    (label : Label) (h : P w.db) : P (w.step label).db := by
  rcases w.db_step label with h_same | ⟨entry, -, h_entry⟩
  · rw [h_same]
    exact h
  · rw [h_entry]
    exact h_step entry h

/-! ### Requests -/

/-- The step is a worker's request under the route: it reaches the receiver, or its transport
fails. -/
structure Sends (w : World) (label : Label) (n : ℕ) (route : Route) (permit : Option Held)
    (kind : RequestKind) : Prop where
  request : ∃ job request, w.phase n = .requesting job route permit request ∧ request.kind = kind
  label : (∃ handling, label = .get n handling ∧ kind = .receipt) ∨
    (label = .post n ∧ kind = .dispatch) ∨ label = .timeout n

/-- Nobody is about to send a request under the token, and nobody will be. -/
structure Retired (w : World) (token : Uuid) : Prop where
  drawn : token < w.db.supply
  free : ∀ n job route held request, w.phase n = .requesting job route (some held) request →
    held.token ≠ token

theorem leave_not_requesting {job job' : Worker.Claimed} {route route' : Route}
    {permit permit' : Option Held} {failed : Bool} {cooldown : ℕ} {decision : Worker.Next}
    {request : Request} :
    Phase.leave job route permit failed cooldown decision ≠
      .requesting job' route' permit' request := by
  intro h
  cases permit with
  | none => cases decision <;> cases h
  | some held => cases h

/-- A worker only comes to a request under a permit by taking it. -/
theorem PhaseMove.requesting {w : World} {n : ℕ} {label : Label} {phase : Phase}
    {job : Worker.Claimed} {route : Route} {permit : Option Held} {request : Request}
    (h : PhaseMove w n label phase (.requesting job route permit request)) : permit = none := by
  generalize h_phase : Phase.requesting job route permit request = phase' at h
  cases h with
  | direct =>
    cases h_phase
    rfl
  | looked | received | unsent | unanswered => exact absurd h_phase.symm leave_not_requesting
  | _ => cases h_phase

section Step

variable {registry : Table String Destination} {w : World} {token : Uuid}

theorem supply_le_step (w : World) (label : Label) : w.db.supply ≤ (w.step label).db.supply :=
  World.keeps (P := fun db => w.db.supply ≤ db.supply)
    (fun entry h => h.trans (supply_le_apply entry.now w.db entry.tx)) label le_rfl

/-- **Once retired, always retired.** -/
theorem Retired.step (h : Retired w token) (h_sound : PermitsSound registry w) (label : Label) :
    Retired (w.step label) token where
  drawn := h.drawn.trans_le (supply_le_step w label)
  free n job route held request h_phase := by
    have h_stepped := w.stepped label
    generalize w.step label = w' at h_stepped h_phase
    -- another worker than the one that has moved
    have h_other : ∀ m phase, (Function.update w.phase m phase) n =
        .requesting job route (some held) request → n ≠ m → held.token ≠ token := by
      intro m phase h_update h_ne
      rw [Function.update_of_ne h_ne] at h_update
      exact h.free n job route held request h_update
    cases h_stepped with
    | stutter | planned | external | arrived => exact h.free n job route held request h_phase
    | moved m phase h_move =>
      by_cases h_same : n = m
      · subst h_same
        obtain rfl : phase = .requesting job route (some held) request :=
          (Function.update_self ..).symm.trans h_phase
        cases h_move.requesting
      · exact h_other m phase h_phase h_same
    | committed m now tx phase h_commit =>
      by_cases h_same : n = m
      · subst h_same
        obtain rfl : phase = .requesting job route (some held) request :=
          (Function.update_self ..).symm.trans h_phase
        -- a worker that gets a permit gets a token that was not drawn before
        rw [(h_commit.carried h_sound.log).2 held rfl]
        exact h.drawn.ne'
      · exact h_other m phase h_phase h_same
    | sent m job' route' permit mutation h_before =>
      by_cases h_same : n = m
      · subst h_same
        cases (Function.update_self ..).symm.trans h_phase
      · exact h_other m _ h_phase h_same

/-- A worker that has sent its request is not about to send it. -/
theorem Sends.leaves {label : Label} {n : ℕ} {route : Route} {permit : Option Held}
    {kind : RequestKind} (h : Sends w label n route permit kind) :
    (∀ job route' permit' request,
      (w.step label).phase n ≠ .requesting job route' permit' request) ∧
      (∀ m, m ≠ n → (w.step label).phase m = w.phase m) ∧ (w.step label).db = w.db := by
  obtain ⟨job, request, h_phase, h_kind⟩ := h.request
  have h_move : ∀ phase : Phase, (∀ job route' permit' request,
      phase ≠ .requesting job route' permit' request) → ∀ w' : World, w' = w.move n phase →
      (∀ job route' permit' request, w'.phase n ≠ .requesting job route' permit' request) ∧
        (∀ m, m ≠ n → w'.phase m = w.phase m) ∧ w'.db = w.db := by
    rintro phase h_leaves w' rfl
    refine ⟨?_, fun m h_ne => Function.update_of_ne h_ne .., rfl⟩
    show ∀ job route' permit' request, Function.update w.phase n phase n ≠ _
    rw [Function.update_self]
    exact h_leaves
  -- the three ways a request leaves: the lookup, the POST and the timeout before it
  rcases h.label with ⟨handling, rfl, rfl⟩ | ⟨rfl, rfl⟩ | rfl
  · cases request with
    | receipt =>
      have h_step : w.step (.get n handling) = w.move n (.answered job route permit
          (w.remote.answerGet handling job.id)
          (Worker.afterLookup job (w.remote.answerGet handling job.id))) := by
        unfold World.step
        simp only [h_phase]
      exact h_move _ (fun _ _ _ _ => leave_not_requesting) _ h_step
    | dispatch => cases h_kind
  · cases request with
    | receipt => cases h_kind
    | dispatch mutation =>
      have h_step : w.step (.post n) = w.send n job route permit mutation := by
        unfold World.step
        simp only [h_phase]
      rw [h_step]
      refine ⟨fun _ _ _ _ h_awaiting => ?_, fun m h_ne => Function.update_of_ne h_ne .., rfl⟩
      cases (Function.update_self ..).symm.trans h_awaiting
  · refine h_move (.broken job route permit) (fun _ _ _ _ => leave_not_requesting) _ ?_
    unfold World.step
    simp only [h_phase]

/-- The token of a request is retired by it. -/
theorem Sends.retired {label : Label} {n : ℕ} {route : Route} {held : Held} {kind : RequestKind}
    (h : Sends w label n route (some held) kind) (h_sound : PermitsSound registry w) :
    Retired (w.step label) held.token := by
  obtain ⟨h_leaves, h_others, h_db⟩ := h.leaves
  obtain ⟨job, request, h_phase, -⟩ := h.request
  have h_held : (w.phase n).held = some held := by rw [h_phase]; rfl
  obtain ⟨row, h_row⟩ := Option.isSome_iff_exists.mp ((h_sound.carried n).logged h_held).1
  refine ⟨?_, fun m job' route' held' request' h_requesting => ?_⟩
  · rw [h_db]
    exact h_sound.log.requests _ row h_row
  · by_cases h_same : m = n
    · subst h_same
      exact absurd h_requesting (h_leaves job' route' (some held') request')
    · rw [h_others m h_same] at h_requesting
      have h_held' : (w.phase m).held = some held' := by rw [h_requesting]; rfl
      exact h_sound.distinct m n held' held h_same h_held' h_held

end Step

/-! ### The probe -/

/-- The next probe of the destination is not before `t`. -/
def Cooling (db : Db) (name : String) (t : Time) : Prop :=
  ∃ probe, (Capacity.stateRow name db).nextProbe = some probe ∧ t ≤ probe

theorem Cooling.step {db : Db} {name : String} {t : Time} (h : Cooling db name t) (entry : Entry) :
    Cooling (db.step entry) name t := by
  obtain ⟨probe, h_probe, h_le⟩ := h
  obtain ⟨probe', h_probe', h_le'⟩ := (follows_step db entry name).probe probe h_probe
  exact ⟨probe', h_probe', h_le.trans h_le'⟩

/-- While the destination cools, no permit is granted. -/
theorem Cooling.not_granted {db : Db} {name : String} {t : Time} (h : Cooling db name t)
    {now : Time} (h_now : now < t) (route : Destination) (kind : RequestKind) :
    ¬ Capacity.Granted now name route kind db := by
  obtain ⟨probe, h_probe, h_le⟩ := h
  intro h_granted
  exact absurd (h_granted.eligible probe h_probe) (not_le.mpr (h_now.trans_le h_le))

section Release

variable {registry : Table String Destination} {w : World} {n : ℕ} {t : Time}
  {job : Worker.Claimed} {route : Route} {held : Held} {failed : Bool} {cooldown : ℕ}
  {next : Worker.Next}

/-- A worker that releases its permit completes it. -/
theorem PermitsSound.released (h : PermitsSound registry w)
    (h_phase : w.phase n = .releasing job route held failed cooldown next) :
    Capacity.Released t held.destination held.token failed cooldown w.db
        (w.step (.release n t)).db ∧ (w.step (.release n t)).phase n = .next job route next := by
  have h_held : (w.phase n).held = some held := by rw [h_phase]; rfl
  obtain ⟨h_logged, h_open⟩ := (h.carried n).logged h_held
  obtain ⟨db', h_ok⟩ := Capacity.release_ok t held.destination failed cooldown h_logged h_open
  have h_step : w.step (.release n t) = w.commitMove n t
      (.release held.destination held.token failed cooldown) (.next job route next) := by
    unfold World.step
    simp only [h_phase, h_ok]
  have h_db : (w.step (.release n t)).db = db' := by
    rw [h_step]
    show (Capacity.release t held.destination held.token failed cooldown w.db).commit w.db = db'
    rw [h_ok, Outcome.commit_ok]
  refine ⟨?_, ?_⟩
  · rw [h_db]
    exact Capacity.release_result h_ok
  · rw [h_step]
    exact Function.update_self ..

/-- After the release of a failed request the destination cools. -/
theorem PermitsSound.cooling (h : PermitsSound registry w)
    (h_phase : w.phase n = .releasing job route held true cooldown next) :
    Cooling (w.step (.release n t)).db held.destination (t + seconds cooldown) := by
  obtain ⟨h_released, -⟩ := h.released (t := t) h_phase
  have h_carried := h.carried n
  rw [h_phase] at h_carried
  obtain ⟨row, h_row, h_destination, -⟩ := Carried.logged h_carried held rfl
  obtain ⟨state, h_state⟩ := Option.isSome_iff_exists.mp (h.log.buckets _ row h_row)
  rw [h_destination] at h_state
  have h_after := h_released.state held.destination
  rw [if_pos ⟨rfl, rfl⟩, h_state] at h_after
  refine ⟨Capacity.laterProbe state.nextProbe (t + seconds cooldown), ?_, le_laterProbe _ _⟩
  unfold Capacity.stateRow
  rw [h_after]
  rfl

end Release

/-! ### The theorem -/

/-- Permit safety in every run of the workers over the registry. -/
structure PermitSafety (registry : Table String Destination) (owners : Table String String) :
    Prop where
  /-- The buckets: what is issued in each window, what is used, and what is outstanding. -/
  buckets : ∀ labels name route, registry.lookup name = some route →
    BucketSound ((World.initial registry owners).run labels).db name route
  /-- The window and the probe never move backward. -/
  forward : ∀ pre labels name, pre <+: labels →
    Follows (Capacity.stateRow name ((World.initial registry owners).run pre).db)
      (Capacity.stateRow name ((World.initial registry owners).run labels).db)
  /-- What has been issued stays in the log. -/
  logged : ∀ pre labels token row, pre <+: labels →
    ((World.initial registry owners).run pre).db.capacityRequests.lookup token = some row →
      ((World.initial registry owners).run labels).db.capacityRequests.lookup token = some row
  /-- A request to a registered destination carries a permit of its destination and kind. -/
  carries : ∀ pre label n name destination permit kind,
    Sends ((World.initial registry owners).run pre) label n (some (name, destination)) permit
      kind → ∃ token row, permit = some ⟨name, token⟩ ∧
        ((World.initial registry owners).run pre).db.capacityRequests.lookup token = some row ∧
        row.destination = name ∧ row.kind = kind
  /-- No other request ever carries it. -/
  unique : ∀ pre label later label' n n' route route' held held' kind kind',
    pre ++ [label] <+: later →
    Sends ((World.initial registry owners).run pre) label n route (some held) kind →
    Sends ((World.initial registry owners).run later) label' n' route' (some held') kind' →
      held.token ≠ held'.token
  /-- A permit is completed once. -/
  completed : ∀ pre labels token row, pre <+: labels →
    ((World.initial registry owners).run pre).db.capacityCompletions.lookup token = some row →
      ((World.initial registry owners).run labels).db.capacityCompletions.lookup token = some row
  /-- Its worker can complete it. -/
  completes : ∀ pre n t job route held failed cooldown next,
    ((World.initial registry owners).run pre).phase n =
      .releasing job route held failed cooldown next →
        Capacity.Released t held.destination held.token failed cooldown
          ((World.initial registry owners).run pre).db
          ((World.initial registry owners).run (pre ++ [.release n t])).db
  /-- After a failed request no permit is granted before its cooldown is over. -/
  cooled : ∀ pre later n t job route held cooldown next m now job' destination request,
    ((World.initial registry owners).run pre).phase n =
      .releasing job route held true cooldown next →
    pre ++ [.release n t] <+: later →
    ((World.initial registry owners).run later).phase m =
      .acquiring job' (some (held.destination, destination)) request →
    now < t + seconds cooldown →
      ((World.initial registry owners).run (later ++ [.acquire m now])).phase m = .deferring job'

/-- **Permit safety.** -/
theorem permit_safety (registry : Table String Destination) (owners : Table String String) :
    PermitSafety registry owners := by
  have h_sound := permits_sound registry owners
  have h_run : ∀ labels label, (World.initial registry owners).run (labels ++ [label]) =
      ((World.initial registry owners).run labels).step label := fun labels => run_concat labels
  constructor
  · exact buckets_sound registry owners
  · intro pre labels name h_prefix
    refine run_stable (s := World.initial registry owners) (P := fun w : World =>
      Follows (Capacity.stateRow name ((World.initial registry owners).run pre).db)
        (Capacity.stateRow name w.db)) (fun w label h => ?_) h_prefix (.refl _)
    exact World.keeps (P := fun db => Follows _ (Capacity.stateRow name db))
      (fun entry h => h.trans (follows_step w.db entry name)) label h
  · intro pre labels token row h_prefix h_row
    refine run_stable_of World.step (World.initial registry owners) (I := PermitsSound registry)
      (P := fun w : World => w.db.capacityRequests.lookup token = some row) h_sound
      (fun w label h_inv h => ?_) h_prefix h_row
    exact World.keeps (P := fun db => db.capacityRequests.lookup token = some row)
      (fun entry => (logs_persist h_inv.log entry).1 row) label h
  · intro pre label n name destination permit kind h_sends
    obtain ⟨job, request, h_phase, rfl⟩ := h_sends.request
    have h_carried := (h_sound pre).carried n
    rw [h_phase] at h_carried
    obtain ⟨h_own, h_logged, -⟩ := h_carried
    obtain ⟨held, rfl, h_destination⟩ := Option.map_eq_some_iff.mp h_own
    obtain ⟨row, h_row, h_same, h_kind⟩ := h_logged held rfl
    obtain ⟨held_destination, token⟩ := held
    obtain rfl : held_destination = name := h_destination
    exact ⟨token, row, rfl, h_row, h_same, h_kind _ rfl⟩
  · intro pre label later label' n n' route route' held held' kind kind' h_prefix h_sends h_sends'
      h_token
    -- a token that was sent is retired, and stays so
    have h_retired := h_sends.retired (h_sound pre)
    rw [← h_run] at h_retired
    have h_later := run_stable_of World.step (World.initial registry owners)
      (I := PermitsSound registry) (P := fun w => Retired w held.token) h_sound
      (fun w label h_inv h => h.step h_inv label) h_prefix h_retired
    obtain ⟨job, request, h_phase, -⟩ := h_sends'.request
    exact h_later.free n' job route' held' request h_phase h_token.symm
  · intro pre labels token row h_prefix h_row
    refine run_stable_of World.step (World.initial registry owners) (I := PermitsSound registry)
      (P := fun w : World => w.db.capacityCompletions.lookup token = some row) h_sound
      (fun w label h_inv h => ?_) h_prefix h_row
    exact World.keeps (P := fun db => db.capacityCompletions.lookup token = some row)
      (fun entry => (logs_persist h_inv.log entry).2 row) label h
  · intro pre n t job route held failed cooldown next h_phase
    rw [h_run]
    exact ((h_sound pre).released h_phase).1
  · intro pre later n t job route held cooldown next m now job' destination request h_phase h_prefix
      h_acquiring h_now
    -- the cooldown outlasts all that commits until it has passed
    have h_cooling := (h_sound pre).cooling (t := t) h_phase
    rw [← h_run] at h_cooling
    have h_later : Cooling ((World.initial registry owners).run later).db held.destination
        (t + seconds cooldown) :=
      run_stable (P := fun w : World => Cooling w.db held.destination (t + seconds cooldown))
        (fun w label h => World.keeps
          (P := fun db => Cooling db held.destination (t + seconds cooldown))
          (fun entry h => h.step entry) label h) h_prefix h_cooling
    have h_not := Cooling.not_granted h_later h_now destination request.kind
    rw [h_run]
    generalize (World.initial registry owners).run later = w at h_acquiring h_not ⊢
    obtain ⟨reply, db', h_ok, h_result⟩ :=
      Capacity.acquire_result now held.destination destination request.kind w.db
    cases h_result with
    | granted h_granted => exact absurd h_granted h_not
    | refused =>
      have h_step : w.step (.acquire m now) = w.commitMove m now
          (.acquire held.destination destination request.kind) (.deferring job') := by
        unfold World.step
        simp only [h_acquiring, h_ok]
      rw [h_step]
      exact Function.update_self ..

end ControlPlane
