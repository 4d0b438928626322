import ControlPlane.Permits.Carried

/-!
# A lookup and its dispatch in one window

An uncertain job needs two permits of its destination in one execution: one for the lookup,
and after a `404` one for the POST. A dispatch leaves one permit of the window to the lookups,
but the bucket counts the lookup itself as well. So at the smallest registration, with two
requests a second, the lookup takes the only permit that its own dispatch could have had: the
dispatch is refused, and the job deferred, however idle the destination is. From three
requests a second on the dispatch follows in the same window (`dispatch_follows_iff`).

Between the steps of the worker others may do what they like (`Interlude`), as long as they
take no permit of the destination and give none back.
-/

namespace ControlPlane

open Framework

/-! ### Steps that leave a destination alone -/

/-- The transaction takes no permit of the destination and gives none back. -/
def Tx.Spares (db : Db) (name : String) : Tx → Prop
  | .acquire name' _ _ => name' ≠ name
  | .release name' token _ _ => name' ≠ name ∧
      ∀ row, db.capacityRequests.lookup token = some row → row.destination ≠ name
  | _ => True

/-- The worker rests in the step, and no permit of the destination is taken or given back. -/
structure Elsewhere (n : ℕ) (name : String) (w : World) (label : Label) : Prop where
  phase : (w.step label).phase n = w.phase n
  spares : ∀ entry, (w.step label).log = w.log ++ [entry] → entry.tx.Spares w.db name

/-- What happens between two steps of the worker. -/
def Interlude (n : ℕ) (name : String) (w w' : World) : Prop :=
  ∃ labels, Meets World.step (Elsewhere n name) w labels ∧ w' = w.run labels

section Acquire

variable {n : ℕ} {w : World} {now : Time} {job : Worker.Claimed} {name : String}
  {route : Destination} {request : Request} {db' : Db}

/-- A permit that is granted goes with the request. -/
theorem World.acquire_granted {token : Uuid}
    (h_phase : w.phase n = .acquiring job (some (name, route)) request)
    (h_ok : Capacity.acquire now name route request.kind w.db = .ok (some token, db')) :
    (w.step (.acquire n now)).phase n =
        .requesting job (some (name, route)) (some ⟨name, token⟩) request ∧
      (w.step (.acquire n now)).db = db' ∧ (w.step (.acquire n now)).sent = w.sent := by
  unfold World.step
  dsimp only
  rw [h_phase]
  dsimp only
  rw [h_ok]
  refine ⟨Function.update_self .., ?_, rfl⟩
  show (Capacity.acquire now name route request.kind w.db).commit w.db = db'
  rw [h_ok, Outcome.commit_ok]

/-- A job without a permit is deferred. -/
theorem World.acquire_refused
    (h_phase : w.phase n = .acquiring job (some (name, route)) request)
    (h_ok : Capacity.acquire now name route request.kind w.db = .ok (none, db')) :
    (w.step (.acquire n now)).phase n = .deferring job := by
  unfold World.step
  dsimp only
  rw [h_phase]
  dsimp only
  rw [h_ok]
  exact Function.update_self ..

end Acquire

/-! ### The bucket of one worker -/

/-- Nobody but the holder of `token`, if there is one, has a permit of the destination. -/
structure Reserved (name : String) (state : CapacityState) (token : Option Uuid) (db : Db) :
    Prop where
  log : LogSound db
  state : Capacity.stateRow name db = state
  permits : ∀ token' permit, db.requestPermits.lookup token' = some permit →
    permit.destination = name → token = some token'
  logged : ∀ held, token = some held →
    (∃ row, db.capacityRequests.lookup held = some row ∧ row.destination = name) ∧
      db.capacityCompletions.lookup held = none

namespace Reserved

variable {name : String} {state : CapacityState} {token : Option Uuid} {db : Db}

/-- Where nothing is reserved, no permit is outstanding. -/
theorem none_outstanding (h : Reserved name state none db) (now : Time) :
    Capacity.outstanding (Capacity.refresh now name db) name = 0 := by
  have h_none : ∀ token' permit,
      (Capacity.refresh now name db).requestPermits.lookup token' = some permit →
      permit.destination ≠ name := by
    intro token' permit h_permit h_name
    cases h.permits token' permit (Table.lookup_filter_eq_some.mp h_permit).1 h_name
  unfold Capacity.outstanding Table.count
  rw [List.length_eq_zero_iff, List.filter_eq_nil_iff]
  intro row h_row
  rw [decide_eq_true_eq]
  exact h_none row.1 row.2 (Table.mem_entries.mp h_row)

/-- Transactions on other destinations leave it reserved. -/
theorem step (h : Reserved name state token db) {entry : Entry}
    (h_spares : entry.tx.Spares db name) : Reserved name state token (db.step entry) := by
  have h_log := h.log.step entry
  have h_requests : ∀ held, token = some held →
      ∃ row, (db.step entry).capacityRequests.lookup held = some row ∧ row.destination = name := by
    intro held h_held
    obtain ⟨⟨row, h_row, h_name⟩, -⟩ := h.logged held h_held
    exact ⟨row, (logs_persist h.log entry).1 row h_row, h_name⟩
  have h_open : ∀ held, token = some held →
      (db.step entry).capacityCompletions.lookup held = none := by
    intro held h_held
    obtain ⟨⟨row, h_row, h_name⟩, h_none⟩ := h.logged held h_held
    refine unfinished_step h_none fun name' failed cooldown h_tx => ?_
    rw [h_tx] at h_spares
    exact h_spares.2 row h_row h_name
  refine ⟨h_log, ?_, ?_, fun held h_held => ⟨h_requests held h_held, h_open held h_held⟩⟩
  -- the bucket of the destination is left alone
  · cases traffic_move db entry with
    | kept _ h_traffic => exact (stateRow_of_traffic h_traffic name).trans h.state
    | refused now name' route kind h_not h_step =>
      rw [h_step, stateRow_refresh]
      exact h.state
    | granted now name' route kind h_granted h_step =>
      rw [h_step, stateRow_permit_of_ne (Ne.symm h_spares), stateRow_refresh]
      exact h.state
    | released now name' token' failed cooldown h_released =>
      rcases stateRow_release h_released name with h_same | ⟨-, h_name, -⟩
      · exact h_same.trans h.state
      · exact absurd h_name.symm h_spares.1
  -- and so are its permits
  · intro token' permit h_permit h_name
    cases traffic_move db entry with
    | kept _ h_traffic =>
      have h_permits : (db.step entry).requestPermits = db.requestPermits :=
        congrArg Traffic.requestPermits h_traffic
      rw [h_permits] at h_permit
      exact h.permits token' permit h_permit h_name
    | refused now name' route kind h_not h_step =>
      rw [h_step] at h_permit
      exact h.permits token' permit (Table.lookup_filter_eq_some.mp h_permit).1 h_name
    | granted now name' route kind h_granted h_step =>
      rw [h_step] at h_permit
      change ((Capacity.refresh now name' db).requestPermits.insert db.supply
        ⟨name', now + seconds 30, kind⟩).lookup token' = some permit at h_permit
      rw [Table.lookup_insert] at h_permit
      split at h_permit
      · -- the new permit is for another destination
        obtain rfl := Option.some.inj h_permit
        exact absurd h_name h_spares
      · exact h.permits token' permit (Table.lookup_filter_eq_some.mp h_permit).1 h_name
    | released now name' held failed cooldown h_released =>
      rw [h_released.permits] at h_permit
      exact h.permits token' permit (Table.lookup_of_erase h_permit) h_name

end Reserved

namespace Interlude

variable {n : ℕ} {name : String} {w w' : World}

/-- Nothing in between. -/
theorem refl (n : ℕ) (name : String) (w : World) : Interlude n name w w := ⟨[], trivial, rfl⟩

/-- The worker stays where it is. -/
theorem phase (h : Interlude n name w w') : w'.phase n = w.phase n := by
  obtain ⟨labels, h_meets, rfl⟩ := h
  exact h_meets.invariant (I := fun w' : World => w'.phase n = w.phase n) rfl
    fun w' label h_elsewhere h_phase => h_elsewhere.phase.trans h_phase

/-- What such transactions keep is kept. -/
theorem invariant {I : Db → Prop} (h : Interlude n name w w')
    (h_step : ∀ db entry, entry.tx.Spares db name → I db → I (db.step entry)) (h_init : I w.db) :
    I w'.db := by
  obtain ⟨labels, h_meets, rfl⟩ := h
  refine h_meets.invariant (I := fun w' : World => I w'.db) h_init fun w' label h_elsewhere h => ?_
  rcases w'.db_step label with h_same | ⟨entry, h_log, h_db⟩
  · rw [h_same]
    exact h
  · rw [h_db]
    exact h_step w'.db entry (h_elsewhere.spares entry h_log) h

/-- The log stays sound. -/
theorem log (h : Interlude n name w w') (h_log : LogSound w.db) : LogSound w'.db :=
  h.invariant (fun _ entry _ h_db => h_db.step entry) h_log

/-- What is reserved stays so. -/
theorem reserved {state : CapacityState} {token : Option Uuid} (h : Interlude n name w w')
    (h_reserved : Reserved name state token w.db) : Reserved name state token w'.db :=
  h.invariant (fun _ _ h_spares h_db => h_db.step h_spares) h_reserved

end Interlude

/-! ### The two permits -/

section Permits

variable {now : Time} {name : String} {route : Destination} {db : Db}

/-- The bucket once the lookup has taken the first permit of the window. -/
def opened (now : Time) (name : String) (db : Db) : CapacityState :=
  { Capacity.stateRow name db with
    windowId := Capacity.window now name db
    used := 1
    lastServed := some now }

/-- An idle destination grants the lookup its permit, and it is the only one. -/
theorem first_permit (h_log : LogSound db) (h_unused : Capacity.used now name db = 0)
    (h_idle : Capacity.outstanding (Capacity.refresh now name db) name = 0)
    (h_open : ∀ probe, (Capacity.stateRow name db).nextProbe = some probe → probe ≤ now)
    (h_rate : 2 ≤ route.requestsPerSecond) (h_concurrency : 1 ≤ route.concurrency) :
    ∃ db', Capacity.acquire now name route .receipt db = .ok (some db.supply, db') ∧
      Reserved name (opened now name db) (some db.supply) db' := by
  have h_granted : Capacity.Granted now name route .receipt db := by
    refine ⟨h_open, ?_, ?_⟩
    · rw [h_unused, if_neg (by decide)]
      omega
    · rw [h_idle]
      omega
  obtain ⟨reply, db', h_ok, h_result⟩ := Capacity.acquire_result now name route .receipt db
  cases h_result with
  | refused h_not => exact absurd h_granted h_not
  | granted h =>
    refine ⟨_, h_ok, (h_log.refresh now name).permit .., ?_, ?_, ?_⟩
    · rw [stateRow_permit_self, h_unused]
      rfl
    · intro token permit h_permit h_name
      change ((Capacity.refresh now name db).requestPermits.insert db.supply
        ⟨name, now + seconds 30, .receipt⟩).lookup token = some permit at h_permit
      rw [Table.lookup_insert] at h_permit
      split at h_permit
      · rename_i h_token
        rw [h_token]
      · -- an earlier permit would still be outstanding
        have h_count : 1 ≤ Capacity.outstanding (Capacity.refresh now name db) name :=
          Table.length_le_count (List.nodup_singleton token) fun token' h_mem => by
            obtain rfl := List.mem_singleton.mp h_mem
            exact ⟨permit, h_permit, decide_eq_true h_name⟩
        rw [h_idle] at h_count
        exact absurd h_count (by decide)
    · intro held h_held
      obtain rfl := Option.some.inj h_held
      refine ⟨⟨⟨name, Capacity.window now name db, .receipt, now⟩,
        Table.lookup_insert_self _ _ _, rfl⟩, ?_⟩
      -- a token that was not drawn before was not completed either
      cases h_row : db.capacityCompletions.lookup db.supply with
      | none => exact h_row
      | some row =>
        have h_some := h_log.completions _ row h_row
        rw [h_log.requests_free] at h_some
        cases h_some

/-- The lookup gives its permit back without a cooldown. -/
theorem given_back {state : CapacityState} {token : Uuid}
    (h : Reserved name state (some token) db) (now : Time) (cooldown : ℕ) :
    ∃ db', Capacity.release now name token false cooldown db = .ok ((), db') ∧
      Reserved name state none db' := by
  obtain ⟨⟨row, h_row, h_name⟩, h_open⟩ := h.logged token rfl
  obtain ⟨db', h_ok⟩ := Capacity.release_ok now name false cooldown
    (Option.isSome_iff_exists.mpr ⟨row, h_row⟩) h_open
  have h_released := Capacity.release_result h_ok
  have h_step : db.step ⟨now, .release name token false cooldown⟩ = db' := by
    show (Capacity.release now name token false cooldown db).commit db = db'
    rw [h_ok, Outcome.commit_ok]
  refine ⟨db', h_ok, h_step ▸ h.log.step _, ?_, ?_, nofun⟩
  · rcases stateRow_release h_released name with h_same | ⟨h_failed, -⟩
    · exact h_same.trans h.state
    · cases h_failed
  · intro token' permit h_permit h_destination
    rw [h_released.permits] at h_permit
    have h_token := h.permits token' permit (Table.lookup_of_erase h_permit) h_destination
    -- the only permit is the one that has been given back
    obtain rfl := Option.some.inj h_token
    rw [AList.lookup_erase] at h_permit
    cases h_permit

/-- **The dispatch in the window of the lookup.** One permit is used, and one is kept for
the lookups. -/
theorem second_permit {state : CapacityState} (h : Reserved name state none db)
    (h_used : state.used = 1) (h_window : now / seconds 1 ≤ state.windowId)
    (h_open : ∀ probe, state.nextProbe = some probe → probe ≤ now)
    (h_concurrency : 1 ≤ route.concurrency) :
    Capacity.Granted now name route .dispatch db ↔ 3 ≤ route.requestsPerSecond := by
  have h_taken : Capacity.used now name db = 1 := by
    unfold Capacity.used Capacity.window
    rw [h.state, max_eq_right h_window, if_pos rfl, h_used]
  constructor
  · intro h_granted
    have h_limit := h_granted.limit
    rw [h_taken, if_pos rfl] at h_limit
    omega
  · intro h_rate
    refine ⟨fun probe h_probe => h_open probe (h.state ▸ h_probe), ?_, ?_⟩
    · rw [h_taken, if_pos rfl]
      omega
    · rw [h.none_outstanding now]
      omega

end Permits

/-! ### One execution -/

/-- An execution of an uncertain job whose lookup is answered `404` and whose `prepare`
succeeds, from the claim to the request for the dispatch permit. Each world is the one before
a step of the worker. -/
structure Attempt (n : ℕ) (job : Worker.Claimed) (name : String) (route : Destination)
    (mutation : Mutation) where
  start : World
  environ : String → Bool
  looking : World
  /-- The clock in the first `acquire`. -/
  first : Time
  sending : World
  handling : Receiver.Handling
  answered : World
  returned : Time
  preparing : World
  prepared : Time
  utc : Time
  asking : World
  /-- The clock in the second `acquire`. -/
  second : Time
  h_claimed : start.phase n = .claimed job
  h_uncertain : job.row.uncertain = true
  h_route : Capacity.destination environ job.id start.db = .ok (some (name, route))
  h_looking : Interlude n name (start.step (.route n environ)) looking
  h_sending : Interlude n name (looking.step (.acquire n first)) sending
  h_absent : (sending.remote.answerGet handling job.id).status = 404
  h_answered : Interlude n name (sending.step (.get n handling)) answered
  h_preparing : Interlude n name (answered.step (.release n returned)) preparing
  h_prepared : (Worker.prepare prepared utc job.id job.row.leaseToken preparing.db).answer =
    .ok (.dispatch mutation)
  h_asking : Interlude n name (preparing.step (.prepare n prepared utc)) asking

namespace Attempt

variable {n : ℕ} {job : Worker.Claimed} {name : String} {route : Destination}
  {mutation : Mutation}

/-- No permit is used in the window of the lookup, none is live, there is no cooldown, and
the dispatch asks in the same window. -/
structure Fresh (x : Attempt n job name route mutation) : Prop where
  unused : Capacity.used x.first name x.looking.db = 0
  idle : Capacity.outstanding (Capacity.refresh x.first name x.looking.db) name = 0
  open_ : ∀ probe, (Capacity.stateRow name x.looking.db).nextProbe = some probe →
    probe ≤ x.first
  later : x.first ≤ x.second
  window : x.second / seconds 1 = x.first / seconds 1

/-- The dispatch permit is granted and the POST leaves. -/
structure Dispatches (x : Attempt n job name route mutation) : Prop where
  granted : ∃ token, (x.asking.step (.acquire n x.second)).phase n =
    .requesting job (some (name, route)) (some ⟨name, token⟩) (.dispatch mutation)
  sent : ((x.asking.step (.acquire n x.second)).step (.post n)).sent =
    x.asking.sent ++ [⟨job.id, mutation, job.row.leaseToken, none⟩]

/-- What the first half of the execution leaves: the worker asks for the dispatch permit, and
the lookup is the only request of the window. -/
theorem reaches (x : Attempt n job name route mutation) (h_log : LogSound x.start.db)
    (h_fresh : x.Fresh) (h_rate : 2 ≤ route.requestsPerSecond)
    (h_concurrency : 1 ≤ route.concurrency) :
    x.asking.phase n = .acquiring job (some (name, route)) (.dispatch mutation) ∧
      Reserved name (opened x.first name x.looking.db) none x.asking.db := by
  -- the route is found
  have h_route : x.start.step (.route n x.environ) =
      x.start.move n (.acquiring job (some (name, route)) .receipt) := by
    unfold World.step
    dsimp only
    rw [x.h_claimed]
    dsimp only
    rw [x.h_route]
    dsimp only
    rw [if_pos x.h_uncertain]
  have h_looking : x.looking.phase n = .acquiring job (some (name, route)) .receipt := by
    rw [x.h_looking.phase, h_route]
    exact Function.update_self ..
  have h_log : LogSound x.looking.db := x.h_looking.log (by rw [h_route]; exact h_log)
  -- the permit of the lookup
  obtain ⟨db₁, h_acquire, h_first⟩ :=
    first_permit h_log h_fresh.unused h_fresh.idle h_fresh.open_ h_rate h_concurrency
  have h_step₁ := World.acquire_granted h_looking h_acquire
  have h_sending := x.h_sending.phase.trans h_step₁.1
  have h_first := x.h_sending.reserved (h_step₁.2.1 ▸ h_first)
  -- a 404 is no failure, and `execute` goes on to `prepare`
  have h_step₂ : x.sending.step (.get n x.handling) = x.sending.move n
      (.releasing job (some (name, route)) ⟨name, x.looking.db.supply⟩ false
        (Capacity.requestCooldown (x.sending.remote.answerGet x.handling job.id)) .prepare) := by
    unfold World.step
    dsimp only
    rw [h_sending]
    dsimp only
    unfold Phase.answered Phase.leave Worker.afterLookup Capacity.requestFailed
    dsimp only
    rw [x.h_absent]
    rfl
  have h_answered : x.answered.phase n = .releasing job (some (name, route))
      ⟨name, x.looking.db.supply⟩ false
      (Capacity.requestCooldown (x.sending.remote.answerGet x.handling job.id)) .prepare := by
    rw [x.h_answered.phase, h_step₂]
    exact Function.update_self ..
  have h_first : Reserved name (opened x.first name x.looking.db) (some x.looking.db.supply)
      x.answered.db := x.h_answered.reserved (by rw [h_step₂]; exact h_first)
  -- the permit is given back
  obtain ⟨db₂, h_release, h_returned⟩ := given_back h_first x.returned
    (Capacity.requestCooldown (x.sending.remote.answerGet x.handling job.id))
  have h_step₃ : (x.answered.step (.release n x.returned)).phase n =
        .preparing job (some (name, route)) ∧
      (x.answered.step (.release n x.returned)).db = db₂ := by
    unfold World.step
    dsimp only
    rw [h_answered]
    dsimp only
    rw [h_release]
    refine ⟨Function.update_self .., ?_⟩
    show (Capacity.release x.returned name x.looking.db.supply false _ x.answered.db).commit
      x.answered.db = db₂
    rw [h_release, Outcome.commit_ok]
  have h_preparing := x.h_preparing.phase.trans h_step₃.1
  have h_returned := x.h_preparing.reserved (h_step₃.2 ▸ h_returned)
  -- the intent is recorded
  have h_step₄ : x.preparing.step (.prepare n x.prepared x.utc) = x.preparing.commitMove n
      x.prepared (.prepare x.utc job.id job.row.leaseToken)
      (.acquiring job (some (name, route)) (.dispatch mutation)) := by
    unfold World.step
    dsimp only
    rw [h_preparing]
    dsimp only
    rw [x.h_prepared]
    rfl
  constructor
  · rw [x.h_asking.phase, h_step₄]
    exact Function.update_self ..
  · refine x.h_asking.reserved ?_
    rw [h_step₄]
    show Reserved _ _ _ (Db.step _ ⟨x.prepared, .prepare x.utc job.id job.row.leaseToken⟩)
    exact h_returned.step trivial

/-- **When the dispatch follows its lookup.** On an idle destination the second permit is
granted in the window of the first, and the POST is sent, if and only if the registration has
three requests a second. -/
theorem dispatch_follows_iff (x : Attempt n job name route mutation)
    (h_log : LogSound x.start.db) (h_fresh : x.Fresh) (h_rate : 2 ≤ route.requestsPerSecond)
    (h_concurrency : 1 ≤ route.concurrency) :
    x.Dispatches ↔ 3 ≤ route.requestsPerSecond := by
  obtain ⟨h_asking, h_reserved⟩ := x.reaches h_log h_fresh h_rate h_concurrency
  have h_second : Capacity.Granted x.second name route .dispatch x.asking.db ↔
      3 ≤ route.requestsPerSecond :=
    second_permit h_reserved rfl (h_fresh.window ▸ le_max_left _ _)
      (fun probe h_probe => (h_fresh.open_ probe h_probe).trans h_fresh.later) h_concurrency
  rw [← h_second]
  obtain ⟨reply, db', h_ok, h_result⟩ :=
    Capacity.acquire_result x.second name route .dispatch x.asking.db
  cases h_result with
  | refused h_not =>
    refine iff_of_false (fun h => ?_) h_not
    obtain ⟨token, h_phase⟩ := h.granted
    cases (World.acquire_refused h_asking h_ok).symm.trans h_phase
  | granted h =>
    obtain ⟨h_phase, -, h_sent⟩ := World.acquire_granted h_asking h_ok
    refine iff_of_true ⟨⟨_, h_phase⟩, ?_⟩ h
    generalize x.asking.step (.acquire n x.second) = w at h_phase h_sent ⊢
    rw [← h_sent]
    unfold World.step
    dsimp only
    rw [h_phase]
    rfl

end Attempt

/-! ### A restarted job -/

namespace Restart

/-- A destination that takes `rate` requests a second, one at a time. -/
def sink (rate : ℕ) : Destination :=
  ⟨⟨"http", "", "", "localhost", "", ""⟩, "TOKEN", rate, 1, 10⟩

/-- A worker dies after `prepare`, and another execution of its job begins ten seconds
later. -/
def recovered (rate : ℕ) : World :=
  let event : SourceEvent := ⟨"event", "subject", 1, { (FieldMap.empty : FieldMap Field.Value)
    with email := some "a@example.test", owner := some "sales" }⟩
  (World.initial (AList.insert "sink" (sink rate) ∅) (AList.insert "sales" "sink" ∅)).run
    [.commit 0 (.ingest .crm event),
      .commit 1 (.propose .agent ⟨100, 0, 1, .syncProfile, "synchronise", .welcome⟩),
      .claim 0 2 1 [], .route 0 fun _ => true, .prepare 0 3 3, .crash 0,
      .claim 0 (seconds 10) 30 []]

/-- The intent of the first execution, which the second one prepares again. -/
def intent : Mutation :=
  ⟨0, .syncProfile, 1, .profile { (FieldMap.empty : FieldMap Field.Value) with
    email := some "a@example.test", owner := some "sales", lifecycle := some .lead }⟩

/-- The job as the second execution has claimed it. -/
def job : Worker.Claimed :=
  ⟨100, .leased, 2, 1, some (seconds 40), some 2, true, some intent, none, none⟩

section Execution

variable (w : World)

/-- The route was looked up. -/
def looked : World := w.step (.route 0 fun _ => true)

/-- The lookup has its permit. -/
def permitted : World := (looked w).step (.acquire 0 (seconds 10))

/-- The receiver has no such receipt. -/
def informed : World := (permitted w).step (.get 0 (.served true (seconds 10)))

/-- The permit is given back. -/
def released : World := (informed w).step (.release 0 (seconds 10))

/-- The dispatch is authorized. -/
def authorized : World := (released w).step (.prepare 0 (seconds 10) (seconds 10))

end Execution

/-- The second execution, with nothing in between its steps. -/
def execution {w : World} {rate : ℕ} (h_claimed : w.phase 0 = .claimed job)
    (h_route : Capacity.destination (fun _ => true) 100 w.db = .ok (some ("sink", sink rate)))
    (h_absent : ((permitted w).remote.answerGet (.served true (seconds 10)) 100).status = 404)
    (h_prepared : (Worker.prepare (seconds 10) (seconds 10) 100 (some 2) (released w).db).answer =
      .ok (.dispatch intent)) : Attempt 0 job "sink" (sink rate) intent where
  start := w
  environ := fun _ => true
  looking := looked w
  first := seconds 10
  sending := permitted w
  handling := .served true (seconds 10)
  answered := informed w
  returned := seconds 10
  preparing := released w
  prepared := seconds 10
  utc := seconds 10
  asking := authorized w
  second := seconds 10
  h_claimed := h_claimed
  h_uncertain := rfl
  h_route := h_route
  h_looking := .refl ..
  h_sending := .refl ..
  h_absent := h_absent
  h_answered := .refl ..
  h_preparing := .refl ..
  h_prepared := h_prepared
  h_asking := .refl ..

/-- This execution begins in a fresh window. -/
theorem execution_fresh {w : World} {rate : ℕ} {h_claimed h_route h_absent h_prepared}
    (h_unused : Capacity.used (seconds 10) "sink" (looked w).db = 0)
    (h_idle : Capacity.outstanding (Capacity.refresh (seconds 10) "sink" (looked w).db) "sink" = 0)
    (h_probe : (Capacity.stateRow "sink" (looked w).db).nextProbe = none) :
    (@execution w rate h_claimed h_route h_absent h_prepared).Fresh where
  unused := h_unused
  idle := h_idle
  open_ probe h := by cases h_probe.symm.trans h
  later := le_rfl
  window := rfl

end Restart

open Restart in
/-- **At two requests a second the dispatch does not follow.** The execution looks the
receipt up, and the idle destination then refuses its dispatch. -/
theorem smallest_registration_starves :
    ¬ ∀ (n : ℕ) (job : Worker.Claimed) (name : String) (route : Destination)
      (mutation : Mutation) (x : Attempt n job name route mutation), LogSound x.start.db →
      x.Fresh → 2 ≤ route.requestsPerSecond → 1 ≤ route.concurrency → x.Dispatches := by
  intro h
  have h_dispatches := h 0 job "sink" (sink 2) intent
    (execution (w := recovered 2) (by decide +kernel) (by decide +kernel) (by decide +kernel)
      (by decide +kernel))
    (permits_sound _ _ _).log
    (execution_fresh (by decide +kernel) (by decide +kernel) (by decide +kernel)) (by decide)
    (by decide)
  have h_deferred : ((authorized (recovered 2)).step (.acquire 0 (seconds 10))).phase 0 =
      .deferring job := by decide +kernel
  obtain ⟨token, h_phase⟩ := h_dispatches.granted
  cases h_deferred.symm.trans h_phase

open Restart in
/-- At three requests a second it does. -/
theorem dispatch_follows_three :
    ∃ x : Attempt 0 job "sink" (sink 3) intent,
      x.start = recovered 3 ∧ (x.Dispatches ↔ 3 ≤ (sink 3).requestsPerSecond) :=
  ⟨execution (w := recovered 3) (by decide +kernel) (by decide +kernel) (by decide +kernel)
      (by decide +kernel), rfl,
    Attempt.dispatch_follows_iff _ (permits_sound _ _ _).log
      (execution_fresh (by decide +kernel) (by decide +kernel) (by decide +kernel)) (by decide)
      (by decide)⟩

end ControlPlane
