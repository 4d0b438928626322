import ControlPlane.Transactions.Frames

/-!
# The bucket of a destination

The row of `cp.capacity_state` is the bucket of the current window: `window_id`, how many
permits it has `used`, and the next probe. `cp.capacity_requests` is the log of all permits
ever granted, which nobody deletes. `BucketSound` ties the two together: `used` counts the log
of the current window, no later window has been touched, and no window has more in its log
than the destination's limits.

The clock may move as it likes. `acquire` takes the later one of the clock's window and the
bucket's, so the window only moves forward (`Follows`), and a window that has been left is
never counted again.
-/

namespace ControlPlane

open Framework

namespace Capacity

/-! ### What the tables count -/

/-- The permits for the destination in the log of a window. -/
def issued (db : Db) (name : String) (window : ℤ) : ℕ :=
  db.capacityRequests.count fun _ request =>
    request.destination = name && request.windowId = window

/-- The dispatch permits among them. -/
def dispatched (db : Db) (name : String) (window : ℤ) : ℕ :=
  db.capacityRequests.count fun _ request =>
    request.destination = name && request.windowId = window && request.kind = .dispatch

/-- The permit rows of the destination. -/
def outstanding (db : Db) (name : String) : ℕ :=
  db.requestPermits.count fun _ permit => permit.destination = name

/-! ### `acquire` and `release` -/

/-- The window `acquire` puts its permit in. -/
def window (now : Time) (name : String) (db : Db) : ℤ :=
  max (now / seconds 1) (stateRow name db).windowId

/-- The number of permits it takes for used. -/
def used (now : Time) (name : String) (db : Db) : ℕ :=
  if (stateRow name db).windowId = window now name db then (stateRow name db).used else 0

/-- The guards of a granted permit. -/
structure Granted (now : Time) (name : String) (route : Destination) (kind : RequestKind)
    (db : Db) : Prop where
  eligible : ∀ probe, (stateRow name db).nextProbe = some probe → probe ≤ now
  limit : used now name db < route.requestsPerSecond - (if kind = .dispatch then 1 else 0)
  live : outstanding (refresh now name db) name < route.concurrency

/-- What `acquire` commits. -/
inductive AcquireResult (now : Time) (name : String) (route : Destination) (kind : RequestKind)
    (db : Db) : Option Uuid → Db → Prop
  | refused (h_not : ¬ Granted now name route kind db) :
      AcquireResult now name route kind db none (refresh now name db)
  | granted (h : Granted now name route kind db) :
      AcquireResult now name route kind db (some db.supply)
        (permit now name kind (stateRow name db) (window now name db) (used now name db)
          (refresh now name db))

/-- The condition under which `acquire` refuses. -/
theorem not_granted_iff (now : Time) (name : String) (route : Destination) (kind : RequestKind)
    (db : Db) : ¬ Granted now name route kind db ↔
      (stateRow name db).nextProbe.all (· ≤ now) = false ∨
        route.requestsPerSecond - (if kind = .dispatch then 1 else 0) ≤ used now name db ∨
        route.concurrency ≤ outstanding (refresh now name db) name := by
  have h_eligible : (∀ probe, (stateRow name db).nextProbe = some probe → probe ≤ now) ↔
      (stateRow name db).nextProbe.all (· ≤ now) = true := by
    cases (stateRow name db).nextProbe with
    | none => exact iff_of_true (fun _ h => by cases h) rfl
    | some probe =>
      rw [Option.all_some, decide_eq_true_eq]
      exact ⟨fun h => h probe rfl, fun h _ h_eq => Option.some.inj h_eq ▸ h⟩
  constructor
  · intro h
    by_contra h_all
    rw [not_or, not_or, Bool.not_eq_false, not_le, not_le] at h_all
    exact h ⟨h_eligible.mpr h_all.1, h_all.2.1, h_all.2.2⟩
  · rintro (h | h | h) h_granted
    · rw [h_eligible.mp h_granted.eligible] at h
      cases h
    · exact absurd h_granted.limit (not_lt.mpr h)
    · exact absurd h_granted.live (not_lt.mpr h)

/-- `acquire` always returns: a permit where it is granted, and none where it is not. -/
theorem acquire_result (now : Time) (name : String) (route : Destination) (kind : RequestKind)
    (db : Db) : ∃ reply db', acquire now name route kind db = .ok (reply, db') ∧
      AcquireResult now name route kind db reply db' := by
  by_cases h : Granted now name route kind db
  · refine ⟨_, _, ?_, .granted h⟩
    exact if_neg (mt (not_granted_iff now name route kind db).mpr (not_not.mpr h))
  · refine ⟨_, _, ?_, .refused h⟩
    exact if_pos ((not_granted_iff now name route kind db).mp h)

/-- What a `release` that is not rolled back commits. -/
structure Released (now : Time) (name : String) (token : Uuid) (failed : Bool) (cooldown : ℕ)
    (db db' : Db) : Prop where
  logged : (db.capacityRequests.lookup token).isSome
  open_ : db.capacityCompletions.lookup token = none
  permits : db'.requestPermits = db.requestPermits.erase token
  requests : db'.capacityRequests = db.capacityRequests
  completions : db'.capacityCompletions = db.capacityCompletions.insert token ⟨now, failed⟩
  /-- Only the bucket of a failed request's destination moves, and only its probe. -/
  state : ∀ name', db'.capacityState.lookup name' =
    if failed = true ∧ name' = name then (db.capacityState.lookup name).map fun state =>
      { state with nextProbe := some (laterProbe state.nextProbe (now + seconds cooldown)) }
    else db.capacityState.lookup name'

/-- What `release` commits. -/
theorem release_result {now : Time} {name : String} {token : Uuid} {failed : Bool} {cooldown : ℕ}
    {db db' : Db} {reply : Unit}
    (h : release now name token failed cooldown db = .ok (reply, db')) :
    Released now name token failed cooldown db db' := by
  unfold release at h
  split at h
  · cases h
  rename_i h_guard
  rw [not_or, Option.isNone_iff_eq_none, ← ne_eq, Option.ne_none_iff_isSome,
    Option.not_isSome_iff_eq_none] at h_guard
  dsimp only at h
  split at h
  · rename_i h_state
    cases h
    refine ⟨h_guard.1, h_guard.2, rfl, rfl, rfl, fun name' => ?_⟩
    split
    · rename_i h_failed
      rw [if_pos h_failed.1] at h_state
      rw [h_failed.2, h_state]
      rfl
    · rfl
  · rename_i state h_state
    cases h
    -- a request that went well writes no cooldown
    have h_failed : failed = true := by
      by_contra h_ok
      rw [if_neg h_ok] at h_state
      cases h_state
    rw [if_pos h_failed] at h_state
    refine ⟨h_guard.1, h_guard.2, rfl, rfl, rfl, fun name' => ?_⟩
    show (db.capacityState.insert name _).lookup name' = _
    rw [Table.lookup_insert]
    by_cases h_name : name' = name
    · rw [if_pos h_name, if_pos ⟨h_failed, h_name⟩, h_state]
      rfl
    · rw [if_neg h_name, if_neg fun h => h_name h.2]

/-- A permit that is logged and not completed can be released. -/
theorem release_ok (now : Time) (name : String) {token : Uuid} (failed : Bool) (cooldown : ℕ)
    {db : Db} (h_logged : (db.capacityRequests.lookup token).isSome)
    (h_open : db.capacityCompletions.lookup token = none) :
    ∃ db', release now name token failed cooldown db = .ok ((), db') := by
  have h_guard : ¬((db.capacityRequests.lookup token).isNone = true ∨
      (db.capacityCompletions.lookup token).isSome = true) := by
    rintro (h_none | h_some)
    · rw [Option.isNone_iff_eq_none.mp h_none] at h_logged
      cases h_logged
    · rw [h_open] at h_some
      cases h_some
  unfold release
  rw [if_neg h_guard]
  dsimp only
  split
  · exact ⟨_, rfl⟩
  · exact ⟨_, rfl⟩

end Capacity

/-! ### The invariant of a bucket -/

/-- **The bucket of a destination** with the limits of `route`. -/
structure BucketSound (db : Db) (name : String) (route : Destination) : Prop where
  /-- `used` counts the permits logged for the window. -/
  used : (Capacity.stateRow name db).used =
    Capacity.issued db name (Capacity.stateRow name db).windowId
  /-- A later window is untouched. -/
  later : ∀ window, (Capacity.stateRow name db).windowId < window →
    Capacity.issued db name window = 0
  issued : ∀ window, Capacity.issued db name window ≤ route.requestsPerSecond
  dispatched : ∀ window, Capacity.dispatched db name window ≤ route.requestsPerSecond - 1
  outstanding : Capacity.outstanding db name ≤ route.concurrency

/-- The tokens have been drawn, the destination of a logged permit has a bucket, and only
logged permits are completed or have a row. -/
structure LogSound (db : Db) : Prop where
  requests : ∀ token row, db.capacityRequests.lookup token = some row → token < db.supply
  permits : ∀ token row, db.requestPermits.lookup token = some row → token < db.supply
  buckets : ∀ token row, db.capacityRequests.lookup token = some row →
    (db.capacityState.lookup row.destination).isSome
  completions : ∀ token row, db.capacityCompletions.lookup token = some row →
    (db.capacityRequests.lookup token).isSome
  rows : ∀ token permit, db.requestPermits.lookup token = some permit →
    ∃ row, db.capacityRequests.lookup token = some row ∧ row.destination = permit.destination

namespace BucketSound

variable {db db' : Db} {name : String} {route : Destination}

/-- What leaves the bucket, its log and the number of its permits as they are, or takes
permits away, keeps it sound. -/
theorem congr (h : BucketSound db name route)
    (h_window : (Capacity.stateRow name db').windowId = (Capacity.stateRow name db).windowId)
    (h_used : (Capacity.stateRow name db').used = (Capacity.stateRow name db).used)
    (h_issued : ∀ window, Capacity.issued db' name window = Capacity.issued db name window)
    (h_dispatched : ∀ window,
      Capacity.dispatched db' name window = Capacity.dispatched db name window)
    (h_permits : Capacity.outstanding db' name ≤ Capacity.outstanding db name) :
    BucketSound db' name route where
  used := by rw [h_used, h_window, h_issued, h.used]
  later window h_later := by
    rw [h_issued]
    exact h.later window (h_window ▸ h_later)
  issued window := by
    rw [h_issued]
    exact h.issued window
  dispatched window := by
    rw [h_dispatched]
    exact h.dispatched window
  outstanding := h_permits.trans h.outstanding

end BucketSound

/-! ### One transaction -/

section Acquire

variable {now : Time} {name name' : String} {route : Destination} {kind : RequestKind} {db : Db}

/-- The row that was written. -/
theorem stateRow_insert_self (state : CapacityState) {db' : Db}
    (h : db'.capacityState = db.capacityState.insert name state) :
    Capacity.stateRow name db' = state := by
  unfold Capacity.stateRow
  rw [h, Table.lookup_insert_self]
  rfl

/-- The row of another destination. -/
theorem stateRow_insert_of_ne {state : CapacityState} {db' : Db} (h_ne : name ≠ name')
    (h : db'.capacityState = db.capacityState.insert name' state) :
    Capacity.stateRow name db' = Capacity.stateRow name db := by
  unfold Capacity.stateRow
  rw [h, Table.lookup_insert_of_ne _ _ h_ne]

/-- A missing row is inserted with its defaults, so that nothing changes for a reader. -/
theorem stateRow_refresh (now : Time) (name name' : String) (db : Db) :
    Capacity.stateRow name (Capacity.refresh now name' db) = Capacity.stateRow name db := by
  by_cases h : name = name'
  · subst h
    exact stateRow_insert_self _ rfl
  · exact stateRow_insert_of_ne h rfl

/-- The next token was used for no request. -/
theorem LogSound.requests_free (h : LogSound db) :
    db.capacityRequests.lookup db.supply = none := by
  cases h_row : db.capacityRequests.lookup db.supply with
  | none => rfl
  | some row => exact absurd (h.requests _ row h_row) (lt_irrefl _)

/-- The next token is no permit. -/
theorem LogSound.permits_free (h : LogSound db) :
    db.requestPermits.lookup db.supply = none := by
  cases h_row : db.requestPermits.lookup db.supply with
  | none => rfl
  | some row => exact absurd (h.permits _ row h_row) (lt_irrefl _)

/-- A row that was there is there, and so is the one written. -/
theorem lookup_insert_isSome {t : Table String CapacityState} {name name' : String}
    (state : CapacityState) (h : name' = name ∨ (t.lookup name').isSome) :
    ((t.insert name state).lookup name').isSome := by
  rw [Table.lookup_insert]
  split
  · rfl
  · rename_i h_ne
    exact h.resolve_left h_ne

/-- A refresh keeps the log sound. -/
theorem LogSound.refresh (h : LogSound db) (now : Time) (name : String) :
    LogSound (Capacity.refresh now name db) where
  requests := h.requests
  permits token row h_row := h.permits token row (Table.lookup_filter_eq_some.mp h_row).1
  buckets token row h_row := lookup_insert_isSome _ (.inr (h.buckets token row h_row))
  completions := h.completions
  rows token permit h_permit := h.rows token permit (Table.lookup_filter_eq_some.mp h_permit).1

/-- So does a new permit. -/
theorem LogSound.permit (h : LogSound db) (now : Time) (name : String) (kind : RequestKind)
    (state : CapacityState) (window : ℤ) (used : ℕ) :
    LogSound (Capacity.permit now name kind state window used db) where
  -- the token of the new row is the supply, which is behind it afterwards
  requests token row h_row := by
    rw [show (Capacity.permit now name kind state window used db).capacityRequests =
      db.capacityRequests.insert db.supply ⟨name, window, kind, now⟩ from rfl,
      Table.lookup_insert] at h_row
    show token < db.supply + 1
    split at h_row
    · rename_i h_token
      rw [h_token]
      exact Nat.lt_succ_self _
    · exact (h.requests token row h_row).trans (Nat.lt_succ_self _)
  permits token row h_row := by
    rw [show (Capacity.permit now name kind state window used db).requestPermits =
      db.requestPermits.insert db.supply ⟨name, now + seconds 30, kind⟩ from rfl,
      Table.lookup_insert] at h_row
    show token < db.supply + 1
    split at h_row
    · rename_i h_token
      rw [h_token]
      exact Nat.lt_succ_self _
    · exact (h.permits token row h_row).trans (Nat.lt_succ_self _)
  buckets token row h_row := by
    rw [show (Capacity.permit now name kind state window used db).capacityRequests =
      db.capacityRequests.insert db.supply ⟨name, window, kind, now⟩ from rfl,
      Table.lookup_insert] at h_row
    refine lookup_insert_isSome _ ?_
    split at h_row
    · rw [← Option.some.inj h_row]
      exact .inl rfl
    · exact .inr (h.buckets token row h_row)
  completions token row h_row := by
    obtain ⟨request, h_request⟩ := Option.isSome_iff_exists.mp (h.completions token row h_row)
    exact Option.isSome_iff_exists.mpr
      ⟨request, Table.lookup_insert_of_none h.requests_free h_request⟩
  -- a permit comes with its row of the log
  rows token permit h_permit := by
    rw [show (Capacity.permit now name kind state window used db).requestPermits =
      db.requestPermits.insert db.supply ⟨name, now + seconds 30, kind⟩ from rfl,
      Table.lookup_insert] at h_permit
    show ∃ row, (db.capacityRequests.insert db.supply _).lookup token = some row ∧ _
    split at h_permit
    · rename_i h_token
      rw [h_token, ← Option.some.inj h_permit]
      exact ⟨_, Table.lookup_insert_self _ _ _, rfl⟩
    · obtain ⟨row, h_row, h_destination⟩ := h.rows token permit h_permit
      exact ⟨row, Table.lookup_insert_of_none h.requests_free h_row, h_destination⟩

/-- A refresh keeps every bucket sound. -/
theorem BucketSound.refresh (h : BucketSound db name route) (now : Time) (name' : String) :
    BucketSound (Capacity.refresh now name' db) name route := by
  have h_state := stateRow_refresh now name name' db
  refine h.congr (by rw [h_state]) (by rw [h_state]) (fun _ => rfl) (fun _ => rfl) ?_
  unfold Capacity.outstanding Capacity.refresh
  dsimp only
  exact Table.count_filter_le _ _ db.requestPermits

/-- A permit counts in its window. -/
theorem stateRow_permit_self (now : Time) (name : String) (kind : RequestKind)
    (state : CapacityState) (window : ℤ) (used : ℕ) (db : Db) :
    Capacity.stateRow name (Capacity.permit now name kind state window used db) =
      { state with windowId := window, used := used + 1, lastServed := some now } :=
  stateRow_insert_self _ rfl

/-- It does not count for another destination. -/
theorem stateRow_permit_of_ne (h_ne : name ≠ name') (now : Time) (kind : RequestKind)
    (state : CapacityState) (window : ℤ) (used : ℕ) (db : Db) :
    Capacity.stateRow name (Capacity.permit now name' kind state window used db) =
      Capacity.stateRow name db :=
  stateRow_insert_of_ne h_ne rfl

/-- A permit for another destination. -/
theorem BucketSound.permit_of_ne (h : BucketSound db name route) (h_ne : name ≠ name')
    (h_drawn : LogSound db) (now : Time) (kind : RequestKind) (state : CapacityState)
    (window : ℤ) (used : ℕ) :
    BucketSound (Capacity.permit now name' kind state window used db) name route := by
  have h_state := stateRow_permit_of_ne h_ne now kind state window used db
  have h_request := h_drawn.requests_free
  have h_permit := h_drawn.permits_free
  refine h.congr (by rw [h_state]) (by rw [h_state]) (fun w => ?_) (fun w => ?_) ?_
  · show Table.count _ (db.capacityRequests.insert db.supply _) = _
    rw [Table.count_insert_of_none h_request, if_neg (by simp [Ne.symm h_ne])]
    rfl
  · show Table.count _ (db.capacityRequests.insert db.supply _) = _
    rw [Table.count_insert_of_none h_request, if_neg (by simp [Ne.symm h_ne])]
    rfl
  · show Table.count _ (db.requestPermits.insert db.supply _) ≤ _
    rw [Table.count_insert_of_none h_permit, if_neg (by simp [Ne.symm h_ne])]
    exact le_rfl

/-- **A permit for the destination.** The bucket has room for it in the window. -/
theorem BucketSound.permit (h : BucketSound db name route) (h_drawn : LogSound db)
    (h_granted : Capacity.Granted now name route kind db) :
    BucketSound (Capacity.permit now name kind (Capacity.stateRow name db)
      (Capacity.window now name db) (Capacity.used now name db) (Capacity.refresh now name db))
      name route := by
  have h_window : (Capacity.stateRow name db).windowId ≤ Capacity.window now name db :=
    le_max_right _ _
  -- what `acquire` takes for used is what the log has in the window
  have h_used : Capacity.used now name db =
      Capacity.issued db name (Capacity.window now name db) := by
    unfold Capacity.used
    split
    · rename_i h_same
      rw [h.used, h_same]
    · rename_i h_new
      exact (h.later _ (lt_of_le_of_ne h_window h_new)).symm
  have h_limit := h_granted.limit
  rw [h_used] at h_limit
  -- the new row of the log counts once, in its window
  have h_free := h_drawn.requests_free
  have h_live : Capacity.outstanding (Capacity.refresh now name db) name + 1 ≤ route.concurrency :=
    h_granted.live
  have h_permits := (h_drawn.refresh now name).permits_free
  generalize h_db : Capacity.permit now name kind (Capacity.stateRow name db)
    (Capacity.window now name db) (Capacity.used now name db) (Capacity.refresh now name db) = db'
  have h_state : Capacity.stateRow name db' = { Capacity.stateRow name db with
      windowId := Capacity.window now name db
      used := Capacity.used now name db + 1
      lastServed := some now } := by
    subst h_db
    exact stateRow_permit_self ..
  have h_issued : ∀ w, Capacity.issued db' name w =
      Capacity.issued db name w + if w = Capacity.window now name db then 1 else 0 := by
    intro w
    subst h_db
    refine (Table.count_insert_of_none h_free _).trans ?_
    refine congrArg (Capacity.issued db name w + ·) (if_congr ?_ rfl rfl)
    rw [Bool.and_eq_true, decide_eq_true_eq, decide_eq_true_eq]
    exact ⟨fun h => h.2.symm, fun h => ⟨rfl, h.symm⟩⟩
  have h_dispatched : ∀ w, Capacity.dispatched db' name w = Capacity.dispatched db name w +
      if w = Capacity.window now name db ∧ kind = .dispatch then 1 else 0 := by
    intro w
    subst h_db
    refine (Table.count_insert_of_none h_free _).trans ?_
    refine congrArg (Capacity.dispatched db name w + ·) (if_congr ?_ rfl rfl)
    rw [Bool.and_eq_true, Bool.and_eq_true, decide_eq_true_eq, decide_eq_true_eq,
      decide_eq_true_eq]
    exact ⟨fun h => ⟨h.1.2.symm, h.2⟩, fun h => ⟨⟨rfl, h.1.symm⟩, h.2⟩⟩
  have h_count : Capacity.dispatched db name (Capacity.window now name db) ≤
      Capacity.issued db name (Capacity.window now name db) := by
    refine Table.count_le_of_imp (fun _ _ h_row => ?_) _
    rw [Bool.and_eq_true] at h_row
    exact h_row.1
  constructor
  · rw [h_state, h_issued, if_pos rfl]
    exact congrArg (· + 1) h_used
  -- no later window has been used
  · intro w h_later
    rw [h_state] at h_later
    rw [h_issued, if_neg h_later.ne', Nat.add_zero]
    exact h.later w (h_window.trans_lt h_later)
  · intro w
    rw [h_issued]
    split
    · rename_i h_same
      rw [h_same]
      omega
    · exact h.issued w
  · intro w
    rw [h_dispatched]
    split
    · rename_i h_same
      rw [if_pos h_same.2] at h_limit
      rw [h_same.1]
      omega
    · exact h.dispatched w
  · subst h_db
    refine le_trans (le_of_eq ?_) h_live
    refine (Table.count_insert_of_none h_permits _).trans ?_
    rw [if_pos (decide_eq_true rfl)]
    rfl

end Acquire

section Release

variable {now : Time} {name name' : String} {token : Uuid} {failed : Bool} {cooldown : ℕ}
  {db db' : Db}

/-- A release keeps the log sound. -/
theorem LogSound.release (h : LogSound db) (h_supply : db.supply ≤ db'.supply)
    (h_released : Capacity.Released now name' token failed cooldown db db') : LogSound db' where
  requests token' row h_row := by
    rw [h_released.requests] at h_row
    exact (h.requests token' row h_row).trans_le h_supply
  permits token' row h_row := by
    rw [h_released.permits] at h_row
    exact (h.permits token' row (Table.lookup_of_erase h_row)).trans_le h_supply
  buckets token' row h_row := by
    rw [h_released.requests] at h_row
    have h_bucket := h.buckets token' row h_row
    rw [h_released.state]
    split
    · rename_i h_failed
      rw [Option.isSome_map, ← h_failed.2]
      exact h_bucket
    · exact h_bucket
  completions token' row h_row := by
    rw [h_released.requests]
    rw [h_released.completions, Table.lookup_insert] at h_row
    split at h_row
    · rename_i h_token
      rw [h_token]
      exact h_released.logged
    · exact h.completions token' row h_row
  -- a permit is erased, and the log keeps its row
  rows token' permit h_permit := by
    rw [h_released.permits] at h_permit
    rw [h_released.requests]
    exact h.rows token' permit (Table.lookup_of_erase h_permit)

/-- The bucket after a release: only the probe may have moved. -/
theorem stateRow_release (h_released : Capacity.Released now name' token failed cooldown db db')
    (name : String) :
    Capacity.stateRow name db' = Capacity.stateRow name db ∨
      failed = true ∧ name = name' ∧ Capacity.stateRow name db' = { Capacity.stateRow name db with
        nextProbe := some (Capacity.laterProbe (Capacity.stateRow name db).nextProbe
          (now + seconds cooldown)) } := by
  have h_state := h_released.state name
  unfold Capacity.stateRow
  rw [h_state]
  split
  · rename_i h_failed
    rw [h_failed.2]
    cases db.capacityState.lookup name' with
    | none => exact .inl rfl
    | some state => exact .inr ⟨h_failed.1, rfl, rfl⟩
  · exact .inl rfl

/-- A release keeps every bucket sound. -/
theorem BucketSound.release {route : Destination} (h : BucketSound db name route)
    (h_released : Capacity.Released now name' token failed cooldown db db') :
    BucketSound db' name route := by
  have h_issued : ∀ window, Capacity.issued db' name window = Capacity.issued db name window := by
    intro window
    unfold Capacity.issued
    rw [h_released.requests]
  have h_dispatched : ∀ window,
      Capacity.dispatched db' name window = Capacity.dispatched db name window := by
    intro window
    unfold Capacity.dispatched
    rw [h_released.requests]
  have h_permits : Capacity.outstanding db' name ≤ Capacity.outstanding db name := by
    unfold Capacity.outstanding
    rw [h_released.permits]
    exact Table.count_erase_le _ _ _
  rcases stateRow_release h_released name with h_state | ⟨-, -, h_state⟩
  · exact h.congr (by rw [h_state]) (by rw [h_state]) h_issued h_dispatched h_permits
  · exact h.congr (by rw [h_state]) (by rw [h_state]) h_issued h_dispatched h_permits

end Release

/-! ### The window and the probe only move forward -/

/-- The later bucket is at least as far as the earlier one. -/
structure Follows (state state' : CapacityState) : Prop where
  window : state.windowId ≤ state'.windowId
  probe : ∀ probe, state.nextProbe = some probe →
    ∃ probe', state'.nextProbe = some probe' ∧ probe ≤ probe'

/-- A state follows itself. -/
theorem Follows.refl (state : CapacityState) : Follows state state :=
  ⟨le_rfl, fun probe h => ⟨probe, h, le_rfl⟩⟩

/-- A state follows those before the one it follows. -/
theorem Follows.trans {a b c : CapacityState} (h : Follows a b) (h' : Follows b c) :
    Follows a c where
  window := h.window.trans h'.window
  probe probe h_probe := by
    obtain ⟨probe', h_probe', h_le⟩ := h.probe probe h_probe
    obtain ⟨probe'', h_probe'', h_le'⟩ := h'.probe probe' h_probe'
    exact ⟨probe'', h_probe'', h_le.trans h_le'⟩

/-- The next probe is no earlier. -/
theorem le_laterProbe (probe : Option Time) (until_ : Time) :
    until_ ≤ Capacity.laterProbe probe until_ := by
  cases probe with
  | none => exact le_rfl
  | some probe => exact le_max_right probe until_

/-- Behind a release the state of a destination follows the one before. -/
theorem follows_release {now : Time} {name' : String} {token : Uuid} {failed : Bool}
    {cooldown : ℕ} {db db' : Db}
    (h_released : Capacity.Released now name' token failed cooldown db db') (name : String) :
    Follows (Capacity.stateRow name db) (Capacity.stateRow name db') := by
  rcases stateRow_release h_released name with h_state | ⟨-, -, h_state⟩
  · rw [h_state]
    exact .refl _
  · rw [h_state]
    refine ⟨le_rfl, fun probe h_probe => ⟨_, rfl, ?_⟩⟩
    rw [h_probe]
    exact le_max_left probe _

/-- So it does behind a permit. -/
theorem follows_permit {name' : String} {now : Time} {kind : RequestKind} {db : Db}
    (name : String) :
    Follows (Capacity.stateRow name db) (Capacity.stateRow name
      (Capacity.permit now name' kind (Capacity.stateRow name' db) (Capacity.window now name' db)
        (Capacity.used now name' db) (Capacity.refresh now name' db))) := by
  by_cases h_name : name = name'
  · subst h_name
    rw [stateRow_permit_self]
    exact ⟨le_max_right _ _, fun probe h_probe => ⟨probe, h_probe, le_rfl⟩⟩
  · rw [stateRow_permit_of_ne h_name, stateRow_refresh]
    exact .refl _

/-! ### One step -/

/-- What one step does to the traffic. -/
inductive TrafficMove (db : Db) : Entry → Prop
  | kept (entry : Entry) (h_traffic : (db.step entry).traffic = db.traffic) :
      TrafficMove db entry
  | refused (now : Time) (name : String) (route : Destination) (kind : RequestKind)
      (h_not : ¬ Capacity.Granted now name route kind db)
      (h_step : db.step ⟨now, .acquire name route kind⟩ = Capacity.refresh now name db) :
      TrafficMove db ⟨now, .acquire name route kind⟩
  | granted (now : Time) (name : String) (route : Destination) (kind : RequestKind)
      (h_granted : Capacity.Granted now name route kind db)
      (h_step : db.step ⟨now, .acquire name route kind⟩ =
        Capacity.permit now name kind (Capacity.stateRow name db) (Capacity.window now name db)
          (Capacity.used now name db) (Capacity.refresh now name db)) :
      TrafficMove db ⟨now, .acquire name route kind⟩
  | released (now : Time) (name : String) (token : Uuid) (failed : Bool) (cooldown : ℕ)
      (h_released : Capacity.Released now name token failed cooldown db
        (db.step ⟨now, .release name token failed cooldown⟩)) :
      TrafficMove db ⟨now, .release name token failed cooldown⟩

/-- A step leaves the tables of the permits, or is `acquire` or `release`. -/
theorem traffic_move (db : Db) (entry : Entry) : TrafficMove db entry := by
  obtain ⟨now, tx⟩ := entry
  -- only `acquire` and `release` write the tables of the traffic
  by_cases h_traffic : tx.isTraffic = false
  · exact .kept _ (traffic_apply now db h_traffic)
  cases tx with
  | acquire name route kind =>
    obtain ⟨reply, db', h_ok, h_result⟩ := Capacity.acquire_result now name route kind db
    have h_step : db.step ⟨now, .acquire name route kind⟩ = db' := by
      show (Capacity.acquire now name route kind db).commit db = db'
      rw [h_ok, Outcome.commit_ok]
    cases h_result with
    | refused h_not => exact .refused now name route kind h_not h_step
    | granted h_granted => exact .granted now name route kind h_granted h_step
  | release name token failed cooldown =>
    cases h_outcome : Capacity.release now name token failed cooldown db with
    | error fault =>
      refine .kept _ ?_
      show ((Capacity.release now name token failed cooldown db).commit db).traffic = db.traffic
      rw [h_outcome, Outcome.commit_error]
    | ok answered =>
      obtain ⟨⟨⟩, db'⟩ := answered
      refine .released now name token failed cooldown ?_
      show Capacity.Released now name token failed cooldown db
        ((Capacity.release now name token failed cooldown db).commit db)
      rw [h_outcome, Outcome.commit_ok]
      exact Capacity.release_result h_outcome
  | _ => exact absurd rfl h_traffic

/-- The row is read from those tables. -/
theorem stateRow_of_traffic {db db' : Db} (h : db'.traffic = db.traffic) (name : String) :
    Capacity.stateRow name db' = Capacity.stateRow name db := by
  have h_state : db'.capacityState = db.capacityState := congrArg Traffic.capacityState h
  unfold Capacity.stateRow
  rw [h_state]

/-- Every transaction keeps the log sound. -/
theorem LogSound.step {db : Db} (h : LogSound db) (entry : Entry) : LogSound (db.step entry) := by
  have h_supply : db.supply ≤ (db.step entry).supply := supply_le_apply entry.now db entry.tx
  cases traffic_move db entry with
  -- the tables of the log belong to the traffic
  | kept _ h_traffic =>
    have h_requests : (db.step entry).capacityRequests = db.capacityRequests :=
      congrArg Traffic.capacityRequests h_traffic
    have h_permits : (db.step entry).requestPermits = db.requestPermits :=
      congrArg Traffic.requestPermits h_traffic
    have h_state : (db.step entry).capacityState = db.capacityState :=
      congrArg Traffic.capacityState h_traffic
    have h_completions : (db.step entry).capacityCompletions = db.capacityCompletions :=
      congrArg Traffic.capacityCompletions h_traffic
    constructor
    · intro token row h_row
      rw [h_requests] at h_row
      exact (h.requests token row h_row).trans_le h_supply
    · intro token row h_row
      rw [h_permits] at h_row
      exact (h.permits token row h_row).trans_le h_supply
    · intro token row h_row
      rw [h_requests] at h_row
      rw [h_state]
      exact h.buckets token row h_row
    · intro token row h_row
      rw [h_completions] at h_row
      rw [h_requests]
      exact h.completions token row h_row
    · intro token permit h_permit
      rw [h_permits] at h_permit
      rw [h_requests]
      exact h.rows token permit h_permit
  | refused now name route kind h_not h_step =>
    rw [h_step]
    exact h.refresh now name
  | granted now name route kind h_granted h_step =>
    rw [h_step]
    exact (h.refresh now name).permit ..
  | released now name token failed cooldown h_released => exact h.release h_supply h_released

/-- So the log is sound after every run. -/
theorem log_sound (registry : Table String Destination) (owners : Table String String)
    (entries : List Entry) : LogSound ((Db.migrated registry owners).run entries) :=
  run_invariant ⟨nofun, nofun, nofun, nofun, nofun⟩ (fun _ entry h => h.step entry) entries

/-- **One step keeps the bucket sound**, when an `acquire` for its destination goes by the
limits of its route. -/
theorem BucketSound.step {db : Db} {name : String} {route : Destination}
    (h : BucketSound db name route) (h_log : LogSound db) (entry : Entry)
    (h_route : ∀ route' kind, entry.tx = .acquire name route' kind → route' = route) :
    BucketSound (db.step entry) name route := by
  cases traffic_move db entry with
  | kept _ h_traffic =>
    have h_requests : (db.step entry).capacityRequests = db.capacityRequests :=
      congrArg Traffic.capacityRequests h_traffic
    have h_permits : (db.step entry).requestPermits = db.requestPermits :=
      congrArg Traffic.requestPermits h_traffic
    have h_state := stateRow_of_traffic h_traffic name
    refine h.congr (by rw [h_state]) (by rw [h_state]) (fun window => ?_) (fun window => ?_) ?_
    · unfold Capacity.issued
      rw [h_requests]
    · unfold Capacity.dispatched
      rw [h_requests]
    · unfold Capacity.outstanding
      rw [h_permits]
  | refused now name' route' kind h_not h_step =>
    rw [h_step]
    exact h.refresh now name'
  | granted now name' route' kind h_granted h_step =>
    rw [h_step]
    -- a permit for another destination fills another bucket
    by_cases h_name : name = name'
    · subst h_name
      obtain rfl := h_route route' kind rfl
      exact h.permit h_log h_granted
    · exact (h.refresh now name').permit_of_ne h_name (h_log.refresh now name') ..
  | released now name' token failed cooldown h_released => exact h.release h_released

/-- With every transaction the state of a destination follows. -/
theorem follows_step (db : Db) (entry : Entry) (name : String) :
    Follows (Capacity.stateRow name db) (Capacity.stateRow name (db.step entry)) := by
  cases traffic_move db entry with
  | kept _ h_traffic =>
    rw [stateRow_of_traffic h_traffic]
    exact .refl _
  | refused now name' route' kind h_not h_step =>
    rw [h_step, stateRow_refresh]
    exact .refl _
  | granted now name' route' kind h_granted h_step =>
    rw [h_step]
    exact follows_permit name
  | released now name' token failed cooldown h_released => exact follows_release h_released name

/-- The log of permits and the log of completions are never rewritten. -/
theorem logs_persist {db : Db} (h : LogSound db) (entry : Entry) {token : Uuid} :
    (∀ row, db.capacityRequests.lookup token = some row →
      (db.step entry).capacityRequests.lookup token = some row) ∧
    ∀ row, db.capacityCompletions.lookup token = some row →
      (db.step entry).capacityCompletions.lookup token = some row := by
  cases traffic_move db entry with
  | kept _ h_traffic =>
    have h_requests : (db.step entry).capacityRequests = db.capacityRequests :=
      congrArg Traffic.capacityRequests h_traffic
    have h_completions : (db.step entry).capacityCompletions = db.capacityCompletions :=
      congrArg Traffic.capacityCompletions h_traffic
    rw [h_requests, h_completions]
    exact ⟨fun _ h => h, fun _ h => h⟩
  | refused now name' route' kind h_not h_step =>
    rw [h_step]
    exact ⟨fun _ h => h, fun _ h => h⟩
  | granted now name' route' kind h_granted h_step =>
    rw [h_step]
    exact ⟨fun row h_row => Table.lookup_insert_of_none h.requests_free h_row, fun _ h => h⟩
  | released now name' token' failed cooldown h_released =>
    rw [h_released.requests, h_released.completions]
    exact ⟨fun _ h => h, fun row h_row => Table.lookup_insert_of_none h_released.open_ h_row⟩

end ControlPlane
