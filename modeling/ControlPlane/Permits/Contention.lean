import ControlPlane.Framework.Rely
import ControlPlane.Model.Requests

/-!
# Who waits for whom over the permits

`acquire` locks the row of its destination and then the expired permits that it deletes;
`release` locks its own permit and, when its request has failed, the row of its destination.
The two orders meet when a permit has expired before it is released: a failed `release` that
has deleted its permit waits for the destination, and the `acquire` that has the destination
waits for the permit (`expired_permit_deadlock`). PostgreSQL then aborts one of them.

Nothing else goes wrong. As long as no `acquire` asks for a permit that a failed `release` has
deleted (`Parted`), the wait-for graph has no cycle (`permit_deadlock_freedom`). What a worker
asks for and what it holds is followed with the rely–guarantee rule: the log of the requests
tells for good which destination a token is for, and a token is drawn by one worker only.
-/

namespace ControlPlane

open Framework

instance : Counter Db where
  value := Db.supply
  value_advance _ := rfl

namespace Requests

/-! ### The contract -/

/-- The token has been issued for the destination. -/
def Logged (db : Db) (token : Uuid) (name : String) : Prop :=
  ∃ row, db.capacityRequests.lookup token = some row ∧ row.destination = name

/-- A token was logged for one destination. -/
theorem Logged.unique {db : Db} {token : Uuid} {name name' : String} (h : Logged db token name)
    (h' : Logged db token name') : name = name' := by
  obtain ⟨row, h_row, rfl⟩ := h
  obtain ⟨row', h_row', rfl⟩ := h'
  rw [Option.some.inj (h_row.symm.trans h_row')]

/-- A permit is for the destination that its token was issued for, and tokens are drawn. -/
structure TokensSound (db : Db) : Prop where
  permits : ∀ token permit, db.requestPermits.lookup token = some permit →
    Logged db token permit.destination
  drawn : ∀ token row, db.capacityRequests.lookup token = some row → token < db.supply

/-- Nobody takes an entry of the log back, and nobody issues a token of another. -/
def contract : Contract Db Resource where
  Inv := TokensSound
  Keeps
    | .always, db, db' => db.supply ≤ db'.supply ∧
        ∀ token name, Logged db token name → Logged db' token name
    | .locked _, _, _ => True
    | .drawn token, db, db' => db.capacityRequests.lookup token = none →
        db'.capacityRequests.lookup token = none
  refl part db := by
    cases part with
    | always => exact ⟨le_refl _, fun _ _ h => h⟩
    | locked => trivial
    | drawn => exact fun h => h
  trans part db₁ db₂ db₃ h₁ h₂ := by
    cases part with
    | always => exact ⟨h₁.1.trans h₂.1, fun token name h => h₂.2 token name (h₁.2 token name h)⟩
    | locked => trivial
    | drawn => exact fun h => h₂ (h₁ h)
  value_le _ _ h := h.1
  advance db h := by
    refine ⟨⟨h.permits, fun token row h_row => Nat.lt_succ_of_lt (h.drawn token row h_row)⟩,
      fun part => ?_⟩
    cases part with
    | always => exact ⟨Nat.le_succ _, fun _ _ h => h⟩
    | locked => trivial
    | drawn => exact fun h => h

/-- What `acquire` asks for. A permit is one that has expired, or the one it inserts. -/
def acquireSpec (name : String) : Spec Db Resource (Option Held) where
  Ask db held own resource mode :=
    match resource with
    | .gate => mode = .shared
    | .capacity _ => mode = .exclusive ∧ ∀ lock ∈ held, lock.1 = .gate
    | .requestPermit token => mode = .exclusive ∧ (.capacity name, .exclusive) ∈ held ∧
        (Logged db token name ∨ (token ∈ own ∧ db.capacityRequests.lookup token = none))
    | .capacityRequest token => mode = .exclusive ∧ token ∈ own
    | _ => False
  Given _ _ _ := True
  Post own answer := ∀ permit, answer = some permit → permit.token ∈ own

/-- What `release` asks for. -/
def releaseSpec (permit : Held) (failed : Bool) : Spec Db Resource (Option Held) where
  Ask _ held _ resource mode :=
    match resource with
    | .gate => mode = .shared
    | .requestPermit token => mode = .exclusive ∧ token = permit.token ∧
        ∀ lock ∈ held, lock.1 = .gate
    | .capacityCompletion token => mode = .exclusive ∧ token = permit.token
    | .capacity _ => mode = .exclusive ∧ failed = true ∧
        ∀ lock ∈ held, ∀ name, lock.1 ≠ .capacity name
    | _ => False
  Given _ _ _ := True
  Post _ answer := answer = none

/-- What is asked of the transaction in each stage. -/
def Stage.spec : Stage → Spec Db Resource (Option Held)
  | .acquiring name => acquireSpec name
  | .releasing permit failed => releaseSpec permit failed
  | _ => .any

/-! ### The scripts -/

section Scripts

variable {held : List (Resource × LockMode)} {own : List ℕ} {db : Db}

/-- A commit that leaves the log alone and grants no permit. -/
theorem guarantees_of_same {db' : Db} (h : TokensSound db) (h_supply : db'.supply = db.supply)
    (h_log : db'.capacityRequests = db.capacityRequests)
    (h_permits : ∀ token permit, db'.requestPermits.lookup token = some permit →
      db.requestPermits.lookup token = some permit) :
    contract.Guarantees held own db db' := by
  have h_logged : ∀ token name, Logged db token name → Logged db' token name := by
    intro token name h_token
    unfold Logged
    rw [h_log]
    exact h_token
  refine .of_keeps ⟨fun token permit h_permit => ?_, fun token row h_row => ?_⟩ fun part => ?_
  · exact h_logged _ _ (h.permits token permit (h_permits token permit h_permit))
  · rw [h_supply]
    exact h.drawn token row (h_log ▸ h_row)
  · cases part with
    | always => exact ⟨h_supply.ge, h_logged⟩
    | locked => trivial
    | drawn token =>
      intro h_none
      rw [h_log]
      exact h_none

/-- The commit of a granted permit. -/
theorem guarantees_permit {db' : Db} (token : Uuid) (permit : Permit) {row : CapacityRequest}
    (h : TokensSound db) (h_own : token ∈ own)
    (h_new : db.capacityRequests.lookup token = none) (h_drawn : token < db.supply)
    (h_supply : db'.supply = db.supply)
    (h_log : db'.capacityRequests = db.capacityRequests.insert token row)
    (h_permits : ∀ token' permit', db'.requestPermits.lookup token' = some permit' →
      (token' = token ∧ permit' = permit) ∨ db.requestPermits.lookup token' = some permit')
    (h_same : row.destination = permit.destination) : contract.Guarantees held own db db' := by
  have h_logged : ∀ token' name, Logged db token' name → Logged db' token' name := by
    rintro token' name ⟨row', h_row', h_name⟩
    refine ⟨row', ?_, h_name⟩
    rw [h_log, Table.lookup_insert_of_ne, h_row']
    rintro rfl
    cases h_new.symm.trans h_row'
  refine ⟨⟨fun token' permit' h_permit => ?_, fun token' row' h_row => ?_⟩, fun part h_part => ?_⟩
  · rcases h_permits token' permit' h_permit with ⟨rfl, rfl⟩ | h_old
    · refine ⟨row, ?_, h_same⟩
      rw [h_log, Table.lookup_insert_self]
    · exact h_logged _ _ (h.permits token' permit' h_old)
  · rw [h_supply]
    rw [h_log, Table.lookup_insert] at h_row
    split at h_row
    · rename_i h_eq
      exact h_eq ▸ h_drawn
    · exact h.drawn token' row' h_row
  · cases part with
    | always => exact ⟨h_supply.ge, h_logged⟩
    | locked => trivial
    | drawn token' =>
      -- the token was drawn by this transaction, so it is nobody else's
      intro h_none
      rw [h_log, Table.lookup_insert_of_ne, h_none]
      rintro rfl
      exact h_part h_own

/-- The expired permits, one after the other. -/
theorem lockAll_safe {name : String} {tokens : List Uuid} {next : Transaction}
    {pending : Db → Db} (h : TokensSound db) (h_held : (.capacity name, .exclusive) ∈ held)
    (h_tokens : ∀ token ∈ tokens, Logged db token name)
    (h_next : ∀ held' db', held ⊆ held' → contract.Relies held own db db' →
      next.Safe contract ((acquireSpec name).comap (granted name)) held' own db' pending) :
    (lockAll (tokens.map .requestPermit) next).Safe contract
      ((acquireSpec name).comap (granted name)) held own db pending := by
  induction tokens generalizing held db with
  | nil => exact h_next held db (List.Subset.refl _) (.refl h)
  | cons token tokens ih =>
    intro db₁ h₁
    have h_logged : ∀ token' ∈ token :: tokens, Logged db₁ token' name :=
      fun token' h_mem => h₁.always.2 _ _ (h_tokens token' h_mem)
    refine ⟨⟨rfl, h_held, .inl (h_logged token List.mem_cons_self)⟩, ih h₁.inv
      (List.mem_cons_of_mem _ h_held) (fun token' h_mem => h_logged token'
        (List.mem_cons_of_mem _ h_mem)) fun held' db' h_sub h_relies => ?_⟩
    exact h_next held' db' (fun lock h_lock => h_sub (List.mem_cons_of_mem _ h_lock))
      (h₁.trans (h_relies.mono (List.subset_cons_self ..) (List.Subset.refl _)))

/-- `acquire` locks its destination, and permits that have expired there. -/
theorem acquire_safe (now : Time) (name : String) (route : Destination) (kind : RequestKind) :
    ((Capacity.acquireScript now name route kind).map (granted name)).Safe contract
      (acquireSpec name) [] own db id := by
  refine Script.Safe.map fun db₁ h₁ => ⟨rfl, fun db₂ h₂ => ⟨⟨rfl, ?_⟩, fun db₃ h₃ => ?_⟩⟩
  · intro lock h_lock
    obtain rfl := List.mem_singleton.mp h_lock
    rfl
  refine fun db₄ h₄ => ⟨rfl, fun db₅ h₅ => ?_⟩
  refine lockAll_safe h₅.inv (by simp) (fun token h_token => ?_) fun held' db₆ h_sub h₆ => ?_
  · -- an expired permit is for the destination
    obtain ⟨⟨token', permit⟩, h_row, rfl⟩ := List.mem_map.mp h_token
    obtain ⟨h_entry, h_expired⟩ := List.mem_filter.mp h_row
    rw [Bool.and_eq_true] at h_expired
    have h_logged := h₅.inv.permits token' permit (Table.mem_entries.mp h_entry)
    rwa [of_decide_eq_true h_expired.1] at h_logged
  -- the lock of the destination is held from there on
  have h_capacity : (Resource.capacity name, LockMode.exclusive) ∈ held' := h_sub (by simp)
  refine fun db₇ h₇ => .ite (fun _ => ?_) fun _ => ?_
  · refine ⟨nofun, fun db₈ h₈ _ =>
      guarantees_of_same h₈.inv rfl rfl fun token permit h_permit => ?_⟩
    exact (Table.lookup_filter_eq_some.mp h_permit).1
  · intro db₈ h₈
    -- nothing is logged under a number that is still to be drawn
    have h_new : db₈.capacityRequests.lookup db₈.supply = none :=
      Option.eq_none_iff_forall_ne_some.mpr fun row h_row =>
        absurd (h₈.inv.drawn _ row h_row) (lt_irrefl _)
    have h_own : db₈.supply ∈ db₈.supply :: own := List.mem_cons_self
    refine fun db₉ h₉ => ⟨rfl, fun db₁₀ h₁₀ => ⟨⟨rfl, ?_, .inr ⟨h_own, ?_⟩⟩, fun db₁₁ h₁₁ =>
      ⟨⟨rfl, h_own⟩, ?_, fun db₁₂ h₁₂ _ => ?_⟩⟩⟩
    · exact List.mem_cons_of_mem _ h_capacity
    · exact h₁₀.drawn h_own (h₉.drawn h_own h_new)
    · rintro permit ⟨⟩
      exact h_own
    · refine guarantees_permit db₈.supply ⟨name, now + seconds 30, kind⟩ h₁₂.inv h_own ?_ ?_ rfl
        rfl (fun token permit h_permit => ?_) rfl
      · exact h₁₂.drawn h_own (h₁₁.drawn h_own (h₁₀.drawn h_own (h₉.drawn h_own h_new)))
      · have h_le : db₈.supply + 1 ≤ db₁₂.supply := h₉.always.1.trans <|
          h₁₀.always.1.trans <| h₁₁.always.1.trans h₁₂.always.1
        exact h_le
      · change (AList.insert db₈.supply _ (Table.filter _ db₁₂.requestPermits)).lookup token =
          some permit at h_permit
        rw [Table.lookup_insert] at h_permit
        split at h_permit
        · rename_i h_eq
          exact .inl ⟨h_eq, (Option.some.inj h_permit).symm⟩
        · exact .inr (Table.lookup_filter_eq_some.mp h_permit).1

/-- `release` locks its own permit and completion, and the destination behind a failure. -/
theorem release_safe (now : Time) (permit : Held) (failed : Bool) (cooldown : ℕ) :
    ((Capacity.releaseScript now permit.destination permit.token failed cooldown).map
      fun _ => none).Safe contract (releaseSpec permit failed) [] own db id := by
  -- what is deleted was there
  have h_erased : ∀ db : Db, ∀ token row,
      (db.requestPermits.erase permit.token).lookup token = some row →
        db.requestPermits.lookup token = some row := fun db token row => Table.lookup_of_erase
  refine Script.Safe.map fun db₁ h₁ => ⟨rfl, .select fun db₂ h₂ => ?_⟩
  have h_lock : ∀ entry, (db₂.requestPermits.lookup permit.token).map (fun _ =>
      (Resource.requestPermit permit.token, LockMode.exclusive)) = some entry →
        entry = (.requestPermit permit.token, .exclusive) := by
    intro entry h_some
    obtain ⟨row, -, rfl⟩ := Option.map_eq_some_iff.mp h_some
    rfl
  refine ⟨fun resource mode h_some => ?_, fun held h_sub h_held => ?_⟩
  · cases h_lock _ h_some
    refine ⟨rfl, rfl, fun lock h_lock => ?_⟩
    obtain rfl := List.mem_singleton.mp h_lock
    rfl
  refine fun db₃ h₃ => ⟨rfl, fun db₄ h₄ => ⟨⟨rfl, rfl⟩, .ite (fun _ => trivial) fun _ => ?_⟩⟩
  -- a request that went well leaves the bucket alone
  refine .ite (fun _ => ?_) fun h_failed => ?_
  · exact ⟨rfl, fun db₅ h₅ _ => guarantees_of_same h₅.inv rfl rfl (h_erased db₅)⟩
  refine fun db₅ h₅ => ⟨rfl, fun db₆ h₆ => ⟨⟨rfl, Bool.eq_true_of_not_eq_false h_failed, ?_⟩, ?_⟩⟩
  · -- the locks so far are on the gate row, the permit and the key of the completion
    intro entry h_entry name
    simp only [List.mem_cons] at h_entry
    rcases h_entry with rfl | rfl | rfl | h_entry
    · nofun
    · nofun
    · nofun
    · rcases h_held entry h_entry with h_gate | h_some
      · obtain rfl := List.mem_singleton.mp h_gate
        nofun
      · rw [h_lock entry h_some]
        nofun
  · dsimp only
    split
    · exact ⟨rfl, fun db₇ h₇ _ => guarantees_of_same h₇.inv rfl rfl (h_erased db₇)⟩
    · exact ⟨rfl, fun db₇ h₇ _ => guarantees_of_same h₇.inv rfl rfl (h_erased db₇)⟩

end Scripts

/-! ### The workers -/

/-- The permit of a worker. -/
def Stage.permit : Stage → Option Held
  | .holding permit | .releasing permit _ => some permit
  | _ => none

/-- Whether the worker has a transaction open. -/
def Stage.isOpen : Stage → Bool
  | .acquiring _ | .releasing .. => true
  | _ => false

/-- What the workers do keeps the contract, and a worker's permit has a token that it has
drawn. -/
structure Sound (r : Requests) (own : ℕ → List ℕ) : Prop where
  engine : r.engine.Honors contract (fun n => (r.stage n).spec) own
  running : ∀ n, (r.stage n).isOpen = false → r.engine.running n = none
  token : ∀ n permit, (r.stage n).permit = some permit → permit.token ∈ own n

variable {r : Requests} {own : ℕ → List ℕ}

/-- The worker is in that stage. -/
theorem move_self (r : Requests) (n : ℕ) (stage : Stage) : (r.move n stage).stage n = stage :=
  Function.update_self ..

/-- The others stay where they are. -/
theorem move_of_ne (r : Requests) {n m : ℕ} (stage : Stage) (h : m ≠ n) :
    (r.move n stage).stage m = r.stage m := Function.update_of_ne h ..

/-- A worker reaches another stage, and the others are where they were. -/
theorem Sound.move {r' : Requests} {own' : ℕ → List ℕ} (h : r.Sound own) {n : ℕ} {stage : Stage}
    (h_stage : r'.stage = r.stage)
    (h_engine : r'.engine.Honors contract (fun m => ((r'.move n stage).stage m).spec) own')
    (h_running : ∀ m, m ≠ n → r'.engine.running m = r.engine.running m)
    (h_own : ∀ m, own m ⊆ own' m)
    (h_idle : stage.isOpen = false → r'.engine.running n = none)
    (h_permit : ∀ permit, stage.permit = some permit → permit.token ∈ own' n) :
    (r'.move n stage).Sound own' where
  engine := h_engine
  running m h_m := by
    by_cases h_eq : m = n
    · subst h_eq
      rw [move_self] at h_m
      exact h_idle h_m
    · rw [move_of_ne _ _ h_eq, h_stage] at h_m
      exact (h_running m h_eq).trans (h.running m h_m)
  token m permit h_m := by
    by_cases h_eq : m = n
    · subst h_eq
      rw [move_self] at h_m
      exact h_permit permit h_m
    · rw [move_of_ne _ _ h_eq, h_stage] at h_m
      exact h_own m (h.token m permit h_m)

/-- So nothing else is asked of them. -/
theorem spec_move (r : Requests) (n : ℕ) (stage : Stage) : ∀ m, m ≠ n →
    ((r.move n stage).stage m).spec = (r.stage m).spec :=
  fun _ h_ne => congrArg Stage.spec (move_of_ne r stage h_ne)

/-- A worker opens a transaction. -/
theorem Sound.start (h : r.Sound own) {n : ℕ} {stage : Stage}
    {script : Script Db Resource (Option Held)}
    (h_closed : (r.stage n).isOpen = false) (h_open : stage.isOpen = true)
    (h_permit : stage.permit = (r.stage n).permit)
    (h_script : script.Safe contract stage.spec [] (own n) r.engine.state id) :
    ({ r with engine := r.engine.start n script }.move n stage).Sound own := by
  have h_idle := h.running n h_closed
  refine h.move rfl (h.engine.start h_idle (spec_move r n stage) ?_) (fun m h_ne => ?_)
    (fun _ => List.Subset.refl _) (fun h_none => ?_) fun permit h_some => ?_
  · rw [move_self]
    exact h_script
  · exact Engine.start_of_ne r.engine script h_ne
  · cases h_open.symm.trans h_none
  · exact h.token n permit (h_permit ▸ h_some)

/-- A worker's transaction is over. -/
theorem Sound.stop {e : Engine Db Resource ℕ (Option Held)} {own' : ℕ → List ℕ} (h : r.Sound own)
    {n : ℕ} {stage : Stage} (h_engine : e.Honors contract (fun m => (r.stage m).spec) own')
    (h_running : ∀ m, m ≠ n → e.running m = r.engine.running m) (h_own : ∀ m, own m ⊆ own' m)
    (h_idle : e.running n = none)
    (h_permit : ∀ permit, stage.permit = some permit → permit.token ∈ own' n) :
    ({ r with engine := e }.move n stage).Sound own' :=
  h.move rfl (h_engine.respec h_idle (spec_move r n stage)) h_running h_own (fun _ => h_idle)
    h_permit

/-- Every action keeps it. -/
theorem Sound.step (h : r.Sound own) (action : Action) : ∃ own', (r.step action).Sound own' := by
  cases action with
  | acquire n now name route kind =>
    unfold Requests.step
    dsimp only
    split
    · rename_i h_stage
      exact ⟨own, h.start (by rw [h_stage]; rfl) rfl (by rw [h_stage]; rfl)
        (acquire_safe now name route kind)⟩
    · exact ⟨own, h⟩
  | release n now failed cooldown =>
    unfold Requests.step
    dsimp only
    split
    · rename_i permit h_stage
      exact ⟨own, h.start (by rw [h_stage]; rfl) rfl (by rw [h_stage]; rfl)
        (release_safe now permit failed cooldown)⟩
    · exact ⟨own, h⟩
  | crash n =>
    exact ⟨own, h.stop (h.engine.abort n) (fun m h_ne => Engine.close_of_ne _ h_ne)
      (fun _ => List.Subset.refl _) (Engine.close_self _ n) nofun⟩
  | statement n =>
    have h_due : r.engine.Due (fun m => (r.stage m).spec) n := by
      intro answer pending _
      show (r.stage n).spec.Given _ _ _
      cases r.stage n <;> trivial
    obtain ⟨own', h_own, h_engine⟩ := h.engine.statement h_due
    have h_others : ∀ m, m ≠ n → (r.engine.statement n).running m = r.engine.running m :=
      fun m h_ne => r.engine.statement_of_ne h_ne
    refine ⟨own', ?_⟩
    unfold Requests.step
    dsimp only
    split
    · refine ⟨h_engine, fun m h_m => ?_, fun m permit h_m => h_own m (h.token m permit h_m)⟩
      have h_none := h.running m h_m
      by_cases h_eq : m = n
      · subst h_eq
        change (r.engine.statement m).running m = none
        rw [Engine.statement_idle h_none]
        exact h_none
      · exact (h_others m h_eq).trans h_none
    · rename_i permit h_end
      refine h.stop h_engine h_others h_own (Engine.statement_over h_end) fun permit' h_some => ?_
      -- only an `acquire` hands out a permit, and its token is one that it has drawn
      obtain rfl : permit = permit' := Option.some.inj h_some
      unfold Engine.ending at h_end
      split at h_end
      · rename_i answer pending h_running
        cases h_end
        have h_post := (h.engine.commit h_running).1
        cases h_stage : r.stage n with
        | acquiring name =>
          rw [h_stage] at h_post
          exact h_own n (h_post permit rfl)
        | releasing permit' failed =>
          rw [h_stage] at h_post
          cases h_post
        | idle | holding =>
          have h_none := h.running n (by rw [h_stage]; rfl)
          cases h_none.symm.trans h_running
      · cases h_end
      · cases h_end
    · rename_i ending _ h_end
      exact h.stop h_engine h_others h_own (Engine.statement_over h_end) nofun

/-- So it holds in every run. -/
theorem sound (registry : Table String Destination) (owners : Table String String)
    (actions : List Action) :
    ∃ own, ((initial (Db.migrated registry owners)).run actions).Sound own := by
  refine run_invariant (I := fun r : Requests => ∃ own, r.Sound own) ⟨fun _ => [], ?_⟩
    (fun r action ⟨own, h⟩ => h.step action) actions
  exact ⟨Engine.initial_honors ⟨nofun, nofun⟩, fun _ _ => rfl, nofun⟩

/-! ### Who claims what -/

/-- The worker is in an `acquire` that has the destination of the token. -/
def Sweeps (r : Requests) (n : ℕ) (token : Uuid) : Prop :=
  ∃ name, r.stage n = .acquiring name ∧
    ⟨n, .capacity name, .exclusive⟩ ∈ r.engine.locks.holds ∧ Logged r.engine.state token name

/-- The worker is in the `release` of the token. -/
def Releases (r : Requests) (n : ℕ) (token : Uuid) (failed : Bool) : Prop :=
  ∃ permit, r.stage n = .releasing permit failed ∧ permit.token = token

/-- Why a worker asks for a resource, or holds it. -/
inductive Claims (r : Requests) (own : ℕ → List ℕ) (n : ℕ) : Resource → LockMode → Prop
  | gate : Claims r own n .gate .shared
  | capacity (name : String) : Claims r own n (.capacity name) .exclusive
  | expired (token : Uuid) (h : r.Sweeps n token) : Claims r own n (.requestPermit token) .exclusive
  | inserted (token : Uuid) (h_own : token ∈ own n)
      (h_new : r.engine.state.capacityRequests.lookup token = none) :
      Claims r own n (.requestPermit token) .exclusive
  | released (token : Uuid) (failed : Bool) (h : r.Releases n token failed) :
      Claims r own n (.requestPermit token) .exclusive
  | issued (token : Uuid) (h_own : token ∈ own n) :
    Claims r own n (.capacityRequest token) .exclusive
  | completed (token : Uuid) (h_own : token ∈ own n) :
      Claims r own n (.capacityCompletion token) .exclusive

/-- A worker releases a token of its own. -/
theorem Sound.own_of_releases (h : r.Sound own) {n : ℕ} {token : Uuid} {failed : Bool}
    (h_releases : r.Releases n token failed) : token ∈ own n := by
  obtain ⟨permit, h_stage, rfl⟩ := h_releases
  exact h.token n permit (by rw [h_stage]; rfl)

/-- Only one worker has the destination of a token. -/
theorem Sweeps.unique {n m : ℕ} {token : Uuid} (h : r.Sweeps n token) (h' : r.Sweeps m token) :
    m = n := by
  obtain ⟨name, -, h_capacity, h_logged⟩ := h
  obtain ⟨name', -, h_capacity', h_logged'⟩ := h'
  obtain rfl := h_logged.unique h_logged'
  exact LockTable.owner_eq_of_exclusive h_capacity h_capacity'

/-- A permit that is swept was logged. -/
theorem Sweeps.logged {n : ℕ} {token : Uuid} (h : r.Sweeps n token) :
    r.engine.state.capacityRequests.lookup token ≠ none := by
  obtain ⟨_, _, _, row, h_row, _⟩ := h
  intro h_none
  cases h_row.symm.trans h_none

/-- What a transaction asks for is among the claims of its stage. -/
theorem Sound.claims_of_ask (h : r.Sound own) {n : ℕ} {db : Db} {held : List (Resource × LockMode)}
    {own' : List ℕ} {resource : Resource} {mode : LockMode}
    (h_running : (r.engine.running n).isSome)
    (h_relies : contract.Relies held own' db r.engine.state)
    (h_held : held ⊆ r.engine.locks.heldBy n) (h_own : own' ⊆ own n)
    (h_ask : (r.stage n).spec.Ask db held own' resource mode) : r.Claims own n resource mode := by
  cases h_stage : r.stage n with
  | idle | holding =>
    rw [h.running n (by rw [h_stage]; rfl)] at h_running
    cases h_running
  | acquiring name =>
    rw [h_stage] at h_ask
    cases resource with
    | gate =>
      cases h_ask
      exact .gate
    | capacity =>
      obtain ⟨rfl, -⟩ := h_ask
      exact .capacity _
    | requestPermit token =>
      obtain ⟨rfl, h_capacity, h_token⟩ := h_ask
      -- an expired permit that is deleted, or the one that is inserted
      rcases h_token with h_logged | ⟨h_mem, h_new⟩
      · exact .expired token ⟨name, h_stage, LockTable.mem_heldBy.mp (h_held h_capacity),
          h_relies.always.2 _ _ h_logged⟩
      · exact .inserted token (h_own h_mem) (h_relies.drawn h_mem h_new)
    | capacityRequest token =>
      obtain ⟨rfl, h_mem⟩ := h_ask
      exact .issued token (h_own h_mem)
    | _ => cases h_ask
  | releasing permit failed =>
    have h_token : permit.token ∈ own n := h.token n permit (by rw [h_stage]; rfl)
    rw [h_stage] at h_ask
    cases resource with
    | gate =>
      cases h_ask
      exact .gate
    | capacity =>
      obtain ⟨rfl, -⟩ := h_ask
      exact .capacity _
    | requestPermit token =>
      obtain ⟨rfl, rfl, -⟩ := h_ask
      exact .released _ failed ⟨permit, h_stage, rfl⟩
    | capacityCompletion token =>
      obtain ⟨rfl, rfl⟩ := h_ask
      exact .completed _ h_token
    | _ => cases h_ask

/-- What a worker waits for is among its claims. -/
theorem Sound.claims_of_asking (h : r.Sound own) {n : ℕ} {resource : Resource} {mode : LockMode}
    (h_asks : r.engine.asking n = some (resource, mode)) : r.Claims own n resource mode := by
  refine h.claims_of_ask ?_ (.refl h.engine.inv) (List.Subset.refl _) (List.Subset.refl _)
    (h.engine.asks h_asks).1
  unfold Engine.asking at h_asks
  split at h_asks
  · rename_i h_running
    rw [h_running]
    rfl
  · cases h_asks

/-- What it holds is among its claims. -/
theorem Sound.claims_of_hold (h : r.Sound own) {n : ℕ} {resource : Resource} {mode : LockMode}
    (h_hold : ⟨n, resource, mode⟩ ∈ r.engine.locks.holds) : r.Claims own n resource mode := by
  obtain ⟨db, held, own', h_relies, h_held, h_own, h_ask⟩ := h.engine.asked _ h_hold
  exact h.claims_of_ask (h.engine.owners _ h_hold) h_relies h_held h_own h_ask

/-- Two workers claim one permit only when it has expired and the one releases it while the
other deletes it. -/
theorem Sound.apart (h : r.Sound own) {n m : ℕ} {token : Uuid} {mode mode' : LockMode}
    (h_n : r.Claims own n (.requestPermit token) mode)
    (h_m : r.Claims own m (.requestPermit token) mode') (h_ne : m ≠ n) :
    (r.Sweeps n token ∧ ∃ failed, r.Releases m token failed) ∨
      (r.Sweeps m token ∧ ∃ failed, r.Releases n token failed) := by
  have h_apart : token ∈ own n → token ∈ own m → False :=
    fun h_n h_m => h_ne (h.engine.disjoint m n token h_m h_n)
  cases h_n with
  | expired _ h_sweeps =>
    cases h_m with
    | expired _ h_sweeps' => exact absurd (h_sweeps.unique h_sweeps') h_ne
    | inserted _ _ h_new => exact absurd h_new h_sweeps.logged
    | released _ failed h_releases => exact .inl ⟨h_sweeps, failed, h_releases⟩
  | inserted _ h_own h_new =>
    cases h_m with
    | expired _ h_sweeps => exact absurd h_new h_sweeps.logged
    | inserted _ h_own' => exact (h_apart h_own h_own').elim
    | released _ _ h_releases => exact (h_apart h_own (h.own_of_releases h_releases)).elim
  | released _ failed h_releases =>
    have h_own := h.own_of_releases h_releases
    cases h_m with
    | expired _ h_sweeps => exact .inr ⟨h_sweeps, failed, h_releases⟩
    | inserted _ h_own' => exact (h_apart h_own h_own').elim
    | released _ _ h_releases' => exact (h_apart h_own (h.own_of_releases h_releases')).elim

/-! ### Who waits -/

/-- The workers that wait with next to nothing: those that ask for a destination, and a
`release` that asks for its permit. -/
def petitions (r : Requests) (n : ℕ) : Bool :=
  match r.engine.asking n, r.stage n with
  | some (.capacity _, _), _ => true
  | some (.requestPermit _, _), .releasing .. => true
  | _, _ => false

/-- How far a worker is in a path of the wait-for graph. -/
def rank (r : Requests) (n : ℕ) : ℕ :=
  if r.petitions n then 0
  else match r.stage n with
    | .acquiring _ => 1
    | _ => 2

/-- No `acquire` asks for an expired permit that the `release` of a failed request has
deleted. -/
def Parted (r : Requests) : Prop :=
  ∀ n m token, r.engine.asking n = some (.requestPermit token, .exclusive) → m ≠ n →
    r.Releases m token true → ⟨m, .requestPermit token, .exclusive⟩ ∉ r.engine.locks.holds

/-- Who waits has a transaction open. -/
theorem Sound.asker_open (h : r.Sound own) {n : ℕ} {request : Resource × LockMode}
    (h_asks : r.engine.asking n = some request) : (r.stage n).isOpen = true := by
  by_contra h_closed
  have h_none := h.running n (Bool.eq_false_of_not_eq_true h_closed)
  unfold Engine.asking at h_asks
  rw [h_none] at h_asks
  cases h_asks

/-- Who petitions has no destination and, but for the `release` of a failed request, no
permit. -/
theorem Sound.petitioner (h : r.Sound own) {n : ℕ} (h_petitions : r.petitions n = true)
    {resource : Resource} {mode : LockMode}
    (h_hold : ⟨n, resource, mode⟩ ∈ r.engine.locks.holds) :
    (∀ name, resource ≠ .capacity name) ∧
      (∀ token, resource = .requestPermit token →
        ∃ permit, r.stage n = .releasing permit true) := by
  have h_held := LockTable.mem_heldBy.mpr h_hold
  have h_gate : resource = .gate → (∀ name, resource ≠ .capacity name) ∧
      (∀ token, resource = .requestPermit token →
        ∃ permit, r.stage n = .releasing permit true) := by
    rintro rfl
    exact ⟨nofun, nofun⟩
  -- a petition is for a bucket, or for the permit that is given back
  unfold petitions at h_petitions
  split at h_petitions
  · rename_i name mode' _ h_asks
    have h_ask := (h.engine.asks h_asks).1
    have h_open := h.asker_open h_asks
    cases h_stage : r.stage n with
    | idle | holding =>
      rw [h_stage] at h_open
      cases h_open
    | acquiring name' =>
      rw [h_stage] at h_ask
      exact h_stage ▸ h_gate (h_ask.2 _ h_held)
    | releasing permit failed =>
      rw [h_stage] at h_ask
      obtain ⟨-, rfl, h_none⟩ := h_ask
      exact ⟨h_none _ h_held, fun _ _ => ⟨permit, rfl⟩⟩
  · rename_i token mode' permit failed h_asks h_stage
    have h_ask := (h.engine.asks h_asks).1
    rw [h_stage] at h_ask
    exact h_gate (h_ask.2.2 _ h_held)
  · cases h_petitions

/-- Who sweeps does not release. -/
theorem Sweeps.not_releases {n : ℕ} {token token' : Uuid} {failed : Bool} (h : r.Sweeps n token) :
    ¬ r.Releases n token' failed := by
  obtain ⟨_, h_stage, _⟩ := h
  rintro ⟨_, h_stage', _⟩
  cases h_stage.symm.trans h_stage'

/-- Nobody that petitions stands in the way of another that does. -/
theorem Sound.not_petitions (h : r.Sound own) {n m : ℕ} (h_petitions : r.petitions n = true)
    (h_blocked : r.engine.Blocked n m) : r.petitions m = false := by
  obtain ⟨resource, mode, mode', h_asks, h_hold, h_other, -⟩ := h_blocked
  by_contra h_true
  obtain ⟨h_capacity, h_permit⟩ := h.petitioner (Bool.eq_true_of_not_eq_false h_true) h_hold
  unfold petitions at h_petitions
  split at h_petitions
  · rename_i h_asks'
    cases h_asks.symm.trans h_asks'
    exact h_capacity _ rfl
  · -- the permit that is released is nobody else's, unless it has expired
    rename_i token _ permit failed h_asks' h_stage
    cases h_asks.symm.trans h_asks'
    obtain ⟨permit', h_stage'⟩ := h_permit token rfl
    rcases h.apart (h.claims_of_asking h_asks) (h.claims_of_hold h_hold) h_other with
      ⟨h_sweeps, -⟩ | ⟨h_sweeps, -⟩
    · exact h_sweeps.not_releases ⟨permit, h_stage, rfl⟩
    · exact h_sweeps.not_releases ⟨permit', h_stage', rfl⟩
  · cases h_petitions

/-- Who waits and does not petition is an `acquire` that asks for an expired permit. -/
theorem Sound.sweeps_of_waits (h : r.Sound own) {n m : ℕ} {resource : Resource}
    {mode mode' : LockMode} (h_petitions : r.petitions n = false)
    (h_asks : r.engine.asking n = some (resource, mode)) (h_claims : r.Claims own m resource mode')
    (h_ne : m ≠ n) (h_conflict : ¬ (mode = .shared ∧ mode' = .shared)) :
    ∃ token failed, resource = .requestPermit token ∧ r.Sweeps n token ∧
      r.Releases m token failed := by
  have h_apart : ∀ token, token ∈ own n → token ∈ own m → False :=
    fun token h_n h_m => h_ne (h.engine.disjoint m n token h_m h_n)
  have h_own := h.claims_of_asking h_asks
  cases resource with
  | gate =>
    cases h_own
    cases h_claims
    exact absurd ⟨rfl, rfl⟩ h_conflict
  -- whoever asks for a bucket has a petition
  | capacity name =>
    unfold petitions at h_petitions
    rw [h_asks] at h_petitions
    cases h_petitions
  | requestPermit token =>
    rcases h.apart h_own h_claims h_ne with ⟨h_sweeps, failed, h_releases⟩ | ⟨-, failed, h_releases⟩
    · exact ⟨token, failed, rfl, h_sweeps, h_releases⟩
    · obtain ⟨permit, h_stage, -⟩ := h_releases
      unfold petitions at h_petitions
      rw [h_asks, h_stage] at h_petitions
      cases h_petitions
  -- these keys are of tokens that one client has drawn
  | capacityRequest token =>
    cases h_own with
    | issued _ h_own => cases h_claims with
      | issued _ h_own' => exact (h_apart token h_own h_own').elim
  | capacityCompletion token =>
    cases h_own with
    | completed _ h_own => cases h_claims with
      | completed _ h_own' => exact (h_apart token h_own h_own').elim
  | _ => cases h_own

/-- **Who waits has the lower rank.** -/
theorem Sound.rises (h : r.Sound own) (h_parted : r.Parted) {queues : Resource → Bool}
    {arrived : ℕ → ℕ} {n m : ℕ} (h_waits : r.engine.Waits queues arrived n m) :
    r.rank n < r.rank m ∨ (r.rank n = r.rank m ∧ arrived m < arrived n) := by
  -- the rank of a wait: petitions first, then sweeps, then the rest
  cases h_petitions : r.petitions n with
  | true =>
    have h_rank : r.rank n = 0 := if_pos h_petitions
    rw [h_rank]
    cases h_waits with
    | blocked h_blocked =>
      have h_other := h.not_petitions h_petitions h_blocked
      refine .inl ?_
      unfold rank
      rw [if_neg (by rw [h_other]; nofun)]
      split <;> decide
    | queued resource mode mode' h_asks h_before h_blocked h_arrived =>
      rcases Nat.eq_zero_or_pos (r.rank m) with h_zero | h_pos
      · exact .inr ⟨h_zero.symm, h_arrived⟩
      · exact .inl h_pos
  | false =>
    have h_rank : ∀ token, r.Sweeps n token → r.rank n = 1 := by
      rintro token ⟨name, h_stage, -⟩
      unfold rank
      rw [if_neg (by rw [h_petitions]; nofun), h_stage]
    refine .inl ?_
    cases h_waits with
    | blocked h_blocked =>
      obtain ⟨resource, mode, mode', h_asks, h_hold, h_ne, h_conflict⟩ := h_blocked
      obtain ⟨token, failed, rfl, h_sweeps, h_releases⟩ :=
        h.sweeps_of_waits h_petitions h_asks (h.claims_of_hold h_hold) h_ne h_conflict
      -- the request that is over has not failed, so its `release` is through with its locks
      have h_success : failed = false := by
        by_contra h_failed
        obtain rfl := Bool.eq_true_of_not_eq_false h_failed
        have h_asked := h.claims_of_asking h_asks
        have h_held := h.claims_of_hold h_hold
        obtain rfl : mode = .exclusive := by cases h_asked <;> rfl
        obtain rfl : mode' = .exclusive := by cases h_held <;> rfl
        exact h_parted n m token h_asks h_ne h_releases h_hold
      subst h_success
      obtain ⟨permit, h_stage, -⟩ := h_releases
      have h_other : r.petitions m = false := by
        by_contra h_true
        obtain ⟨-, h_permit⟩ := h.petitioner (Bool.eq_true_of_not_eq_false h_true) h_hold
        obtain ⟨permit', h_stage'⟩ := h_permit token rfl
        cases h_stage.symm.trans h_stage'
      rw [h_rank token h_sweeps]
      unfold rank
      rw [if_neg (by rw [h_other]; nofun), h_stage]
      exact Nat.one_lt_two
    | queued resource mode mode' h_asks h_before h_blocked h_arrived h_conflict =>
      have h_ne : m ≠ n := by
        rintro rfl
        exact lt_irrefl _ h_arrived
      obtain ⟨token, failed, rfl, h_sweeps, h_releases⟩ :=
        h.sweeps_of_waits h_petitions h_asks (h.claims_of_asking h_before) h_ne h_conflict
      -- nobody but the `acquire` itself could keep the `release` from its permit
      obtain ⟨other, resource', mode₁, mode₂, h_before', h_hold, h_other, -⟩ := h_blocked
      cases h_before.symm.trans h_before'
      have h_held := h.claims_of_hold h_hold
      rcases h.apart (h.claims_of_asking h_before) h_held h_other with
        ⟨h_sweeps', -⟩ | ⟨h_sweeps', -⟩
      · exact absurd h_releases h_sweeps'.not_releases
      · obtain rfl := h_sweeps.unique h_sweeps'
        obtain rfl : mode₂ = .exclusive := by cases h_held <;> rfl
        exact absurd (LockTable.mem_heldBy.mpr h_hold) (h.engine.asks h_asks).2

/-- **No deadlock but one.** While no `acquire` asks for a permit that a failed `release` has
deleted, the wait-for graph has no cycle, in whatever order the workers have asked. -/
theorem permit_deadlock_freedom (registry : Table String Destination)
    (owners : Table String String) (actions : List Action)
    (h_parted : ((initial (Db.migrated registry owners)).run actions).Parted)
    (queues : Resource → Bool) (arrived : ℕ → ℕ) (worker : ℕ) :
    ¬ Relation.TransGen (Engine.Waits queues arrived
      ((initial (Db.migrated registry owners)).run actions).engine) worker worker := by
  obtain ⟨own, h_sound⟩ := sound registry owners actions
  exact acyclic_of_rises _ arrived (fun _ _ h_waits => h_sound.rises h_parted h_waits) worker

/-- A destination with one permit. -/
def sink : Destination := ⟨⟨"http", "", "", "localhost", "", ""⟩, "TOKEN", 10, 1, 10⟩

/-- The one destination. -/
def sinks : Table String Destination := (∅ : Table String Destination).insert "sink" sink

/-- A worker releases its permit when it has expired and another wants the next one. -/
def lateRelease (failed : Bool) : List Action :=
  .acquire 0 0 "sink" sink .dispatch :: List.replicate 14 (.statement 0) ++
    .acquire 1 (seconds 30) "sink" sink .dispatch :: List.replicate 6 (.statement 1) ++
    .release 0 (seconds 30) failed 2 :: List.replicate 6 (.statement 0)

/-- After a request that has succeeded the one waits for the other, and that is all. -/
theorem late_release_passes :
    Engine.Waits (fun _ => true) (fun _ => 0)
      ((initial (Db.migrated sinks ∅)).run (lateRelease false)).engine 1 0 ∧
    ¬ Relation.TransGen (Engine.Waits (fun _ => true) (fun _ => 0)
      ((initial (Db.migrated sinks ∅)).run (lateRelease false)).engine) 1 1 := by
  refine ⟨.blocked ⟨.requestPermit 0, .exclusive, .exclusive, rfl, by decide, by decide,
    by decide⟩, permit_deadlock_freedom sinks ∅ (lateRelease false) ?_ _ _ 1⟩
  rintro n m token - - ⟨permit, h_stage, -⟩
  match m with
  | 0 => cases h_stage
  | 1 => cases h_stage
  | m + 2 => cases h_stage

/-- After a request that has failed each waits for the other: the `release` has the permit and
asks for the destination, the `acquire` has the destination and asks for the permit. -/
theorem expired_permit_deadlock :
    Relation.TransGen (Engine.Waits (fun _ => true) (fun _ => 0)
      ((initial (Db.migrated sinks ∅)).run (lateRelease true ++ [.statement 0])).engine) 0 0 := by
  have h_release : Engine.Waits (fun _ => true) (fun _ => 0)
      ((initial (Db.migrated sinks ∅)).run (lateRelease true ++ [.statement 0])).engine 0 1 :=
    .blocked ⟨.capacity "sink", .exclusive, .exclusive, rfl, by decide, by decide, by decide⟩
  have h_acquire : Engine.Waits (fun _ => true) (fun _ => 0)
      ((initial (Db.migrated sinks ∅)).run (lateRelease true ++ [.statement 0])).engine 1 0 :=
    .blocked ⟨.requestPermit 0, .exclusive, .exclusive, rfl, by decide, by decide, by decide⟩
  exact .head h_release (.single h_acquire)

end Requests
end ControlPlane
