import ControlPlane.Backlog.Places
import ControlPlane.Locking.Alone

/-!
# The bound on a backlog

`propose` and the requeue of `resolve` count the backlog under the advisory lock of the
destination and take one place, so nobody else takes one between the count and the commit.
`approve` takes no such lock: it hands the place of a reservation to a job. That is no new
place while the reservation holds. When it expires between the check of `approve` and its
commit, another proposal may have been admitted in its place, and the backlog overflows
(`late_approval_overflows`).

`backlog_bound` says that this is all that can go wrong: when every approval commits before
its proposal expires (`Timely`), no backlog ever exceeds its limit, whatever else interleaves.
-/

namespace ControlPlane

open Framework

namespace Timeline

/-! ### The contract -/

/-- No backlog exceeds its limit, and whatever has a route or a job has been proposed. -/
structure Backed (m : Moment) : Prop where
  bounded : ∀ name route, m.db.destinations.lookup name = some route →
    Capacity.backlog m.db m.clock name ≤ route.backlogLimit
  routes : ∀ id name, m.db.jobRoutes.lookup id = some name → (m.db.proposals.lookup id).isSome
  jobs : ∀ id job, m.db.jobs.lookup id = some job → (m.db.proposals.lookup id).isSome

/-- What a proposal keeps for good: when it expires, and its route. -/
structure Lasts (m m' : Moment) : Prop where
  supply : m.db.supply ≤ m'.db.supply
  clock : m.clock ≤ m'.clock
  destinations : m'.db.destinations = m.db.destinations
  expiry : ∀ id proposal, m.db.proposals.lookup id = some proposal →
    ∃ proposal', m'.db.proposals.lookup id = some proposal' ∧
      proposal'.expiresAt = proposal.expiresAt
  route : ∀ id proposal, m.db.proposals.lookup id = some proposal →
    m'.db.jobRoutes.lookup id = m.db.jobRoutes.lookup id

/-- Nothing has changed. -/
theorem Lasts.refl (m : Moment) : Lasts m m :=
  ⟨le_refl _, le_refl _, rfl, fun _ proposal h => ⟨proposal, h, rfl⟩, fun _ _ _ => rfl⟩

/-- Two changes. -/
theorem Lasts.trans {m₁ m₂ m₃ : Moment} (h₁ : Lasts m₁ m₂) (h₂ : Lasts m₂ m₃) : Lasts m₁ m₃ where
  supply := h₁.supply.trans h₂.supply
  clock := h₁.clock.trans h₂.clock
  destinations := h₂.destinations.trans h₁.destinations
  expiry id proposal h := by
    obtain ⟨proposal₂, h_some₂, h_expiry₂⟩ := h₁.expiry id proposal h
    obtain ⟨proposal₃, h_some₃, h_expiry₃⟩ := h₂.expiry id proposal₂ h_some₂
    exact ⟨proposal₃, h_some₃, h_expiry₃.trans h_expiry₂⟩
  route id proposal h := by
    obtain ⟨proposal₂, h_some₂, -⟩ := h₁.expiry id proposal h
    exact (h₂.route id proposal₂ h_some₂).trans (h₁.route id proposal h)

/-- A place is taken under the lock of the destination, a job changes and a proposal appears
under the lock of the row. -/
def contract : Contract Moment Resource where
  Inv := Backed
  Keeps
    | .always, m, m' => Lasts m m'
    | .locked (.backlog name), m, m' => m'.db.destinations = m.db.destinations ∧
        ((m.db.destinations.lookup name).isSome →
          Capacity.backlog m'.db m'.clock name ≤ Capacity.backlog m.db m.clock name)
    | .locked (.job id), m, m' =>
      ∀ job, m.db.jobs.lookup id = some job → m'.db.jobs.lookup id = some job
    | .locked (.proposal id), m, m' =>
      m.db.proposals.lookup id = none → m'.db.proposals.lookup id = none
    | _, _, _ => True
  refl part m := by
    split
    · exact Lasts.refl m
    · exact ⟨rfl, fun _ => le_refl _⟩
    · exact fun _ h => h
    · exact fun h => h
    · trivial
  trans part m₁ m₂ m₃ h₁ h₂ := by
    split at h₁
    · exact h₁.trans h₂
    · refine ⟨h₂.1.trans h₁.1, fun h_some => (h₂.2 ?_).trans (h₁.2 h_some)⟩
      rw [h₁.1]
      exact h_some
    · exact fun job h => h₂ job (h₁ job h)
    · exact fun h => h₂ (h₁ h)
    · trivial
  value_le _ _ h := h.supply
  advance m h := by
    refine ⟨⟨h.bounded, h.routes, h.jobs⟩, fun part => ?_⟩
    split
    · exact ⟨Nat.le_succ _, le_refl _, rfl, fun _ proposal h => ⟨proposal, h, rfl⟩,
        fun _ _ _ => rfl⟩
    · exact ⟨rfl, fun _ => le_refl _⟩
    · exact fun _ h => h
    · exact fun h => h
    · trivial

/-- An approval that commits its job does so before the proposal expires. -/
def OnTime (m : Moment) (pending : Moment → Moment) : Prop :=
  ∀ id proposal, m.db.proposals.lookup id = some proposal → m.db.jobs.lookup id = none →
    (pending m).db.jobs.lookup id ≠ none → m.clock < proposal.expiresAt

/-- What is asked of a script: only that it commits in time. -/
def spec : Spec Moment Resource Answer where
  Ask _ _ _ _ _ := True
  Given m pending _ := OnTime m pending
  Post _ _ := True

variable {held : List (Resource × LockMode)} {own : List ℕ} {m : Moment}

/-- There is room for one more in the backlog of the destination, and nobody else takes it. -/
def Room (held : List (Resource × LockMode)) (m : Moment) (name : String) : Prop :=
  ∀ route, m.db.destinations.lookup name = some route →
    (.backlog name, .exclusive) ∈ held ∧
      Capacity.backlog m.db m.clock name < route.backlogLimit

/-- The room stays while the lock of the destination is held. -/
theorem Room.keep {held' : List (Resource × LockMode)} {m' : Moment} {name : String}
    (h : Room held m name) (h_since : contract.Since own held m held' m') : Room held' m' name := by
  intro route h_route
  rw [h_since.relies.always.destinations] at h_route
  obtain ⟨h_held, h_room⟩ := h route h_route
  have h_le := (h_since.relies.locked h_held).2 (Option.isSome_of_mem h_route)
  exact ⟨h_since.holds h_held, h_le.trans_lt h_room⟩

/-- **Every commit keeps the contract** that changes the rows of one proposal, under the locks
of the rows it changes, and takes its place where it has counted room. -/
theorem guarantees_of_touches {key : Uuid} {db' : Db} (h : Backed m)
    (h_touches : m.db.Touches key db')
    (h_proposal : ∀ proposal, m.db.proposals.lookup key = some proposal →
      ∃ proposal', db'.proposals.lookup key = some proposal' ∧
        proposal'.expiresAt = proposal.expiresAt)
    (h_route : ∀ proposal, m.db.proposals.lookup key = some proposal →
      db'.jobRoutes.lookup key = m.db.jobRoutes.lookup key)
    (h_backed : (∃ name, db'.jobRoutes.lookup key = some name) ∨
      (∃ job, db'.jobs.lookup key = some job) → (db'.proposals.lookup key).isSome)
    (h_new : (.proposal key, .exclusive) ∈ held ∨
      (m.db.proposals.lookup key = none → db'.proposals.lookup key = none))
    (h_job : (.job key, .exclusive) ∈ held ∨
      ∀ job, m.db.jobs.lookup key = some job → db'.jobs.lookup key = some job)
    (h_place : ∀ name, key ∈ Capacity.places db' m.clock name →
      key ∈ Capacity.places m.db m.clock name ∨ Room held m name) :
    contract.Guarantees held own m (Moment.data.set m db') := by
  -- a backlog grows only by this key, and then by one
  have h_bound : ∀ name, (key ∈ Capacity.places db' m.clock name →
      key ∈ Capacity.places m.db m.clock name) →
        Capacity.backlog db' m.clock name ≤ Capacity.backlog m.db m.clock name :=
    fun name h_key => Capacity.backlog_le (h_touches.places_subset h_key)
  refine ⟨⟨fun name route h_some => ?_, fun id name h_some => ?_, fun id job h_some => ?_⟩,
    fun part h_part => ?_⟩
  · change db'.destinations.lookup name = some route at h_some
    rw [h_touches.destinations] at h_some
    -- where the key is new there was room for it
    by_cases h_key : key ∈ Capacity.places db' m.clock name →
        key ∈ Capacity.places m.db m.clock name
    · exact (h_bound name h_key).trans (h.bounded name route h_some)
    · obtain ⟨h_in, h_out⟩ := Classical.not_imp.mp h_key
      obtain ⟨-, h_room⟩ := (h_place name h_in).resolve_left h_out route h_some
      exact (Capacity.backlog_le_succ (h_touches.places m.clock name)).trans h_room
  · change db'.jobRoutes.lookup id = some name at h_some
    by_cases h_ne : id = key
    · subst h_ne
      exact h_backed (.inl ⟨name, h_some⟩)
    · rw [h_touches.routes id h_ne] at h_some
      exact (congrArg Option.isSome (h_touches.proposals id h_ne)).trans (h.routes id name h_some)
  · change db'.jobs.lookup id = some job at h_some
    by_cases h_ne : id = key
    · subst h_ne
      exact h_backed (.inr ⟨job, h_some⟩)
    · rw [h_touches.jobs id h_ne] at h_some
      exact (congrArg Option.isSome (h_touches.proposals id h_ne)).trans (h.jobs id job h_some)
  · have h_lasts : Lasts m (Moment.data.set m db') := by
      refine ⟨h_touches.supply.ge, le_refl _, h_touches.destinations, fun id proposal h_some => ?_,
        fun id proposal h_some => ?_⟩
      · by_cases h_ne : id = key
        · subst h_ne
          exact h_proposal proposal h_some
        · exact ⟨proposal, (h_touches.proposals id h_ne).trans h_some, rfl⟩
      · by_cases h_ne : id = key
        · subst h_ne
          exact h_route proposal h_some
        · exact h_touches.routes id h_ne
    unfold contract
    dsimp only
    -- the parts: what lasts, each backlog lock, each job, each new proposal
    split
    · exact h_lasts
    · rename_i name
      refine ⟨h_touches.destinations, fun h_some => h_bound name fun h_key => ?_⟩
      obtain ⟨route, h_route⟩ := Option.isSome_iff_exists.mp h_some
      exact (h_place name h_key).resolve_right fun h_room => h_part (h_room route h_route).1
    · rename_i id
      intro job h_some
      by_cases h_ne : id = key
      · subst h_ne
        exact h_job.resolve_left h_part job h_some
      · exact (h_touches.jobs id h_ne).trans h_some
    · rename_i id
      intro h_none
      by_cases h_ne : id = key
      · subst h_ne
        exact h_new.resolve_left h_part h_none
      · exact (h_touches.proposals id h_ne).trans h_none
    · trivial

/-- A commit that leaves the proposals, the routes and the jobs alone. -/
theorem guarantees_of_same {db' : Db} (h : Backed m) (h_same : m.db.SameWork db') :
    contract.Guarantees held own m (Moment.data.set m db') := by
  refine guarantees_of_touches h (h_same.touches 0) (fun proposal h_some => ?_)
    (fun _ _ => ?_) ?_ (.inr fun h_none => ?_) (.inr fun job h_some => ?_) fun name h_place => ?_
  · rw [h_same.proposals]
    exact ⟨proposal, h_some, rfl⟩
  · rw [h_same.routes]
  · rw [h_same.routes, h_same.jobs, h_same.proposals]
    rintro (⟨name, h_some⟩ | ⟨job, h_some⟩)
    · exact h.routes 0 name h_some
    · exact h.jobs 0 job h_some
  · rw [h_same.proposals]
    exact h_none
  · rw [h_same.jobs]
    exact h_some
  · refine .inl ?_
    rw [Capacity.mem_places] at h_place ⊢
    unfold Capacity.occupies at h_place ⊢
    rw [h_same.routes, h_same.jobs, h_same.proposals] at h_place
    exact h_place

/-- A commit that changes one job, under its lock. -/
theorem guarantees_of_job {id : Uuid} {job : Job} {f : Job → Job} {db' : Db} (h : Backed m)
    (h_held : (.job id, .exclusive) ∈ held) (h_job : m.db.jobs.lookup id = some job)
    (h_same : (m.db.updateJob id f).SameWork db')
    (h_place : (Capacity.takesPlace (f job) = true → Capacity.takesPlace job = true) ∨
      ∀ name, m.db.jobRoutes.lookup id = some name → Room held m name) :
    contract.Guarantees held own m (Moment.data.set m db') := by
  have h_touches := (m.db.touches_updateJob id f).trans (h_same.touches id)
  rw [Db.updateJob_of_some h_job] at h_same
  have h_jobs : db'.jobs.lookup id = some (f job) := by
    rw [h_same.jobs]
    exact Table.lookup_insert_self _ _ _
  have h_proposals : db'.proposals = m.db.proposals := h_same.proposals
  have h_routes : db'.jobRoutes = m.db.jobRoutes := h_same.routes
  have h_proposed := h.jobs id job h_job
  refine guarantees_of_touches h h_touches (fun proposal h_some => ?_)
    (fun _ _ => ?_) (fun _ => ?_) (.inr fun h_none => ?_) (.inl h_held) fun name h_in => ?_
  · rw [h_proposals]
    exact ⟨proposal, h_some, rfl⟩
  · rw [h_routes]
  · rw [h_proposals]
    exact h_proposed
  · rw [h_proposals]
    exact h_none
  -- the place goes by the job alone once its row is there
  · rw [Capacity.mem_places, h_routes, Capacity.occupies_of_job (h_proposals ▸ h_proposed) h_jobs]
      at h_in
    rcases h_place with h_place | h_place
    · refine .inl (Capacity.mem_places.mpr ⟨h_in.1, ?_⟩)
      rw [Capacity.occupies_of_job h_proposed h_job]
      exact h_place h_in.2
    · exact .inr (h_place name h_in.1)

/-- The commit of a new proposal, under its key. -/
theorem guarantees_of_proposal {key : Uuid} {destination : Option String} {db' : Db}
    (h : Backed m) (h_held : (.proposal key, .exclusive) ∈ held)
    (h_new : m.db.proposals.lookup key = none)
    (h_room : ∀ name, destination = some name → Room held m name)
    (h_touches : m.db.Touches key db') (h_proposal : (db'.proposals.lookup key).isSome)
    (h_route : db'.jobRoutes.lookup key = destination) :
    contract.Guarantees held own m (Moment.data.set m db') := by
  refine guarantees_of_touches h h_touches (fun proposal h_some => ?_) (fun proposal h_some => ?_)
    (fun _ => h_proposal) (.inl h_held) (.inr fun job h_job => ?_) fun name h_in => ?_
  · cases h_new.symm.trans h_some
  · cases h_new.symm.trans h_some
  · have h_some := h.jobs key job h_job
    rw [h_new] at h_some
    cases h_some
  · exact .inr (h_room name (h_route.symm.trans (Capacity.mem_places.mp h_in).1))

/-- The commit of a granted approval, on time: a job takes over the place of its proposal. -/
theorem guarantees_of_approval {key : Uuid} {proposal proposal' : Proposal} {job : Job} {db' : Db}
    (h : Backed m) (h_proposal : m.db.proposals.lookup key = some proposal)
    (h_expiry : proposal'.expiresAt = proposal.expiresAt)
    (h_on_time : m.db.jobs.lookup key = none → m.clock < proposal.expiresAt)
    (h_touches : m.db.Touches key db') (h_proposal' : db'.proposals.lookup key = some proposal')
    (h_route : db'.jobRoutes.lookup key = m.db.jobRoutes.lookup key)
    (h_jobs : db'.jobs.lookup key = some ((m.db.jobs.lookup key).getD job)) :
    contract.Guarantees held own m (Moment.data.set m db') := by
  have h_some : (m.db.proposals.lookup key).isSome := Option.isSome_of_mem h_proposal
  refine guarantees_of_touches h h_touches (fun found h_found => ?_) (fun _ _ => h_route)
    (fun _ => Option.isSome_of_mem h_proposal') (.inr fun h_none => ?_) (.inr fun job' h_job => ?_)
    fun name h_in => .inl ?_
  · obtain rfl := Option.some.inj (h_proposal.symm.trans h_found)
    exact ⟨proposal', h_proposal', h_expiry⟩
  · cases h_proposal.symm.trans h_none
  · rw [h_jobs, h_job]
    rfl
  · rw [Capacity.mem_places, h_route] at h_in
    refine Capacity.mem_places.mpr ⟨h_in.1, ?_⟩
    -- on time, the proposal still takes the place that the job takes over
    cases h_job : m.db.jobs.lookup key with
    | none =>
      unfold Capacity.occupies
      rw [h_proposal, h_job]
      exact decide_eq_true (h_on_time h_job)
    | some job' =>
      rw [h_job] at h_jobs
      change db'.jobs.lookup key = some job' at h_jobs
      rw [Capacity.occupies_of_job h_some h_job]
      rw [← Capacity.occupies_of_job (Option.isSome_of_mem h_proposal') h_jobs]
      exact h_in.2

/-! ### The scripts -/

section Scripts

variable (now : Time)

/-- Who has locked the row of a job finds it as it was. -/
theorem job_kept {m' : Moment} {id : Uuid} {job : Job} (h : m.db.jobs.lookup id = some job)
    (h_relies : contract.Relies held own m m') (h_held : (.job id, .exclusive) ∈ held) :
    m'.db.jobs.lookup id = some job := h_relies.locked h_held job h

/-- A commit. -/
theorem safe_commit (answer : Answer) :
    Script.Safe contract spec (.commit answer) held own m id :=
  ⟨trivial, fun m' h' _ => .of_keeps h'.inv fun part => contract.refl part m'⟩

/-- `defer` takes no place. -/
theorem defer_safe (id : Uuid) (token : Option Uuid) (attempted : Bool) :
    (Timed.ofTransaction (Capacity.deferScript now id token attempted)).Safe contract spec []
      own m (fun m => m) := by
  refine fun m₁ h₁ => ⟨trivial, fun m₂ h₂ => ⟨trivial, ?_⟩⟩
  dsimp only
  split
  · exact safe_commit _
  rename_i job h_job
  rw [Script.within_ite]
  refine .ite (fun h_leased => ?_) fun _ => safe_commit _
  generalize (if attempted then 0 else 1) = refund
  rw [Script.within_ite]
  refine .ite (fun _ => trivial) fun _ => ⟨trivial, fun m₃ h₃ _ => ?_⟩
  refine guarantees_of_job (f := Capacity.deferred now refund) h₃.inv List.mem_cons_self
    (h₃.locked List.mem_cons_self job h_job) ⟨rfl, rfl, rfl, rfl, rfl⟩ (.inl fun _ => ?_)
  exact decide_eq_true (.inr (.inr h_leased.2.2))

/-- `claim` takes no place. -/
theorem claim_safe (leaseSeconds : ℤ) (locked : List Uuid) :
    (Timed.ofTransaction (Worker.claimScript now leaseSeconds locked)).Safe contract spec []
      own m id := by
  refine fun m₁ h₁ => ⟨trivial, ?_⟩
  dsimp only
  rw [Script.within_ite]
  refine .ite (fun _ => safe_commit _) fun _ m₂ h₂ => ?_
  dsimp only
  cases h_first : Worker.first (Worker.claimable now locked (Moment.data.get (id m₂))) with
  | none => exact safe_commit _
  | some candidate =>
    obtain ⟨h_job, h_due⟩ := Worker.of_mem_claimable (Worker.first_mem h_first)
    refine ⟨trivial, fun m₃ h₃ m₄ h₄ => ⟨trivial, fun m₅ h₅ => ⟨trivial, trivial,
      fun m₆ h₆ _ => ?_⟩⟩⟩
    have h_job₃ := job_kept h_job h₃ (by simp)
    have h_job₄ := job_kept (m := Sequence.advance m₃) h_job₃ h₄ (by simp)
    have h_job₆ := job_kept (job_kept h_job₄ h₅ (by simp)) h₆ (by simp)
    refine guarantees_of_job (f := Worker.leased now leaseSeconds m₃.db.supply) h₆.inv (by simp)
      h_job₆ ⟨rfl, rfl, rfl, rfl, rfl⟩ (.inl fun _ => ?_)
    exact Capacity.takesPlace_of_due h_due

/-- `finish` takes no place. -/
theorem finish_safe (jitter : Time) (id : Uuid) (token : Option Uuid)
    (verdict : Worker.Verdict) :
    (Timed.ofTransaction (Worker.finishScript now jitter id token verdict)).Safe contract spec []
      own m (fun m => m) := by
  refine fun m₁ h₁ => ⟨trivial, ?_⟩
  dsimp only
  split
  · trivial
  rename_i job h_job
  rw [Script.within_ite]
  refine .ite (fun _ => safe_commit _) fun h_leased => ?_
  -- a leased job takes its place, whatever becomes of it
  have h_place : Capacity.takesPlace job = true := by
    refine decide_eq_true (.inr (.inr ?_))
    by_contra h_status
    exact h_leased (decide_eq_true (.inr h_status))
  refine fun m₂ h₂ => ⟨trivial, ?_⟩
  have h_job₂ := job_kept h_job h₂ (by simp)
  change Script.Safe contract spec (Script.within Moment.data (ite _ _ _)) _ _ _ _
  rw [Script.within_ite]
  refine .ite (fun _ m₃ h₃ => ⟨trivial, fun m₄ h₄ => ⟨trivial, trivial, fun m₅ h₅ _ => ?_⟩⟩)
    fun _ m₃ h₃ => ⟨trivial, trivial, fun m₄ h₄ _ => ?_⟩
  · have h_job₄ := job_kept (job_kept h_job₂ h₃ (by simp)) h₄ (by simp)
    exact guarantees_of_job h₅.inv (by simp) (job_kept h_job₄ h₅ (by simp))
      ⟨rfl, rfl, rfl, rfl, rfl⟩ (.inl fun _ => h_place)
  · have h_job₃ := job_kept h_job₂ h₃ (by simp)
    exact guarantees_of_job h₄.inv (by simp) (job_kept h_job₃ h₄ (by simp))
      ⟨rfl, rfl, rfl, rfl, rfl⟩ (.inl fun _ => h_place)

/-- `prepare` takes no place. -/
theorem prepare_safe (utc : Time) (id : Uuid) (token : Option Uuid) :
    (Timed.ofTransaction (Worker.prepareScript now utc id token)).Safe contract spec []
      own m (fun m => m) := by
  refine fun m₁ h₁ => ⟨trivial, ?_⟩
  dsimp only
  rw [Script.within_ite]
  refine .ite (fun _ => safe_commit _) fun _ m₂ h₂ => ?_
  dsimp only
  split
  · trivial
  refine fun m₃ h₃ => ⟨trivial, ?_⟩
  dsimp only
  split
  · trivial
  refine fun m₄ h₄ => ⟨trivial, ?_⟩
  dsimp only
  split
  · trivial
  rename_i job h_job
  rw [Script.within_ite]
  refine .ite (fun _ => safe_commit _) fun h_leased => ?_
  split
  · exact safe_commit _
  split
  · trivial
  rename_i mutation _
  rw [Script.within_ite]
  refine .ite (fun _ => safe_commit _) fun _ m₅ h₅ => ⟨trivial, fun m₆ h₆ => ⟨trivial, trivial,
    fun m₇ h₇ _ => ?_⟩⟩
  -- the job was locked, so that nobody has changed its row since
  have h_job₆ := job_kept (job_kept h_job h₅ (by simp)) h₆ (by simp)
  exact guarantees_of_job (f := Worker.intended mutation) h₇.inv (by simp)
    (job_kept h_job₆ h₇ (by simp)) ⟨rfl, rfl, rfl, rfl, rfl⟩ (.inl fun h => h)

/-- A statement, behind which the script goes on. -/
theorem modify_safe {effect : Db → Db} {next : Transaction} {pending : Moment → Moment}
    (h : ∀ held' m', contract.Since own held m held' m' →
      (Timed.ofTransaction next).Safe contract spec held' own m'
        (Moment.data.modify effect ∘ pending)) :
    (Timed.ofTransaction (modify effect next)).Safe contract spec held own m pending :=
  fun m' h' => ⟨trivial, h _ m' (h'.since.lock _)⟩

/-- The route of a new request, which has no proposal yet. -/
theorem bind_safe {key : Uuid} {destination : Option String} {next : Transaction}
    {pending : Moment → Moment} (h_inv : Backed m)
    (h : ∀ held' m', contract.Since own held m held' m' →
      (Timed.ofTransaction next).Safe contract spec held' own m'
        (Moment.data.modify (Capacity.bind key destination) ∘ pending)) :
    (Timed.ofTransaction (Capacity.bindScript key destination next)).Safe contract spec held own m
      pending := by
  have h_refl : contract.Relies held own m m := .refl h_inv
  cases destination with
  | none => exact h held m h_refl.since
  | some name =>
    refine fun m₁ h₁ => ⟨trivial, fun m₂ h₂ => ⟨trivial, h _ m₂ ?_⟩⟩
    exact ((h₁.since.lock _).trans h₂.since).lock _

/-- An `INSERT` that the gate and the constraints let through has its key. -/
theorem insertAdmitted_safe {key : Resource} {violated : Db → Bool} {effect : Db → Db}
    {next : Transaction} {pending : Moment → Moment}
    (h : ∀ held' m', contract.Since own held m held' m' → (key, .exclusive) ∈ held' →
      violated (pending m').db = false → (Timed.ofTransaction next).Safe contract spec held' own m'
        (Moment.data.modify effect ∘ pending)) :
    (Timed.ofTransaction (insertAdmitted key violated effect next)).Safe contract spec held own m
      pending := by
  refine fun m₁ h₁ => ⟨trivial, fun m₂ h₂ => ⟨trivial, ?_⟩⟩
  dsimp only
  rw [Script.within_ite]
  refine .ite (fun _ => trivial) fun _ m₃ h₃ => ⟨trivial, ?_⟩
  dsimp only
  rw [Script.within_ite]
  refine .ite (fun _ => trivial) fun h_free => ?_
  have h_since := (h₁.since.lock (.gate, .shared)).trans (h₂.since.lock (.gate, .shared))
  exact h _ m₃ ((h_since.trans h₃.since).lock _) List.mem_cons_self
    (Bool.eq_false_of_not_eq_true h_free)

/-- `approve` keeps the place of its proposal, in time. -/
theorem approve_safe (utc utc' : Time) (actor : Actor) (id : Uuid) (command : Contract.Approval) :
    (Timed.ofTransaction (Service.approveScript now utc utc' actor id command)).Safe contract spec
      [] own m (fun m => m) := by
  refine fun m₁ h₁ => ⟨trivial, ?_⟩
  dsimp only
  rw [Script.within_ite]
  refine .ite (fun _ => safe_commit _) fun _ m₂ h₂ => ?_
  dsimp only
  split
  · trivial
  refine fun m₃ h₃ => ⟨trivial, ?_⟩
  dsimp only
  split
  · trivial
  refine fun m₄ h₄ => ⟨trivial, ?_⟩
  dsimp only
  split
  · trivial
  rename_i proposal h_proposal
  split
  · refine fun m₅ h₅ => ⟨trivial, fun m₆ h₆ => ⟨trivial, trivial, fun m₇ h₇ _ => ?_⟩⟩
    exact guarantees_of_same h₇.inv ⟨rfl, rfl, rfl, rfl, rfl⟩
  rw [Script.within_ite]
  refine .ite (fun _ => safe_commit _) fun _ m₅ h₅ => ⟨trivial, ?_⟩
  refine insertAdmitted_safe fun held m₆ h₆ _ _ m₇ h₇ => ⟨trivial, trivial, fun m₈ h₈ h_given => ?_⟩
  -- the proposal is still there, and expires when it did
  have h_lasts : Lasts m₄ m₈ :=
    h₅.always.trans <| h₆.relies.always.trans <| h₇.always.trans h₈.always
  obtain ⟨found, h_found, h_expiry⟩ := h_lasts.expiry id proposal h_proposal
  generalize h_ensure : (fun db : Db => if (db.jobs.lookup id).isSome then db
    else { db with jobs := db.jobs.insert id (Job.inserted now) }) = ensure at h_given ⊢
  let grant := fun row : Proposal => { row with
    approvedBy := some actor, approvedUntil := some (Service.approvalUntil proposal utc') }
  obtain ⟨jobs, h_ensured, h_job, h_others⟩ := Db.ensured_job id (Job.inserted now)
    { m₈.db with proposals := m₈.db.proposals.insert id (grant found) }
  have h_db : ensure (m₈.db.updateProposal id grant) =
      { m₈.db with proposals := m₈.db.proposals.insert id (grant found), jobs := jobs } := by
    rw [Db.updateProposal_of_some h_found, ← h_ensure]
    exact h_ensured
  change contract.Guarantees _ own m₈ (Moment.data.set m₈
    ((ensure (m₈.db.updateProposal id grant)).audit _ _ _ _))
  -- the approval inserts the job only if it is not there
  have h_on_time : m₈.db.jobs.lookup id = none → m₈.clock < found.expiresAt := by
    intro h_none
    refine h_given id found h_found h_none ?_
    change (ensure (m₈.db.updateProposal id grant)).jobs.lookup id ≠ none
    rw [h_db, h_job]
    nofun
  rw [h_db]
  have h_expiry' : (grant found).expiresAt = found.expiresAt := rfl
  refine guarantees_of_approval h₈.inv h_found h_expiry' h_on_time ⟨rfl, rfl, ?_, fun _ _ => rfl,
    h_others⟩ (Table.lookup_insert_self _ _ _) rfl h_job
  exact fun _ h_ne => Table.lookup_insert_of_ne _ _ h_ne

/-- The count is under the lock of the destination, and leaves room for one. -/
theorem checkBacklog_safe {name : String} {route : Destination} {next : Timed}
    (h_route : m.db.destinations.lookup name = some route)
    (h_next : ∀ held' m', contract.Since own held m held' m' → Room held' m' name →
        next.Safe contract spec held' own m' id) :
    (Timed.checkBacklog name route next).Safe contract spec held own m id := by
  refine fun m₁ h₁ => ⟨trivial, fun m₂ h₂ => ?_⟩
  have h_since := (h₁.since.lock (.backlog name, .exclusive)).trans h₂.since
  refine .ite (fun _ => trivial) fun h_count => h_next _ m₂ h_since fun route' h_route' => ?_
  rw [h_since.relies.always.destinations, h_route] at h_route'
  obtain rfl := Option.some.inj h_route'
  exact ⟨List.mem_cons_self, lt_of_not_ge h_count⟩

/-- An admission goes on with room at the destination. -/
theorem admission_safe {owner : Option String} {next : Option String → Timed}
    (h : ∀ held' m' destination, (∀ name, destination = some name → Room held' m' name) →
      (next destination).Safe contract spec held' own m' id) :
    (Timed.admission owner next).Safe contract spec held own m id := by
  refine fun m₁ h₁ => .ite (fun _ => h held m₁ none nofun) fun _ m₂ h₂ => ?_
  dsimp only
  split
  · trivial
  split
  · trivial
  · rename_i h_route
    refine checkBacklog_safe h_route fun held' m' _ h_room => h held' m' _ fun name h_name => ?_
    obtain rfl := Option.some.inj h_name
    exact h_room

/-- A job has the route it had, and there is room for it where it has one. -/
theorem readmission_safe {key : Uuid} {next : Timed} {proposal : Proposal}
    (h_proposal : m.db.proposals.lookup key = some proposal)
    (h_next : ∀ held' m', contract.Since own held m held' m' →
      (∀ name, m'.db.jobRoutes.lookup key = some name → Room held' m' name) →
        next.Safe contract spec held' own m' id) :
    (Timed.readmission key next).Safe contract spec held own m id := by
  refine fun m₁ h₁ => ?_
  -- the route of a proposal never changes
  have h_routed : ∀ m', contract.Relies held own m₁ m' →
      m'.db.jobRoutes.lookup key = m₁.db.jobRoutes.lookup key := by
    intro m' h'
    obtain ⟨proposal₁, h_proposal₁, -⟩ := h₁.always.expiry key proposal h_proposal
    exact h'.always.route key proposal₁ h_proposal₁
  dsimp only
  split
  · rename_i h_route
    refine h_next held m₁ h₁.since fun name h_name => ?_
    cases h_route.symm.trans h_name
  rename_i name h_route
  have h_only : ∀ m', contract.Relies held own m₁ m' → ∀ name',
      m'.db.jobRoutes.lookup key = some name' → name' = name := by
    intro m' h' name' h_name
    rw [h_routed m' h'] at h_name
    exact Option.some.inj (h_name.symm.trans h_route)
  split
  · rename_i h_destination
    refine h_next held m₁ h₁.since fun name' h_name route h_some => ?_
    obtain rfl := h_only m₁ (.refl h₁.inv) name' h_name
    cases h_destination.symm.trans h_some
  · rename_i h_destination
    refine checkBacklog_safe h_destination fun held' m₂ h₂ h_room =>
      h_next held' m₂ (h₁.since.trans h₂) fun name' h_name => ?_
    obtain rfl := h_only m₂ h₂.relies name' h_name
    exact h_room

/-- Whatever else is written with a new proposal, its key is still free at the commit, and
there is room for it. -/
theorem guarantees_of_enqueue {held' : List (Resource × LockMode)} {m' : Moment} {key : Uuid}
    {row : Proposal} {destination : Option String} {f : Db → Db}
    (h_since : contract.Since own held m held' m') (h_held : (.proposal key, .exclusive) ∈ held)
    (h_new : m.db.proposals.lookup key = none)
    (h_room : ∀ name, destination = some name → Room held m name)
    (h_f : ∀ db, db.Touches key (f db) ∧ (f db).proposals = db.proposals ∧
      (f db).jobRoutes = db.jobRoutes) :
    contract.Guarantees held' own m' (Moment.data.set m' (f <| Capacity.bind key destination
      { m'.db with proposals := m'.db.proposals.insert key row })) := by
  obtain ⟨h_touches, h_proposals, h_routes⟩ := h_f (Capacity.bind key destination
    { m'.db with proposals := m'.db.proposals.insert key row })
  have h_new' := h_since.relies.locked h_held h_new
  refine guarantees_of_proposal h_since.relies.inv (h_since.holds h_held) h_new'
    (fun name h_name => (h_room name h_name).keep h_since)
    ((Db.touches_insertProposal _ _ _).trans ((Db.touches_bind _ _ _).trans h_touches)) ?_ ?_
  · rw [h_proposals]
    cases destination <;> exact Option.isSome_of_mem (Table.lookup_insert_self _ _ _)
  · rw [h_routes]
    cases destination with
    | none =>
      refine Option.eq_none_iff_forall_ne_some.mpr fun name h_name => ?_
      have h_some := h_since.relies.inv.routes _ name h_name
      rw [h_new'] at h_some
      cases h_some
    | some name => exact Table.lookup_insert_self _ _ _

/-- A new request takes the place that there is room for. -/
theorem enqueue_safe (actor : Actor) (command : Contract.Proposal) (row : Customer)
    (decision : Decision × Reason) (destination : Option String)
    (h_room : ∀ name, destination = some name → Room held m name) :
    (Timed.ofTransaction (Service.enqueueScript now actor command row decision destination)).Safe
      contract spec held own m id := by
  refine insertAdmitted_safe fun held₁ m₁ h₁ h_key h_free => ?_
  -- the request id was free under its lock
  have h_new : m₁.db.proposals.lookup command.requestId = none := by
    have h_none := (Bool.or_eq_false_iff.mp h_free).1
    exact Option.not_isSome_iff_eq_none.mp (Bool.eq_false_iff.mp h_none)
  have h_room₁ := fun name h_name => (h_room name h_name).keep h₁
  refine bind_safe h₁.relies.inv fun held₂ m₂ h₂ => ?_
  dsimp only
  split
  · refine insertAdmitted_safe fun held₃ m₃ h₃ _ _ => modify_safe fun held₄ m₄ h₄ =>
      ⟨trivial, fun m₅ h₅ _ => ?_⟩
    refine guarantees_of_enqueue (f := fun db => Db.audit { db with
      jobs := db.jobs.insert command.requestId (Job.inserted now) } now actor _ _)
      (h₂.trans (h₃.trans (h₄.trans h₅.since))) h_key h_new h_room₁ fun db => ⟨?_, rfl, rfl⟩
    refine (db.touches_insertJob _ (Job.inserted now)).trans (Db.SameWork.touches ?_ _)
    exact ⟨rfl, rfl, rfl, rfl, rfl⟩
  · refine modify_safe fun held₃ m₃ h₃ => modify_safe fun held₄ m₄ h₄ =>
      ⟨trivial, fun m₅ h₅ _ => ?_⟩
    refine guarantees_of_enqueue (f := fun db => (db.exception now _ _ _).audit now actor _ _)
      (h₂.trans (h₃.trans (h₄.trans h₅.since))) h_key h_new h_room₁ fun db => ⟨?_, rfl, rfl⟩
    refine Db.SameWork.touches ?_ _
    exact ⟨rfl, rfl, rfl, rfl, rfl⟩
  · refine modify_safe fun held₃ m₃ h₃ => ⟨trivial, fun m₄ h₄ _ => ?_⟩
    refine guarantees_of_enqueue (f := fun db => db.audit now actor _ _)
      (h₂.trans (h₃.trans h₄.since)) h_key h_new h_room₁ fun db => ⟨?_, rfl, rfl⟩
    refine Db.SameWork.touches ?_ _
    exact ⟨rfl, rfl, rfl, rfl, rfl⟩

/-- `propose` takes one place, under the lock of the destination. -/
theorem propose_safe (actor : Actor) (command : Contract.Proposal) :
    (Timed.propose actor command).Safe contract spec [] own m id := by
  refine fun m₁ h₁ => ⟨trivial, .ite (fun _ => safe_commit _) fun _ m₂ h₂ => ⟨trivial, ?_⟩⟩
  dsimp only
  split
  · trivial
  refine fun m₃ h₃ => ⟨trivial, fun m₄ h₄ => ?_⟩
  dsimp only
  split
  · refine .ite (fun _ => modify_safe fun held₅ m₅ h₅ => ⟨trivial, fun m₆ h₆ _ => ?_⟩)
      fun _ => safe_commit _
    exact guarantees_of_same h₆.inv ⟨rfl, rfl, rfl, rfl, rfl⟩
  · refine .ite (fun _ => admission_safe fun held₅ m₅ destination h_room m₆ h₆ => ?_)
      fun _ m₅ h₅ => enqueue_safe _ actor command _ _ none nofun
    exact enqueue_safe _ actor command _ _ destination
      fun name h_name => (h_room name h_name).keep h₆.since

/-- `resolve` takes one place, under the lock of the destination. -/
theorem resolve_safe (actor : Actor) (id : ℕ) (command : Contract.Resolution) :
    (Timed.resolve actor id command).Safe contract spec [] own m (fun m => m) := by
  refine fun m₁ h₁ => ⟨trivial, ?_⟩
  dsimp only
  split
  · trivial
  refine .ite (fun _ => trivial) fun _ => ?_
  split
  · refine fun m₂ h₂ => modify_safe fun held₃ m₃ h₃ => modify_safe fun held₄ m₄ h₄ =>
      ⟨trivial, fun m₅ h₅ _ => ?_⟩
    exact guarantees_of_same h₅.inv ⟨rfl, rfl, rfl, rfl, rfl⟩
  refine .ite (fun _ => trivial) fun _ => ?_
  split
  · trivial
  · trivial
  rename_i key _
  refine fun m₂ h₂ => ⟨trivial, ?_⟩
  dsimp only
  split
  · trivial
  rename_i job h_job
  obtain ⟨proposal, h_proposal⟩ := Option.isSome_iff_exists.mp (h₂.inv.jobs key job h_job)
  refine .ite (fun _ => trivial) fun _ => readmission_safe h_proposal
    fun held₃ m₃ h₃ h_room m₄ h₄ =>
    modify_safe fun held₅ m₅ h₅ => modify_safe fun held₆ m₆ h₆ => modify_safe fun held₇ m₇ h₇ =>
    ⟨trivial, fun m₈ h₈ _ => ?_⟩
  -- the job is still dead, and there is still room where it is routed
  have h_later : contract.Since own held₃ m₃ held₇ m₈ :=
    h₄.since.trans (h₅.trans (h₆.trans (h₇.trans h₈.since)))
  have h_since := h₃.trans h_later
  have h_held := h_since.holds List.mem_cons_self
  have h_job₈ := job_kept h_job h_since.relies List.mem_cons_self
  refine guarantees_of_job (f := Service.requeued m₄.clock) h₈.inv h_held h_job₈
    ⟨rfl, rfl, rfl, rfl, rfl⟩ (.inr fun name h_name => ?_)
  obtain ⟨proposal₃, h_proposal₃, -⟩ := h₃.relies.always.expiry key proposal h_proposal
  rw [h_later.relies.always.route key proposal₃ h_proposal₃] at h_name
  exact (h_room name h_name).keep h_later

/-- The write of a component is a write on the database that leaves the work alone. -/
def OutsideWork (effect : Moment → Moment) : Prop :=
  ∀ m, ∃ db', effect m = Moment.data.set m db' ∧ m.db.SameWork db'

/-- Whatever leaves the work takes no place. -/
theorem leavesWork_safe {transaction : Transaction} (h : transaction.Writes LeavesWork) :
    (Timed.ofTransaction transaction).Safe contract spec held own m id := by
  have h_writes : (Timed.ofTransaction transaction).Writes OutsideWork :=
    h.within fun f h_f m => ⟨f m.db, rfl, h_f m.db⟩
  refine h_writes.safe (fun f g h_f h_g m => ?_) (fun f h_f held own m h_inv => ?_)
    (fun _ _ _ _ _ => trivial) (fun _ _ => trivial) fun m => ?_
  · obtain ⟨db₁, h_eq₁, h_same₁⟩ := h_g m
    obtain ⟨db₂, h_eq₂, h_same₂⟩ := h_f (Moment.data.set m db₁)
    refine ⟨db₂, ?_, h_same₁.trans h_same₂⟩
    show f (g m) = _
    rw [h_eq₁, h_eq₂]
    rfl
  · obtain ⟨db', h_eq, h_same⟩ := h_f m
    rw [h_eq]
    exact guarantees_of_same h_inv h_same
  · exact ⟨m.db, rfl, rfl, rfl, rfl, rfl, rfl⟩

/-- So does whatever writes aside. -/
theorem aside_safe {transaction : Transaction} (h : transaction.Writes Aside) :
    (Timed.ofTransaction transaction).Safe contract spec held own m id :=
  leavesWork_safe (h.imp fun _ h_aside => h_aside.work)

/-- **Every transaction keeps the contract.** -/
theorem timed_safe (tx : Tx) : (tx.timed now).Safe contract spec [] own m id := by
  cases tx with
  | ingest source event => exact leavesWork_safe (Service.ingest_writes now source event)
  | link actor command => exact aside_safe (Service.link_writes now actor command)
  | propose actor command => exact propose_safe actor command
  | approve utc utc' actor id command => exact approve_safe now utc utc' actor id command
  | resolve actor id command => exact resolve_safe actor id command
  | claim leaseSeconds locked => exact claim_safe now leaseSeconds locked
  | prepare utc id token => exact prepare_safe now utc id token
  | finish jitter id token verdict => exact finish_safe now jitter id token verdict
  | defer id token attempted => exact defer_safe now id token attempted
  | acquire name route kind => exact aside_safe (Capacity.acquire_writes now name route kind)
  | release name token failed cooldown =>
    exact aside_safe (Capacity.release_writes now name token failed cooldown)
  | begin coordinator => exact aside_safe (Recovery.begin_writes now coordinator)
  | verify coordinator surroundings sessionId =>
    exact aside_safe (Recovery.verify_writes now coordinator surroundings sessionId)
  | approveRecovery coordinator surroundings sessionId proofId =>
    exact aside_safe (Recovery.approve_writes now coordinator surroundings sessionId proofId)
  | resume coordinator surroundings sessionId proofId =>
    exact aside_safe (Recovery.resume_writes coordinator surroundings sessionId proofId)

end Scripts

/-! ### Runs -/

/-- Time frees places and takes none. -/
theorem guarantees_of_pass (h : Backed m) (duration : ℕ) :
    contract.Guarantees held own m { m with clock := m.clock + duration } := by
  have h_le : m.clock ≤ m.clock + duration := Int.le_add_of_nonneg_right (Int.natCast_nonneg _)
  have h_backlog : ∀ name, Capacity.backlog m.db (m.clock + duration) name ≤
      Capacity.backlog m.db m.clock name :=
    fun name => Capacity.backlog_le (Capacity.places_of_le h_le name)
  refine .of_keeps ⟨fun name route h_route => ?_, h.routes, h.jobs⟩ fun part => ?_
  · exact (h_backlog name).trans (h.bounded name route h_route)
  · unfold contract
    dsimp only
    split
    · exact ⟨le_refl _, h_le, rfl, fun _ proposal h_some => ⟨proposal, h_some, rfl⟩,
        fun _ _ _ => rfl⟩
    · exact ⟨rfl, fun _ => h_backlog _⟩
    · exact fun _ h_some => h_some
    · exact fun h_none => h_none
    · trivial

/-- An approval that the step commits is on time. -/
def Timely (t : Timeline) : Action → Prop
  | .statement n => ∀ answer pending,
      t.engine.running n = some ⟨.commit answer, pending⟩ → OnTime t.moment pending
  | _ => True

/-- In the beginning nothing is pending. -/
theorem backed_migrated (registry : Table String Destination) (owners : Table String String)
    (clock : Time) : Backed ⟨Db.migrated registry owners, clock⟩ := by
  refine ⟨fun name route _ => ?_, fun _ _ h => (by cases h), fun _ _ h => (by cases h)⟩
  have h_empty : Capacity.backlog (Db.migrated registry owners) clock name = 0 := rfl
  rw [h_empty]
  exact Nat.zero_le _

/-- The transactions of a run keep the contract, and the registry is as it was. -/
def Sound (registry : Table String Destination) (t : Timeline) : Prop :=
  (∃ own, t.engine.Honors contract (fun _ => spec) own) ∧ t.moment.db.destinations = registry

/-- Every action in time keeps the bound. -/
theorem Sound.step {registry : Table String Destination} {t : Timeline} {action : Action}
    (h_timely : t.Timely action) (h : Sound registry t) : Sound registry (t.step action) := by
  obtain ⟨⟨own, h_engine⟩, h_registry⟩ := h
  cases action with
  | start n now tx =>
    have h_state : (t.engine.start n (tx.timed now)).state = t.moment := Engine.start_state _ _ _
    refine ⟨⟨own, h_engine.start_any (timed_safe now tx)⟩, ?_⟩
    change (t.engine.start n (tx.timed now)).state.db.destinations = registry
    rw [h_state]
    exact h_registry
  | statement n =>
    obtain ⟨own', -, h_next⟩ := h_engine.statement (o := n) h_timely
    have h_always : Lasts t.moment (t.engine.statement n).state :=
      h_engine.statement_always (o := n) h_timely
    exact ⟨⟨own', h_next⟩, h_always.destinations.trans h_registry⟩
  | abort n => exact ⟨⟨own, h_engine.abort n⟩, h_registry⟩
  | pass duration =>
    exact ⟨⟨own, h_engine.change (guarantees_of_pass h_engine.inv duration)⟩, h_registry⟩

/-- **No backlog exceeds its limit** while every approval commits before its proposal
expires. -/
theorem backlog_bound (registry : Table String Destination) (owners : Table String String)
    (clock : Time) (actions : List Action)
    (h : Meets step Timely (initial (Db.migrated registry owners) clock) actions)
    {name : String} {route : Destination} (h_route : registry.lookup name = some route) :
    let m := ((initial (Db.migrated registry owners) clock).run actions).moment
    Capacity.backlog m.db m.clock name ≤ route.backlogLimit := by
  have h_initial : Sound registry (initial (Db.migrated registry owners) clock) :=
    ⟨⟨fun _ => [], Engine.initial_honors (backed_migrated registry owners clock)⟩, rfl⟩
  have h_sound : Sound registry ((initial (Db.migrated registry owners) clock).run actions) :=
    h.invariant h_initial fun t action h_timely => Sound.step h_timely
  obtain ⟨⟨own, h_engine⟩, h_registry⟩ := h_sound
  rw [← h_registry] at h_route
  exact h_engine.inv.bounded name route h_route

/-! ### A late approval -/

instance (m : Moment) (pending : Moment → Moment) : Decidable (OnTime m pending) :=
  decidable_of_iff (∀ row ∈ m.db.proposals.entries, m.db.jobs.lookup row.1 = none →
      (pending m).db.jobs.lookup row.1 ≠ none → m.clock < row.2.expiresAt) <| by
    constructor
    · exact fun h id proposal h_some => h ⟨id, proposal⟩ (Table.mem_entries.mpr h_some)
    · exact fun h row h_row => h row.1 row.2 (Table.mem_entries.mp h_row)

instance (t : Timeline) (action : Action) : Decidable (t.Timely action) :=
  match action with
  | .statement n =>
    match h : t.engine.running n with
    | some ⟨.commit answer, pending⟩ =>
      decidable_of_iff (OnTime t.moment pending) <| by
        constructor
        · rintro h_on_time answer' pending' h_some
          cases h.symm.trans h_some
          exact h_on_time
        · exact fun h_timely => h_timely answer pending h
    | none => .isTrue fun _ _ h_some => (by cases h.symm.trans h_some)
    | some ⟨.rollback _, _⟩ => .isTrue fun _ _ h_some => (by cases h.symm.trans h_some)
    | some ⟨.select _ _, _⟩ => .isTrue fun _ _ h_some => (by cases h.symm.trans h_some)
    | some ⟨.draw _, _⟩ => .isTrue fun _ _ h_some => (by cases h.symm.trans h_some)
    | some ⟨.write _ _, _⟩ => .isTrue fun _ _ h_some => (by cases h.symm.trans h_some)
  | .start .. => .isTrue trivial
  | .abort _ => .isTrue trivial
  | .pass _ => .isTrue trivial

/-- A destination with room for one job. -/
def narrow : Table String Destination :=
  AList.insert "sink" ⟨⟨"http", "", "", "localhost", "", ""⟩, "TOKEN", 10, 1, 1⟩ ∅

/-- The owner "sales" goes to the destination "sink". -/
def narrowOwners : Table String String := AList.insert "sales" "sink" ∅

/-- One transaction of the client from its start to its end. -/
def whole (client : ℕ) (tx : Tx) (statements : ℕ) : List Action :=
  .start client 0 tx :: List.replicate statements (.statement client)

/-- Two customers, a proposal that needs an approval, and the approval up to its check. -/
def checkedApproval : List Action :=
  let customer : String → SourceEvent := fun name => ⟨name, name, 1,
    { (FieldMap.empty : FieldMap Field.Value) with email := some name, owner := some "sales" }⟩
  whole 0 (.ingest .crm (customer "a")) 17 ++ whole 0 (.ingest .crm (customer "b")) 17 ++
    whole 0 (.link .operator ⟨.consent, "a", 0, 1, "evidence"⟩) 12 ++
    whole 0 (.link .operator ⟨.privacy, "a", 0, 1, "evidence"⟩) 12 ++
    whole 0 (.ingest .consent ⟨"c", "a", 1,
      { (FieldMap.empty : FieldMap Field.Value) with consent := some true }⟩) 10 ++
    whole 0 (.ingest .privacy ⟨"p", "a", 1,
      { (FieldMap.empty : FieldMap Field.Value) with suppressed := some false }⟩) 10 ++
    whole 0 (.propose .agent ⟨100, 0, 3, .sendMarketing, "offer", .welcome⟩) 20 ++
    whole 1 (.approve 0 0 .approver 100 ⟨3⟩) 4

/-- Another proposal for the destination, and then the rest of the approval. -/
def lateCommit : List Action :=
  whole 0 (.propose .agent ⟨200, 1, 1, .syncProfile, "synchronise", .welcome⟩) 25 ++
    List.replicate 10 (.statement 1)

/-- While the first proposal has not expired, the other one is refused. -/
theorem prompt_approval_bounded :
    Meets step Timely (initial (Db.migrated narrow narrowOwners) 0)
      (checkedApproval ++ lateCommit) ∧
    let m := ((initial (Db.migrated narrow narrowOwners) 0).run
      (checkedApproval ++ lateCommit)).moment
    Capacity.backlog m.db m.clock "sink" ≤ 1 := by
  have h_timely : Meets step Timely (initial (Db.migrated narrow narrowOwners) 0)
      (checkedApproval ++ lateCommit) := by decide +kernel
  have h_route : narrow.lookup "sink" =
    some ⟨⟨"http", "", "", "localhost", "", ""⟩, "TOKEN", 10, 1, 1⟩ := rfl
  exact ⟨h_timely, backlog_bound narrow narrowOwners 0 _ h_timely h_route⟩

/-- When it expires after the check of its approval, the other one is admitted in its place,
and then the approval commits. -/
theorem late_approval_overflows :
    let m := ((initial (Db.migrated narrow narrowOwners) 0).run
      (checkedApproval ++ .pass 900000000 :: lateCommit)).moment
    ¬ Capacity.backlog m.db m.clock "sink" ≤ 1 := by
  decide +kernel

end Timeline
end ControlPlane
