import ControlPlane.Model.Timeline
import ControlPlane.Transactions.Writes
import Mathlib.Data.Finset.Card

/-!
# The places of a backlog

`check_backlog` counts the proposals that have a place in the backlog of a destination. A
transaction changes the rows of one proposal at most (`Db.Touches`), so it takes or frees one
place at most, and time only frees places.
-/

namespace ControlPlane

open Framework

namespace Capacity

/-- The proposals that have a place in the backlog. -/
def places (db : Db) (now : Time) (name : String) : Finset Uuid :=
  ((db.jobRoutes.entries.filter fun route =>
    route.2 = name && occupies db now route.1).map (·.1)).toFinset

/-- A place is a request that is routed there and occupies it. -/
theorem mem_places {db : Db} {now : Time} {name : String} {id : Uuid} :
    id ∈ places db now name ↔
      db.jobRoutes.lookup id = some name ∧ occupies db now id = true := by
  unfold places
  rw [List.mem_toFinset, List.mem_map]
  constructor
  · rintro ⟨⟨id', name'⟩, h_row, rfl⟩
    obtain ⟨h_entry, h_place⟩ := List.mem_filter.mp h_row
    obtain ⟨h_name, h_occupies⟩ := Bool.and_eq_true_iff.mp h_place
    obtain rfl : name' = name := of_decide_eq_true h_name
    exact ⟨Table.mem_entries.mp h_entry, h_occupies⟩
  · rintro ⟨h_route, h_occupies⟩
    refine ⟨⟨id, name⟩, List.mem_filter.mpr ⟨Table.mem_entries.mpr h_route, ?_⟩, rfl⟩
    exact Bool.and_eq_true_iff.mpr ⟨decide_eq_true rfl, h_occupies⟩

/-- The backlog counts the places. -/
theorem card_places (db : Db) (now : Time) (name : String) :
    (places db now name).card = backlog db now name := by
  have h_nodup : ((db.jobRoutes.entries.filter fun route =>
      route.2 = name && occupies db now route.1).map (·.1)).Nodup :=
    db.jobRoutes.nodupKeys.sublist List.filter_sublist
  unfold places
  rw [List.toFinset_card_of_nodup h_nodup, List.length_map]
  rfl

/-- Fewer places, a smaller backlog. -/
theorem backlog_le {db db' : Db} {now now' : Time} {name : String}
    (h : places db' now' name ⊆ places db now name) :
    backlog db' now' name ≤ backlog db now name := by
  rw [← card_places, ← card_places]
  exact Finset.card_le_card h

/-- One place more, a backlog greater by one. -/
theorem backlog_le_succ {db db' : Db} {now now' : Time} {name : String} {key : Uuid}
    (h : places db' now' name ⊆ insert key (places db now name)) :
    backlog db' now' name ≤ backlog db now name + 1 := by
  rw [← card_places, ← card_places]
  exact (Finset.card_le_card h).trans (Finset.card_insert_le _ _)

/-- A job that is not over has a place. -/
def takesPlace (job : Job) : Bool :=
  job.status = .ready ∨ job.status = .retry ∨ job.status = .leased

/-- A request with a job occupies a place while the job does. -/
theorem occupies_of_job {db : Db} {id : Uuid} {job : Job}
    (h_proposal : (db.proposals.lookup id).isSome) (h_job : db.jobs.lookup id = some job)
    (now : Time) : occupies db now id = takesPlace job := by
  obtain ⟨proposal, h_proposal⟩ := Option.isSome_iff_exists.mp h_proposal
  unfold occupies
  rw [h_proposal, h_job]
  rfl

/-- A job that is due takes a place. -/
theorem takesPlace_of_due {now : Time} {job : Job} (h : Worker.due now job = true) :
    takesPlace job = true := by
  rcases of_decide_eq_true h with ⟨h_waits, -⟩ | ⟨h_leased, -⟩
  · exact decide_eq_true (h_waits.imp_right .inl)
  · exact decide_eq_true (.inr (.inr h_leased))

/-- Time takes no place. -/
theorem occupies_of_le {db : Db} {now now' : Time} {id : Uuid} (h_le : now ≤ now')
    (h : occupies db now' id = true) : occupies db now id = true := by
  unfold occupies at h ⊢
  split at h
  · cases h
  · split at h
    · exact h
    · exact decide_eq_true (h_le.trans_lt (of_decide_eq_true h))

/-- Time frees places only. -/
theorem places_of_le {db : Db} {now now' : Time} (h_le : now ≤ now') (name : String) :
    places db now' name ⊆ places db now name := by
  intro id h_id
  obtain ⟨h_route, h_occupies⟩ := mem_places.mp h_id
  exact mem_places.mpr ⟨h_route, occupies_of_le h_le h_occupies⟩

end Capacity

/-! ### What a transaction changes -/

namespace Db

/-- Of the proposals, their routes and their jobs only those under `key` differ. -/
structure Touches (key : Uuid) (db db' : Db) : Prop where
  supply : db'.supply = db.supply
  destinations : db'.destinations = db.destinations
  proposals : ∀ id, id ≠ key → db'.proposals.lookup id = db.proposals.lookup id
  routes : ∀ id, id ≠ key → db'.jobRoutes.lookup id = db.jobRoutes.lookup id
  jobs : ∀ id, id ≠ key → db'.jobs.lookup id = db.jobs.lookup id

variable {key : Uuid} {db db₁ db₂ : Db}

/-- Nothing has changed. -/
theorem Touches.refl : db.Touches key db :=
  ⟨rfl, rfl, fun _ _ => rfl, fun _ _ => rfl, fun _ _ => rfl⟩

/-- The same request is touched twice. -/
theorem Touches.trans (h₁ : db.Touches key db₁) (h₂ : db₁.Touches key db₂) :
    db.Touches key db₂ where
  supply := h₂.supply.trans h₁.supply
  destinations := h₂.destinations.trans h₁.destinations
  proposals id h_ne := (h₂.proposals id h_ne).trans (h₁.proposals id h_ne)
  routes id h_ne := (h₂.routes id h_ne).trans (h₁.routes id h_ne)
  jobs id h_ne := (h₂.jobs id h_ne).trans (h₁.jobs id h_ne)

/-- Another request occupies what it did. -/
theorem Touches.occupies (h : db.Touches key db₁) {id : Uuid} (h_ne : id ≠ key) (now : Time) :
    Capacity.occupies db₁ now id = Capacity.occupies db now id := by
  unfold Capacity.occupies
  rw [h.proposals id h_ne, h.jobs id h_ne]

/-- So at most one proposal takes a place. -/
theorem Touches.places (h : db.Touches key db₁) (now : Time) (name : String) :
    Capacity.places db₁ now name ⊆ insert key (Capacity.places db now name) := by
  intro id h_id
  rw [Finset.mem_insert]
  by_cases h_ne : id = key
  · exact .inl h_ne
  · obtain ⟨h_route, h_occupies⟩ := Capacity.mem_places.mp h_id
    rw [h.routes id h_ne] at h_route
    rw [h.occupies h_ne] at h_occupies
    exact .inr (Capacity.mem_places.mpr ⟨h_route, h_occupies⟩)

/-- And none does when the proposal that the transaction changes has one already. -/
theorem Touches.places_subset (h : db.Touches key db₁) {now : Time} {name : String}
    (h_key : key ∈ Capacity.places db₁ now name → key ∈ Capacity.places db now name) :
    Capacity.places db₁ now name ⊆ Capacity.places db now name := by
  intro id h_id
  rcases Finset.mem_insert.mp (h.places now name h_id) with rfl | h_old
  · exact h_key h_id
  · exact h_old

/-- The same work touches no request. -/
theorem SameWork.touches (h : db.SameWork db₁) (key : Uuid) : db.Touches key db₁ :=
  ⟨h.supply, h.destinations, fun id _ => congrArg (AList.lookup id) h.proposals,
    fun id _ => congrArg (AList.lookup id) h.routes, fun id _ => congrArg (AList.lookup id) h.jobs⟩

/-! ### The writes -/

/-- The update of a job touches its request. -/
theorem touches_updateJob (id : Uuid) (f : Job → Job) (db : Db) :
    db.Touches id (db.updateJob id f) := by
  unfold updateJob
  split
  · exact .refl
  · exact ⟨rfl, rfl, fun _ _ => rfl, fun _ _ => rfl,
      fun _ h_ne => Table.lookup_insert_of_ne _ _ h_ne⟩

/-- So does a proposal. -/
theorem touches_insertProposal (id : Uuid) (row : Proposal) (db : Db) :
    db.Touches id { db with proposals := db.proposals.insert id row } :=
  ⟨rfl, rfl, fun _ h_ne => Table.lookup_insert_of_ne _ _ h_ne, fun _ _ => rfl, fun _ _ => rfl⟩

/-- So does a job. -/
theorem touches_insertJob (id : Uuid) (row : Job) (db : Db) :
    db.Touches id { db with jobs := db.jobs.insert id row } :=
  ⟨rfl, rfl, fun _ _ => rfl, fun _ _ => rfl,
    fun _ h_ne => Table.lookup_insert_of_ne _ _ h_ne⟩

/-- So does a route. -/
theorem touches_bind (id : Uuid) (destination : Option String) (db : Db) :
    db.Touches id (Capacity.bind id destination db) := by
  cases destination with
  | none => exact .refl
  | some name =>
    exact ⟨rfl, rfl, fun _ _ => rfl, fun _ h_ne => Table.lookup_insert_of_ne _ _ h_ne,
      fun _ _ => rfl⟩

/-- `ON CONFLICT DO NOTHING`. -/
theorem ensured_job (id : Uuid) (row : Job) (db : Db) :
    ∃ jobs, (if (db.jobs.lookup id).isSome then db
        else { db with jobs := db.jobs.insert id row }) = { db with jobs := jobs } ∧
      jobs.lookup id = some ((db.jobs.lookup id).getD row) ∧
      ∀ id', id' ≠ id → jobs.lookup id' = db.jobs.lookup id' := by
  cases h_job : db.jobs.lookup id with
  | none =>
    refine ⟨db.jobs.insert id row, if_neg (by simp), Table.lookup_insert_self _ _ _, ?_⟩
    exact fun _ h_ne => Table.lookup_insert_of_ne _ _ h_ne
  | some job => exact ⟨db.jobs, if_pos rfl, h_job, fun _ _ => rfl⟩

end Db

end ControlPlane
