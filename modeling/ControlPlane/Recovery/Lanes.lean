import ControlPlane.Recovery.Compare

/-!
# One comparison for each destination

`destinationSnapshot` splits the jobs by their label and compares every lane with its own
ledger, where `compareReceipts` merges everything by key first. The lanes are all safe
exactly when the merged comparison is safe and the ledgers are apart: every receipt lies in
the lane of its job (`Placed`) and no key occurs in two ledgers (`Apart`).

The merged comparison alone accepts a receipt at the wrong destination: this is what the
split adds (the last part of `destinations_agree`).
-/

namespace ControlPlane

open Framework

section Lanes

variable {Doc Hash : Type} {jobs : List (LaneJob Doc Hash)}
  {readers : Table String (List (ReceiptView Doc Hash))}

/-! ### The ledgers -/

/-- A ledger for each reader. -/
theorem mem_ledgers {name : String} {receipts : List (ReceiptView Doc Hash)} :
    (⟨name, receipts⟩ : Sigma fun _ : String => List (ReceiptView Doc Hash)) ∈ ledgers readers ↔
      readers.lookup name = some receipts := by
  unfold ledgers
  rw [(List.perm_insertionSort _ _).mem_iff]
  exact Table.mem_entries

/-- The concatenation of all ledgers. -/
def allReceipts (readers : Table String (List (ReceiptView Doc Hash))) :
    List (ReceiptView Doc Hash) :=
  (ledgers readers).flatMap (·.2)

/-- A receipt of any reader. -/
theorem mem_allReceipts {receipt : ReceiptView Doc Hash} :
    receipt ∈ allReceipts readers ↔
      ∃ name receipts, readers.lookup name = some receipts ∧ receipt ∈ receipts := by
  unfold allReceipts
  rw [List.mem_flatMap]
  constructor
  · rintro ⟨⟨name, receipts⟩, h_ledger, h_receipt⟩
    exact ⟨name, receipts, mem_ledgers.mp h_ledger, h_receipt⟩
  · rintro ⟨name, receipts, h_ledger, h_receipt⟩
    exact ⟨⟨name, receipts⟩, mem_ledgers.mpr h_ledger, h_receipt⟩

/-- Every receipt lies in the lane of the job with its key. -/
def Placed (jobs : List (LaneJob Doc Hash))
    (readers : Table String (List (ReceiptView Doc Hash))) : Prop :=
  ∀ name receipts, readers.lookup name = some receipts → ∀ receipt ∈ receipts,
    ∃ job ∈ jobs, job.id = receipt.key ∧ job.destination = name

/-- No key occurs in two ledgers. -/
def Apart (readers : Table String (List (ReceiptView Doc Hash))) : Prop :=
  ∀ name receipts name' receipts', readers.lookup name = some receipts →
    readers.lookup name' = some receipts' → ∀ receipt ∈ receipts, ∀ receipt' ∈ receipts',
      receipt.key = receipt'.key → name = name'

/-- Ledgers that are apart concatenate without a key twice. -/
theorem Apart.nodup (h : Apart readers)
    (h_keys : ∀ name receipts, readers.lookup name = some receipts →
      (receipts.map ReceiptView.key).Nodup) :
    ((allReceipts readers).map ReceiptView.key).Nodup := by
  unfold allReceipts
  rw [List.map_flatMap, List.nodup_flatMap]
  refine ⟨fun ledger h_ledger => h_keys _ _ (mem_ledgers.mp h_ledger), ?_⟩
  have h_names : (ledgers readers).Pairwise fun a b => a.1 ≠ b.1 := by
    have h_nodup : ((ledgers readers).map (·.1)).Nodup :=
      ((List.perm_insertionSort _ readers.entries).map _).nodup_iff.mpr readers.nodupKeys
    exact List.pairwise_map.mp h_nodup
  refine h_names.imp_of_mem fun {a b} h_a h_b h_ne => ?_
  intro key h_left h_right
  obtain ⟨receipt, h_receipt, rfl⟩ := List.mem_map.mp h_left
  obtain ⟨receipt', h_receipt', h_key⟩ := List.mem_map.mp h_right
  exact h_ne (h _ _ _ _ (mem_ledgers.mp h_a) (mem_ledgers.mp h_b) _ h_receipt _ h_receipt'
    h_key.symm)

/-! ### The lanes -/

/-- The jobs of one lane. -/
def laneOf (jobs : List (LaneJob Doc Hash)) (name : String) : List (JobView Doc Hash) :=
  (jobs.filter fun job => job.destination = name).map LaneJob.toJobView

/-- The jobs of a lane. -/
theorem mem_laneOf {name : String} {view : JobView Doc Hash} :
    view ∈ laneOf jobs name ↔
      ∃ job ∈ jobs, job.destination = name ∧ job.toJobView = view := by
  unfold laneOf
  simp only [List.mem_map, List.mem_filter, decide_eq_true_eq, and_assoc]

/-- No job comes twice in a lane. -/
theorem nodup_laneOf (h_ids : (jobs.map (·.id)).Nodup) (name : String) :
    ((laneOf jobs name).map JobView.id).Nodup := by
  unfold laneOf
  rw [List.map_map]
  exact h_ids.sublist (List.filter_sublist.map _)

/-- No job comes twice in all. -/
theorem nodup_views (h_ids : (jobs.map (·.id)).Nodup) :
    ((jobs.map LaneJob.toJobView).map JobView.id).Nodup := by
  rw [List.map_map]
  exact h_ids

variable [DecidableEq Hash] {digest : Doc → Hash} {isEmpty : Doc → Bool}

/-- Every lane is accounted for. -/
def Lanes (digest : Doc → Hash) (isEmpty : Doc → Bool) (jobs : List (LaneJob Doc Hash))
    (readers : Table String (List (ReceiptView Doc Hash))) : Prop :=
  ∀ name receipts, readers.lookup name = some receipts →
    Comparable digest isEmpty (laneOf jobs name) receipts

/-- All lanes are safe if every job agrees with the ledger of its lane. -/
theorem compareLanes_iff (h_ids : (jobs.map (·.id)).Nodup)
    (h_keys : ∀ name receipts, readers.lookup name = some receipts →
      (receipts.map ReceiptView.key).Nodup) :
    ((compareLanes digest isEmpty jobs readers).all fun lane => lane.2.safeToResume) = true ↔
      Lanes digest isEmpty jobs readers := by
  unfold compareLanes
  rw [List.all_map, List.all_eq_true]
  constructor
  · intro h name receipts h_ledger
    exact (compare_iff (nodup_laneOf h_ids name) (h_keys name receipts h_ledger)).mp
      (h _ (mem_ledgers.mpr h_ledger))
  · intro h ledger h_ledger
    have h_lookup := mem_ledgers.mp h_ledger
    exact (compare_iff (nodup_laneOf h_ids ledger.1) (h_keys _ _ h_lookup)).mpr
      (h _ _ h_lookup)

omit [DecidableEq Hash] in
/-- The job of a receipt is in the lane that accepts it. -/
theorem Lanes.placed (h : Lanes digest isEmpty jobs readers) : Placed jobs readers := by
  intro name receipts h_ledger receipt h_receipt
  obtain ⟨view, h_view, h_id, -⟩ := (h name receipts h_ledger).intent receipt h_receipt
  obtain ⟨job, h_job, h_name, rfl⟩ := mem_laneOf.mp h_view
  exact ⟨job, h_job, h_id, h_name⟩

omit [DecidableEq Hash] in
/-- A job has one label, so receipts that lie in the lane of their job are apart. -/
theorem Placed.apart (h : Placed jobs readers) (h_ids : (jobs.map (·.id)).Nodup) :
    Apart readers := by
  intro name receipts name' receipts' h_ledger h_ledger' receipt h_receipt receipt' h_receipt'
    h_key
  obtain ⟨job, h_job, h_id, rfl⟩ := h name receipts h_ledger receipt h_receipt
  obtain ⟨job', h_job', h_id', rfl⟩ := h name' receipts' h_ledger' receipt' h_receipt'
  have h_same : job = job' :=
    List.inj_on_of_nodup_map h_ids h_job h_job' (h_id.trans (h_key.trans h_id'.symm))
  rw [h_same]

omit [DecidableEq Hash] in
/-- What the lanes account for, the merged comparison accounts for. -/
theorem Lanes.merged (h : Lanes digest isEmpty jobs readers)
    (h_labels : ∀ job ∈ jobs, ∃ receipts, readers.lookup job.destination = some receipts) :
    Comparable digest isEmpty (jobs.map LaneJob.toJobView) (allReceipts readers) := by
  refine
    { body := fun receipt h_receipt => ?_
      intent := fun receipt h_receipt => ?_
      acknowledged := fun view h_view h_status => ?_ }
  · obtain ⟨name, receipts, h_ledger, h_mem⟩ := mem_allReceipts.mp h_receipt
    exact (h name receipts h_ledger).body receipt h_mem
  · obtain ⟨name, receipts, h_ledger, h_mem⟩ := mem_allReceipts.mp h_receipt
    obtain ⟨view, h_view, h_rest⟩ := (h name receipts h_ledger).intent receipt h_mem
    obtain ⟨job, h_job, -, rfl⟩ := mem_laneOf.mp h_view
    exact ⟨_, List.mem_map_of_mem h_job, h_rest⟩
  · obtain ⟨job, h_job, rfl⟩ := List.mem_map.mp h_view
    -- the job is in the lane of its label
    obtain ⟨receipts, h_ledger⟩ := h_labels job h_job
    obtain ⟨receipt, h_receipt, h_key⟩ := (h _ receipts h_ledger).acknowledged job.toJobView
      (mem_laneOf.mpr ⟨job, h_job, rfl, rfl⟩) h_status
    exact ⟨receipt, mem_allReceipts.mpr ⟨_, receipts, h_ledger, h_receipt⟩, h_key⟩

omit [DecidableEq Hash] in
/-- Receipts that lie in the lane of their job can be split by lane. -/
theorem Comparable.lanes
    (h : Comparable digest isEmpty (jobs.map LaneJob.toJobView) (allReceipts readers))
    (h_placed : Placed jobs readers) (h_ids : (jobs.map (·.id)).Nodup) :
    Lanes digest isEmpty jobs readers := by
  -- two jobs with one id are one job
  have h_unique : ∀ job ∈ jobs, ∀ job' ∈ jobs, job.id = job'.id → job = job' :=
    fun job h_job job' h_job' => List.inj_on_of_nodup_map h_ids h_job h_job'
  intro name receipts h_ledger
  refine
    { body := fun receipt h_receipt =>
        h.body receipt (mem_allReceipts.mpr ⟨name, receipts, h_ledger, h_receipt⟩)
      intent := fun receipt h_receipt => ?_
      acknowledged := fun view h_view h_status => ?_ }
  · obtain ⟨view, h_view, h_id, h_rest⟩ :=
      h.intent receipt (mem_allReceipts.mpr ⟨name, receipts, h_ledger, h_receipt⟩)
    obtain ⟨job, h_job, rfl⟩ := List.mem_map.mp h_view
    obtain ⟨owner, h_owner, h_key, rfl⟩ := h_placed name receipts h_ledger receipt h_receipt
    obtain rfl : owner = job := h_unique owner h_owner job h_job (h_key.trans h_id.symm)
    exact ⟨_, mem_laneOf.mpr ⟨owner, h_owner, rfl, rfl⟩, h_id, h_rest⟩
  · obtain ⟨job, h_job, rfl, rfl⟩ := mem_laneOf.mp h_view
    obtain ⟨receipt, h_receipt, h_key⟩ :=
      h.acknowledged job.toJobView (List.mem_map_of_mem h_job) h_status
    obtain ⟨other, receipts', h_ledger', h_mem⟩ := mem_allReceipts.mp h_receipt
    -- the receipt lies in the lane of this very job
    obtain ⟨owner, h_owner, h_id, rfl⟩ := h_placed other receipts' h_ledger' receipt h_mem
    obtain rfl : owner = job := h_unique owner h_owner job h_job (h_id.trans h_key)
    rw [h_ledger] at h_ledger'
    obtain rfl := Option.some.inj h_ledger'
    exact ⟨receipt, h_mem, h_key⟩

/-- The lanes are all safe exactly when the merged comparison is and the ledgers are apart. -/
theorem lanes_iff (h_ids : (jobs.map (·.id)).Nodup)
    (h_labels : ∀ job ∈ jobs, ∃ receipts, readers.lookup job.destination = some receipts)
    (h_keys : ∀ name receipts, readers.lookup name = some receipts →
      (receipts.map ReceiptView.key).Nodup) :
    Lanes digest isEmpty jobs readers ↔
      (compareReceipts digest isEmpty (jobs.map LaneJob.toJobView)
        (allReceipts readers)).safeToResume = true ∧ Placed jobs readers ∧ Apart readers := by
  constructor
  · intro h
    have h_apart := h.placed.apart h_ids
    exact ⟨(compare_iff (nodup_views h_ids) (h_apart.nodup h_keys)).mpr (h.merged h_labels),
      h.placed, h_apart⟩
  · rintro ⟨h_safe, h_placed, h_apart⟩
    exact ((compare_iff (nodup_views h_ids) (h_apart.nodup h_keys)).mp h_safe).lanes h_placed
      h_ids

/-! ### The verdict -/

omit [DecidableEq Hash] in
/-- Every lane in scope has its reader. -/
theorem mem_scope {registered : List String}
    (h_scope : readers.keys.toFinset = (legacyLane :: registered).toFinset) {name : String}
    (h : name = legacyLane ∨ name ∈ registered) :
    ∃ receipts, readers.lookup name = some receipts := by
  have h_name : name ∈ readers.keys.toFinset := by
    rw [h_scope, List.mem_toFinset, List.mem_cons]
    exact h
  rw [List.mem_toFinset, ← AList.mem_keys, ← AList.lookup_isSome] at h_name
  exact Option.isSome_iff_exists.mp h_name

/-- **The split comparison and the merged one agree.** Over exactly the configured readers
all lanes are safe if and only if the merged comparison is, every receipt lies in the lane of
its job and no key occurs twice; a receipt at another destination than its job's is never
safe. -/
theorem destinations_agree {registered : List String}
    (h_scope : readers.keys.toFinset = (legacyLane :: registered).toFinset)
    (h_ids : (jobs.map (·.id)).Nodup)
    (h_labels : ∀ job ∈ jobs, job.destination = legacyLane ∨ job.destination ∈ registered)
    (h_keys : ∀ name receipts, readers.lookup name = some receipts →
      (receipts.map ReceiptView.key).Nodup) :
    ∃ report,
      Recovery.destinationSnapshot digest isEmpty registered jobs readers = .ok report ∧
      (report.safeToResume = true ↔
        (compareReceipts digest isEmpty (jobs.map LaneJob.toJobView)
          (allReceipts readers)).safeToResume = true ∧ Placed jobs readers ∧ Apart readers) ∧
      ∀ name receipts, readers.lookup name = some receipts → ∀ receipt ∈ receipts,
        ∀ job ∈ jobs, job.id = receipt.key → job.destination ≠ name →
          report.safeToResume = false := by
  have h_lanes : _ ↔ Lanes digest isEmpty jobs readers := compareLanes_iff h_ids h_keys
  refine ⟨_, if_neg (not_not.mpr h_scope), ?_, ?_⟩
  · exact h_lanes.trans (lanes_iff h_ids (fun job h_job => mem_scope h_scope (h_labels job h_job))
      h_keys)
  · intro name receipts h_ledger receipt h_receipt job h_job h_id h_ne
    rw [← Bool.not_eq_true]
    intro h_safe
    -- a safe lane holds the job of each of its receipts, and this job is elsewhere
    obtain ⟨owner, h_owner, h_key, h_name⟩ :=
      (h_lanes.mp h_safe).placed name receipts h_ledger receipt h_receipt
    obtain rfl : owner = job :=
      List.inj_on_of_nodup_map h_ids h_owner h_job (h_key.trans h_id.symm)
    exact h_ne h_name

end Lanes

/-- Two jobs of two lanes with one receipt each. -/
theorem destinations_agree_two :
    let mutation : Mutation := ⟨0, .syncProfile, 1, .profile FieldMap.empty⟩
    let jobs : List (LaneJob Mutation (Digest Mutation)) :=
      [⟨⟨0, .succeeded, some mutation, false, some ⟨none, some 7, none, none⟩⟩, "crm"⟩,
        ⟨⟨1, .retry, some mutation, true, none⟩, legacyLane⟩]
    let readers : Table String (List (ReceiptView Mutation (Digest Mutation))) :=
      ((∅ : Table String _).insert legacyLane [⟨1, digest mutation, some mutation, 8⟩]).insert
        "crm" [⟨0, digest mutation, some mutation, 7⟩]
    ∃ report,
      Recovery.destinationSnapshot digest (fun _ => false) ["crm"] jobs readers = .ok report ∧
      (report.safeToResume = true ↔
        (compareReceipts digest (fun _ => false) (jobs.map LaneJob.toJobView)
          (allReceipts readers)).safeToResume = true ∧ Placed jobs readers ∧ Apart readers) ∧
      ∀ name receipts, readers.lookup name = some receipts → ∀ receipt ∈ receipts,
        ∀ job ∈ jobs, job.id = receipt.key → job.destination ≠ name →
          report.safeToResume = false := by
  intro mutation jobs readers
  refine destinations_agree (by decide) (by decide) (by decide) fun name receipts h_ledger => ?_
  rw [Table.lookup_insert] at h_ledger
  split at h_ledger
  · obtain rfl := Option.some.inj h_ledger
    decide
  rw [Table.lookup_insert] at h_ledger
  split at h_ledger
  · obtain rfl := Option.some.inj h_ledger
    decide
  · cases h_ledger

/-! ### The snapshot of the database -/

/-- The jobs of the lanes are those of the merged comparison. -/
theorem map_laneJobs (db : Db) :
    (Recovery.laneJobs db).map LaneJob.toJobView = Recovery.jobViews db := by
  unfold Recovery.laneJobs
  rw [List.map_map]
  exact List.map_id _

/-- Where the routes lead to registered destinations, every job has a configured lane. -/
theorem laneJobs_label {db : Db}
    (h_routes : ∀ id name, db.jobRoutes.lookup id = some name →
      (db.destinations.lookup name).isSome) :
    ∀ job ∈ Recovery.laneJobs db, job.destination = legacyLane ∨
      job.destination ∈ db.destinations.entries.map (·.1) := by
  intro job h_job
  obtain ⟨view, -, rfl⟩ := List.mem_map.mp h_job
  cases h_route : db.jobRoutes.lookup view.id with
  | none => exact .inl rfl
  | some name =>
    obtain ⟨row, h_row⟩ := Option.isSome_iff_exists.mp (h_routes _ _ h_route)
    exact .inr <| List.mem_map.mpr ⟨⟨name, row⟩, Table.mem_entries.mpr h_row, rfl⟩

/-- A safe snapshot of all destinations implies the safe comparison of the same jobs with all
receipts together. -/
theorem compareDestinations_merged {db : Db}
    {readers : Table String (List (ReceiptView Mutation (Digest Mutation)))}
    {report : Recovery.DestinationReport Mutation (Digest Mutation)}
    (h : Recovery.compareDestinations db readers = .ok report)
    (h_routes : ∀ id name, db.jobRoutes.lookup id = some name →
      (db.destinations.lookup name).isSome)
    (h_keys : ∀ name receipts, readers.lookup name = some receipts →
      (receipts.map ReceiptView.key).Nodup)
    (h_safe : report.safeToResume = true) :
    (Recovery.compareJobs db (allReceipts readers)).safeToResume = true := by
  have h_ids : ((Recovery.laneJobs db).map (·.id)).Nodup := by
    have h_views := nodup_jobViews db
    rw [← map_laneJobs, List.map_map] at h_views
    exact h_views
  unfold Recovery.compareDestinations Recovery.destinationSnapshot at h
  split at h
  · cases h
  rename_i h_scope
  cases h
  have h_lanes := (compareLanes_iff h_ids h_keys).mp h_safe
  have h_all := (lanes_iff h_ids (fun job h_job => mem_scope (not_not.mp h_scope)
    (laneJobs_label h_routes job h_job)) h_keys).mp h_lanes
  unfold Recovery.compareJobs
  rw [← map_laneJobs]
  exact h_all.1

end ControlPlane
