import ControlPlane.Cloud.Archive
import ControlPlane.Model.Watchdog

/-!
# What the registry keeps

A call of `register` or `remember` writes only over the version that it has read, a pass of the
watchdog over any version. So what a call has written between the read and the write of a pass is
lost (`lostUpdate`). In a run in which a pass writes only over the version it has read, all rows
stay, and a secret that is recorded as managed stays so; and if the passes know the owner secrets,
they do not take one for unmanaged, and delete none (`registry_grows`).
-/

namespace ControlPlane.Watchdog

open Framework Registry

/-! ### Tables of rows -/

/-- The row of a secret says that it is managed. -/
def SaysManaged (fields : Fields) : Prop := fields.lookup "managed" = some (.bool true)

/-- Nothing is lost from the first table: its rows are in the second, and a managed secret is
managed there. -/
def Covers (merged merged' : Registry.Rows) : Prop :=
  ∀ key fields, merged.lookup key = some fields → ∃ fields', merged'.lookup key = some fields' ∧
    (key.1 = "secret" → SaysManaged fields → SaysManaged fields')

/-- A row that takes no managed secret back. -/
def Harmless (merged : Registry.Rows) (row : Entry) : Prop :=
  row.kind = "secret" → ∀ fields, merged.lookup (row.kind, row.id) = some fields →
    SaysManaged fields → SaysManaged row.fields

variable {merged merged' : Registry.Rows} {row : Entry}

/-- Putting a row that does no harm keeps what is covered. -/
theorem covers_put (h : Covers merged merged') (h_row : Harmless merged row) :
    Covers merged (put merged' row) := by
  intro key fields h_fields
  rw [put, Table.lookup_insert]
  split
  next h_key =>
    subst h_key
    exact ⟨row.fields, rfl, fun h_kind => h_row h_kind fields h_fields⟩
  next => exact h key fields h_fields

/-- So does putting rows one after the other. -/
theorem covers_foldl {rows : List Entry} (h : Covers merged merged')
    (h_rows : ∀ row ∈ rows, Harmless merged row) : Covers merged (rows.foldl put merged') := by
  induction rows generalizing merged' with
  | nil => exact h
  | cons row rows ih =>
    obtain ⟨h_row, h_rest⟩ := List.forall_mem_cons.mp h_rows
    exact ih (covers_put h h_row) h_rest

/-- Registering a row that is no secret keeps what is covered. -/
theorem covers_registerRow {merged'' : Registry.Rows} (h : Covers merged merged')
    (h_kind : row.kind ≠ "secret")
    (h_row : registerRow merged' row = some merged'') : Covers merged merged'' := by
  unfold registerRow at h_row
  split at h_row
  next =>
    obtain rfl := Option.some.inj h_row
    exact covers_put h fun h_secret => absurd h_secret h_kind
  next previous _ =>
    split at h_row
    next => cases h_row
    next =>
      obtain rfl := Option.some.inj h_row
      have h_kept : Covers merged (put merged' ⟨row.kind, row.id, overwrite previous row.fields⟩) :=
        covers_put h fun h_secret => absurd h_secret h_kind
      exact h_kept

/-- So does registering all of them. -/
theorem covers_register {rows : List Entry} {merged'' : Registry.Rows} (h : Covers merged merged')
    (h_kinds : ∀ row ∈ rows, row.kind ≠ "secret")
    (h_rows : rows.foldlM registerRow merged' = some merged'') : Covers merged merged'' := by
  induction rows generalizing merged' with
  | nil =>
    obtain rfl := Option.some.inj h_rows
    exact h
  | cons row rows ih =>
    obtain ⟨h_kind, h_rest⟩ := List.forall_mem_cons.mp h_kinds
    rw [List.foldlM_cons] at h_rows
    obtain ⟨next, h_row, h_rows⟩ := Option.bind_eq_some_iff.mp h_rows
    exact ih (covers_registerRow h h_kind h_row) h_rest h_rows

/-- A row is in the values if its fields are under its key. -/
theorem mem_values : row ∈ values merged ↔ merged.lookup (row.kind, row.id) = some row.fields := by
  rw [← Table.mem_entries, values, List.mem_map]
  constructor
  · rintro ⟨⟨⟨kind, id⟩, fields⟩, h_mem, rfl⟩
    exact h_mem
  · exact fun h_mem => ⟨_, h_mem, rfl⟩

/-- Reading back the rows that were written gives the same table. -/
theorem lookup_keyed_values (key : String × String) :
    (keyed (values merged)).lookup key = merged.lookup key := by
  suffices h : ∀ (entries : List (Sigma fun _ : String × String => Fields)) (read : Registry.Rows),
      entries.NodupKeys → ((entries.map fun entry =>
        (⟨entry.1.1, entry.1.2, entry.2⟩ : Entry)).foldl
        put read).lookup key = (entries.dlookup key).or (read.lookup key) by
    refine (h merged.entries ∅ merged.nodupKeys).trans ?_
    rw [AList.lookup_empty, Option.or_none]
    rfl
  intro entries
  induction entries with
  | nil => exact fun _ _ => rfl
  | cons entry entries ih =>
    intro read h_nodup
    obtain ⟨h_new, h_rest⟩ := List.nodupKeys_cons.mp h_nodup
    rw [List.map_cons, List.foldl_cons, ih _ h_rest, put, Table.lookup_insert]
    by_cases h_key : key = entry.1
    · subst h_key
      rw [List.dlookup_eq_none.mpr h_new, List.dlookup_cons_eq, if_pos rfl]
      rfl
    · rw [if_neg h_key, List.dlookup_cons_ne _ _ h_key]

/-- Reading the values back loses nothing. -/
theorem covers_keyed_values : Covers merged (keyed (values merged)) := fun key fields h_fields =>
  ⟨fields, (lookup_keyed_values key).trans h_fields, fun _ h_managed => h_managed⟩

/-! ### The rows of a version -/

/-- There is a row for the resource. -/
def Recorded (rows : List Entry) (kind id : String) : Prop :=
  ∃ row ∈ rows, row.kind = kind ∧ row.id = id

/-- The secret is recorded as managed. -/
def Managed (rows : List Entry) (secret : String) : Prop :=
  ∃ row ∈ rows, isManaged row = true ∧ row.id = secret

/-- A resource is recorded if there is something under its key. -/
theorem recorded_values {kind id : String} :
    Recorded (values merged) kind id ↔ ∃ fields, merged.lookup (kind, id) = some fields := by
  constructor
  · rintro ⟨row, h_row, rfl, rfl⟩
    exact ⟨row.fields, mem_values.mp h_row⟩
  · exact fun ⟨fields, h_fields⟩ => ⟨⟨kind, id, fields⟩, mem_values.mpr h_fields, rfl, rfl⟩

/-- A secret is managed if the fields under its key say so. -/
theorem managed_values {secret : String} : Managed (values merged) secret ↔
    ∃ fields, merged.lookup ("secret", secret) = some fields ∧ SaysManaged fields := by
  constructor
  · rintro ⟨row, h_row, h_managed, rfl⟩
    obtain ⟨h_kind, h_said⟩ := (Bool.and_eq_true _ _).mp h_managed
    rw [mem_values, of_decide_eq_true h_kind] at h_row
    have h_get : row.get "managed" = some (.bool true) := of_decide_eq_true h_said
    exact ⟨row.fields, h_row, h_get⟩
  · rintro ⟨fields, h_fields, h_said⟩
    refine ⟨⟨"secret", secret, fields⟩, mem_values.mpr h_fields, ?_, rfl⟩
    have h_get : (⟨"secret", secret, fields⟩ : Entry).get "managed" = some (.bool true) := h_said
    exact (Bool.and_eq_true _ _).mpr ⟨rfl, decide_eq_true h_get⟩

/-- All rows stay, and managed secrets stay managed. -/
structure Kept (rows rows' : List Entry) : Prop where
  recorded (kind id : String) (h : Recorded rows kind id) : Recorded rows' kind id
  managed (secret : String) (h : Managed rows secret) : Managed rows' secret

/-- What is covered is kept in the values. -/
theorem Covers.kept (h : Covers merged merged') : Kept (values merged) (values merged') where
  recorded kind id h_recorded := by
    obtain ⟨fields, h_fields⟩ := recorded_values.mp h_recorded
    obtain ⟨fields', h_fields', -⟩ := h (kind, id) fields h_fields
    exact recorded_values.mpr ⟨fields', h_fields'⟩
  managed secret h_managed := by
    obtain ⟨fields, h_fields, h_said⟩ := managed_values.mp h_managed
    obtain ⟨fields', h_fields', h_keeps⟩ := h ("secret", secret) fields h_fields
    exact managed_values.mpr ⟨fields', h_fields', h_keeps rfl h_said⟩

/-! ### The inventory -/

/-- The row of a secret in the inventory says whether it is among the owner secrets. -/
theorem eq_secretRow {known : List Entry} {seen : Seen} (h : row ∈ collect known seen)
    (h_kind : row.kind = "secret") :
    ∃ deleted, row = secretRow (ownerSecrets known seen.before) row.id deleted := by
  simp only [collect, List.mem_append] at h
  rcases h with ((h | h) | h) | h
  · exact absurd h_kind (seen.noSecret row (List.mem_append_left _ h))
  · obtain ⟨secret, -, rfl⟩ := List.mem_map.mp h
    exact ⟨secret.deleted, rfl⟩
  · obtain ⟨arn, -, h⟩ := List.mem_filterMap.mp h
    obtain ⟨deleted, -, rfl⟩ := Option.map_eq_some_iff.mp h
    exact ⟨deleted, rfl⟩
  · exact absurd h_kind (seen.noSecret row (List.mem_append_right _ h))

/-- So an owner secret is not taken for unmanaged. -/
theorem says_of_owner {known : List Entry} {seen : Seen} (h : row ∈ collect known seen)
    (h_kind : row.kind = "secret") (h_owner : row.id ∈ ownerSecrets known seen.before) :
    SaysManaged row.fields := by
  obtain ⟨deleted, h_row⟩ := eq_secretRow h h_kind
  rw [h_row]
  show some (Json.bool ((ownerSecrets known seen.before).contains row.id)) = some (.bool true)
  rw [List.contains_iff_mem.mpr h_owner]

/-- A managed secret is one of the owner secrets. -/
theorem owner_of_managed {known rows : List Entry} {secret : String} (h : Managed known secret) :
    secret ∈ ownerSecrets known rows := by
  obtain ⟨row, h_row, h_managed, rfl⟩ := h
  exact List.mem_append_right _ (List.mem_map_of_mem (List.mem_filter.mpr ⟨h_row, h_managed⟩))

/-- A row that is collected from the values does no harm to them. -/
theorem harmless_collect {seen : Seen} (h : row ∈ collect (values merged) seen) :
    Harmless merged row := by
  intro h_kind fields h_fields h_said
  refine says_of_owner h h_kind (owner_of_managed (managed_values.mpr ⟨fields, ?_, h_said⟩))
  rwa [← h_kind]

/-! ### One step -/

/-- Rows that were read of the version: while it is the current one, they are its rows. -/
def Snapshot (s : State) (eTag : Option ℕ) (rows : List Entry) : Prop :=
  (∀ version, eTag = some version → version ≤ s.versions) ∧ (eTag = s.eTag → rows = s.rows)

/-- What holds of every state. -/
structure Versioned (s : State) : Prop where
  table : ∃ merged, s.rows = values merged
  bound (version : ℕ) (h : s.eTag = some version) : version ≤ s.versions
  calls (call : ℕ) (read : Object) (h : s.calls call = some read) :
    Snapshot s (some read.eTag) read.rows
  passes (pass : ℕ) (p : Pass) (h : s.passes pass = some p) : Snapshot s p.eTag p.known ∧
    ∀ rows, p.stage = .discovered rows → ∃ seen, rows = collect p.known seen

/-- What was read stays a version of the past. -/
theorem Snapshot.write {s : State} {eTag : Option ℕ} {rows : List Entry} (h : Snapshot s eTag rows)
    (written : List Entry) : Snapshot (s.write written) eTag rows := by
  refine ⟨fun version h_version => (h.1 version h_version).trans (Nat.le_succ _), fun h_same => ?_⟩
  exact absurd (h.1 _ h_same) (Nat.not_succ_le_self _)

/-- One more version is written. -/
theorem Versioned.write {s : State} (h : Versioned s) (merged : Registry.Rows) :
    Versioned (s.write (values merged)) where
  table := ⟨merged, rfl⟩
  bound _ h_version := (Option.some.inj h_version).ge
  calls call read h_read := (h.calls call read h_read).write _
  passes pass p h_p := ⟨(h.passes pass p h_p).1.write _, (h.passes pass p h_p).2⟩

/-- So it is with a conditional write, whether it goes through or not. -/
theorem Versioned.writeIfMatch {s : State} (h : Versioned s) (read : Object)
    (merged : Registry.Rows) :
    Versioned (s.writeIfMatch read (values merged)) := by
  unfold State.writeIfMatch
  split
  · exact h.write merged
  · exact h

/-- A pass goes on with what it has read and collected. -/
theorem Versioned.setPass {s : State} (h : Versioned s) {pass : ℕ} {value : Option Pass}
    (h_value : ∀ p, value = some p → Snapshot s p.eTag p.known ∧
      ∀ rows, p.stage = .discovered rows → ∃ seen, rows = collect p.known seen) :
    Versioned (s.setPass pass value) where
  table := h.table
  bound := h.bound
  calls := h.calls
  passes other p h_p := by
    have h_update : Function.update s.passes pass value other = some p := h_p
    by_cases h_eq : other = pass
    · subst h_eq
      rw [Function.update_self] at h_update
      exact h_value p h_update
    · rw [Function.update_of_ne h_eq] at h_update
      exact h.passes other p h_update

/-- The newest version is a snapshot. -/
theorem snapshot_now {s : State} (h : Versioned s) : Snapshot s s.eTag s.rows :=
  ⟨h.bound, fun _ => rfl⟩

/-- In the beginning there is the empty registry. -/
theorem versioned_initial : Versioned initial :=
  ⟨⟨∅, rfl⟩, nofun, nofun, nofun⟩

/-- Every step keeps the versions. -/
theorem versioned_step (s : State) (a : Action) (h : Versioned s) : Versioned (step s a) := by
  cases a with
  | initializeRegistry =>
    show Versioned (if s.object.isNone then s.write [] else s)
    split
    · exact h.write ∅
    · exact h
  | readRegistry call =>
    refine ⟨h.table, h.bound, fun other read h_read => ?_, h.passes⟩
    by_cases h_eq : other = call
    · subst h_eq
      have h_object : s.object = some read := by simpa [step] using h_read
      have h_now := snapshot_now h
      rwa [State.eTag, State.rows, h_object] at h_now
    · exact h.calls other read (by simpa [step, Function.update_of_ne h_eq] using h_read)
  | remember call secret resource =>
    show Versioned (remember s secret resource (s.calls call))
    cases s.calls call with
    | none => exact h
    | some read => exact h.writeIfMatch read _
  | register call source remote backupArn =>
    show Versioned (register s source remote backupArn (s.calls call))
    cases s.calls call with
    | none => exact h
    | some read =>
      simp only [register]
      split
      · exact h
      · exact h.writeIfMatch read _
  | startPass pass =>
    refine h.setPass fun p h_p => ?_
    obtain rfl := Option.some.inj h_p
    exact ⟨snapshot_now h, nofun⟩
  | discover pass seen =>
    show Versioned (discover s pass seen (s.passes pass))
    unfold discover
    split
    next eTag known h_pass =>
      refine h.setPass fun p h_p => ?_
      obtain rfl := Option.some.inj h_p
      refine ⟨(h.passes pass _ h_pass).1, fun rows h_rows => ⟨seen, ?_⟩⟩
      exact (Stage.discovered.inj h_rows).symm
    next => exact h
  | record pass =>
    show Versioned (record s pass (s.passes pass))
    unfold record
    split
    next eTag known rows h_pass =>
      refine (h.write _).setPass fun p h_p => ?_
      obtain rfl := Option.some.inj h_p
      exact ⟨(h.passes pass _ h_pass).1.write _, nofun⟩
    next => exact h
  | clean pass seen =>
    show Versioned (clean s pass (s.passes pass))
    unfold clean
    split
    · exact h.setPass nofun
    · exact h

/-- So does every run. -/
theorem versioned_run (as : List Action) : Versioned (run step initial as) :=
  run_invariant versioned_initial versioned_step as

/-! ### The condition -/

/-- The pass knows the owner secrets: what is recorded as managed by now was recorded so in the
version it has read, or is the owner secret of a database that is recorded there or listed. -/
def KnowsOwners (s : State) (known : List Entry) (seen : Seen) : Prop :=
  ∀ secret, Managed s.rows secret → secret ∈ ownerSecrets known seen.before

/-- A pass writes only over the version it has read, and knows the owner secrets. -/
def Current (s : State) : Action → Prop
  | .discover pass seen => ∀ eTag known, s.passes pass = some ⟨eTag, known, .read⟩ →
    KnowsOwners s known seen
  | .record pass => ∀ eTag known rows, s.passes pass = some ⟨eTag, known, .discovered rows⟩ →
    eTag = s.eTag
  | .clean pass seen => ∀ eTag known, s.passes pass = some ⟨eTag, known, .recorded⟩ →
    KnowsOwners s known seen
  | _ => True

/-- Nothing is lost. -/
theorem Kept.refl (rows : List Entry) : Kept rows rows := ⟨fun _ _ h => h, fun _ h => h⟩

/-- A conditional write loses nothing: it goes through only on the version that it has read. -/
theorem kept_writeIfMatch {s : State} {read : Object} {merged : Registry.Rows}
    (h_versioned : Versioned s)
    (h_read : Snapshot s (some read.eTag) read.rows)
    (h : ∀ before, read.rows = values before → Covers before merged) :
    Kept s.rows (s.writeIfMatch read (values merged)).rows := by
  unfold State.writeIfMatch
  split
  next h_eTag =>
    obtain ⟨before, h_before⟩ := h_versioned.table
    have h_rows := (h_read.2 h_eTag.symm).trans h_before
    rw [h_before]
    exact (h before h_rows).kept
  next => exact Kept.refl s.rows

/-- Databases and a backup are registered, no secrets. -/
theorem registerRows_kind {source remote : Instance} {backupArn : String} :
    ∀ row ∈ registerRows source remote backupArn, row.kind ≠ "secret" := by
  simp [registerRows]

/-- **What one step keeps**, if it meets the condition. -/
theorem kept_step {s : State} {a : Action} (h : Versioned s) (h_current : Current s a) :
    Kept s.rows (step s a).rows := by
  cases a with
  | initializeRegistry =>
    show Kept s.rows (if s.object.isNone then s.write [] else s).rows
    split
    next h_none =>
      have h_rows : s.rows = [] := by rw [State.rows, Option.isNone_iff_eq_none.mp h_none]; rfl
      rw [h_rows]
      exact Kept.refl []
    next => exact Kept.refl s.rows
  | readRegistry | startPass => exact Kept.refl s.rows
  | remember call secret resource =>
    show Kept s.rows (remember s secret resource (s.calls call)).rows
    cases h_read : s.calls call with
    | none => exact Kept.refl s.rows
    | some read =>
      refine kept_writeIfMatch h (h.calls call read h_read) fun before h_before => ?_
      rw [h_before]
      exact covers_put covers_keyed_values fun _ _ _ _ => rfl
  | register call source remote backupArn =>
    show Kept s.rows (register s source remote backupArn (s.calls call)).rows
    cases h_read : s.calls call with
    | none => exact Kept.refl s.rows
    | some read =>
      simp only [register]
      split
      next => exact Kept.refl s.rows
      next merged h_merged =>
        refine kept_writeIfMatch h (h.calls call read h_read) fun before h_before => ?_
        rw [h_before] at h_merged
        exact covers_register covers_keyed_values registerRows_kind h_merged
  | discover pass seen =>
    show Kept s.rows (discover s pass seen (s.passes pass)).rows
    unfold discover
    split
    · exact Kept.refl s.rows
    · exact Kept.refl s.rows
  | record pass =>
    show Kept s.rows (record s pass (s.passes pass)).rows
    unfold record
    split
    next eTag known rows h_pass =>
      -- what the pass has read are the rows of now
      obtain ⟨h_snapshot, h_rows⟩ := h.passes pass _ h_pass
      obtain rfl : known = s.rows := h_snapshot.2 (h_current eTag known rows h_pass)
      obtain ⟨seen, h_collect⟩ : ∃ seen, rows = collect s.rows seen := h_rows rows rfl
      subst h_collect
      obtain ⟨before, h_before⟩ := h.table
      show Kept s.rows (values (keyed (s.rows ++ collect s.rows seen)))
      rw [h_before, keyed, List.foldl_append]
      exact (covers_foldl covers_keyed_values fun row h_row => harmless_collect h_row).kept
    next => exact Kept.refl s.rows
  | clean pass seen =>
    show Kept s.rows (clean s pass (s.passes pass)).rows
    unfold clean
    split
    · exact Kept.refl s.rows
    · exact Kept.refl s.rows

/-- **What a pass takes the managed secrets for**, if the step meets the condition. -/
theorem says_of_current {s : State} {a : Action} (h_current : Current s a) {secret : String}
    (h_managed : Managed s.rows secret) {row : Entry} (h_row : row ∈ collected s a)
    (h_kind : row.kind = "secret") (h_id : row.id = secret) : SaysManaged row.fields := by
  subst h_id
  cases a with
  | discover pass seen | clean pass seen =>
    simp only [collected] at h_row
    split at h_row
    next eTag known h_pass =>
      exact says_of_owner h_row h_kind (h_current eTag known h_pass row.id h_managed)
    next => cases h_row
  | _ => cases h_row

/-- A secret is deleted only by its row, which does not say that it is managed. -/
theorem exists_of_deletes {s : State} {a : Action} {secret : String} (h : secret ∈ deletes s a) :
    ∃ row ∈ collected s a, row.kind = "secret" ∧ row.id = secret ∧ ¬ SaysManaged row.fields := by
  cases a with
  | clean pass seen =>
    rw [deletes, deletedSecrets] at h
    split at h
    next => cases h
    next =>
      obtain ⟨row, h_row, rfl⟩ := List.mem_map.mp h
      obtain ⟨h_mem, h_row⟩ := List.mem_filter.mp h_row
      simp only [Bool.and_eq_true, decide_eq_true_eq, Bool.not_eq_true'] at h_row
      refine ⟨row, h_mem, h_row.1.1, rfl, fun h_said => ?_⟩
      have h_get : row.get "managed" = some (.bool true) := h_said
      simp [h_get, Json.truthy, Json.numeric] at h_row
  | _ => cases h

/-! ### Whole runs -/

/-- The registry only grows, and the passes leave the managed secrets alone. -/
structure OnlyGrows (as : List Action) : Prop where
  kept {pre later : List Action} (h_pre : pre <+: later) (h_later : later <+: as) :
    Kept (run step initial pre).rows (run step initial later).rows
  managed {pre later : List Action} {a : Action} (h_pre : pre <+: later) (h_a : later ++ [a] <+: as)
    {secret : String} (h : Managed (run step initial pre).rows secret) :
    (∀ row ∈ collected (run step initial later) a, row.kind = "secret" → row.id = secret →
      SaysManaged row.fields) ∧ secret ∉ deletes (run step initial later) a

/-- **The registry only grows**, in every run whose steps meet the condition. -/
theorem registry_grows {as : List Action} (h : Meets step Current initial as) : OnlyGrows as := by
  have h_kept : ∀ {pre later : List Action}, pre <+: later → later <+: as →
      Kept (run step initial pre).rows (run step initial later).rows := fun h_pre h_later => by
    refine ⟨fun kind id h_recorded => ?_, fun secret h_managed => ?_⟩
    · exact h.stable versioned_run (P := fun s => Recorded s.rows kind id)
        (fun s a h_s h_a => (kept_step h_s h_a).recorded kind id) h_pre h_later h_recorded
    · exact h.stable versioned_run (P := fun s => Managed s.rows secret)
        (fun s a h_s h_a => (kept_step h_s h_a).managed secret) h_pre h_later h_managed
  refine ⟨h_kept, fun {pre later a} h_pre h_a secret h_managed => ?_⟩
  have h_now := (h_kept h_pre ((List.prefix_append later [a]).trans h_a)).managed secret h_managed
  have h_said (row : Entry) (h_row : row ∈ collected (run step initial later) a) :=
    says_of_current (meets_iff.mp h later a h_a) h_now h_row
  refine ⟨h_said, fun h_deletes => ?_⟩
  obtain ⟨row, h_row, h_kind, h_id, h_not⟩ := exists_of_deletes h_deletes
  exact h_not (h_said row h_row h_kind h_id)

/-- The secret is there, with the tag of the run. -/
def tagged (arn : String) : Seen where
  before := []
  listed := [⟨arn, true, false⟩]
  described _ := none
  after := []
  noSecret := nofun

/-- A pass that has read the rows of now knows the owners. -/
theorem knowsOwners_of_eq {s : State} {known : List Entry} {seen : Seen} (h : known = s.rows) :
    KnowsOwners s known seen := fun _ h_managed => owner_of_managed (h ▸ h_managed)

/-- A call that is done, and a pass behind it. -/
def inTime : List Action :=
  [.initializeRegistry, .readRegistry 0, .remember 0 "secret" "db-1", .startPass 0,
    .discover 0 (tagged "secret"), .record 0]

/-- A pass that reads behind every write loses nothing. -/
theorem inTime_onlyGrows : OnlyGrows inTime := by
  refine registry_grows
    ⟨trivial, trivial, trivial, trivial, fun eTag known h_pass => ?_, ?_, trivial⟩
  · exact knowsOwners_of_eq (congrArg Pass.known (Option.some.inj h_pass)).symm
  · exact fun eTag known rows h_pass => (congrArg Pass.eTag (Option.some.inj h_pass)).symm

/-- The provider lists no secret of the run. -/
def nothing : Seen where
  before := []
  listed := []
  described _ := none
  after := []
  noSecret := nofun

/-- The pass reads the registry, the call writes it, and the pass writes over that. -/
def lostUpdate : List Action :=
  [.initializeRegistry, .startPass 0, .readRegistry 0, .remember 0 "secret" "db-1",
    .discover 0 nothing, .record 0]

/-- A secret that is written between the read and the write of a pass is lost. -/
theorem lostUpdate_forgets : ¬ OnlyGrows lostUpdate := by
  intro h
  have h_kept : Kept (run step initial (lostUpdate.take 4)).rows
      (run step initial lostUpdate).rows :=
    h.kept (List.take_prefix 4 lostUpdate) (List.prefix_refl _)
  have h_before : (run step initial (lostUpdate.take 4)).rows =
      [managedSecret "secret" "db-1"] := by
    decide
  have h_after : (run step initial lostUpdate).rows = [] := by decide
  rw [h_before, h_after] at h_kept
  obtain ⟨row, h_row, -⟩ := h_kept.recorded "secret" "secret"
    ⟨_, List.mem_singleton_self _, rfl, rfl⟩
  cases h_row

-- a later pass does not know the secret any more
example : deletes (run step initial (lostUpdate ++ [.startPass 1, .discover 1 (tagged "secret"),
    .record 1])) (.clean 1 (tagged "secret")) = ["secret"] := by decide

-- and neither does the pass that read the registry before the call wrote it
example : deletes (run step initial
    [.initializeRegistry, .startPass 0, .discover 0 nothing, .record 0,
    .readRegistry 0, .remember 0 "secret" "db-1"]) (.clean 0 (tagged "secret")) =
      ["secret"] := by decide

/-! ### The calls of the cleanup pass -/

/-- The row of the inventory, as `cleanup_pass` reads it. -/
structure Reads (entry : Entry) (row : Cleanup.Row) : Prop where
  id : row.id = entry.id
  secret : row.kind = .secret → entry.kind = "secret"
  task : entry.kind = "task" → row.kind = .task
  state : row.kind = .secret → row.state = "active" → entry.get "state" = some (.string "active")
  managed : row.kind = .secret → row.managed = (entry.get "managed").any (·.truthy "")

/-- Why `delete_secret` may be called. -/
def Deletable (rows : List Cleanup.Row) (_ : Cleanup.History) (q : Cleanup.Question) : Prop :=
  ∀ secret, q = .mutate .deleteSecret secret → Cleanup.Kind.task ∉ rows.map (·.kind) ∧
    ∃ row ∈ rows, row.kind = .secret ∧ row.id = secret ∧ row.state = "active" ∧ row.managed = false

/-- Of the secrets, only those of the rows are deleted. -/
theorem handleRow_deletable {rows : List Cleanup.Row} {row : Cleanup.Row} (h_row : row ∈ rows) :
    (Cleanup.handleRow (some Cleanup.archiveLogs) (rows.map (·.kind)) row).Guarded (Deletable rows)
      (fun _ _ => True) (fun _ => True) [] := by
  by_cases h_kind : row.kind = .secret
  · have h_handle : Cleanup.handleRow (some Cleanup.archiveLogs) (rows.map (·.kind)) row =
        if Cleanup.Kind.task ∈ rows.map (·.kind) then pure false
        else if row.state = "active" && !row.managed then Cleanup.act .deleteSecret row
        else pure false := by
      simp [Cleanup.handleRow, Cleanup.handleKind, h_kind]
    rw [h_handle]
    split
    next => exact Dialogue.guarded_pure trivial
    next h_task =>
      split
      next h_active =>
        obtain ⟨h_state, h_managed⟩ := (Bool.and_eq_true _ _).mp h_active
        refine Dialogue.guarded_call ?_ trivial fun _ => Dialogue.guarded_pure trivial
        rintro _ ⟨⟩
        exact ⟨h_task, row, h_row, h_kind, rfl, of_decide_eq_true h_state, by simpa using h_managed⟩
      next => exact Dialogue.guarded_pure trivial
  · refine (Cleanup.handleRow_changes ?_).imp ?_ (fun _ _ h => h) fun _ h => h
    · rintro _ ⟨⟩ group
      exact (Cleanup.archiveLogs_adds group).imp
        (fun _ _ h mutation resource h_q => absurd h_q (h _ _)) (fun _ _ _ => trivial) fun _ h => h
    · exact fun _ q h_q secret h_delete => absurd (h_q _ _ h_delete).symm h_kind

/-- So it is for all rows of a pass. -/
theorem handleRows_deletable {all rows : List Cleanup.Row} (h : rows ⊆ all)
    (report : Cleanup.Report) :
    (Cleanup.handleRows (some Cleanup.archiveLogs) (all.map (·.kind)) report rows).Guarded
      (Deletable all) (fun _ _ => True) (fun _ => True) [] := by
  induction rows generalizing report with
  | nil => exact Dialogue.guarded_pure trivial
  | cons row rows ih =>
    obtain ⟨h_row, h_rest⟩ := List.cons_subset.mp h
    refine (handleRow_deletable h_row).caught.bind fun result stretch _ => ?_
    exact (ih h_rest (report.add row result)).after (fun _ _ h => h) (fun _ _ _ => trivial)
      fun _ h => h

/-- What `cleanup_pass` may delete, the machine deletes. -/
theorem Deletable.mem_deletedSecrets {entries : List Entry} {rows : List Cleanup.Row}
    (h_rows : List.Forall₂ Reads entries rows) {history : Cleanup.History} {secret : String}
    (h : Deletable rows history (.mutate .deleteSecret secret)) :
    secret ∈ deletedSecrets entries := by
  obtain ⟨h_task, row, h_row, h_kind, rfl, h_active, h_managed⟩ := h secret rfl
  obtain ⟨entry, h_entry, h_reads⟩ := exists_of_forall₂ h_rows.flip h_row
  have h_none : entries.any (·.kind = "task") = false := by
    refine Bool.eq_false_iff.mpr fun h_any => ?_
    obtain ⟨other, h_other, h_is⟩ := List.any_eq_true.mp h_any
    obtain ⟨task, h_mem, h_reads⟩ := exists_of_forall₂ h_rows h_other
    exact h_task (List.mem_map.mpr ⟨task, h_mem, h_reads.task (of_decide_eq_true h_is)⟩)
  rw [deletedSecrets, h_none, if_neg Bool.false_ne_true]
  refine List.mem_map.mpr ⟨entry, List.mem_filter.mpr ⟨h_entry, ?_⟩, h_reads.id.symm⟩
  have h_said := h_reads.managed h_kind
  rw [h_managed] at h_said
  simp [h_reads.secret h_kind, h_reads.state h_kind h_active, ← h_said]

/-- **The calls of `cleanup_pass` are those of the machine**, whatever AWS answers. -/
theorem mem_deletedSecrets {entries : List Entry} {rows : List Cleanup.Row}
    (h_rows : List.Forall₂ Reads entries rows) {env : Cleanup.Environment} {secret : String}
    {before : Cleanup.History} {answer : Option Bool}
    (h : before ++ [⟨.mutate .deleteSecret secret, answer⟩] <+:
      ((Cleanup.cleanupPass (some Cleanup.archiveLogs) rows).outcome env []).2) :
    secret ∈ deletedSecrets entries := by
  obtain ⟨-, h_deletable, -⟩ :=
    (handleRows_deletable (List.Subset.refl rows) {}).outcome env (Prod.eta _).symm
  exact Deletable.mem_deletedSecrets h_rows (h_deletable before _ List.nil_prefix h)

end ControlPlane.Watchdog
