import ControlPlane.Cloud.Inventory
import ControlPlane.Cloud.Registry
import ControlPlane.Model.Guard
import ControlPlane.Model.Rehearsal

/-!
# The watchdog is a pass of the registry machine

The machine of the registry computes the rows of the secrets from what a provider answers (`Seen`),
and takes the other rows as they come. `Inventory.collect` asks for everything; what it is answered
gives a `Seen` with the same inventory (`collect_sees`).

So a run of the handler is a pass of the machine: whatever the other parties do between its calls,
the registry that it writes is the one that the machine records, and the secrets that it deletes are
among those that the machine deletes (`handler_refines`). The two other writers are its conditional
writes (`register_refines`, `rememberSecret_refines`).
-/

namespace ControlPlane.Inventory

open Framework Registry
open Cleanup (Kind)
open Watchdog (Listed Seen)
open Dialogue (Guarded gather guarded_call guarded_check guarded_pure guarded_raise)

variable {r : Run} {known : List Entry} {owners : List String}

/-! ### Rows that are no secrets -/

/-- A program whose rows are no secrets. -/
abbrev Open (x : Controller (List Found)) : Prop :=
  x.Guarded (fun _ _ => True) (fun rows _ => ∀ row ∈ rows, row.kind ≠ .secret) (fun _ => True) []

/-- What is done before the rows does not matter. -/
theorem open_bind {α : Type} (x : Controller α) {f : α → Controller (List Found)}
    (h : ∀ result, Open (f result)) : Open (x >>= f) := by
  refine (Dialogue.guarded_ends x).andThen (fun _ _ h => h) (fun _ _ => trivial) ?_
  exact fun result stretch _ => (h result).after (fun _ _ h => h) (fun _ _ h => h) fun _ h => h

/-- Rows of another kind. -/
theorem open_map {α : Type} {items : List α} {row : α → Found}
    (h : ∀ item, (row item).kind ≠ .secret) : Open (pure (items.map row)) := by
  refine guarded_pure fun found h_found => ?_
  obtain ⟨item, -, rfl⟩ := List.mem_map.mp h_found
  exact h item

/-- The rows of one part before those of the others. -/
theorem open_append {x : Controller (List Found)} {f : List Found → Controller (List Found)}
    (h_x : Open x) (h_f : ∀ rows, (∀ row ∈ rows, row.kind ≠ .secret) → Open (f rows)) :
    Open (x >>= f) := by
  refine Guarded.andThen h_x (fun _ _ h => h) (fun _ _ => trivial) fun rows stretch h_rows => ?_
  exact (h_f rows h_rows).after (fun _ _ h => h) (fun _ _ h => h) fun _ h => h

/-- A loop over such parts. -/
theorem open_gather {α : Type} {items : List α} {body : α → Controller (List Found)}
    (h : ∀ item, Open (body item)) : Open (gather body items) := by
  induction items with
  | nil => exact guarded_pure fun _ h => absurd h List.not_mem_nil
  | cons item items ih =>
    refine open_append (h item) fun first h_first => open_append ih fun rest h_rest => ?_
    exact guarded_pure (List.forall_mem_append.mpr ⟨h_first, h_rest⟩)

/-- One row of another kind. -/
theorem open_one {row : Found} (h : row.kind ≠ .secret) : Open (pure [row]) :=
  guarded_pure (List.forall_mem_singleton.mpr h)

/-- No row at all. -/
theorem open_none : Open (pure []) := guarded_pure fun _ h => absurd h List.not_mem_nil

/-- No secret comes before the secrets. -/
theorem open_beforeSecrets : Open (beforeSecrets r) := by
  have h_databases : Open (databases r) :=
    open_bind _ fun _ => open_bind _ fun _ => open_map nofun
  have h_snapshots : Open (snapshots r) :=
    open_bind _ fun _ => open_bind _ fun _ => open_map nofun
  have h_backups : Open (backups r) := by
    refine open_bind _ fun _ => open_bind _ fun _ => open_gather fun row => ?_
    unfold backup
    split
    · exact open_bind _ fun _ => open_one nofun
    · exact open_one nofun
  have h_clusters : Open (clusters r) := by
    refine open_bind _ fun _ => open_gather fun status => ?_
    unfold cluster
    split
    · exact open_none
    · refine open_bind _ fun _ => open_bind _ fun tasks => ?_
      have h_tasks : Open (pure (tasks.map (taskRow r.cluster))) := open_map nofun
      exact guarded_pure (List.forall_mem_cons.mpr ⟨nofun, h_tasks⟩)
  have h_definitions : Open (taskDefinitions r) := by
    refine open_gather fun status => open_gather fun family => ?_
    exact open_bind _ fun _ => open_bind _ fun _ => open_bind _ fun _ => open_map nofun
  have h_repositories : Open (repositories r) := by
    refine open_bind _ fun _ => open_bind _ fun _ => open_gather fun name => ?_
    exact open_bind _ fun _ => open_bind _ fun _ => open_one nofun
  -- the rows of the six parts, one after the other
  refine open_append h_databases fun databases h₁ => ?_
  refine open_append h_snapshots fun snapshots h₂ => ?_
  refine open_append h_backups fun backups h₃ => ?_
  refine open_append h_clusters fun clusters h₄ => ?_
  refine open_append h_definitions fun definitions h₅ => ?_
  refine open_append h_repositories fun repositories h₆ => ?_
  refine guarded_pure ?_
  simp only [List.forall_mem_append]
  exact ⟨⟨⟨⟨⟨h₁, h₂⟩, h₃⟩, h₄⟩, h₅⟩, h₆⟩

/-- No secret comes behind them. -/
theorem open_behindSecrets : Open (behindSecrets r) := by
  have h_logs : Open (logGroups r) := by
    refine open_gather fun beginning => ?_
    exact open_bind _ fun _ => open_bind _ fun _ => open_map nofun
  have h_keys : Open (keys r) := by
    refine open_bind _ fun _ => open_bind _ fun _ => open_gather fun name => ?_
    refine open_bind _ fun metadata => ?_
    split
    · refine open_bind _ fun tags => ?_
      split
      · exact open_one nofun
      · exact open_none
    · exact open_none
  have h_network : Open (network r) := by
    refine open_bind _ fun _ => open_bind _ fun _ => open_gather fun kind => ?_
    refine open_bind _ fun _ => open_bind _ fun _ => open_bind _ fun _ => open_map fun row => ?_
    -- the kind of a row depends on the kind that was asked for
    cases kind <;> nofun
  have h_subnets : Open (dbSubnetGroups r) :=
    open_bind _ fun _ => open_bind _ fun _ => open_map nofun
  have h_parameters : Open (dbParameterGroups r) :=
    open_bind _ fun _ => open_bind _ fun _ => open_map nofun
  have h_roles : Open (roles r) := open_bind _ fun _ => open_bind _ fun _ => open_map nofun
  -- the rows of the six parts, one after the other
  refine open_append h_logs fun logs h₁ => ?_
  refine open_append h_keys fun keys h₂ => ?_
  refine open_append h_network fun network h₃ => ?_
  refine open_append h_subnets fun subnets h₄ => ?_
  refine open_append h_parameters fun parameters h₅ => ?_
  refine open_append h_roles fun roles h₆ => ?_
  refine guarded_pure ?_
  simp only [List.forall_mem_append]
  exact ⟨⟨⟨⟨⟨h₁, h₂⟩, h₃⟩, h₄⟩, h₅⟩, h₆⟩

/-! ### The secrets -/

/-- An entry of the listing, as the machine reads it. -/
def listed (r : Run) (secret : Secret) : Listed :=
  ⟨secret.arn, tagged r secret.tags, secret.deleted⟩

/-- What the secret was described as. -/
def Tells (asked : History) (arn : String) : Option Bool → Prop
  | some deleted => ∃ described,
      (⟨.describeSecret arn, some (.found described deleted)⟩ : Exchange) ∈ asked
  | none => (⟨.describeSecret arn, some .notFound⟩ : Exchange) ∈ asked

/-- The machine sees what was answered of the secrets. -/
structure Sees (r : Run) (known : List Entry) (asked : History) (seen : Seen) : Prop where
  listed : ∃ pages, (⟨.listSecrets, some pages⟩ : Exchange) ∈ asked ∧
    seen.listed = pages.flatten.map (listed r)
  described : ∀ arn ∈ Watchdog.unobserved (Watchdog.ownerSecrets known seen.before) known
    (Watchdog.observed (Watchdog.ownerSecrets known seen.before) seen.listed),
      Tells asked arn (seen.described arn)

/-- More answers tell no less. -/
theorem Tells.mono {asked asked' : History} {arn : String} {deleted : Option Bool}
    (h : Tells asked arn deleted) (h_sub : asked ⊆ asked') : Tells asked' arn deleted := by
  cases deleted with
  | none => exact h_sub h
  | some deleted =>
    obtain ⟨described, h_mem⟩ := h
    exact ⟨described, h_sub h_mem⟩

/-- The rows of the listing are those that the machine observes in the same pages. -/
theorem listedSecrets_sees : (listedSecrets r owners).Guarded (fun _ _ => True)
    (fun rows asked => ∃ pages, (⟨.listSecrets, some pages⟩ : Exchange) ∈ asked ∧
      rows.map Found.entry = (Watchdog.observed owners (pages.flatten.map (listed r))).map
        fun secret => Watchdog.secretRow owners secret.arn secret.deleted) (fun _ => True) [] := by
  refine guarded_call trivial trivial fun pages => ?_
  refine guarded_bounded ?_
  refine guarded_pure ⟨pages, List.mem_singleton_self _, ?_⟩
  rw [Watchdog.observed, List.filter_map, List.map_map, List.map_map]
  rfl

/-- The row of a known secret is the one that the machine makes of the same answer. -/
theorem knownSecret_tells (arn : String) : (knownSecret owners arn).Guarded (fun _ _ => True)
    (fun rows asked => ∃ deleted : Option Bool, Tells asked arn deleted ∧
      rows.map Found.entry = (deleted.map (Watchdog.secretRow owners arn)).toList)
      (fun _ => True) [] := by
  refine guarded_call trivial trivial fun described => ?_
  split
  next => exact guarded_pure ⟨none, List.mem_singleton_self _, rfl⟩
  next found deleted =>
    refine guarded_check trivial fun _ => guarded_pure ?_
    exact ⟨some deleted, ⟨found, List.mem_singleton_self _⟩, rfl⟩

/-- Each secret is described once, so there is one function for all of them. -/
theorem knownSecrets_tell {arns : List String} (h_nodup : arns.Nodup) :
    (gather (knownSecret owners) arns).Guarded (fun _ _ => True)
      (fun rows asked => ∃ described : String → Option Bool,
        (∀ arn ∈ arns, Tells asked arn (described arn)) ∧
        rows.map Found.entry =
          arns.filterMap fun arn => (described arn).map (Watchdog.secretRow owners arn))
      (fun _ => True) [] := by
  -- each secret adds its own answer to the function, and does not come again
  induction arns with
  | nil => exact guarded_pure ⟨fun _ => none, fun _ h => absurd h List.not_mem_nil, rfl⟩
  | cons arn arns ih =>
    obtain ⟨h_new, h_rest⟩ := List.nodup_cons.mp h_nodup
    refine (knownSecret_tells arn).bind fun first asked h_first => ?_
    obtain ⟨deleted, h_deleted, h_row⟩ := h_first
    refine (ih h_rest).andThen (fun _ _ h => h) (fun _ _ => trivial) ?_
    rintro rest asked' ⟨described, h_described, h_rows⟩
    have h_same {other : String} (h_other : other ∈ arns) :
        Function.update described arn deleted other = described other := by
      refine Function.update_of_ne ?_ _ _
      rintro rfl
      exact h_new h_other
    refine guarded_pure ⟨Function.update described arn deleted, fun other h_other => ?_, ?_⟩
    · rcases List.mem_cons.mp h_other with rfl | h_other
      · rw [Function.update_self]
        exact h_deleted.mono (List.subset_append_left _ _)
      · rw [h_same h_other]
        exact (h_described other h_other).mono (List.subset_append_right _ _)
    · have h_tail : (arns.filterMap fun other =>
          (Function.update described arn deleted other).map (Watchdog.secretRow owners other)) =
            arns.filterMap fun other => (described other).map (Watchdog.secretRow owners other) :=
        List.filterMap_congr fun other h_other => by rw [h_same h_other]
      rw [List.map_append, h_row, h_rows, List.filterMap_cons, Function.update_self, h_tail]
      cases deleted <;> rfl

/-- The secrets that are described are the same for the machine. -/
theorem unobserved_eq {found : List Found} {observed : List Listed}
    (h : found.map (·.id) = observed.map (·.arn)) :
    unobserved owners known found = Watchdog.unobserved owners known observed := by
  rw [unobserved, Watchdog.unobserved, h]

/-- A secret is asked for once. -/
theorem nodup_unobserved {found : List Found} : (unobserved owners known found).Nodup :=
  (List.perm_insertionSort _ _).nodup_iff.mpr ((List.nodup_dedup _).filter _)

/-- What the secrets are answered, whatever comes before and behind them. -/
def SeesSecrets (r : Run) (known : List Entry) (owners : List String) (rows : List Found)
    (asked : History) : Prop :=
  ∃ (pages : List (List Secret)) (described : String → Option Bool),
    let observed := Watchdog.observed owners (pages.flatten.map (listed r))
    (⟨.listSecrets, some pages⟩ : Exchange) ∈ asked ∧
      (∀ arn ∈ Watchdog.unobserved owners known observed, Tells asked arn (described arn)) ∧
      rows.map Found.entry =
        observed.map (fun secret => Watchdog.secretRow owners secret.arn secret.deleted) ++
          (Watchdog.unobserved owners known observed).filterMap fun arn =>
            (described arn).map (Watchdog.secretRow owners arn)

/-- All rows of secrets are those of the machine, for what it has seen. -/
theorem secrets_sees : (secrets r known owners).Guarded (fun _ _ => True)
    (SeesSecrets r known owners) (fun _ => True) [] := by
  refine listedSecrets_sees.bind ?_
  rintro observed asked ⟨pages, h_pages, h_observed⟩
  -- the rows of the listing name what the machine has listed
  have h_ids : observed.map (·.id) =
      (Watchdog.observed owners (pages.flatten.map (listed r))).map (·.arn) := by
    have h_entries := congrArg (List.map (·.id)) h_observed
    rwa [List.map_map, List.map_map] at h_entries
  refine (knownSecrets_tell nodup_unobserved).andThen (fun _ _ h => h) (fun _ _ => trivial) ?_
  rintro others asked' ⟨described, h_described, h_others⟩
  rw [unobserved_eq h_ids] at h_described h_others
  refine guarded_pure ⟨pages, described, List.mem_append_left _ h_pages, fun arn h_arn => ?_, ?_⟩
  · exact (h_described arn h_arn).mono (List.subset_append_right _ _)
  · rw [List.map_append, h_observed, h_others]

/-- Only secrets are recorded under this text. -/
theorem kindText_secret {kind : Kind} : kindText kind = "secret" ↔ kind = .secret := by
  cases kind <;> decide

/-- Rows of other kinds are no entries of secrets. -/
theorem no_secret_entries {rows : List Found} (h : ∀ row ∈ rows, row.kind ≠ .secret) :
    ∀ entry ∈ rows.map Found.entry, entry.kind ≠ "secret" := by
  intro entry h_entry h_kind
  obtain ⟨row, h_row, rfl⟩ := List.mem_map.mp h_entry
  exact h row h_row (kindText_secret.mp h_kind)

/-- **The inventory is the one of the machine**, for what it has seen. -/
theorem collect_sees (known : List Entry) : (collect r known).Guarded (fun _ _ => True)
    (fun rows asked => ∃ seen, Sees r known asked seen ∧
      rows.map Found.entry = Watchdog.collect known seen) (fun _ => True) [] := by
  refine guarded_call trivial trivial fun account => guarded_check trivial fun _ => ?_
  refine Guarded.andThen open_beforeSecrets (fun _ _ h => h) (fun _ _ => trivial) ?_
  intro before asked₁ h_before
  refine secrets_sees.andThen (fun _ _ h => h) (fun _ _ => trivial) ?_
  rintro found asked₂ ⟨pages, described, h_pages, h_described, h_found⟩
  refine Guarded.andThen open_behindSecrets (fun _ _ h => h) (fun _ _ => trivial) ?_
  intro behind asked₃ h_behind
  -- what the machine is told of this collection
  let seen : Seen :=
    { before := before.map Found.entry
      listed := pages.flatten.map (listed r)
      described := described
      after := behind.map Found.entry
      noSecret := List.forall_mem_append.mpr
        ⟨no_secret_entries h_before, no_secret_entries h_behind⟩ }
  have h_sub (first : History) : asked₂ ⊆ first ++ asked₁ ++ asked₂ ++ asked₃ := fun _ h =>
    List.mem_append_left _ (List.mem_append_right _ h)
  refine guarded_pure ⟨seen, ⟨⟨pages, h_sub _ h_pages, rfl⟩, fun arn h_arn => ?_⟩, ?_⟩
  · exact (h_described arn h_arn).mono (h_sub _)
  · rw [List.map_append, List.map_append, h_found]
    simp only [Watchdog.collect, List.append_assoc]
    rfl

end ControlPlane.Inventory

namespace ControlPlane.Guard

open Framework Registry
open Inventory (Found Sees)
open Watchdog (Seen State)
open Dialogue (Guarded guarded_call guarded_check guarded_pure)

variable {s : Settings}

/-! ### The rows, as the cleanup pass reads them -/

/-- Only tasks are recorded under this text. -/
theorem kindText_task {kind : Cleanup.Kind} :
    Inventory.kindText kind = "task" ↔ kind = .task := by
  cases kind <;> decide

/-- The fields of an entry of a secret. -/
theorem fields_secret {row : Found} (h : row.kind = .secret) :
    row.entry.fields = [("managed", .bool row.managed), ("state", .string row.state)] := by
  show row.fields = _
  rw [Found.fields, h]

/-- A row is read from its entry as it was. -/
theorem reads_entry (row : Found) : Watchdog.Reads row.entry row.toRow where
  id := rfl
  secret := Inventory.kindText_secret.mpr
  task := kindText_task.mp
  state h_kind h_active := by
    rw [Registry.Entry.get, fields_secret h_kind, h_active]
    rfl
  managed h_kind := by
    rw [Registry.Entry.get, fields_secret h_kind]
    show row.managed = (Json.bool row.managed).truthy ""
    cases row.managed <;> rfl

/-- So are all rows. -/
theorem reads_written (rows : List Found) :
    List.Forall₂ Watchdog.Reads (written rows) (read rows) := by
  rw [List.forall₂_map_left_iff, List.forall₂_map_right_iff]
  exact List.forall₂_same.mpr fun row _ => reads_entry row

/-! ### A run of the handler -/

/-- A pass that has read the registry and collected, with what was asked and answered. -/
structure Discovery (s : Settings) where
  now : ℤ
  stored : Stored
  asked : Inventory.History
  seen : Seen
  sees : Sees s.run stored.known asked seen

/-- The exchanges of the discovery. -/
def Discovery.history (d : Discovery s) : History :=
  [⟨.now, some d.now⟩, ⟨.getRegistry, some d.stored⟩] ++ ofInventory.history d.asked

/-- What the pass of the machine writes. -/
def Discovery.rows (d : Discovery s) : List Entry :=
  values (keyed (d.stored.known ++ Watchdog.collect d.stored.known d.seen))

/-- A pass that has written both documents, and collected again to delete. -/
structure Removal (s : Settings) extends Discovery s where
  askedAgain : Inventory.History
  seenAgain : Seen
  seesAgain : Sees s.run stored.known askedAgain seenAgain

/-- The exchanges up to the removal: what was discovered is recorded, and listed again. -/
def Removal.history (d : Removal s) : History :=
  d.toDiscovery.history ++ [⟨.putRegistry d.rows, some ()⟩,
    ⟨.putInventory (Watchdog.collect d.stored.known d.seen), some ()⟩] ++
      ofInventory.history d.askedAgain

/-- A question that the pass of the machine accounts for. -/
structure Accounted (s : Settings) (before : History) (q : Question) : Prop where
  records : ∀ rows, q = .putRegistry rows → ∃ d : Discovery s, before = d.history ∧ rows = d.rows
  deletes : ∀ secret, q = .cleanup (.mutate .deleteSecret secret) → ∃ d : Removal s,
    d.history <+: before ∧
      secret ∈ Watchdog.deletedSecrets (Watchdog.collect d.stored.known d.seenAgain)

/-- A question of the inventory writes nothing. -/
theorem accounted_inventory {before : History} {q : Inventory.Question} :
    Accounted s before (.inventory q) := ⟨nofun, nofun⟩

/-- A collection is one step of the machine on what AWS has listed. -/
theorem collect_simulated (known : List Entry) (r : Inventory.Run) :
    (collect r known).Guarded (fun _ q => ∃ asked, q = .inventory asked)
      (fun rows stretch => ∃ asked seen, stretch = ofInventory.history asked ∧
        Sees r known asked seen ∧ written rows = Watchdog.collect known seen)
      (fun _ => True) [] := by
  refine guarded_check trivial fun _ => ?_
  refine (Inventory.collect_sees known).lift.imp ?_ ?_ fun _ _ => trivial
  · rintro _ _ ⟨_, q, -, rfl, -⟩
    exact ⟨q, rfl⟩
  · rintro rows _ ⟨asked, rfl, seen, h_sees, h_rows⟩
    exact ⟨asked, seen, rfl, h_sees, h_rows⟩

/-- The pass over rows that the machine has. -/
theorem removal_accounted (d : Removal s) {again : List Found}
    (h_again : written again = Watchdog.collect d.stored.known d.seenAgain) :
    (do
      let report ← (Cleanup.cleanupPass (some Cleanup.archiveLogs) (read again)).lift ofCleanup
      let _ ← call (.putCleanup report (Inventory.publicReport (read again)))
      let _ ← call .invokeChecker
      Dialogue.check (report.failedKinds = [])
      pure (.cleaned report) : Controller Result).Guarded (Accounted s) (fun _ _ => True)
        (fun _ => True) d.history := by
  have h_rows : Guarded _ _ _ (Cleanup.cleanupPass (some Cleanup.archiveLogs) (read again)) [] :=
    Watchdog.handleRows_deletable (List.Subset.refl (read again)) {}
  refine h_rows.lift.andThen ?_ (fun _ _ => trivial) fun report pass _ => ?_
  -- the pass deletes a secret only where its row says so
  · rintro stretch _ ⟨asked, q, rfl, rfl, h_deletable⟩
    refine ⟨nofun, fun secret h_q => ⟨d, List.prefix_append _ _, ?_⟩⟩
    cases h_q
    rw [← h_again]
    exact Watchdog.Deletable.mem_deletedSecrets (reads_written again) h_deletable
  refine guarded_call ⟨nofun, nofun⟩ trivial fun _ => ?_
  refine guarded_call ⟨nofun, nofun⟩ trivial fun _ => ?_
  exact guarded_check trivial fun _ => guarded_pure trivial

/-- The rule of the whole of the watchdog. -/
theorem handler_accounted :
    (handler s).Guarded (Accounted s) (fun _ _ => True) (fun _ => True) [] := by
  refine guarded_call ⟨nofun, nofun⟩ trivial fun now => ?_
  split
  next => exact guarded_pure trivial
  refine guarded_check trivial fun _ => guarded_call ⟨nofun, nofun⟩ trivial fun stored => ?_
  refine (collect_simulated stored.known s.run).andThen ?_ (fun _ _ => trivial) ?_
  · rintro _ _ ⟨asked, rfl⟩
    exact accounted_inventory
  rintro rows _ ⟨asked, seen, rfl, h_sees, h_rows⟩
  rw [h_rows]
  -- the first inventory is what the machine discovers, and records
  let d : Discovery s := ⟨now, stored, asked, seen, h_sees⟩
  refine guarded_call ⟨?_, nofun⟩ trivial fun _ => ?_
  · rintro _ ⟨⟩
    exact ⟨d, rfl, rfl⟩
  refine guarded_call ⟨nofun, nofun⟩ trivial fun _ => ?_
  refine (collect_simulated stored.known s.run).andThen ?_ (fun _ _ => trivial) ?_
  · rintro _ _ ⟨asked, rfl⟩
    exact accounted_inventory
  rintro again _ ⟨askedAgain, seenAgain, rfl, h_again, h_written⟩
  -- the second one is what it cleans by
  have h_pass := removal_accounted ⟨d, askedAgain, seenAgain, h_again⟩ h_written
  simpa [Removal.history, Discovery.history, Discovery.rows, d] using h_pass

/-! ### The simulation -/

/-- The run is a pass of the machine, whatever the other parties do to its state in between. -/
structure Refines (s : Settings) (history : History) : Prop where
  /-- What is written to the registry is what the machine records. -/
  records : ∀ before rows answer, before ++ [⟨.putRegistry rows, answer⟩] <+: history →
    ∃ d : Discovery s, before = d.history ∧ ∀ (st st' : State) (pass : ℕ) (eTag : Option ℕ),
      st.passes pass = some ⟨eTag, d.stored.known, .read⟩ →
      st'.passes pass = (Watchdog.step st (.discover pass d.seen)).passes pass →
      (Watchdog.step st' (.record pass)).rows = rows
  /-- A secret that is deleted, the machine deletes, and the registry that was read does not say
  that it is managed. -/
  deletes : ∀ before secret answer,
    before ++ [⟨.cleanup (.mutate .deleteSecret secret), answer⟩] <+: history →
    ∃ d : Removal s, d.history <+: before ∧ ¬ Watchdog.Managed d.stored.known secret ∧
      ∀ (st : State) (pass : ℕ) (eTag : Option ℕ),
        st.passes pass = some ⟨eTag, d.stored.known, .recorded⟩ →
        secret ∈ Watchdog.deletes st (.clean pass d.seenAgain)

/-- The machine records the rows that the watchdog writes. -/
theorem Discovery.step_record (d : Discovery s) {st st' : State} {pass : ℕ} {eTag : Option ℕ}
    (h : st.passes pass = some ⟨eTag, d.stored.known, .read⟩)
    (h' : st'.passes pass = (Watchdog.step st (.discover pass d.seen)).passes pass) :
    (Watchdog.step st' (.record pass)).rows = d.rows := by
  have h_discovered : st'.passes pass =
      some ⟨eTag, d.stored.known, .discovered (Watchdog.collect d.stored.known d.seen)⟩ := by
    rw [h', Watchdog.step, h, Watchdog.discover]
    exact Function.update_self _ _ _
  rw [Watchdog.step, h_discovered]
  rfl

/-- The machine deletes the secrets of its second collection. -/
theorem deletes_clean {st : State} {pass : ℕ} {eTag : Option ℕ} {known : List Entry} (seen : Seen)
    (h : st.passes pass = some ⟨eTag, known, .recorded⟩) :
    Watchdog.deletes st (.clean pass seen) =
      Watchdog.deletedSecrets (Watchdog.collect known seen) := by
  rw [Watchdog.deletes, Watchdog.collected, h]

/-- No managed secret is among them. -/
theorem not_managed_of_deleted {known : List Entry} {seen : Seen} {secret : String}
    (h : secret ∈ Watchdog.deletedSecrets (Watchdog.collect known seen)) :
    ¬ Watchdog.Managed known secret := by
  intro h_managed
  let st := Watchdog.initial.setPass 0 (some ⟨none, known, .recorded⟩)
  have h_pass : st.passes 0 = some ⟨none, known, .recorded⟩ := by
    simp [st, Watchdog.State.setPass]
  rw [← deletes_clean seen h_pass] at h
  obtain ⟨row, h_row, h_kind, rfl, h_not⟩ := Watchdog.exists_of_deletes h
  exact h_not (Watchdog.says_of_owner h_row h_kind (Watchdog.owner_of_managed h_managed))

/-- **A run of the watchdog is a pass of the registry machine**, whatever AWS answers. -/
theorem handler_refines (s : Settings) (env : Environment) :
    Refines s ((handler s).outcome env []).2 := by
  obtain ⟨-, h_accounted, -⟩ := (handler_accounted (s := s)).outcome env (Prod.eta _).symm
  refine ⟨fun before rows answer h => ?_, fun before secret answer h => ?_⟩
  · obtain ⟨d, h_before, rfl⟩ := (h_accounted before _ List.nil_prefix h).records rows rfl
    exact ⟨d, h_before, fun _ _ _ _ => d.step_record⟩
  · obtain ⟨d, h_before, h_secret⟩ := (h_accounted before _ List.nil_prefix h).deletes secret rfl
    refine ⟨d, h_before, not_managed_of_deleted h_secret, fun st pass eTag h_pass => ?_⟩
    rw [deletes_clean d.seenAgain h_pass]
    exact h_secret

end ControlPlane.Guard

namespace ControlPlane.Rehearsal

open Framework Registry
open Watchdog (State)
open Dialogue (Guarded guarded_call guarded_check guarded_lastCall guarded_lastCheck
  guarded_ofOption)

/-! ### The controller -/

/-- A write over the version that was read, which the action makes in a state that has
this version. -/
def Writes (action : ℕ → Watchdog.Action) (before : History) (q : Question) : Prop :=
  ∀ rows etag, q = .putRegistry rows etag → ∃ document,
    (⟨.getRegistry, some document⟩ : Exchange) ∈ before ∧ etag = document.etag ∧
      ∀ (st : State) (call version : ℕ), st.calls call = some ⟨version, document.rows⟩ →
        st.eTag = some version → (Watchdog.step st (action call)).rows = rows

/-- What the machine knows of a database. -/
def Database.instance_ (db : Database) : Watchdog.Instance :=
  ⟨db.identifier, db.resource, db.masterUserSecret⟩

/-- A write whose version still matches goes through. -/
theorem rows_writeIfMatch {st : State} {version : ℕ} {read rows : List Entry}
    (h : st.eTag = some version) : (st.writeIfMatch ⟨version, read⟩ rows).rows = rows := by
  rw [State.writeIfMatch, if_pos h]
  rfl

/-- `rememberSecret` is the call of the machine with this secret. -/
theorem rememberSecret_refines (secret resource : String) :
    (rememberSecret secret resource).Guarded (Writes fun call => .remember call secret resource)
      (fun _ _ => True) (fun _ => True) [] := by
  refine guarded_call nofun trivial fun document => guarded_check trivial fun _ => ?_
  refine guarded_call ?_ trivial fun _ => ?_
  · rintro _ _ ⟨⟩
    refine ⟨document, List.mem_singleton_self _, rfl, fun st call version h_call h_version => ?_⟩
    rw [Watchdog.step, h_call]
    exact rows_writeIfMatch h_version
  · exact guarded_call nofun trivial fun _ => guarded_lastCheck trivial fun _ => trivial

/-- `register` is the call of the machine with both databases. -/
theorem register_refines {m : Manifest} {source remote : Database} {backup : Window}
    (h_control : source.identifier = m.control) : (register m source remote backup).Guarded
      (Writes fun call => .register call source.instance_ remote.instance_ backup.metadata.arn)
      (fun _ _ => True) (fun _ => True) [] := by
  have h_row (db : Database) : databaseRow db = ⟨"database", db.identifier,
      [("resource_id", .string db.resource),
        ("owner_secret", db.masterUserSecret.elim .null .string)]⟩ := by
    rw [databaseRow]
    cases db.masterUserSecret <;> rfl
  have h_rows : [databaseRow source, databaseRow remote, backupRow m source backup] =
      Watchdog.registerRows source.instance_ remote.instance_ backup.metadata.arn := by
    rw [h_row, h_row, backupRow, ← h_control]
    rfl
  refine guarded_call nofun trivial fun document => guarded_check trivial fun _ => ?_
  refine guarded_ofOption trivial fun merged h_merged => ?_
  refine guarded_lastCall (q := Question.putRegistry _ _) ?_ trivial fun _ => trivial
  rintro _ _ ⟨⟩
  refine ⟨document, List.mem_singleton_self _, rfl, fun st call version h_call h_version => ?_⟩
  rw [h_rows] at h_merged
  have h_step : Watchdog.step st (.register call source.instance_ remote.instance_
      backup.metadata.arn) = st.writeIfMatch ⟨version, document.rows⟩ (values merged) := by
    simp only [Watchdog.step, Watchdog.register, h_call, h_merged]
  rw [h_step]
  exact rows_writeIfMatch h_version

end ControlPlane.Rehearsal
