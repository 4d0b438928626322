import ControlPlane.Framework.Fallible
import ControlPlane.Model.Migration

/-!
# Migrations settle the schema

Releases with whatever scripts migrate a database one after another, among the other transactions,
and any transaction may fail. The first migration that commits makes the objects and records the
digests of its scripts. From then on neither changes: a migration whose scripts are other ones is
rolled back, and one with the same scripts makes nothing (`SchemaHistory`).
-/

namespace ControlPlane.Migration

open Framework

variable {db db' : Database} {release release' : Release} {known : Login → Bool} {c c' : Contents}

/-- A transaction that has come past a demand has met it. -/
theorem demand_bind_ok {α : Type} {test : Bool} {refusal : Refusal} {f : Unit → Except Refusal α}
    {a : α} : demand test refusal >>= f = .ok a ↔ test = true ∧ f () = .ok a := by
  cases test with
  | false => exact iff_of_false nofun fun h => Bool.false_ne_true h.1
  | true => exact ⟨fun h => ⟨rfl, h⟩, fun h => h.2⟩

/-! ### The steps of a migration -/

/-- A script changes the contents only. -/
theorem executeAll_ok {statements : List Statement} (h : db.executeAll statements = .ok db') :
    ∃ contents, executeAll db.known statements db.contents = .ok contents ∧
      db' = { db with contents } := by
  obtain ⟨contents, h_contents, h_same⟩ := bind_eq_ok.mp h
  exact ⟨contents, h_contents, (Except.ok.inj h_same).symm⟩

/-- A version that is recorded is compared, and one that is not is executed and recorded. -/
theorem applyVersion_ok {version : ℕ} {script : Script}
    (h : applyVersion version script db = .ok db') :
    (db.applied version = some (digest script.text) ∧ db' = db) ∨
      (db.applied version = none ∧ ∃ contents,
        executeAll db.known script.statements db.contents = .ok contents ∧
        db' = Database.record { db with contents } version (digest script.text)) := by
  unfold applyVersion at h
  split at h
  -- the version is there, and the script must be the one recorded
  next hash h_applied =>
    obtain ⟨h_hash, h_same⟩ := demand_bind_ok.mp h
    obtain rfl := of_decide_eq_true h_hash
    exact .inl ⟨h_applied, (Except.ok.inj h_same).symm⟩
  next h_applied =>
    obtain ⟨mid, h_mid, h_same⟩ := bind_eq_ok.mp h
    obtain ⟨contents, h_contents, rfl⟩ := executeAll_ok h_mid
    exact .inr ⟨h_applied, contents, h_contents, (Except.ok.inj h_same).symm⟩

/-- Inserting a policy keeps those that are there. -/
theorem insertPolicy_ok {policy : Policy} (h : db.insertPolicy policy = .ok db') :
    ∃ policies, db' = { db with policies } ∧ (policies.lookup (digest policy)).isSome ∧
      ∀ hash other, db.policies.lookup hash = some other → policies.lookup hash = some other := by
  obtain ⟨-, h_same⟩ := demand_bind_ok.mp h
  cases h_lookup : db.policies.lookup (digest policy) with
  -- `ON CONFLICT DO NOTHING`
  | some row =>
    rw [h_lookup] at h_same
    obtain rfl := Except.ok.inj h_same
    exact ⟨_, rfl, by rw [h_lookup]; rfl, fun _ _ h => h⟩
  | none =>
    rw [h_lookup] at h_same
    obtain rfl := Except.ok.inj h_same
    refine ⟨_, rfl, by rw [Table.lookup_insert_self]; rfl, fun hash other h_other => ?_⟩
    exact Table.lookup_insert_of_none h_lookup h_other

/-- The database with the table of the migrations. -/
def Database.ledger (db : Database) : Database :=
  { db with migrations := some (db.migrations.getD ∅) }

/-- The stages of a migration that is not refused. -/
structure Stages (release : Release) (db db₁ db₂ db₃ db₄ db₅ db' : Database) : Prop where
  plain : ∀ role ∈ application, db.plain role.text = true
  first : applyVersion 1 release.schema db.ledger = .ok db₁
  second : applyVersion 2 release.capacity db₁ = .ok db₂
  granted : db₂.executeAll (capacityGrants db₂.known) = .ok db₃
  third : applyVersion 3 release.recovery db₃ = .ok db₄
  opened : db₄.executeAll (executionGrants db₄.known) = .ok db₅
  last : db₅.insertPolicy release.policy = .ok db'

/-- A migration that commits has gone through all of its stages. -/
theorem migrate_ok (h : migrate release db = .ok db') :
    ∃ db₁ db₂ db₃ db₄ db₅, Stages release db db₁ db₂ db₃ db₄ db₅ db' := by
  obtain ⟨h_roles, h⟩ := demand_bind_ok.mp h
  obtain ⟨h_members, h⟩ := demand_bind_ok.mp h
  obtain ⟨db₁, h_first, h⟩ := bind_eq_ok.mp h
  obtain ⟨db₂, h_second, h⟩ := bind_eq_ok.mp h
  obtain ⟨db₃, h_granted, h⟩ := bind_eq_ok.mp h
  obtain ⟨db₄, h_third, h⟩ := bind_eq_ok.mp h
  obtain ⟨db₅, h_opened, h_last⟩ := bind_eq_ok.mp h
  refine ⟨db₁, db₂, db₃, db₄, db₅, ?_, h_first, h_second, h_granted, h_third, h_opened, h_last⟩
  -- the two tests on the application roles come to `plain`
  intro role h_role
  rw [Bool.not_eq_true', List.any_eq_false] at h_members
  unfold Database.plain
  rw [List.all_eq_true.mp h_roles role h_role, Bool.true_and, Bool.not_eq_true']
  exact Bool.eq_false_iff.mpr (h_members role h_role)

/-! ### Statements that grant -/

/-- The statement is a `GRANT` or a `REVOKE`. -/
def Statement.privileges : Statement → Bool
  | grant _ _ _ | revoke _ _ _ => true
  | _ => false

/-- Privileges change no object. -/
theorem execute_objects {statement : Statement} (h_statement : statement.privileges = true)
    (h : execute known c statement = .ok c') : c'.objects = c.objects := by
  cases statement with
  | grant rights target logins =>
    obtain ⟨objects, -, h⟩ := bind_eq_ok.mp h
    obtain ⟨-, h⟩ := demand_bind_ok.mp h
    obtain rfl := Except.ok.inj h
    rfl
  | revoke rights target grantees =>
    obtain ⟨objects, -, h⟩ := bind_eq_ok.mp h
    obtain ⟨-, h⟩ := demand_bind_ok.mp h
    obtain rfl := Except.ok.inj h
    rfl
  | createSchema | createTable | createFunction | createTrigger | createTriggers | insertGate =>
    exact absurd h_statement Bool.false_ne_true

/-- The schema is the same, and so is its record. -/
structure Keeps (db db' : Database) : Prop where
  objects : db'.contents.objects = db.contents.objects
  migrations : db'.migrations = db.migrations
  policies : db'.policies = db.policies

/-- Nothing has changed. -/
theorem Keeps.refl (db : Database) : Keeps db db := ⟨rfl, rfl, rfl⟩

/-- Nothing has changed twice. -/
theorem Keeps.trans {db'' : Database} (h : Keeps db db') (h' : Keeps db' db'') : Keeps db db'' :=
  ⟨h'.objects.trans h.objects, h'.migrations.trans h.migrations, h'.policies.trans h.policies⟩

/-- A script of privileges makes no object. -/
theorem executeAll_keeps {statements : List Statement}
    (h_statements : statements.all Statement.privileges = true)
    (h : db.executeAll statements = .ok db') : Keeps db db' := by
  obtain ⟨contents, h_contents, rfl⟩ := executeAll_ok h
  refine ⟨?_, rfl, rfl⟩
  -- what is left are privileges, and the objects so far are the same
  refine (foldlM_ok (I := fun rest c => rest.all Statement.privileges = true ∧
    c.objects = db.contents.objects) ?_ ⟨h_statements, rfl⟩ h_contents).2
  rintro statement rest c c' ⟨h_rest, h_objects⟩ h_step
  obtain ⟨h_statement, h_rest⟩ := (Bool.and_eq_true _ _).mp h_rest
  exact ⟨h_rest, (execute_objects h_statement h_step).trans h_objects⟩

/-- What is granted is at most what is granted where all roles are there. -/
theorem capacityGrants_subset (known : Login → Bool) :
    capacityGrants known ⊆ capacityGrants fun _ => true := by
  refine List.Sublist.subset ((List.Sublist.append ?_ ?_).append ?_)
  · exact List.Sublist.map _ List.filter_sublist
  · split
    · exact List.Sublist.refl _
    · exact List.nil_sublist _
  · split
    · exact List.Sublist.refl _
    · exact List.nil_sublist _

/-- The grants on the gate function are those for all roles, less the roles that are not there. -/
theorem executionGrants_subset (known : Login → Bool) :
    executionGrants known ⊆ executionGrants fun _ => true :=
  (List.Sublist.map _ List.filter_sublist).subset

/-- What holds of all holds of some. -/
theorem all_of_subset {α : Type} {P : α → Bool} {as bs : List α} (h : as ⊆ bs)
    (h_all : bs.all P = true) : as.all P = true :=
  List.all_eq_true.mpr fun a h_a => List.all_eq_true.mp h_all a (h h_a)

/-- `capacity.grants` makes no object. -/
theorem capacityGrants_keeps (h : db.executeAll (capacityGrants db.known) = .ok db') :
    Keeps db db' :=
  executeAll_keeps (all_of_subset (capacityGrants_subset _) (by decide)) h

/-- The grants on the gate function make no object. -/
theorem executionGrants_keeps (h : db.executeAll (executionGrants db.known) = .ok db') :
    Keeps db db' :=
  executeAll_keeps (all_of_subset (executionGrants_subset _) (by decide)) h

/-! ### What is recorded -/

/-- The digests of the scripts of the release are recorded. -/
structure Recorded (release : Release) (db : Database) : Prop where
  schema : db.applied 1 = some (digest release.schema.text)
  capacity : db.applied 2 = some (digest release.capacity.text)
  recovery : db.applied 3 = some (digest release.recovery.text)

/-- The scripts have the same texts. -/
structure SameScripts (release release' : Release) : Prop where
  schema : release.schema.text = release'.schema.text
  capacity : release.capacity.text = release'.capacity.text
  recovery : release.recovery.text = release'.recovery.text

/-- Two releases that are recorded have the same scripts. -/
theorem Recorded.same (h : Recorded release db) (h' : Recorded release' db) :
    SameScripts release release' where
  schema := digest_inj.mp (Option.some.inj (h.schema.symm.trans h'.schema))
  capacity := digest_inj.mp (Option.some.inj (h.capacity.symm.trans h'.capacity))
  recovery := digest_inj.mp (Option.some.inj (h.recovery.symm.trans h'.recovery))

/-- What is recorded is in the table of migrations. -/
theorem Recorded.congr (h : Recorded release db) (h_same : db'.migrations = db.migrations) :
    Recorded release db' := by
  have h_applied (version : ℕ) : db'.applied version = db.applied version := by
    unfold Database.applied
    rw [h_same]
  exact ⟨(h_applied 1).trans h.schema, (h_applied 2).trans h.capacity,
    (h_applied 3).trans h.recovery⟩

/-- Making the table of migrations keeps what is applied. -/
@[simp] theorem applied_ledger (version : ℕ) : db.ledger.applied version = db.applied version := by
  unfold Database.applied Database.ledger
  cases db.migrations with
  | none => rfl
  | some migrations => rfl

/-- After a version was applied it is recorded, and the others are as they were. -/
theorem applied_of_applyVersion {version : ℕ} {script : Script}
    (h : applyVersion version script db = .ok db') (h_table : db.migrations.isSome) :
    db'.migrations.isSome ∧ db'.applied version = some (digest script.text) ∧
      ∀ other, other ≠ version → db'.applied other = db.applied other := by
  rcases applyVersion_ok h with ⟨h_applied, rfl⟩ | ⟨-, contents, -, rfl⟩
  · exact ⟨h_table, h_applied, fun _ _ => rfl⟩
  obtain ⟨migrations, h_migrations⟩ := Option.isSome_iff_exists.mp h_table
  unfold Database.applied Database.record
  rw [h_migrations]
  refine ⟨rfl, ?_, fun other h_other => ?_⟩
  · exact Table.lookup_insert_self migrations version (digest script.text)
  · exact Table.lookup_insert_of_ne migrations _ h_other

/-- A version that is recorded changes nothing. -/
theorem applyVersion_recorded {version : ℕ} {script : Script} {hash : Digest String}
    (h : applyVersion version script db = .ok db') (h_applied : db.applied version = some hash) :
    db' = db := by
  rcases applyVersion_ok h with ⟨-, h_same⟩ | ⟨h_none, -⟩
  · exact h_same
  · rw [h_none] at h_applied
    cases h_applied

/-- A migration that commits is recorded. -/
theorem migrate_records (h : migrate release db = .ok db') : Recorded release db' := by
  obtain ⟨db₁, db₂, db₃, db₄, db₅, h_stages⟩ := migrate_ok h
  obtain ⟨h_table₁, h_one, -⟩ := applied_of_applyVersion h_stages.first rfl
  obtain ⟨h_table₂, h_two, h_keep₂⟩ := applied_of_applyVersion h_stages.second h_table₁
  have h_same₃ : db₃.migrations = db₂.migrations :=
    (capacityGrants_keeps h_stages.granted).migrations
  have h_applied₃ (version : ℕ) : db₃.applied version = db₂.applied version := by
    unfold Database.applied
    rw [h_same₃]
  obtain ⟨-, h_three, h_keep₄⟩ := applied_of_applyVersion h_stages.third (h_same₃ ▸ h_table₂)
  -- each version was recorded by its own stage and kept by the later ones
  have h_recorded : Recorded release db₄ := by
    refine ⟨?_, ?_, h_three⟩
    · rw [h_keep₄ 1 (by decide), h_applied₃, h_keep₂ 1 (by decide), h_one]
    · rw [h_keep₄ 2 (by decide), h_applied₃, h_two]
  have h_recorded₅ := h_recorded.congr (executionGrants_keeps h_stages.opened).migrations
  obtain ⟨policies, rfl, -⟩ := insertPolicy_ok h_stages.last
  exact h_recorded₅.congr rfl

/-- Behind a migration the next one makes nothing. -/
theorem migrate_again (h_recorded : Recorded release db) (h : migrate release' db = .ok db') :
    Recorded release db' ∧ db'.contents.objects = db.contents.objects := by
  obtain ⟨db₁, db₂, db₃, db₄, db₅, h_stages⟩ := migrate_ok h
  have h_ledger : Recorded release db.ledger :=
    ⟨by simp [h_recorded.schema], by simp [h_recorded.capacity], by simp [h_recorded.recovery]⟩
  -- none of the three scripts is executed
  obtain rfl := applyVersion_recorded h_stages.first h_ledger.schema
  obtain rfl := applyVersion_recorded h_stages.second h_ledger.capacity
  have h_granted := capacityGrants_keeps h_stages.granted
  have h_recorded₃ := h_ledger.congr h_granted.migrations
  obtain rfl := applyVersion_recorded h_stages.third h_recorded₃.recovery
  have h_opened := executionGrants_keeps h_stages.opened
  have h_recorded₅ := h_recorded₃.congr h_opened.migrations
  obtain ⟨policies, rfl, -⟩ := insertPolicy_ok h_stages.last
  exact ⟨h_recorded₅.congr rfl, h_opened.objects.trans h_granted.objects⟩

/-- Policies are only added. -/
theorem migrate_policies (h : migrate release db = .ok db') :
    (db'.policies.lookup (digest release.policy)).isSome ∧ ∀ hash policy,
      db.policies.lookup hash = some policy → db'.policies.lookup hash = some policy := by
  obtain ⟨db₁, db₂, db₃, db₄, db₅, h_stages⟩ := migrate_ok h
  have h_apply {version : ℕ} {script : Script} {db db' : Database}
      (h : applyVersion version script db = .ok db') : db'.policies = db.policies := by
    rcases applyVersion_ok h with ⟨-, rfl⟩ | ⟨-, contents, -, rfl⟩
    · rfl
    · rfl
  -- the stages before the last one leave the policies alone
  have h_same : db₅.policies = db.policies := by
    rw [(executionGrants_keeps h_stages.opened).policies, h_apply h_stages.third,
      (capacityGrants_keeps h_stages.granted).policies, h_apply h_stages.second,
      h_apply h_stages.first]
    rfl
  obtain ⟨policies, rfl, h_some, h_keep⟩ := insertPolicy_ok h_stages.last
  exact ⟨h_some, fun hash policy h_policy => h_keep hash policy (h_same ▸ h_policy)⟩

/-! ### The other transactions -/

/-- Setting up a role keeps the schema. -/
theorem role_keeps {login : String × String} (h : role db login = .ok db') : Keeps db db' := by
  obtain ⟨-, h⟩ := demand_bind_ok.mp h
  have h_create : Keeps db (db.createRole login.1) := by
    unfold Database.createRole
    split
    · exact .refl db
    · exact ⟨rfl, rfl, rfl⟩
  -- the role exists by now, and its password is set
  split at h
  · cases h
  · obtain rfl := Except.ok.inj h
    exact h_create.trans ⟨rfl, rfl, rfl⟩

/-- Closing a login keeps the schema. -/
theorem nologin_keeps {role : Login} (h : nologin db role = .ok db') : Keeps db db' := by
  unfold nologin at h
  split at h
  · cases h
  · obtain rfl := Except.ok.inj h
    exact ⟨rfl, rfl, rfl⟩

/-- Only migrations change the schema. -/
theorem perform_keeps {operation : Operation} (h_other : ∀ release, operation ≠ .migrate release)
    (h : operation.perform db = .ok db') : Keeps db db' := by
  cases operation with
  | migrate release => exact absurd rfl (h_other release)
  | provision logins =>
    -- one role after the other
    refine foldlM_ok (I := fun _ => Keeps db) ?_ (.refl db) h
    exact fun login rest mid mid' h_mid h_turn => h_mid.trans (role_keeps h_turn)
  | close roles =>
    refine foldlM_ok (I := fun _ => Keeps db) ?_ (.refl db) h
    exact fun role rest mid mid' h_mid h_turn => h_mid.trans (nologin_keeps h_turn)
  | controlGrants => exact executeAll_keeps (by decide) h
  | remoteGrants => exact executeAll_keeps (by decide) h
  | recoveryGrants => exact executeAll_keeps (by decide) h

/-! ### Runs -/

variable {entry : Entry} {entries : List Entry}

/-- What is committed is what the operation leaves behind. -/
theorem commits_eq_some (h : entry.commits db = some db') :
    entry.operation.perform db = .ok db' := by
  unfold Entry.commits at h
  split at h
  · cases h_perform : entry.operation.perform db with
    | error refusal =>
      rw [h_perform] at h
      cases h
    | ok result =>
      rw [h_perform] at h
      exact congrArg _ (Option.some.inj h)
  · cases h

/-- A transaction commits its operation, or is rolled back. -/
theorem step_cases (db : Database) (entry : Entry) :
    (∃ db', entry.commits db = some db' ∧ entry.operation.perform db = .ok db' ∧
      db.step entry = db') ∨ (entry.commits db = none ∧ db.step entry = db) := by
  unfold Database.step
  cases h_commits : entry.commits db with
  | none => exact .inr ⟨rfl, rfl⟩
  | some db' => exact .inl ⟨db', rfl, commits_eq_some h_commits, rfl⟩

/-- The transaction commits the migration to the release. -/
def Migrates (db : Database) (entry : Entry) (release : Release) : Prop :=
  entry.operation = .migrate release ∧ (entry.commits db).isSome

/-- A step that commits a migration is the migration. -/
theorem step_migrates (h : Migrates db entry release) :
    migrate release db = .ok (db.step entry) := by
  obtain ⟨h_operation, h_commits⟩ := h
  rcases step_cases db entry with ⟨db', -, h_perform, h_step⟩ | ⟨h_none, -⟩
  · rw [h_operation] at h_perform
    rw [h_step]
    exact h_perform
  · rw [h_none] at h_commits
    cases h_commits

/-- Any other step keeps the schema. -/
theorem step_keeps (h : ∀ release, ¬ Migrates db entry release) : Keeps db (db.step entry) := by
  rcases step_cases db entry with ⟨db', h_commits, h_perform, h_step⟩ | ⟨-, h_step⟩
  · rw [h_step]
    refine perform_keeps (fun release h_operation => h release ⟨h_operation, ?_⟩) h_perform
    rw [h_commits]
    rfl
  · rw [h_step]
    exact .refl db

/-- A recorded release stays recorded, and no object changes. -/
theorem step_recorded (h : Recorded release db) :
    Recorded release (db.step entry) ∧
      (db.step entry).contents.objects = db.contents.objects := by
  by_cases h_migrates : ∃ release', Migrates db entry release'
  · obtain ⟨release', h_migrates⟩ := h_migrates
    exact migrate_again h (step_migrates h_migrates)
  -- any other transaction keeps all of it
  · have h_keeps := step_keeps (not_exists.mp h_migrates)
    exact ⟨h.congr h_keeps.migrations, h_keeps.objects⟩

/-- A policy stays as it is. -/
theorem step_policies {hash : Digest Policy} {policy : Policy}
    (h : db.policies.lookup hash = some policy) :
    (db.step entry).policies.lookup hash = some policy := by
  by_cases h_migrates : ∃ release, Migrates db entry release
  · obtain ⟨release, h_migrates⟩ := h_migrates
    exact (migrate_policies (step_migrates h_migrates)).2 hash policy h
  · rw [(step_keeps (not_exists.mp h_migrates)).policies, h]

/-- Behind a committed migration the record and the objects stay. -/
theorem run_recorded (h : Recorded release db) (entries : List Entry) :
    Recorded release (db.run entries) ∧
      (db.run entries).contents.objects = db.contents.objects :=
  run_invariant (I := fun s => Recorded release s ∧ s.contents.objects = db.contents.objects)
    ⟨h, rfl⟩ (fun _ _ h_s => ⟨(step_recorded h_s.1).1, (step_recorded h_s.1).2.trans h_s.2⟩) entries

/-- What holds of the schema in a run of transactions. -/
structure SchemaHistory (db : Database) (entries : List Entry) : Prop where
  /-- Without a committed migration nothing is made or recorded. -/
  untouched : (∀ pre entry post, entries = pre ++ entry :: post → ∀ release,
    ¬ Migrates (db.run pre) entry release) → Keeps db (db.run entries)
  /-- After a committed migration its scripts are recorded, and the objects stay as they are. -/
  settled : ∀ pre entry post release, entries = pre ++ entry :: post →
    Migrates (db.run pre) entry release → Recorded release (db.run entries) ∧
      (db.run entries).contents.objects = ((db.run pre).step entry).contents.objects ∧
      ((db.run entries).policies.lookup (digest release.policy)).isSome
  /-- Behind it a migration makes nothing, and all that commit have its scripts. -/
  agrees : ∀ pre entry mid entry' post release release',
    entries = pre ++ entry :: mid ++ entry' :: post → Migrates (db.run pre) entry release →
    Migrates (db.run (pre ++ entry :: mid)) entry' release' → SameScripts release release' ∧
      ((db.run (pre ++ entry :: mid)).step entry').contents.objects =
        (db.run (pre ++ entry :: mid)).contents.objects
  /-- No policy is changed or removed. -/
  policies : ∀ pre hash policy, pre <+: entries →
    (db.run pre).policies.lookup hash = some policy →
    (db.run entries).policies.lookup hash = some policy

/-- Behind a committed migration its scripts stay recorded, its objects stay, and its policy is
there. -/
theorem run_settled {pre post : List Entry} (h : Migrates (db.run pre) entry release) :
    Recorded release (db.run (pre ++ entry :: post)) ∧
      (db.run (pre ++ entry :: post)).contents.objects =
        ((db.run pre).step entry).contents.objects ∧
      ((db.run (pre ++ entry :: post)).policies.lookup (digest release.policy)).isSome := by
  have h_migrate := step_migrates h
  -- what the migration has committed, and then the rest of the run
  have h_run : db.run (pre ++ entry :: post) = ((db.run pre).step entry).run post := by
    rw [Database.run, run_append, run_cons]
  obtain ⟨h_recorded, h_objects⟩ := run_recorded (migrate_records h_migrate) post
  obtain ⟨policy, h_policy⟩ := Option.isSome_iff_exists.mp (migrate_policies h_migrate).1
  have h_kept : (((db.run pre).step entry).run post).policies.lookup (digest release.policy) =
      some policy :=
    run_invariant (I := fun s : Database => s.policies.lookup (digest release.policy) = some policy)
      h_policy (fun _ _ => step_policies) post
  rw [h_run]
  exact ⟨h_recorded, h_objects, by rw [h_kept]; rfl⟩

/-- **Migrations settle the schema.** -/
theorem run_schemaHistory (db : Database) (entries : List Entry) : SchemaHistory db entries := by
  refine ⟨fun h_none => ?_, ?_, ?_, ?_⟩
  · induction entries using List.reverseRecOn with
    | nil => exact .refl db
    | append_singleton entries entry ih =>
      rw [Database.run, run_concat]
      -- no transaction of a shorter run commits one either
      have h_before := ih fun pre entry' post h_split => h_none pre entry' (post ++ [entry])
        (by simp [h_split])
      exact h_before.trans (step_keeps (h_none entries entry [] rfl))
  · rintro pre entry post release rfl h_migrates
    exact run_settled h_migrates
  · rintro pre entry mid entry' post release release' - h_first h_second
    have h_recorded : Recorded release (db.run (pre ++ entry :: mid)) := (run_settled h_first).1
    -- the later migration finds the record of the first one
    obtain ⟨h_again, h_objects⟩ := migrate_again h_recorded (step_migrates h_second)
    exact ⟨h_again.same (migrate_records (step_migrates h_second)), h_objects⟩
  · intro pre hash policy h_pre h_policy
    exact run_stable (P := fun s : Database => s.policies.lookup hash = some policy)
      (fun _ _ => step_policies) h_pre h_policy

end ControlPlane.Migration
