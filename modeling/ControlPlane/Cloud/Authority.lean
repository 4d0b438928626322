import ControlPlane.Cloud.Migration

/-!
# Least authority

`Grant.permitted` is the authority that the services are meant to have. In every run of the
transactions on a fresh database, migrated with the scripts of the source, no role has more
(`LeastAuthority`): history is not rewritten, the two databases are kept apart, nobody but the
owner changes the registry, and nobody but the owner and the recovery coordinator changes what is
recorded of a recovery. `schema.sql` grants more than that, and takes it back before it ends, so
that this holds between transactions only.
-/

namespace ControlPlane.Migration

open Framework

variable {db db' : Database} {release : Release} {known : Login → Bool} {c c' : Contents}

/-! ### The authority of the roles -/

/-- All tables. -/
def Relation.all : List Relation :=
  [.policies, .customers, .identities, .events, .proposals, .jobs, .exceptions, .audit, .effects,
    .plans, .destinations, .destinationRoutes, .jobRoutes, .capacityState, .requestPermits,
    .capacityRequests, .capacityCompletions, .recoverySessions, .recoveryProofs, .recoveryGate]

/-- None is missing. -/
theorem Relation.mem_all (table : Relation) : table ∈ all := by
  cases table <;> decide

/-- The tables of the recovery coordinator. -/
def Relation.recovery : List Relation := [.recoverySessions, .recoveryProofs, .recoveryGate]

/-- The schema in which the role works. -/
def Login.home : Login → Schema
  | syntheticRemote | remoteAudit => .remote
  | _ => .cp

/-- The tables that the role may read. -/
def Login.reads (login : Login) : List Relation :=
  match login with
  | app => Relation.all.filter fun table => table.schema = .cp && table ∉ Relation.recovery
  | api | worker | audit | recovery => Relation.all.filter (·.schema = .cp)
  | syntheticRemote => [.effects, .plans]
  | remoteAudit => [.effects]
  | observer => [.jobs]

/-- The tables to which the role may write so. -/
def Login.writes : Login → Right → List Relation
  | api, .insert => [.customers, .identities, .proposals, .jobs, .exceptions, .events, .audit,
      .jobRoutes]
  | api, .update => [.customers, .identities, .proposals, .jobs, .exceptions]
  | worker, .insert => [.audit, .exceptions, .capacityState, .requestPermits, .capacityRequests,
      .capacityCompletions]
  | worker, .update => [.jobs, .capacityState]
  | worker, .delete => [.requestPermits]
  -- the login of both services where they run locally
  | app, .insert => [.customers, .identities, .proposals, .jobs, .exceptions, .events, .audit,
      .jobRoutes, .capacityState, .requestPermits, .capacityRequests, .capacityCompletions]
  | app, .update => [.customers, .identities, .proposals, .jobs, .exceptions, .capacityState]
  | app, .delete => [.requestPermits]
  | syntheticRemote, .insert => [.effects, .plans]
  | syntheticRemote, .update => [.plans]
  | recovery, .insert => [.recoverySessions, .recoveryProofs]
  | _, _ => []

/-- The columns that the role may update, of tables that it may not. -/
def Login.columns : Login → Relation → List String
  | worker, .customers => ["revision"]
  | recovery, .recoveryGate => ["mode", "epoch", "session_id", "approved_proof", "approved_at"]
  | recovery, .recoverySessions => ["status"]
  | _, _ => []

/-- The tables on which a role may have a right. -/
def Login.tables (login : Login) : Right → List Relation
  | .select => login.reads
  | right => login.writes right

/-- The roles that carry out intents. -/
def executors : List Login := [.app, .api, .worker]

/-- The grant is within the authority of its grantee. -/
def Grant.permitted : Grant → Bool
  | ⟨.login login, right, .table table⟩ => table ∈ login.tables right
  | ⟨.login login, right, .column table column⟩ =>
    right = .update && column ∈ login.columns table
  | ⟨.login login, right, .schema schema⟩ => right = .usage && schema = login.home
  | ⟨.login login, right, .sequence _⟩ => login ∈ executors && (right = .usage || right = .select)
  | ⟨.login login, right, .function function⟩ =>
    login ∈ executors && right = .execute && function = .executionOpen
  | ⟨.everyone, right, .function function⟩ => right = .execute && function ≠ .executionOpen
  | ⟨.everyone, right, .schema schema⟩ => right = .usage && schema = .common
  | ⟨.everyone, _, _⟩ => false

/-! ### Statements that keep a bound -/

/-- All objects that the target can ever have. -/
def Target.cover : Target → List Object
  | .schemas names => names.map .schema
  | .tables names => names.map .table
  | .columns table names => names.map (.column table)
  | .allTables schema => (Relation.all.filter (·.schema = schema)).map .table
  | .allSequences schema =>
    (Relation.all.filter fun table => table.schema = schema && table.identity).map .sequence
  | .function name => [.function name]

/-- What a target stands for is among what it may stand for. -/
theorem find_subset {objects : Objects} {target : Target} {found : List Object}
    (h : objects.find target = some found) : found ⊆ target.cover := by
  cases target with
  | schemas | tables | columns | function =>
    obtain ⟨-, h_found⟩ := Option.ite_none_right_eq_some.mp h
    obtain rfl := Option.some.inj h_found
    exact List.Subset.refl _
  | allTables | allSequences =>
    obtain ⟨-, h_found⟩ := Option.ite_none_right_eq_some.mp h
    obtain rfl := Option.some.inj h_found
    -- what is there is among all tables
    refine List.map_subset _ fun table h_table => ?_
    exact List.mem_filter.mpr ⟨table.mem_all, (List.mem_filter.mp h_table).2⟩

variable {P : Grant → Bool}

/-- The statement grants nothing else than this. -/
def Statement.within (P : Grant → Bool) : Statement → Bool
  | createFunction function => P ⟨.everyone, .execute, .function function⟩
  | grant rights target logins =>
    (logins.flatMap (every rights target.cover <| .login ·)).all P
  | _ => true

/-- More objects, more grants. -/
theorem every_subset {rights : List Right} {objects objects' : List Object} {grantee : Grantee}
    (h : objects ⊆ objects') : every rights objects grantee ⊆ every rights objects' grantee := by
  intro grant h_mem
  obtain ⟨object, h_object, h_grant⟩ := List.mem_flatMap.mp h_mem
  exact List.mem_flatMap.mpr ⟨object, h h_object, h_grant⟩

/-- A statement within a bound keeps the grants within it. -/
theorem execute_within {statement : Statement} (h_statement : statement.within P = true)
    (h_before : c.grants.all P = true) (h : execute known c statement = .ok c') :
    c'.grants.all P = true := by
  cases statement with
  | createSchema =>
    obtain ⟨-, h⟩ := demand_bind_ok.mp h
    exact Except.ok.inj h ▸ h_before
  | createTable =>
    obtain ⟨-, h⟩ := demand_bind_ok.mp h
    obtain ⟨-, h⟩ := demand_bind_ok.mp h
    exact Except.ok.inj h ▸ h_before
  -- a new function may be executed by everyone
  | createFunction function =>
    obtain ⟨-, h⟩ := demand_bind_ok.mp h
    obtain rfl := Except.ok.inj h
    rw [List.all_append, h_before, Bool.true_and, List.all_cons, List.all_nil, Bool.and_true]
    exact h_statement
  | createTrigger =>
    obtain ⟨objects, -, h⟩ := bind_eq_ok.mp h
    exact Except.ok.inj h ▸ h_before
  | createTriggers =>
    obtain ⟨objects, -, h⟩ := bind_eq_ok.mp h
    exact Except.ok.inj h ▸ h_before
  | insertGate =>
    obtain ⟨-, h⟩ := demand_bind_ok.mp h
    obtain ⟨-, h⟩ := demand_bind_ok.mp h
    exact Except.ok.inj h ▸ h_before
  | grant rights target logins =>
    obtain ⟨objects, h_objects, h⟩ := bind_eq_ok.mp h
    obtain ⟨-, h⟩ := demand_bind_ok.mp h
    obtain rfl := Except.ok.inj h
    rw [List.all_append, h_before, Bool.true_and]
    refine all_of_subset (fun grant h_mem => ?_) h_statement
    obtain ⟨login, h_login, h_grant⟩ := List.mem_flatMap.mp h_mem
    -- the privileges are on objects that the target names
    have h_found : c.objects.find target = some objects := by
      unfold found at h_objects
      split at h_objects
      next objects' h_find => rw [h_find, Except.ok.inj h_objects]
      next => cases h_objects
    exact List.mem_flatMap.mpr ⟨login, h_login, every_subset (find_subset h_found) h_grant⟩
  -- what is left was there before
  | revoke rights target grantees =>
    obtain ⟨objects, -, h⟩ := bind_eq_ok.mp h
    obtain ⟨-, h⟩ := demand_bind_ok.mp h
    obtain rfl := Except.ok.inj h
    exact all_of_subset (List.filter_subset_self _) h_before

/-- So do statements one after the other. -/
theorem executeAll_within {statements : List Statement}
    (h_statements : statements.all (Statement.within P) = true) (h_before : c.grants.all P = true)
    (h : executeAll known statements c = .ok c') : c'.grants.all P = true := by
  -- the statements that are left stay within, and so do the grants so far
  refine (foldlM_ok (I := fun rest c => rest.all (Statement.within P) = true ∧
    c.grants.all P = true) ?_ ⟨h_statements, h_before⟩ h).2
  rintro statement rest c c' ⟨h_rest, h_grants⟩ h_step
  obtain ⟨h_statement, h_rest⟩ := (Bool.and_eq_true _ _).mp h_rest
  exact ⟨h_rest, execute_within h_statement h_grants h_step⟩

/-! ### Statements where all roles are there -/

/-- What a database does that misses a role, it does with all of them too. -/
theorem execute_known {statement : Statement} (h : execute known c statement = .ok c') :
    execute (fun _ => true) c statement = .ok c' := by
  cases statement with
  | grant rights target logins =>
    obtain ⟨objects, h_objects, h⟩ := bind_eq_ok.mp h
    obtain ⟨-, h⟩ := demand_bind_ok.mp h
    refine bind_eq_ok.mpr ⟨objects, h_objects, demand_bind_ok.mpr ⟨?_, h⟩⟩
    exact List.all_eq_true.mpr fun _ _ => rfl
  | revoke rights target grantees =>
    obtain ⟨objects, h_objects, h⟩ := bind_eq_ok.mp h
    obtain ⟨-, h⟩ := demand_bind_ok.mp h
    refine bind_eq_ok.mpr ⟨objects, h_objects, demand_bind_ok.mpr ⟨?_, h⟩⟩
    -- a role is there, and `PUBLIC` always is
    refine List.all_eq_true.mpr fun grantee _ => ?_
    cases grantee <;> rfl
  | createSchema | createTable | createFunction | createTrigger | createTriggers | insertGate =>
    exact h

/-- The effect of a script does not depend on which roles there are, as long as it succeeds. -/
theorem executeAll_known {statements : List Statement}
    (h : executeAll known statements c = .ok c') :
    executeAll (fun _ => true) statements c = .ok c' := by
  induction statements generalizing c with
  | nil => exact h
  | cons statement statements ih =>
    obtain ⟨mid, h_mid, h_rest⟩ := bind_eq_ok.mp h
    exact bind_eq_ok.mpr ⟨mid, execute_known h_mid, ih h_rest⟩

/-- Objects are made whatever is granted. -/
theorem execute_frame {statement : Statement} (h : execute known c statement = .ok c')
    (grants : List Grant) :
    ∃ grants', execute known ⟨c.objects, grants⟩ statement = .ok ⟨c'.objects, grants'⟩ := by
  -- the tests of a statement are on objects and roles
  cases statement with
  | createSchema schema =>
    obtain ⟨h_new, h⟩ := demand_bind_ok.mp h
    obtain rfl := Except.ok.inj h
    exact ⟨grants, demand_bind_ok.mpr ⟨h_new, rfl⟩⟩
  | createTable table references =>
    obtain ⟨h_there, h⟩ := demand_bind_ok.mp h
    obtain ⟨h_new, h⟩ := demand_bind_ok.mp h
    obtain rfl := Except.ok.inj h
    exact ⟨grants, demand_bind_ok.mpr ⟨h_there, demand_bind_ok.mpr ⟨h_new, rfl⟩⟩⟩
  | createFunction function =>
    obtain ⟨h_new, h⟩ := demand_bind_ok.mp h
    obtain rfl := Except.ok.inj h
    exact ⟨_, demand_bind_ok.mpr ⟨h_new, rfl⟩⟩
  | createTrigger trigger =>
    obtain ⟨objects, h_objects, h⟩ := bind_eq_ok.mp h
    obtain rfl := Except.ok.inj h
    exact ⟨grants, bind_eq_ok.mpr ⟨objects, h_objects, rfl⟩⟩
  | createTriggers name events schema without function =>
    obtain ⟨objects, h_objects, h⟩ := bind_eq_ok.mp h
    obtain rfl := Except.ok.inj h
    exact ⟨grants, bind_eq_ok.mpr ⟨objects, h_objects, rfl⟩⟩
  | insertGate =>
    obtain ⟨h_there, h⟩ := demand_bind_ok.mp h
    obtain ⟨h_new, h⟩ := demand_bind_ok.mp h
    obtain rfl := Except.ok.inj h
    exact ⟨grants, demand_bind_ok.mpr ⟨h_there, demand_bind_ok.mpr ⟨h_new, rfl⟩⟩⟩
  | grant rights target logins =>
    obtain ⟨objects, h_objects, h⟩ := bind_eq_ok.mp h
    obtain ⟨h_known, h⟩ := demand_bind_ok.mp h
    obtain rfl := Except.ok.inj h
    exact ⟨_, bind_eq_ok.mpr ⟨objects, h_objects, demand_bind_ok.mpr ⟨h_known, rfl⟩⟩⟩
  | revoke rights target grantees =>
    obtain ⟨objects, h_objects, h⟩ := bind_eq_ok.mp h
    obtain ⟨h_known, h⟩ := demand_bind_ok.mp h
    obtain rfl := Except.ok.inj h
    exact ⟨_, bind_eq_ok.mpr ⟨objects, h_objects, demand_bind_ok.mpr ⟨h_known, rfl⟩⟩⟩

/-- The objects that a script makes do not depend on the grants. -/
theorem executeAll_frame {statements : List Statement}
    (h : executeAll known statements c = .ok c') (grants : List Grant) :
    ∃ grants', executeAll known statements ⟨c.objects, grants⟩ = .ok ⟨c'.objects, grants'⟩ := by
  induction statements generalizing c grants with
  | nil =>
    obtain rfl := Except.ok.inj h
    exact ⟨grants, rfl⟩
  | cons statement statements ih =>
    obtain ⟨mid, h_mid, h_rest⟩ := bind_eq_ok.mp h
    obtain ⟨grants₁, h_mid'⟩ := execute_frame h_mid grants
    obtain ⟨grants₂, h_rest'⟩ := ih h_rest grants₁
    exact ⟨grants₂, bind_eq_ok.mpr ⟨_, h_mid', h_rest'⟩⟩

/-- Two scripts, one after the other, are one. -/
theorem executeAll_append {statements statements' : List Statement} {mid : Contents}
    (h : executeAll known statements c = .ok mid) (h' : executeAll known statements' mid = .ok c') :
    executeAll known (statements ++ statements') c = .ok c' := by
  unfold executeAll
  rw [List.foldlM_append]
  exact bind_eq_ok.mpr ⟨mid, h, h'⟩

/-! ### The scripts of the source -/

/-- The contents of a database in which nothing was made. -/
def blank : Contents where
  objects := ⟨[.common], [], [], [], 0⟩
  grants := [⟨.everyone, .usage, .schema .common⟩]

/-- The tables whose rows are history. -/
def Relation.histories : List Relation :=
  [.policies, .audit, .capacityRequests, .capacityCompletions, .destinations, .jobRoutes,
    .recoveryProofs]

/-- The tables under the recovery gate. -/
def Relation.business : List Relation :=
  all.filter fun table => table.schema = .cp && table ∉ recovery

/-- The table has this trigger, under some name. -/
def Objects.fires (objects : Objects) (events : List Event) (function : Function)
    (table : Relation) : Bool :=
  objects.triggers.any fun trigger =>
    trigger.table = table && trigger.events = events && trigger.function = function

/-- The triggers on which the program relies, and the one row of the gate. A session keeps what it
is bound to, and is not deleted. -/
def Objects.guarded (objects : Objects) : Bool :=
  Relation.histories.all (objects.fires [.update, .delete, .truncate] .immutable) &&
    objects.fires [.update] .recoveryBindingImmutable .recoverySessions &&
    objects.fires [.delete, .truncate] .immutable .recoverySessions &&
    Relation.business.all (objects.fires [.insert, .update, .delete] .recoveryBusinessLock) &&
    [.proposals, .jobs].all (objects.fires [.insert] .requireOpenAdmission) && objects.gates = 1

/-- The release brings the scripts of the source, whatever their texts. -/
structure Release.OfSource (release : Release) : Prop where
  schema : release.schema.statements = schemaSql
  capacity : release.capacity.statements = capacitySql
  recovery : release.recovery.statements = recoverySql

/-- The grants of the first script are within the authority of the roles. -/
theorem schemaSql_permitted (h : executeAll known schemaSql blank = .ok c) :
    c.grants.all Grant.permitted = true := by
  have h_all : ((executeAll (fun _ => true) schemaSql blank).toOption.all
      (·.grants.all Grant.permitted)) = true := by decide
  rw [executeAll_known h] at h_all
  exact h_all

/-- The one grant that `recovery.sql` takes back. -/
def openToEveryone : Grant := ⟨.everyone, .execute, .function .executionOpen⟩

/-- The third script stays within the authority: what everyone gets of it is revoked in the same
script. -/
theorem recoverySql_permitted (h_before : c.grants.all Grant.permitted = true)
    (h : executeAll known recoverySql c = .ok c') : c'.grants.all Grant.permitted = true := by
  have h_split : recoverySql = recoverySqlGate.dropLast ++
      (.revoke none (.function .executionOpen) [.everyone] :: recoverySqlRest) := rfl
  unfold executeAll at h
  rw [h_split, List.foldlM_append] at h
  obtain ⟨made, h_made, h⟩ := bind_eq_ok.mp h
  obtain ⟨closed, h_closed, h_rest⟩ := bind_eq_ok.mp h
  refine executeAll_within (by decide) ?_ h_rest
  -- up to the revocation everyone may execute the function that opens the gate
  have h_within : made.grants.all (fun grant =>
      grant.permitted || grant = openToEveryone) = true := by
    refine executeAll_within (by decide) ?_ h_made
    refine List.all_eq_true.mpr fun grant h_grant => ?_
    rw [List.all_eq_true.mp h_before grant h_grant, Bool.true_or]
  obtain ⟨objects, h_objects, h_closed⟩ := bind_eq_ok.mp h_closed
  obtain ⟨-, h_closed⟩ := demand_bind_ok.mp h_closed
  obtain rfl := Except.ok.inj h_closed
  -- the function is found, and the revocation is about it
  have h_function : .function .executionOpen ∈ objects := by
    unfold found Objects.find at h_objects
    split at h_objects
    next found h_found =>
      obtain ⟨-, h_found⟩ := Option.ite_none_right_eq_some.mp h_found
      rw [← Except.ok.inj h_objects, ← Option.some.inj h_found]
      exact List.mem_singleton_self _
    next => cases h_objects
  refine List.all_eq_true.mpr fun grant h_grant => ?_
  obtain ⟨h_mem, h_left⟩ := List.mem_filter.mp h_grant
  rcases (Bool.or_eq_true _ _).mp (List.all_eq_true.mp h_within grant h_mem) with h_yes | h_open
  · exact h_yes
  · obtain rfl := of_decide_eq_true h_open
    have h_revoked : revokes none objects [.everyone] openToEveryone = true := by
      have h_object : objects.contains openToEveryone.object = true :=
        List.contains_iff_mem.mpr h_function
      unfold revokes
      rw [h_object]
      rfl
    rw [h_revoked] at h_left
    cases h_left

/-! ### A migrated database -/

/-- Nothing was made yet. -/
structure Fresh (db : Database) : Prop where
  contents : db.contents = blank
  applied : ∀ version, db.applied version = none

/-- What a migration with the scripts of the source makes, behind which no script is executed. -/
structure Migrated (db : Database) : Prop where
  permitted : db.contents.grants.all Grant.permitted = true
  guarded : db.contents.objects.guarded = true
  recorded : ∃ release, Recorded release db

/-- A version that was not there is executed, and the roles stay. -/
theorem applyVersion_executed {version : ℕ} {script : Script}
    (h : applyVersion version script db = .ok db') (h_none : db.applied version = none) :
    executeAll db.known script.statements db.contents = .ok db'.contents ∧
      db'.roles = db.roles ∧ db'.members = db.members := by
  rcases applyVersion_ok h with ⟨h_applied, -⟩ | ⟨-, contents, h_contents, rfl⟩
  -- it was not recorded
  · rw [h_none] at h_applied
    cases h_applied
  · exact ⟨h_contents, rfl, rfl⟩

/-- Grants within the authority keep all grants within it. -/
theorem grants_within {statements : List Statement}
    (h_statements : statements.all (Statement.within Grant.permitted) = true)
    (h_before : db.contents.grants.all Grant.permitted = true)
    (h : db.executeAll statements = .ok db') :
    db'.contents.grants.all Grant.permitted = true := by
  obtain ⟨contents, h_contents, rfl⟩ := executeAll_ok h
  exact executeAll_within h_statements h_before h_contents

/-- `capacity.grants` is within the authority, whichever roles there are. -/
theorem capacityGrants_within :
    (capacityGrants known).all (Statement.within Grant.permitted) = true :=
  all_of_subset (capacityGrants_subset known) (by decide)

/-- The execution of the gate function is granted within it too. -/
theorem executionGrants_within :
    (executionGrants known).all (Statement.within Grant.permitted) = true :=
  all_of_subset (executionGrants_subset known) (by decide)

/-- A policy is a row, not an object. -/
theorem insertPolicy_contents {policy : Policy} (h : db.insertPolicy policy = .ok db') :
    db'.contents = db.contents := by
  obtain ⟨policies, rfl, -⟩ := insertPolicy_ok h
  rfl

/-- The three scripts make all guarding triggers, whatever grants come between them. -/
theorem guarded_of_scripts {c₁ c₂ c₃ c₄ : Contents} {known₁ known₂ known₃ : Login → Bool}
    (h_schema : executeAll known₁ schemaSql blank = .ok c₁)
    (h_capacity : executeAll known₂ capacitySql c₁ = .ok c₂) (h_objects : c₃.objects = c₂.objects)
    (h_recovery : executeAll known₃ recoverySql c₃ = .ok c₄) : c₄.objects.guarded = true := by
  obtain ⟨grants, h_last⟩ := executeAll_frame (executeAll_known h_recovery) c₂.grants
  rw [h_objects] at h_last
  -- one script behind the other, as if all roles were there
  have h_scripts := executeAll_append
    (executeAll_append (executeAll_known h_schema) (executeAll_known h_capacity)) h_last
  have h_all : ((executeAll (fun _ => true) (schemaSql ++ capacitySql ++ recoverySql)
      blank).toOption.all (·.objects.guarded)) = true := by decide
  rw [h_scripts] at h_all
  exact h_all

/-- A first migration with the scripts of the source leaves a migrated database. -/
theorem migrate_fresh (h_fresh : Fresh db) (h_source : release.OfSource)
    (h : migrate release db = .ok db') : Migrated db' := by
  obtain ⟨db₁, db₂, db₃, db₄, db₅, h_stages⟩ := migrate_ok h
  have h_none (version : ℕ) : db.ledger.applied version = none := by
    rw [applied_ledger, h_fresh.applied]
  obtain ⟨h_table₁, -, h_keep₁⟩ := applied_of_applyVersion h_stages.first rfl
  obtain ⟨-, -, h_keep₂⟩ := applied_of_applyVersion h_stages.second h_table₁
  have h_granted := capacityGrants_keeps h_stages.granted
  have h_none₃ : db₃.applied 3 = none := by
    unfold Database.applied
    rw [h_granted.migrations]
    exact (h_keep₂ 3 (by decide)).trans ((h_keep₁ 3 (by decide)).trans (h_none 3))
  have h_none₂ : db₁.applied 2 = none := (h_keep₁ 2 (by decide)).trans (h_none 2)
  -- so all three scripts are executed, on what the one before has left
  obtain ⟨h_one, -⟩ := applyVersion_executed h_stages.first (h_none 1)
  obtain ⟨h_two, -⟩ := applyVersion_executed h_stages.second h_none₂
  obtain ⟨h_three, -⟩ := applyVersion_executed h_stages.third h_none₃
  rw [h_source.schema, show db.ledger.contents = blank from h_fresh.contents] at h_one
  rw [h_source.capacity] at h_two
  rw [h_source.recovery] at h_three
  -- the grants behind each stage
  have h_permitted₂ := executeAll_within (by decide) (schemaSql_permitted h_one) h_two
  have h_permitted₃ := grants_within capacityGrants_within h_permitted₂ h_stages.granted
  have h_permitted₄ := recoverySql_permitted h_permitted₃ h_three
  have h_permitted₅ := grants_within executionGrants_within h_permitted₄ h_stages.opened
  have h_guarded := guarded_of_scripts h_one h_two h_granted.objects h_three
  have h_contents := insertPolicy_contents h_stages.last
  refine ⟨?_, ?_, release, migrate_records h⟩
  · rw [h_contents]
    exact h_permitted₅
  · rw [h_contents, (executionGrants_keeps h_stages.opened).objects]
    exact h_guarded

/-! ### Every transaction -/

variable {entry : Entry} {entries : List Entry}

/-- The transaction brings no other scripts than those of the source. -/
def Entry.OfSource (entry : Entry) : Prop :=
  ∀ release, entry.operation = .migrate release → release.OfSource

/-- Setting up a role changes no object and no grant. -/
theorem role_contents {login : String × String} (h : role db login = .ok db') :
    db'.contents = db.contents := by
  have h_create : (db.createRole login.1).contents = db.contents := by
    unfold Database.createRole
    split <;> rfl
  obtain ⟨-, h⟩ := demand_bind_ok.mp h
  split at h
  · cases h
  · obtain rfl := Except.ok.inj h
    exact h_create

/-- Closing a login changes no object and no grant. -/
theorem nologin_contents {role : Login} (h : nologin db role = .ok db') :
    db'.contents = db.contents := by
  unfold nologin at h
  split at h
  · cases h
  · obtain rfl := Except.ok.inj h
    rfl

/-- The statements of `cloud.grants` and of `recovery.grants` need the objects that a migration
makes. -/
theorem grants_fresh {statements : List Statement} (h_fresh : Fresh db)
    (h_fail : (executeAll (fun _ => true) statements blank).toOption.isNone = true) :
    db.executeAll statements ≠ .ok db' := by
  intro h
  obtain ⟨contents, h_contents, -⟩ := executeAll_ok h
  rw [h_fresh.contents] at h_contents
  -- they would succeed on a database where nothing was made
  rw [executeAll_known h_contents] at h_fail
  cases h_fail

/-- A transaction on the roles alone. -/
def Operation.onRoles : Operation → Prop
  | provision _ | close _ => True
  | _ => False

/-- A transaction on roles only leaves the contents and the migrations. -/
theorem perform_onRoles {operation : Operation} (h_roles : operation.onRoles)
    (h : operation.perform db = .ok db') :
    db'.contents = db.contents ∧ db'.migrations = db.migrations := by
  cases operation with
  | provision logins =>
    refine foldlM_ok (I := fun _ s => s.contents = db.contents ∧ s.migrations = db.migrations) ?_
      ⟨rfl, rfl⟩ h
    exact fun login rest mid mid' h_mid h_turn =>
      ⟨(role_contents h_turn).trans h_mid.1, (role_keeps h_turn).migrations.trans h_mid.2⟩
  | close roles =>
    refine foldlM_ok (I := fun _ s => s.contents = db.contents ∧ s.migrations = db.migrations) ?_
      ⟨rfl, rfl⟩ h
    exact fun role rest mid mid' h_mid h_turn =>
      ⟨(nologin_contents h_turn).trans h_mid.1, (nologin_keeps h_turn).migrations.trans h_mid.2⟩
  | migrate | controlGrants | remoteGrants | recoveryGrants => exact h_roles.elim

/-- Freshness is about the contents and the migrations. -/
theorem Fresh.congr (h : Fresh db) (h_contents : db'.contents = db.contents)
    (h_migrations : db'.migrations = db.migrations) : Fresh db' where
  contents := h_contents.trans h.contents
  applied version := by
    unfold Database.applied
    rw [h_migrations]
    exact h.applied version

/-- So is being migrated. -/
theorem Migrated.congr (h : Migrated db) (h_contents : db'.contents = db.contents)
    (h_migrations : db'.migrations = db.migrations) : Migrated db' where
  permitted := by rw [h_contents]; exact h.permitted
  guarded := by rw [h_contents]; exact h.guarded
  recorded := by
    obtain ⟨release, h_recorded⟩ := h.recorded
    exact ⟨release, h_recorded.congr h_migrations⟩

/-- The bound holds of the statements, so that a migrated database keeps it. -/
theorem Migrated.executeAll {statements : List Statement} (h : Migrated db)
    (h_privileges : statements.all Statement.privileges = true)
    (h_within : statements.all (Statement.within Grant.permitted) = true)
    (h_execute : db.executeAll statements = .ok db') : Migrated db' := by
  have h_keeps := executeAll_keeps h_privileges h_execute
  obtain ⟨release, h_recorded⟩ := h.recorded
  refine ⟨grants_within h_within h.permitted h_execute, ?_, release, ?_⟩
  · rw [h_keeps.objects]
    exact h.guarded
  · exact h_recorded.congr h_keeps.migrations

/-- No migration executes a script in a migrated database. -/
theorem Migrated.migrate (h : Migrated db) (h_migrate : migrate release db = .ok db') :
    Migrated db' := by
  obtain ⟨release', h_recorded⟩ := h.recorded
  obtain ⟨db₁, db₂, db₃, db₄, db₅, h_stages⟩ := migrate_ok h_migrate
  have h_ledger : Recorded release' db.ledger :=
    ⟨by simp [h_recorded.schema], by simp [h_recorded.capacity], by simp [h_recorded.recovery]⟩
  -- none of the three scripts is executed
  obtain rfl := applyVersion_recorded h_stages.first h_ledger.schema
  obtain rfl := applyVersion_recorded h_stages.second h_ledger.capacity
  have h₂ : Migrated db.ledger := ⟨h.permitted, h.guarded, release', h_ledger⟩
  have h₃ := h₂.executeAll (all_of_subset (capacityGrants_subset _) (by decide))
    capacityGrants_within h_stages.granted
  have h_recorded₃ := h_ledger.congr (capacityGrants_keeps h_stages.granted).migrations
  obtain rfl := applyVersion_recorded h_stages.third h_recorded₃.recovery
  have h₅ := h₃.executeAll (all_of_subset (executionGrants_subset _) (by decide))
    executionGrants_within h_stages.opened
  obtain ⟨policies, rfl, -⟩ := insertPolicy_ok h_stages.last
  exact h₅.congr rfl rfl

/-- On a fresh database only a migration makes anything. -/
theorem perform_fresh (h_fresh : Fresh db) (h_source : entry.OfSource)
    (h : entry.operation.perform db = .ok db') : Fresh db' ∨ Migrated db' := by
  cases h_operation : entry.operation with
  | migrate release =>
    rw [h_operation] at h
    exact .inr (migrate_fresh h_fresh (h_source release h_operation) h)
  | provision | close =>
    rw [h_operation] at h
    obtain ⟨h_contents, h_migrations⟩ := perform_onRoles (by trivial) h
    exact .inl (h_fresh.congr h_contents h_migrations)
  | controlGrants | remoteGrants | recoveryGrants =>
    rw [h_operation] at h
    exact absurd h (grants_fresh h_fresh (by decide))

/-- A migrated database stays so. -/
theorem perform_migrated (h_migrated : Migrated db) (h : entry.operation.perform db = .ok db') :
    Migrated db' := by
  cases h_operation : entry.operation with
  | migrate release =>
    rw [h_operation] at h
    exact h_migrated.migrate h
  | provision | close =>
    rw [h_operation] at h
    obtain ⟨h_contents, h_migrations⟩ := perform_onRoles (by trivial) h
    exact h_migrated.congr h_contents h_migrations
  | controlGrants | remoteGrants | recoveryGrants =>
    rw [h_operation] at h
    exact h_migrated.executeAll (by decide) (by decide) h

/-- A step leads from a fresh or a migrated database to one. -/
theorem step_migrated (h : Fresh db ∨ Migrated db) (h_source : entry.OfSource) :
    Fresh (db.step entry) ∨ Migrated (db.step entry) := by
  -- a transaction that is rolled back changes nothing
  rcases step_cases db entry with ⟨db', -, h_perform, h_step⟩ | ⟨-, h_step⟩
  · rw [h_step]
    rcases h with h_fresh | h_migrated
    · exact perform_fresh h_fresh h_source h_perform
    · exact .inr (perform_migrated h_migrated h_perform)
  · rw [h_step]
    exact h

/-! ### Plain roles -/

/-- A change that makes nobody an administrator. -/
theorem plain_insert {name : String} {attributes : Attributes}
    (h_lookup : db.roles.lookup name = some attributes) (attributes' : Attributes)
    (h_same : attributes'.administrative = attributes.administrative) (other : String) :
    Database.plain { db with roles := db.roles.insert name attributes' } other =
      db.plain other := by
  unfold Database.plain
  show (((db.roles.insert name attributes').lookup other).any _ && _) = _
  rw [Table.lookup_insert]
  split
  next h_other => rw [h_other, h_lookup, Option.any_some, Option.any_some, h_same]
  next => rfl

/-- A role that is made has no attribute, and the others stay. -/
theorem plain_createRole {name other : String} (h : db.plain other = true) :
    (db.createRole name).plain other = true := by
  unfold Database.createRole
  split
  next => exact h
  next h_none =>
    unfold Database.plain at h ⊢
    -- a role that is plain is there already
    have h_other : other ≠ name := by
      rintro rfl
      rw [h_none] at h
      cases h
    show (((db.roles.insert name _).lookup other).any _ && _) = _
    rw [Table.lookup_insert_of_ne _ _ h_other]
    exact h

/-- A role that was set up is plain, and the others stay so. -/
theorem role_plain {login : String × String} (h : role db login = .ok db') :
    db'.plain login.1 = true ∧ ∀ name, db.plain name = true → db'.plain name = true := by
  obtain ⟨h_plain, h⟩ := demand_bind_ok.mp h
  split at h
  next => cases h
  next attributes h_attributes =>
    obtain rfl := Except.ok.inj h
    refine ⟨?_, fun name h_name => ?_⟩
    · exact (plain_insert h_attributes _ (by rfl) _).trans h_plain
    · exact (plain_insert h_attributes _ (by rfl) _).trans (plain_createRole h_name)

/-- Closing a login gives it nothing. -/
theorem nologin_plain {role : Login} (h : nologin db role = .ok db') (name : String) :
    db'.plain name = db.plain name := by
  unfold nologin at h
  split at h
  next => cases h
  next attributes h_attributes =>
    obtain rfl := Except.ok.inj h
    exact plain_insert h_attributes _ (by rfl) name

/-- Statements on objects leave the roles. -/
theorem executeAll_plain {statements : List Statement} (h : db.executeAll statements = .ok db')
    (name : String) : db'.plain name = db.plain name := by
  obtain ⟨contents, -, rfl⟩ := executeAll_ok h
  rfl

/-- A version leaves the roles. -/
theorem applyVersion_plain {version : ℕ} {script : Script}
    (h : applyVersion version script db = .ok db') (name : String) :
    db'.plain name = db.plain name := by
  rcases applyVersion_ok h with ⟨-, rfl⟩ | ⟨-, contents, -, rfl⟩
  · rfl
  · rfl

/-- A migration that commits has found both application roles plain, and leaves all roles. -/
theorem migrate_plain (h : migrate release db = .ok db') :
    (∀ role ∈ application, db.plain role.text = true) ∧
      ∀ name, db'.plain name = db.plain name := by
  obtain ⟨db₁, db₂, db₃, db₄, db₅, h_stages⟩ := migrate_ok h
  refine ⟨h_stages.plain, fun name => ?_⟩
  have h_last : db'.plain name = db₅.plain name := by
    obtain ⟨policies, rfl, -⟩ := insertPolicy_ok h_stages.last
    rfl
  calc db'.plain name = db₅.plain name := h_last
    _ = db₄.plain name := executeAll_plain h_stages.opened name
    _ = db₃.plain name := applyVersion_plain h_stages.third name
    _ = db₂.plain name := executeAll_plain h_stages.granted name
    _ = db₁.plain name := applyVersion_plain h_stages.second name
    _ = db.plain name := applyVersion_plain h_stages.first name

/-- The roles that the transaction relies on, or sets up. -/
def Operation.names : Operation → List String
  | migrate _ => application.map Login.text
  | provision logins => logins.map Prod.fst
  | _ => []

/-- All roles that were set up are plain, and the others stay so. -/
theorem provision_plain {logins : List (String × String)} (h : logins.foldlM role db = .ok db') :
    (∀ login ∈ logins, db'.plain login.1 = true) ∧
      ∀ name, db.plain name = true → db'.plain name = true := by
  induction logins generalizing db with
  | nil =>
    obtain rfl := Except.ok.inj h
    exact ⟨nofun, fun _ h_name => h_name⟩
  | cons login logins ih =>
    obtain ⟨mid, h_login, h_rest⟩ := bind_eq_ok.mp h
    obtain ⟨h_plain, h_before⟩ := role_plain h_login
    obtain ⟨h_logins, h_after⟩ := ih h_rest
    refine ⟨List.forall_mem_cons.mpr ⟨h_after _ h_plain, h_logins⟩, fun name h_name => ?_⟩
    exact h_after name (h_before name h_name)

/-- The roles that a transaction names are plain behind it, and the others stay so. -/
theorem perform_plain {operation : Operation} (h : operation.perform db = .ok db') :
    (∀ name ∈ operation.names, db'.plain name = true) ∧
      ∀ name, db.plain name = true → db'.plain name = true := by
  cases operation with
  | migrate release =>
    obtain ⟨h_plain, h_same⟩ := migrate_plain h
    refine ⟨fun name h_name => ?_, fun name h_name => (h_same name).trans h_name⟩
    obtain ⟨role, h_role, rfl⟩ := List.mem_map.mp h_name
    exact (h_same _).trans (h_plain role h_role)
  | provision logins =>
    obtain ⟨h_logins, h_before⟩ := provision_plain h
    refine ⟨fun name h_name => ?_, h_before⟩
    obtain ⟨login, h_login, rfl⟩ := List.mem_map.mp h_name
    exact h_logins login h_login
  | close roles =>
    refine ⟨nofun, fun name h_name => ?_⟩
    refine foldlM_ok (I := fun _ s => Database.plain s name = true) ?_ h_name h
    exact fun role rest mid mid' h_mid h_turn => (nologin_plain h_turn name).trans h_mid
  | controlGrants | remoteGrants | recoveryGrants =>
    exact ⟨nofun, fun name h_name => (executeAll_plain h name).trans h_name⟩

/-- A plain role stays plain. -/
theorem step_plain {name : String} (h : db.plain name = true) :
    (db.step entry).plain name = true := by
  rcases step_cases db entry with ⟨db', -, h_perform, h_step⟩ | ⟨-, h_step⟩
  · rw [h_step]
    exact (perform_plain h_perform).2 name h
  · rw [h_step]
    exact h

/-! ### What no role may do -/

/-- The role may do this to the table, itself or as everyone. -/
def Database.holds (db : Database) (login : Login) (right : Right) (table : Relation) : Prop :=
  ∃ grantee, (grantee = .login login ∨ grantee = .everyone) ∧
    ⟨grantee, right, .table table⟩ ∈ db.contents.grants

/-- What the privileges in the database come to. -/
structure LeastAuthority (db : Database) : Prop where
  /-- History is only added to. -/
  history : ∀ login right table, db.holds login right table →
    table ∈ Relation.histories ++ [.events, .effects] → right = .select ∨ right = .insert
  /-- Nothing is deleted but permits. -/
  kept : ∀ login right table, db.holds login right table →
    right ≠ .truncate ∧ (right = .delete → table = .requestPermits)
  /-- No role works in the schema of the other service. -/
  apart : ∀ login right table, db.holds login right table → table.schema = login.home
  /-- Every role may look into its own schema, everyone into `public`, and nobody makes objects. -/
  schemas : ∀ grantee right schema, ⟨grantee, right, .schema schema⟩ ∈ db.contents.grants →
    right = .usage ∧ (grantee = .everyone ∧ schema = .common ∨
      ∃ login, grantee = .login login ∧ schema = login.home)
  /-- The verifier and the observer only read. -/
  readers : ∀ login right table, db.holds login right table →
    login ∈ [.audit, .remoteAudit, .observer] → right = .select
  /-- The registry and the policies belong to the owner. -/
  registry : ∀ login right table, db.holds login right table →
    table ∈ [.policies, .destinations, .destinationRoutes] → right = .select
  /-- What is recorded of a recovery belongs to the owner and to the coordinator, who adds to it. -/
  recovery : ∀ login right table, db.holds login right table → table ∈ Relation.recovery →
    right = .select ∨ login = .recovery ∧ right = .insert ∧ table ≠ .recoveryGate
  /-- The coordinator writes nothing else. -/
  coordinator : ∀ right table, db.holds .recovery right table →
    right = .select ∨ right = .insert ∧ table ∈ [.recoverySessions, .recoveryProofs]
  /-- The worker does not write what the sources have said, or what was proposed. -/
  worker : ∀ right table, db.holds .worker right table →
    table ∈ [.customers, .identities, .events, .proposals] → right = .select
  /-- Of a customer it may update the revision, for the lock of the row; the coordinator may move
  the gate, and a session from one status to another. -/
  columns : ∀ grantee right table column,
    ⟨grantee, right, .column table column⟩ ∈ db.contents.grants → right = .update ∧
      (grantee = .login .worker ∧ table = .customers ∧ column = "revision" ∨
        grantee = .login .recovery ∧ (table = .recoveryGate ∧
          column ∈ ["mode", "epoch", "session_id", "approved_proof", "approved_at"] ∨
            table = .recoverySessions ∧ column = "status"))
  /-- Not everyone may take the lock of the recovery gate. -/
  gate : ∀ grantee right, ⟨grantee, right, .function .executionOpen⟩ ∈ db.contents.grants →
    ∃ login ∈ executors, grantee = .login login

/-- What a role holds on a table is among its tables, by a grant of its own or to everyone. -/
theorem mem_tables_of_holds {login : Login} {right : Right} {table : Relation}
    (h_permitted : db.contents.grants.all Grant.permitted = true)
    (h : db.holds login right table) : table ∈ login.tables right := by
  obtain ⟨grantee, h_grantee, h_grant⟩ := h
  have h_allowed := List.all_eq_true.mp h_permitted _ h_grant
  rcases h_grantee with rfl | rfl
  · exact of_decide_eq_true h_allowed
  · cases h_allowed

/-- Grants that are permitted come to no more than the authority of the roles. -/
theorem leastAuthority_of_permitted (h : db.contents.grants.all Grant.permitted = true) :
    LeastAuthority db where
  -- each part is a fact of the tables of the roles
  history login right table h_holds h_table := by
    have h_all : ∀ login : Login, ∀ right, ∀ table ∈ login.tables right,
        table ∈ Relation.histories ++ [.events, .effects] → right = .select ∨ right = .insert := by
      intro login right
      cases login <;> cases right <;> decide
    exact h_all login right table (mem_tables_of_holds h h_holds) h_table
  kept login right table h_holds := by
    have h_all : ∀ login : Login, ∀ right, ∀ table ∈ login.tables right,
        right ≠ .truncate ∧ (right = .delete → table = .requestPermits) := by
      intro login right
      cases login <;> cases right <;> decide
    exact h_all login right table (mem_tables_of_holds h h_holds)
  apart login right table h_holds := by
    have h_all : ∀ login : Login, ∀ right, ∀ table ∈ login.tables right,
        table.schema = login.home := by
      intro login right
      cases login <;> cases right <;> decide
    exact h_all login right table (mem_tables_of_holds h h_holds)
  readers login right table h_holds h_login := by
    have h_all : ∀ login ∈ [Login.audit, .remoteAudit, .observer], ∀ right,
        ∀ table ∈ login.tables right, right = .select := by
      intro login h_login right
      cases login <;> cases right <;> revert h_login <;> decide
    exact h_all login h_login right table (mem_tables_of_holds h h_holds)
  schemas grantee right schema h_grant := by
    have h_allowed := List.all_eq_true.mp h _ h_grant
    cases grantee with
    | everyone =>
      simp only [Grant.permitted, Bool.and_eq_true, decide_eq_true_eq] at h_allowed
      exact ⟨h_allowed.1, .inl ⟨rfl, h_allowed.2⟩⟩
    | login login =>
      simp only [Grant.permitted, Bool.and_eq_true, decide_eq_true_eq] at h_allowed
      exact ⟨h_allowed.1, .inr ⟨login, rfl, h_allowed.2⟩⟩
  registry login right table h_holds h_table := by
    have h_all : ∀ login : Login, ∀ right, ∀ table ∈ login.tables right,
        table ∈ [.policies, .destinations, .destinationRoutes] → right = .select := by
      intro login right
      cases login <;> cases right <;> decide
    exact h_all login right table (mem_tables_of_holds h h_holds) h_table
  recovery login right table h_holds h_table := by
    have h_all : ∀ login : Login, ∀ right, ∀ table ∈ login.tables right,
        table ∈ Relation.recovery →
          right = .select ∨ login = .recovery ∧ right = .insert ∧ table ≠ .recoveryGate := by
      intro login right
      cases login <;> cases right <;> decide
    exact h_all login right table (mem_tables_of_holds h h_holds) h_table
  coordinator right table h_holds := by
    have h_all : ∀ right, ∀ table ∈ Login.recovery.tables right,
        right = .select ∨ right = .insert ∧ table ∈ [.recoverySessions, .recoveryProofs] := by
      intro right
      cases right <;> decide
    exact h_all right table (mem_tables_of_holds h h_holds)
  worker right table h_holds h_table := by
    have h_all : ∀ right, ∀ table ∈ Login.worker.tables right,
        table ∈ [.customers, .identities, .events, .proposals] → right = .select := by
      intro right
      cases right <;> decide
    exact h_all right table (mem_tables_of_holds h h_holds) h_table
  columns grantee right table column h_grant := by
    have h_allowed := List.all_eq_true.mp h _ h_grant
    cases grantee with
    | everyone => cases h_allowed
    | login login =>
      simp only [Grant.permitted, Bool.and_eq_true, decide_eq_true_eq] at h_allowed
      obtain ⟨rfl, h_column⟩ := h_allowed
      refine ⟨rfl, ?_⟩
      -- two roles have columns
      cases login with
      | worker =>
        cases table with
        | customers => exact .inl ⟨rfl, rfl, List.mem_singleton.mp h_column⟩
        | _ => cases h_column
      | recovery =>
        cases table with
        | recoveryGate => exact .inr ⟨rfl, .inl ⟨rfl, h_column⟩⟩
        | recoverySessions => exact .inr ⟨rfl, .inr ⟨rfl, List.mem_singleton.mp h_column⟩⟩
        | _ => cases h_column
      | _ => cases h_column
  gate grantee right h_grant := by
    have h_allowed := List.all_eq_true.mp h _ h_grant
    cases grantee with
    | everyone => simp [Grant.permitted] at h_allowed
    | login login =>
      simp only [Grant.permitted, Bool.and_eq_true, decide_eq_true_eq] at h_allowed
      exact ⟨login, h_allowed.1.1, rfl⟩

/-! ### Every run -/

/-- What holds after a run of transactions. -/
structure Governed (db : Database) (entries : List Entry) : Prop where
  authority : LeastAuthority (db.run entries)
  /-- The triggers that guard a migrated database are there. -/
  guarded : ∀ release, Recorded release (db.run entries) →
    (db.run entries).contents.objects.guarded = true
  /-- The roles on which a transaction has relied, and those that it has set up, have no
  administrative attribute and inherit from no role. -/
  plain : ∀ pre entry post, entries = pre ++ entry :: post →
    (entry.commits (db.run pre)).isSome → ∀ name ∈ entry.operation.names,
      (db.run entries).plain name = true

/-- After every run the database is fresh or migrated. -/
theorem run_migrated (h_fresh : Fresh db) (h_source : ∀ entry ∈ entries, entry.OfSource) :
    Fresh (db.run entries) ∨ Migrated (db.run entries) := by
  induction entries using List.reverseRecOn with
  | nil => exact .inl h_fresh
  -- the last transaction finds one of the two
  | append_singleton entries entry ih =>
    rw [Database.run, run_concat]
    obtain ⟨h_before, h_entry⟩ := List.forall_mem_append.mp h_source
    exact step_migrated (ih h_before) (h_entry entry (List.mem_singleton_self entry))

/-- **Every run keeps least authority.** -/
theorem run_governed (h_fresh : Fresh db) (h_source : ∀ entry ∈ entries, entry.OfSource) :
    Governed db entries := by
  refine ⟨?_, fun release h_recorded => ?_, ?_⟩
  · rcases run_migrated h_fresh h_source with h_after | h_after
    · refine leastAuthority_of_permitted ?_
      rw [h_after.contents]
      decide
    · exact leastAuthority_of_permitted h_after.permitted
  · rcases run_migrated h_fresh h_source with h_after | h_after
    · have h_none := h_after.applied 1
      rw [h_recorded.schema] at h_none
      cases h_none
    · exact h_after.guarded
  -- plain when its transaction commits, and so it stays
  · rintro pre entry post rfl h_commits name h_name
    obtain ⟨db', h_db'⟩ := Option.isSome_iff_exists.mp h_commits
    have h_plain := (perform_plain (commits_eq_some h_db')).1 name h_name
    have h_step : (db.run pre).step entry = db' := by
      unfold Database.step
      rw [h_db']
      rfl
    rw [Database.run, run_append, run_cons]
    refine run_invariant (I := fun s : Database => s.plain name = true) ?_
      (fun _ _ => step_plain) post
    show ((db.run pre).step entry).plain name = true
    rw [h_step]
    exact h_plain

/-- A server on which the two application roles were created. -/
def server : Database where
  roles := [Login.app, .syntheticRemote].foldl
    (fun roles login => roles.insert login.text ⟨false, false, false, false, false, true, none⟩) ∅
  members := []
  contents := blank
  migrations := none
  policies := ∅

/-- The release of the source, with short digests. -/
def released : Release where
  schema := ⟨"schema", schemaSql⟩
  capacity := ⟨"capacity", capacitySql⟩
  recovery := ⟨"recovery", recoverySql⟩
  policy := policy

/-- A migration that is cut short, one that ends, and the privileges of the services and of the
coordinator. -/
def installation : List Entry :=
  [⟨.migrate released, false⟩,
    ⟨.provision [("control_api", "a"), ("control_worker", "w"), ("control_audit", "v"),
      ("control_observer", "o")], true⟩,
    ⟨.migrate released, true⟩, ⟨.controlGrants, true⟩,
    ⟨.provision [("control_recovery", "r")], true⟩, ⟨.recoveryGrants, true⟩]

/-- The installation is governed, and in the end its coordinator may move the gate. -/
theorem run_governed_installation : Governed server installation ∧
    (server.run installation).applied 3 = some (digest "recovery") ∧
    ⟨.login .recovery, .update, .column .recoveryGate "mode"⟩ ∈
      (server.run installation).contents.grants := by
  refine ⟨run_governed ⟨rfl, fun _ => rfl⟩ ?_, by decide, by decide⟩
  intro entry h_entry release h_release
  have h_released : release = released := by
    simp only [installation, List.mem_cons, List.not_mem_nil, or_false] at h_entry
    rcases h_entry with rfl | rfl | rfl | rfl | rfl | rfl <;> cases h_release <;> rfl
  rw [h_released]
  exact ⟨rfl, rfl, rfl⟩

end ControlPlane.Migration
