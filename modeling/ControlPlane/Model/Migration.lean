import ControlPlane.Framework.Run
import ControlPlane.Framework.Table
import ControlPlane.Model.Policy

/-!
# Migrations and database roles

`migrate` of `db.py` with the scripts of a release, `grants` of `capacity.py`, `grants` of
`recovery.py` with its default role, and `role`, `grants` and the closed logins of `cloud.py`. Each
is a transaction on a database that is rolled back when it raises. Migrations take turns by an
advisory lock, so that a run is the list of the transactions in the order of their commits.

A script is the list of its statements that make objects or change privileges. What columns a table
has, its checks and its indexes have no part here: a grant on columns names them as its statement
does. The owner of the objects, who runs all of it, is no grantee. The databases and role names of
the local recovery lab are no part either.
-/

namespace ControlPlane.Migration

open Framework

/-! ### The objects -/

/-- The schemas that a migration touches. -/
inductive Schema
  | cp | remote
  /-- The schema `public`. -/
  | common
deriving DecidableEq

/-- The tables of the three migrations. -/
inductive Relation
  | policies | customers | identities | events | proposals | jobs | exceptions | audit
  | effects | plans
  | destinations | destinationRoutes | jobRoutes | capacityState | requestPermits
  | capacityRequests | capacityCompletions
  | recoverySessions | recoveryProofs | recoveryGate
deriving DecidableEq

/-- The schema of each table. -/
def Relation.schema : Relation → Schema
  | effects | plans => .remote
  | _ => .cp

/-- `GENERATED ALWAYS AS IDENTITY`, which makes a sequence. -/
def Relation.identity : Relation → Bool
  | exceptions | audit => true
  | _ => false

/-- The functions of the three migrations. -/
inductive Function
  | immutable | executionOpen | requireOpenAdmission | recoveryBusinessLock
  | recoveryBindingImmutable
deriving DecidableEq

/-- The events of a trigger. -/
inductive Event
  | insert | update | delete | truncate
deriving DecidableEq

/-- `CREATE TRIGGER name BEFORE events ON table EXECUTE FUNCTION function` -/
structure Trigger where
  name : String
  events : List Event
  table : Relation
  function : Function
deriving DecidableEq

/-- What the migrations have created. -/
structure Objects where
  schemas : List Schema
  tables : List Relation
  functions : List Function
  triggers : List Trigger
  /-- The rows of `cp.recovery_gate`. -/
  gates : ℕ
deriving DecidableEq

/-! ### The privileges -/

/-- The roles that the program names. -/
inductive Login
  | app | syntheticRemote | api | worker | audit | remoteAudit | observer
  /-- The recovery coordinator. -/
  | recovery
deriving DecidableEq

/-- The names of the roles. -/
def Login.text : Login → String
  | app => "control_app"
  | syntheticRemote => "synthetic_remote"
  | api => "control_api"
  | worker => "control_worker"
  | audit => "control_audit"
  | remoteAudit => "remote_audit"
  | observer => "control_observer"
  | recovery => "control_recovery"

/-- Who a right is given to. -/
inductive Grantee
  /-- `PUBLIC` -/
  | everyone
  | login (login : Login)
deriving DecidableEq

/-- `PUBLIC` is always there. -/
def Grantee.isThere (known : Login → Bool) : Grantee → Bool
  | everyone => true
  | login name => known name

/-- The rights that are granted or revoked. -/
inductive Right
  | select | insert | update | delete | truncate | usage | create | execute
deriving DecidableEq

/-- What a right is about. -/
inductive Object
  | schema (schema : Schema)
  | table (table : Relation)
  | column (table : Relation) (column : String)
  /-- The sequence of an identity column. -/
  | sequence (table : Relation)
  | function (function : Function)
deriving DecidableEq

/-- A right that is held. -/
structure Grant where
  grantee : Grantee
  right : Right
  object : Object
deriving DecidableEq

/-- What a `GRANT` or a `REVOKE` is about. -/
inductive Target
  | schemas (schemas : List Schema)
  | tables (tables : List Relation)
  | columns (table : Relation) (columns : List String)
  | allTables (schema : Schema)
  | allSequences (schema : Schema)
  | function (function : Function)

/-- The objects of the target; `none` where one is missing. -/
def Objects.find (objects : Objects) : Target → Option (List Object)
  | .schemas schemas =>
    if schemas.all objects.schemas.contains then some (schemas.map .schema) else none
  | .tables tables =>
    if tables.all objects.tables.contains then some (tables.map .table) else none
  | .columns table columns =>
    if objects.tables.contains table then some (columns.map (.column table)) else none
  | .allTables schema =>
    if objects.schemas.contains schema then
      some ((objects.tables.filter (·.schema = schema)).map .table)
    else none
  | .allSequences schema =>
    if objects.schemas.contains schema then
      some ((objects.tables.filter fun table => table.schema = schema && table.identity).map
        .sequence)
    else none
  | .function function =>
    if objects.functions.contains function then some [.function function] else none

/-! ### The statements -/

/-- The statements of the scripts. -/
inductive Statement
  | createSchema (schema : Schema)
  | createTable (table : Relation) (references : List Relation)
  | createFunction (function : Function)
  | createTrigger (trigger : Trigger)
  /-- `DO`: the trigger on every table of the schema, but for these. -/
  | createTriggers (name : String) (events : List Event) (schema : Schema)
      (without : List Relation) (function : Function)
  /-- `INSERT INTO cp.recovery_gate(singleton,mode) VALUES(true,'open')` -/
  | insertGate
  | grant (rights : List Right) (target : Target) (logins : List Login)
  /-- Without rights, `REVOKE ALL`. -/
  | revoke (rights : Option (List Right)) (target : Target) (grantees : List Grantee)

/-- Why a migration stops. -/
inductive Refusal
  | roles | memberships
  | changed (version : ℕ)
  | administrative
  /-- The errors of the database. -/
  | undefined | duplicate
deriving DecidableEq

def Refusal.message : Refusal → Option String
  | roles => some "Pre-provision both application roles without administrative privileges"
  | memberships => some "Application roles must not inherit other role memberships"
  | changed version => some (if version = 1 then
      "Applied migration changed; create a new migration instead"
    else s!"Applied migration {version} changed")
  | administrative => some "Refuse administrative or inheriting application role"
  | undefined | duplicate => none

/-- What the statements change. -/
structure Contents where
  objects : Objects
  grants : List Grant
deriving DecidableEq

def demand (test : Bool) (refusal : Refusal) : Except Refusal Unit :=
  if test then .ok () else .error refusal

def found : Option (List Object) → Except Refusal (List Object)
  | some objects => .ok objects
  | none => .error .undefined

/-- `CREATE TRIGGER` -/
def addTrigger (objects : Objects) (trigger : Trigger) : Except Refusal Objects := do
  demand (objects.tables.contains trigger.table && objects.functions.contains trigger.function)
    .undefined
  demand (!objects.triggers.any fun other =>
    other.name = trigger.name && other.table = trigger.table) .duplicate
  pure { objects with triggers := objects.triggers ++ [trigger] }

def every (rights : List Right) (objects : List Object) (grantee : Grantee) : List Grant :=
  objects.flatMap fun object => rights.map fun right => ⟨grantee, right, object⟩

/-- Whether the statement takes the grant away. -/
def revokes (rights : Option (List Right)) (objects : List Object) (grantees : List Grantee)
    (grant : Grant) : Bool :=
  objects.contains grant.object && grantees.contains grant.grantee &&
    rights.all (·.contains grant.right)

/-- A statement in a database that has these roles. -/
def execute (known : Login → Bool) (c : Contents) : Statement → Except Refusal Contents
  | .createSchema schema => do
    demand (!c.objects.schemas.contains schema) .duplicate
    pure { c with objects.schemas := c.objects.schemas ++ [schema] }
  | .createTable table references => do
    demand (c.objects.schemas.contains table.schema && references.all c.objects.tables.contains)
      .undefined
    demand (!c.objects.tables.contains table) .duplicate
    pure { c with objects.tables := c.objects.tables ++ [table] }
  | .createFunction function => do
    demand (!c.objects.functions.contains function) .duplicate
    -- a new function can be executed by everyone
    pure { c with
      objects.functions := c.objects.functions ++ [function]
      grants := c.grants ++ [⟨.everyone, .execute, .function function⟩] }
  | .createTrigger trigger => do
    let objects ← addTrigger c.objects trigger
    pure { c with objects }
  | .createTriggers name events schema without function => do
    let tables := c.objects.tables.filter fun table => table.schema = schema && table ∉ without
    let objects ← (tables.map (Trigger.mk name events · function)).foldlM addTrigger c.objects
    pure { c with objects }
  | .insertGate => do
    demand (c.objects.tables.contains .recoveryGate) .undefined
    demand (c.objects.gates = 0) .duplicate
    pure { c with objects.gates := c.objects.gates + 1 }
  | .grant rights target logins => do
    let objects ← found (c.objects.find target)
    demand (logins.all known) .undefined
    pure { c with grants := c.grants ++ logins.flatMap (every rights objects <| .login ·) }
  | .revoke rights target grantees => do
    let objects ← found (c.objects.find target)
    demand (grantees.all (·.isThere known)) .undefined
    pure { c with grants := c.grants.filter (!revokes rights objects grantees ·) }

/-- `c.execute(script)` -/
def executeAll (known : Login → Bool) (statements : List Statement) (c : Contents) :
    Except Refusal Contents := statements.foldlM (execute known) c

/-! ### The scripts -/

/-- `BEFORE UPDATE OR DELETE OR TRUNCATE … EXECUTE FUNCTION cp.immutable()` -/
def immutable (name : String) (table : Relation) : Statement :=
  .createTrigger ⟨name, [.update, .delete, .truncate], table, .immutable⟩

/-- `schema.sql` -/
def schemaSql : List Statement :=
  [.createSchema .cp,
    .createSchema .remote,
    .createTable .policies [],
    .createTable .customers [],
    .createTable .identities [.customers],
    .createTable .events [],
    .createTable .proposals [.customers, .policies],
    .createTable .jobs [.proposals],
    .createTable .exceptions [],
    .createTable .audit [.policies],
    .createFunction .immutable,
    immutable "audit_immutable" .audit,
    immutable "policy_immutable" .policies,
    .createTable .effects [],
    .createTable .plans [],
    .revoke none (.schemas [.cp, .remote]) [.everyone],
    .revoke (some [.create]) (.schemas [.common]) [.everyone],
    .grant [.usage] (.schemas [.cp]) [.app],
    .grant [.select, .insert, .update] (.allTables .cp) [.app],
    .revoke (some [.update]) (.tables [.audit, .policies, .events]) [.login .app],
    .revoke (some [.insert]) (.tables [.policies]) [.login .app],
    .grant [.usage, .select] (.allSequences .cp) [.app],
    .grant [.usage] (.schemas [.remote]) [.syntheticRemote],
    .grant [.select, .insert, .update] (.tables [.plans]) [.syntheticRemote],
    .grant [.select, .insert] (.tables [.effects]) [.syntheticRemote]]

/-- `capacity.sql` -/
def capacitySql : List Statement :=
  [.createTable .destinations [],
    .createTable .destinationRoutes [.destinations],
    .createTable .jobRoutes [.proposals, .destinations],
    .createTable .capacityState [.destinations],
    .createTable .requestPermits [.destinations],
    .createTable .capacityRequests [.destinations],
    immutable "capacity_log_immutable" .capacityRequests,
    .createTable .capacityCompletions [.capacityRequests],
    immutable "completion_log_immutable" .capacityCompletions,
    immutable "destination_immutable" .destinations,
    immutable "route_immutable" .jobRoutes,
    .grant [.select] (.tables [.destinations, .destinationRoutes, .jobRoutes]) [.app],
    .grant [.insert] (.tables [.jobRoutes]) [.app],
    .grant [.select, .insert, .update] (.tables [.capacityState]) [.app],
    .grant [.select, .insert, .delete] (.tables [.requestPermits]) [.app],
    .grant [.select, .insert] (.tables [.capacityRequests]) [.app],
    .grant [.select, .insert] (.tables [.capacityCompletions]) [.app]]

/-- `recovery.sql`, up to the revoked execution of `cp.execution_open()` -/
def recoverySqlGate : List Statement :=
  [.createTable .recoverySessions [],
    .createTable .recoveryProofs [.recoverySessions],
    immutable "recovery_proofs_immutable" .recoveryProofs,
    .createTable .recoveryGate [.recoverySessions, .recoveryProofs],
    .insertGate,
    .revoke none (.tables [.recoverySessions, .recoveryProofs, .recoveryGate])
      [.everyone, .login .app],
    .createFunction .executionOpen,
    .revoke none (.function .executionOpen) [.everyone]]

/-- The rest of `recovery.sql` -/
def recoverySqlRest : List Statement :=
  [.grant [.execute] (.function .executionOpen) [.app],
    .createFunction .requireOpenAdmission,
    .createTrigger ⟨"recovery_proposal_admission", [.insert], .proposals, .requireOpenAdmission⟩,
    .createTrigger ⟨"recovery_job_admission", [.insert], .jobs, .requireOpenAdmission⟩,
    .createFunction .recoveryBusinessLock,
    .createTriggers "recovery_state_lock" [.insert, .update, .delete] .cp
      [.recoveryGate, .recoverySessions, .recoveryProofs] .recoveryBusinessLock,
    .createFunction .recoveryBindingImmutable,
    .createTrigger ⟨"recovery_binding_immutable", [.update], .recoverySessions,
      .recoveryBindingImmutable⟩,
    .createTrigger ⟨"recovery_session_delete", [.delete, .truncate], .recoverySessions,
      .immutable⟩]

/-- `recovery.sql` -/
def recoverySql : List Statement := recoverySqlGate ++ recoverySqlRest

/-! ### The database -/

/-- A row of `pg_roles`, with the password. -/
structure Attributes where
  super : Bool
  createDb : Bool
  createRole : Bool
  replication : Bool
  bypassRls : Bool
  login : Bool
  password : Option String
deriving DecidableEq

def Attributes.administrative (a : Attributes) : Bool :=
  a.super || a.createDb || a.createRole || a.replication || a.bypassRls

structure Database where
  roles : Table String Attributes
  /-- The roles that are members of another role. -/
  members : List String
  contents : Contents
  /-- `public.schema_migrations`, once it is there. -/
  migrations : Option (Table ℕ (Digest String))
  /-- `cp.policies` -/
  policies : Table (Digest Policy) Policy

def Database.known (db : Database) (login : Login) : Bool := (db.roles.lookup login.text).isSome

/-- A role without administrative attributes that inherits from no other. -/
def Database.plain (db : Database) (name : String) : Bool :=
  (db.roles.lookup name).any (!·.administrative) && !db.members.contains name

def Database.executeAll (db : Database) (statements : List Statement) :
    Except Refusal Database := do
  let contents ← Migration.executeAll db.known statements db.contents
  pure { db with contents }

/-! ### Migrations -/

structure Script where
  text : String
  /-- What the database reads in the text. -/
  statements : List Statement

/-- What a release brings: the files of its scripts and its policy. -/
structure Release where
  schema : Script
  capacity : Script
  recovery : Script
  policy : Policy

/-- `SELECT hash FROM public.schema_migrations WHERE version=…` -/
def Database.applied (db : Database) (version : ℕ) : Option (Digest String) :=
  db.migrations.bind (·.lookup version)

/-- `INSERT INTO public.schema_migrations` -/
def Database.record (db : Database) (version : ℕ) (hash : Digest String) : Database :=
  { db with migrations := db.migrations.map (·.insert version hash) }

/-- One of the three versions. -/
def applyVersion (version : ℕ) (script : Script) (db : Database) : Except Refusal Database :=
  match db.applied version with
  | some hash => do
    demand (hash = digest script.text) (.changed version)
    pure db
  | none => do
    let db ← db.executeAll script.statements
    pure (db.record version (digest script.text))

/-- The statements of `capacity.grants` in a database that has these roles. -/
def capacityGrants (known : Login → Bool) : List Statement :=
  (([.api, .worker].filter known).map fun role =>
    .grant [.select] (.tables [.destinations, .destinationRoutes, .jobRoutes]) [role]) ++
  (if known .api then [.grant [.insert] (.tables [.jobRoutes]) [.api]] else []) ++
  if known .worker then
    [.grant [.select, .insert, .update] (.tables [.capacityState]) [.worker],
      .grant [.select, .insert, .delete] (.tables [.requestPermits]) [.worker],
      .grant [.select, .insert] (.tables [.capacityRequests]) [.worker],
      .grant [.select, .insert] (.tables [.capacityCompletions]) [.worker]]
  else []

/-- The last statements of `migrate`. -/
def executionGrants (known : Login → Bool) : List Statement :=
  ([.api, .worker].filter known).map fun role =>
    .grant [.execute] (.function .executionOpen) [role]

/-- `INSERT INTO cp.policies … ON CONFLICT DO NOTHING` -/
def Database.insertPolicy (db : Database) (policy : Policy) : Except Refusal Database := do
  demand (db.contents.objects.tables.contains .policies) .undefined
  pure (match db.policies.lookup (digest policy) with
    | some _ => db
    | none => { db with policies := db.policies.insert (digest policy) policy })

/-- The roles that are there before the migration. -/
def application : List Login := [.app, .syntheticRemote]

/-- `migrate(dsn)` -/
def migrate (release : Release) (db : Database) : Except Refusal Database := do
  demand (application.all fun role =>
    (db.roles.lookup role.text).any (!·.administrative)) .roles
  demand (!application.any fun role => db.members.contains role.text) .memberships
  let db := { db with migrations := some (db.migrations.getD ∅) }
  let db ← applyVersion 1 release.schema db
  let db ← applyVersion 2 release.capacity db
  let db ← db.executeAll (capacityGrants db.known)
  let db ← applyVersion 3 release.recovery db
  let db ← db.executeAll (executionGrants db.known)
  db.insertPolicy release.policy

/-! ### Roles -/

/-- `CREATE ROLE … LOGIN`, unless it is there -/
def Database.createRole (db : Database) (name : String) : Database :=
  match db.roles.lookup name with
  | some _ => db
  | none => { db with
    roles := db.roles.insert name ⟨false, false, false, false, false, true, none⟩ }

/-- `role(c, name, password)` -/
def role (db : Database) (login : String × String) : Except Refusal Database := do
  let db := db.createRole login.1
  demand (db.plain login.1) .administrative
  match db.roles.lookup login.1 with
  | none => .error .administrative
  | some attributes => pure { db with
      roles := db.roles.insert login.1 { attributes with password := some login.2 } }

/-- `ALTER ROLE … NOLOGIN` -/
def nologin (db : Database) (role : Login) : Except Refusal Database :=
  match db.roles.lookup role.text with
  | none => .error .undefined
  | some attributes => pure { db with
      roles := db.roles.insert role.text { attributes with login := false } }

/-- `grants`, on the control database -/
def controlGrants : List Statement :=
  [.grant [.execute] (.function .executionOpen) [.api, .worker],
    .grant [.usage] (.schemas [.cp]) [.api, .worker, .audit],
    .grant [.select] (.allTables .cp) [.api, .worker, .audit],
    .grant [.insert, .update]
      (.tables [.customers, .identities, .proposals, .jobs, .exceptions]) [.api],
    .grant [.insert] (.tables [.events, .audit]) [.api],
    .grant [.usage, .select] (.allSequences .cp) [.api, .worker],
    .grant [.update] (.tables [.jobs]) [.worker],
    .grant [.update] (.columns .customers ["revision"]) [.worker],
    .grant [.insert] (.tables [.audit, .exceptions]) [.worker],
    .grant [.usage] (.schemas [.cp]) [.observer],
    .grant [.select] (.tables [.jobs]) [.observer]]

/-- `grants`, on the downstream database -/
def remoteGrants : List Statement :=
  [.grant [.usage] (.schemas [.remote]) [.remoteAudit],
    .grant [.select] (.tables [.effects]) [.remoteAudit]]

/-- `recovery.grants(owner_dsn, coordinator_role)` -/
def recoveryGrants (coordinator : Login) : List Statement :=
  [.grant [.usage] (.schemas [.cp]) [coordinator],
    .grant [.select] (.allTables .cp) [coordinator],
    .grant [.insert] (.tables [.recoverySessions, .recoveryProofs]) [coordinator],
    .grant [.update] (.columns .recoveryGate ["mode", "epoch", "session_id", "approved_proof",
      "approved_at"]) [coordinator],
    .grant [.update] (.columns .recoverySessions ["status"]) [coordinator]]

/-! ### Runs -/

/-- The transactions on a database. -/
inductive Operation
  | migrate (release : Release)
  /-- The calls of `role` in one connection, with the passwords. -/
  | provision (logins : List (String × String))
  | close (roles : List Login)
  | controlGrants
  | remoteGrants
  /-- `coordinator_role="control_recovery"` -/
  | recoveryGrants

def Operation.perform (db : Database) : Operation → Except Refusal Database
  | migrate release => Migration.migrate release db
  | provision logins => logins.foldlM role db
  | close roles => roles.foldlM nologin db
  | controlGrants => db.executeAll Migration.controlGrants
  | remoteGrants => db.executeAll Migration.remoteGrants
  | recoveryGrants => db.executeAll (Migration.recoveryGrants .recovery)

/-- A transaction, and whether it comes to its end: an error of the database, or a lost connection,
may end it before. -/
structure Entry where
  operation : Operation
  ended : Bool

/-- What the transaction commits. -/
def Entry.commits (entry : Entry) (db : Database) : Option Database :=
  if entry.ended then (entry.operation.perform db).toOption else none

def Database.step (db : Database) (entry : Entry) : Database := (entry.commits db).getD db

/-- The database after the transactions of a run. -/
abbrev Database.run (db : Database) (entries : List Entry) : Database :=
  Framework.run Database.step db entries

end ControlPlane.Migration
