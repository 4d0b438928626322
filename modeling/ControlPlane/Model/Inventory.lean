import ControlPlane.Framework.Embed
import ControlPlane.Model.Cleanup
import ControlPlane.Model.Watchdog

/-!
# The inventory, and the passes that use it

`native_inventory.py`: `Inventory.collect` lists everything in AWS that belongs to a run, and
`public_report` says of the rows whether anything is left. `native_watchdog.py`: `handler` collects,
stores what it has seen, and starts the cleanup pass, which collects again. The `handler` of
`native_inventory.py` is the checker, which only reports.

A call of `pages` is one question for all pages of an operation, and may answer with an error, as
every call may. A response that lacks a field which is read is one of those errors. Times are
microseconds of one clock. The names of the objects that hold an inventory or a report have the
time in them, and the references of the public report are left out.
-/

namespace ControlPlane.Inventory

open Framework Registry
open Cleanup (Association Kind Row)

/-! ### The run -/

/-- What an `Inventory` is for. -/
structure Run where
  run : String
  account : String
deriving DecidableEq

/-- `re.fullmatch("[a-z0-9]{8,16}", run)` -/
def isRun (text : String) : Bool :=
  8 ≤ text.length && text.length ≤ 16 &&
    text.toList.all fun c => ('a' ≤ c && c ≤ 'z') || ('0' ≤ c && c ≤ '9')

/-- `re.fullmatch("[0-9]{12}", account)` -/
def isAccount (text : String) : Bool :=
  text.length = 12 && text.toList.all fun c => '0' ≤ c && c ≤ '9'

/-- What `identity` checks. -/
def Run.valid (r : Run) : Bool := isRun r.run && isAccount r.account

/-- `self.prefix` -/
def Run.tag (r : Run) : String := "csa-native-" ++ r.run

/-- The databases that a run can have. -/
def Run.names (r : Run) : List String :=
  [r.tag ++ "-control", r.tag ++ "-receipts", r.tag ++ "-restore"]

/-- The ARN of the cluster of the run. -/
def Run.cluster (r : Run) : String :=
  "arn:aws:ecs:us-east-2:" ++ r.account ++ ":cluster/" ++ r.tag

/-- The families of the task definitions. -/
def Run.families (r : Run) : List String :=
  ["bootstrap", "baseline", "control", "receipt", "verify"].map fun name => r.tag ++ "-" ++ name

/-- The statuses of task definitions that are listed. -/
def statuses : List String := ["ACTIVE", "INACTIVE", "DELETE_IN_PROGRESS"]

/-- The path of the logs and roles of the run. -/
def Run.logs (r : Run) : String := "/csa-native/" ++ r.run ++ "/"

/-- The log groups that RDS makes for the databases. -/
def Run.databaseLogs (r : Run) : List String :=
  r.names.map fun name => "/aws/rds/instance/" ++ name ++ "/postgresql"

/-! ### What AWS answers -/

/-- The tags of a resource, where the last of two tags with one key counts. -/
abbrev Tags : Type := List (String × String)

/-- `{t["Key"]: t["Value"] for t in tags}.get("AcceptanceRun") == self.run` -/
def tagged (r : Run) (tags : Tags) : Bool := tags.reverse.lookup "AcceptanceRun" = some r.run

/-- A row of `describe_db_instances`. -/
structure DbInstance where
  identifier : String
  arn : String
  status : String
  /-- False where it is absent. -/
  deletionProtection : Bool
  resource : String
  ownerSecret : Option String
deriving DecidableEq

/-- A row of `describe_db_snapshots`. -/
structure Snapshot where
  instance_ : String
  identifier : String
  status : String
deriving DecidableEq

/-- A row of `describe_db_instance_automated_backups`. -/
structure Backup where
  instance_ : String
  arn : String
  resource : String
  status : String
deriving DecidableEq

/-- A row of `list_secrets`. -/
structure Secret where
  arn : String
  tags : Tags
  /-- There is a `DeletedDate`. -/
  deleted : Bool
deriving DecidableEq

/-- The answer to `describe_secret`. -/
inductive DescribedSecret
  | found (arn : String) (deleted : Bool)
  | notFound
deriving DecidableEq

/-- `KeyMetadata` -/
structure KeyMetadata where
  keyManager : Option String
  keyState : String
  arn : String
deriving DecidableEq

/-- The six kinds of resources of a network. -/
inductive NetworkKind
  | endpoint | eni | routeTable | securityGroup | subnet | vpc
deriving DecidableEq

/-- The kind under which such a resource is recorded. -/
def NetworkKind.kind : NetworkKind → Kind
  | endpoint => .endpoint
  | eni => .eni
  | routeTable => .routeTable
  | securityGroup => .securityGroup
  | subnet => .subnet
  | vpc => .vpc

/-- A resource of a network, with the fields that such resources have. -/
structure NetworkResource where
  identifier : String
  state : Option String
  status : Option String
  vpc : Option String
  associations : List Association
  requesterManaged : Bool
  ingress : List (Json String)
  egress : List (Json String)
  isDefault : Bool
deriving DecidableEq

/-- The filters of a question. -/
inductive Filter
  /-- `tag:AcceptanceRun` -/
  | acceptanceRun (run : String)
  | vpcId (values : List String)
deriving DecidableEq

/-- The calls of the inventory. -/
inductive Question
  | getCallerIdentity
  | describeDbInstances
  /-- With `SnapshotType="manual"`. -/
  | describeDbSnapshots
  | describeAutomatedBackups
  | listTagsForResource (arn : String)
  /-- The statuses of the clusters. -/
  | describeClusters (cluster : String)
  | listTasks (cluster : String)
  | listTaskDefinitions (family status : String)
  | describeRepositories
  /-- The digests of the images. -/
  | describeImages (repository : String)
  | listSecrets
  | describeSecret (arn : String)
  | describeLogGroups (beginning : String)
  | listKeys
  | describeKey (key : String)
  | listResourceTags (key : String)
  | describeNetwork (kind : NetworkKind) (filter : Filter)
  | describeDbSubnetGroups
  | describeDbParameterGroups
  | listRoles (path : String)
deriving DecidableEq

/-- The answers to them, when they are given, page by page where they come in pages. -/
@[reducible] def Question.Reply : Question → Type
  | getCallerIdentity => String
  | describeDbInstances => List (List DbInstance)
  | describeDbSnapshots => List (List Snapshot)
  | describeAutomatedBackups => List (List Backup)
  | listTagsForResource _ | listResourceTags _ => Tags
  | describeClusters _ => List String
  | listSecrets => List (List Secret)
  | describeSecret _ => DescribedSecret
  | describeKey _ => KeyMetadata
  | describeNetwork _ _ => List (List NetworkResource)
  | listTasks _ | listTaskDefinitions _ _ | describeRepositories | describeImages _
  | describeLogGroups _ | listKeys | describeDbSubnetGroups | describeDbParameterGroups
  | listRoles _ => List (List String)

open Dialogue (Replies check gather ofOption)

/-- The programs over these calls. -/
abbrev Controller : Type → Type := Dialogue Question (Replies Question.Reply)

/-- A call, with its answer. -/
abbrev Exchange : Type := Framework.Exchange Question (Replies Question.Reply)

/-- The calls so far. -/
abbrev History : Type := Framework.History Question (Replies Question.Reply)

/-- One of these calls. -/
abbrev call (q : Question) : Controller q.Reply := Dialogue.call q

/-- The budget of `pages`: incomplete is not empty. -/
def bounded {α : Type} (pages : List (List α)) : Controller (List α) := do
  check (pages.flatten.length ≤ 1000)
  pure pages.flatten

/-! ### The rows -/

/-- A row of the inventory, with the attributes that the cleanup pass does not look at. -/
structure Found extends Row where
  arn : String := ""
  resource : String := ""
  ownerSecret : Option String := none
  imageDigests : List String := []
  vpc : Option String := none

/-- The row of a database, with its owner secret. -/
def databaseRow (db : DbInstance) : Found :=
  { kind := .database, id := db.identifier, arn := db.arn, state := db.status,
    protected_ := db.deletionProtection, resource := db.resource, ownerSecret := db.ownerSecret }

/-- The row of a manual snapshot. -/
def snapshotRow (snapshot : Snapshot) : Found :=
  { kind := .snapshot, id := snapshot.identifier, state := snapshot.status }

/-- The row of an automated backup, named by the resource of its database. -/
def backupRow (backup : Backup) (verified : Bool) : Found :=
  { kind := .backup, id := backup.resource, state := backup.status, arn := backup.arn,
    runTagVerified := verified }

/-- The row of a task that runs in the cluster. -/
def taskRow (cluster task : String) : Found := { kind := .task, id := task, cluster := cluster }

/-- The row of a revision, whose state is the status it was listed with. -/
def taskDefinitionRow (status definition : String) : Found :=
  { kind := .taskDefinition, id := definition, state := status }

/-- The row of the repository, with its images. -/
def repositoryRow (repository : String) (digests : List String) : Found :=
  { kind := .repository, id := repository, imageDigests := digests }

/-- A deleted secret stays listed until its recovery window has passed. -/
def secretState (deleted : Bool) : String := if deleted then "pending_deletion" else "active"

/-- The row of a secret; those that RDS owns are managed. -/
def secretRow (owners : List String) (arn : String) (deleted : Bool) : Found :=
  { kind := .secret, id := arn, managed := owners.contains arn, state := secretState deleted }

/-- The row of a key of the run. -/
def keyRow (key : String) (metadata : KeyMetadata) : Found :=
  { kind := .key, id := key, state := metadata.keyState, arn := metadata.arn }

/-- The row of a network resource: its state, else its status, else that it is present. -/
def networkRow (kind : NetworkKind) (row : NetworkResource) : Found :=
  { kind := kind.kind, id := row.identifier
    state := row.state.getD (row.status.getD "present")
    vpc := row.vpc, associations := row.associations, requesterManaged := row.requesterManaged
    ingress := row.ingress, egress := row.egress }

/-- A row that has only its name. -/
def namedRow (kind : Kind) (name : String) : Found := { kind := kind, id := name }

/-! ### What is written of a row -/

/-- The text of a kind. -/
def kindText : Kind → String
  | .task => "task"
  | .database => "database"
  | .snapshot => "snapshot"
  | .backup => "backup"
  | .repository => "repository"
  | .secret => "secret"
  | .logGroup => "log_group"
  | .endpoint => "endpoint"
  | .eni => "eni"
  | .routeTable => "route_table"
  | .securityGroup => "security_group"
  | .subnet => "subnet"
  | .vpc => "vpc"
  | .dbSubnetGroup => "db_subnet_group"
  | .dbParameterGroup => "db_parameter_group"
  | .taskDefinition => "task_definition"
  | .cluster => "cluster"
  | .role => "role"
  | .key => "key"

/-- `None` is written as `null`. -/
def optional (text : Option String) : Json String := (text.map Json.string).getD .null

/-- An association of a route table, as the answer has it. -/
def associationJson (association : Association) : Json String :=
  .object [("Main", .bool association.main),
    ("RouteTableAssociationId", .string association.routeTableAssociationId)]

/-- The attributes under which `add` records a row. -/
def Found.fields (row : Found) : Fields :=
  match row.kind with
  | .database => [("arn", .string row.arn), ("state", .string row.state),
      ("protected", .bool row.protected_), ("resource_id", .string row.resource),
      ("owner_secret", optional row.ownerSecret)]
  | .snapshot | .taskDefinition => [("state", .string row.state)]
  | .backup => [("state", .string row.state), ("arn", .string row.arn),
      ("run_tag_verified", .bool row.runTagVerified)]
  | .task => [("cluster", .string row.cluster)]
  | .repository => [("image_digests", .array (row.imageDigests.map .string))]
  | .secret => [("managed", .bool row.managed), ("state", .string row.state)]
  | .key => [("state", .string row.state), ("arn", .string row.arn)]
  | .endpoint | .eni | .routeTable | .securityGroup | .subnet | .vpc =>
    [("state", .string row.state), ("vpc", optional row.vpc),
      ("associations", .array (row.associations.map associationJson)),
      ("requester_managed", .bool row.requesterManaged), ("ingress", .array row.ingress),
      ("egress", .array row.egress)]
  | .cluster | .logGroup | .dbSubnetGroup | .dbParameterGroup | .role => []

/-- The row as it stands in a document. -/
def Found.entry (row : Found) : Entry := ⟨kindText row.kind, row.id, row.fields⟩

/-! ### `Inventory.collect` -/

/-- The part of a text behind the first separator. -/
def behind (separator : List Char) : List Char → Option (List Char)
  | [] => none
  | c :: text =>
    if separator.isPrefixOf (c :: text) then some ((c :: text).drop separator.length)
    else behind separator text

/-- The part of a text before the first separator. -/
def upTo (separator : List Char) : List Char → List Char
  | [] => []
  | c :: text => if separator.isPrefixOf (c :: text) then [] else c :: upTo separator text

/-- `definition.split("task-definition/")[1].split(":")[0]`, which may raise. -/
def familyOf (definition : String) : Option String :=
  let separator := "task-definition/".toList
  (behind separator definition.toList).map fun rest =>
    String.ofList (upTo [':'] (upTo separator rest))

section Collect

variable (r : Run)

/-- The databases of the run. -/
def databases : Controller (List Found) := do
  let instances ← bounded (← call .describeDbInstances)
  pure ((instances.filter fun db => r.names.contains db.identifier).map databaseRow)

/-- The manual snapshots of its databases. -/
def snapshots : Controller (List Found) := do
  let snapshots ← bounded (← call .describeDbSnapshots)
  pure ((snapshots.filter fun snapshot => r.names.contains snapshot.instance_).map snapshotRow)

/-- The tags of a retained backup are read. -/
def backup (backup : Backup) : Controller (List Found) :=
  if backup.status = "retained" then do
    let tags ← call (.listTagsForResource backup.arn)
    pure [backupRow backup (tagged r tags)]
  else pure [backupRow backup false]

/-- Their automated backups. -/
def backups : Controller (List Found) := do
  let backups ← bounded (← call .describeAutomatedBackups)
  gather (backup r) (backups.filter fun backup => r.names.contains backup.instance_)

/-- The cluster with its tasks, unless it is inactive. -/
def cluster (status : String) : Controller (List Found) :=
  if status = "INACTIVE" then pure []
  else do
    let tasks ← bounded (← call (.listTasks r.cluster))
    pure (namedRow .cluster r.cluster :: tasks.map (taskRow r.cluster))

/-- The cluster, in each status that it is described with. -/
def clusters : Controller (List Found) := do
  let statuses ← call (.describeClusters r.cluster)
  gather (cluster r) statuses

/-- The revisions of a family in a status; one of another family is an error. -/
def taskDefinitionsOf (status family : String) : Controller (List Found) := do
  let definitions ← bounded (← call (.listTaskDefinitions family status))
  check (definitions.all fun definition => familyOf definition = some family)
  pure (definitions.map (taskDefinitionRow status))

/-- All revisions of the families of the run. -/
def taskDefinitions : Controller (List Found) :=
  gather (fun status => gather (taskDefinitionsOf status) r.families) statuses

/-- The repository of the run, with the digests of its images. -/
def repository (_ : String) : Controller (List Found) := do
  let digests ← bounded (← call (.describeImages r.tag))
  pure [repositoryRow r.tag digests]

/-- The repository, if it is there. -/
def repositories : Controller (List Found) := do
  let repositories ← bounded (← call .describeRepositories)
  gather (repository r) (repositories.filter (· = r.tag))

/-- The secrets of the listing. -/
def listedSecrets (owners : List String) : Controller (List Found) := do
  let secrets ← bounded (← call .listSecrets)
  pure ((secrets.filter fun secret => tagged r secret.tags || owners.contains secret.arn).map
    fun secret => secretRow owners secret.arn secret.deleted)

/-- One turn of the loop over the known secrets that the listing does not show. -/
def knownSecret (owners : List String) (arn : String) : Controller (List Found) := do
  match ← call (.describeSecret arn) with
  | .notFound => pure []
  | .found described deleted =>
    check (described = arn)
    pure [secretRow owners arn deleted]

/-- `sorted(known_secrets - observed_secrets)` -/
def unobserved (owners : List String) (known : List Entry) (observed : List Found) : List String :=
  let knownSecrets := (known.filter (·.kind = "secret")).map (·.id)
  ((owners ++ knownSecrets).dedup.filter (· ∉ observed.map (·.id))).insertionSort (· ≤ ·)

/-- The secrets of the listing, and those that are known but were not observed. -/
def secrets (known : List Entry) (owners : List String) : Controller (List Found) := do
  let observed ← listedSecrets r owners
  let others ← gather (knownSecret owners) (unobserved owners known observed)
  pure (observed ++ others)

/-- The log group is in the path of the run, or one of its databases. -/
def isRunLog (name : String) : Bool :=
  r.logs.toList.isPrefixOf name.toList || r.databaseLogs.contains name

/-- The log groups of the run with this beginning. -/
def logGroupsOf (beginning : String) : Controller (List Found) := do
  let groups ← bounded (← call (.describeLogGroups beginning))
  pure ((groups.filter (isRunLog r)).map (namedRow .logGroup))

/-- All log groups of the run. -/
def logGroups : Controller (List Found) :=
  gather (logGroupsOf r) [r.logs, "/aws/rds/instance/" ++ r.tag ++ "-"]

/-- A key of the customer, if it has the tag of the run. -/
def key (key : String) : Controller (List Found) := do
  let metadata ← call (.describeKey key)
  if metadata.keyManager = some "CUSTOMER" then
    let tags ← call (.listResourceTags key)
    pure (if tagged r tags then [keyRow key metadata] else [])
  else pure []

/-- The keys of the run. -/
def keys : Controller (List Found) := do
  let keys ← bounded (← call .listKeys)
  gather (key r) keys

/-- The interfaces are those of the networks of the run, if there are any. -/
def query (owned : List NetworkResource) (kind : NetworkKind) : Filter :=
  if kind = .eni && !owned.isEmpty then .vpcId (owned.map (·.identifier))
  else .acceptanceRun r.run

/-- The resources of one kind in the networks of the run. -/
def networkOf (owned : List NetworkResource) (kind : NetworkKind) : Controller (List Found) := do
  let rows ← bounded (← call (.describeNetwork kind (query r owned kind)))
  -- never a default network
  check (!(kind = .vpc && rows.any (·.isDefault)))
  pure (rows.map (networkRow kind))

/-- The networks of the run, the resources inside them first. -/
def network : Controller (List Found) := do
  let owned ← bounded (← call (.describeNetwork .vpc (.acceptanceRun r.run)))
  gather (networkOf r owned) [.endpoint, .eni, .routeTable, .securityGroup, .subnet, .vpc]

/-- The subnet group of the run, if it is there. -/
def dbSubnetGroups : Controller (List Found) := do
  let groups ← bounded (← call .describeDbSubnetGroups)
  pure ((groups.filter (· = r.tag)).map (namedRow .dbSubnetGroup))

/-- The parameter group of the run, if it is there. -/
def dbParameterGroups : Controller (List Found) := do
  let groups ← bounded (← call .describeDbParameterGroups)
  pure ((groups.filter (· = r.tag)).map (namedRow .dbParameterGroup))

/-- The roles in the path of the run. -/
def roles : Controller (List Found) := do
  let roles ← bounded (← call (.listRoles r.logs))
  pure (roles.map (namedRow .role))

/-- What comes before the secrets. -/
def beforeSecrets : Controller (List Found) := do
  let databases ← databases r
  let snapshots ← snapshots r
  let backups ← backups r
  let clusters ← clusters r
  let taskDefinitions ← taskDefinitions r
  let repositories ← repositories r
  pure (databases ++ snapshots ++ backups ++ clusters ++ taskDefinitions ++ repositories)

/-- What comes behind them. -/
def behindSecrets : Controller (List Found) := do
  let logGroups ← logGroups r
  let keys ← keys r
  let network ← network r
  let dbSubnetGroups ← dbSubnetGroups r
  let dbParameterGroups ← dbParameterGroups r
  let roles ← roles r
  pure (logGroups ++ keys ++ network ++ dbSubnetGroups ++ dbParameterGroups ++ roles)

/-- The owner secrets, of the databases that were known and of those that were seen. -/
def owners (known : List Entry) (rows : List Found) : List String :=
  Watchdog.ownerSecrets known (rows.map Found.entry)

/-- `Inventory.collect` -/
def collect (known : List Entry) : Controller (List Found) := do
  check ((← call .getCallerIdentity) = r.account)
  let before ← beforeSecrets r
  let secrets ← secrets r known (owners known before)
  let behind ← behindSecrets r
  pure (before ++ secrets ++ behind)

end Collect

/-! ### `public_report` -/

/-- A row that no longer counts, where nothing can execute. -/
def dormant (runtimeCanExecute : Bool) (row : Row) : Bool :=
  (row.kind = .key && row.state = "PendingDeletion") ||
    (row.kind = .secret && row.state = "pending_deletion") ||
    (row.kind = .taskDefinition && row.state = "DELETE_IN_PROGRESS" && !runtimeCanExecute)

/-- The kinds of rows that have a state. -/
def hasState : Kind → Bool
  | .task | .repository | .logGroup | .dbSubnetGroup | .dbParameterGroup | .cluster | .role => false
  | _ => true

/-- What is reported of an inventory. -/
structure PublicReport where
  activeResourcesAbsent : Bool
  allResourcesAbsent : Bool
  residuals : List (Kind × String)
deriving DecidableEq

/-- Whether nothing active is left, whether nothing is left, and what is. -/
def publicReport (rows : List Row) : PublicReport where
  activeResourcesAbsent :=
    -- a cluster or a task that is left may still use other resources
    let runtimeCanExecute := rows.any fun row => row.kind = .cluster || row.kind = .task
    rows.all (dormant runtimeCanExecute)
  allResourcesAbsent := rows.isEmpty
  residuals := rows.map fun row => (row.kind, if hasState row.kind then row.state else "present")

end ControlPlane.Inventory
