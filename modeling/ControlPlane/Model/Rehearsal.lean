import ControlPlane.Framework.Guarded
import ControlPlane.Model.Native
import ControlPlane.Model.Registry

/-!
# The rehearsal of an application recovery

`native_application.py` and the parts of `native_retained.py` and `native_run.py` that it uses,
with every call to RDS, S3 and KMS between two tasks; a task is one call here. Any call may
answer with an error, and so does a response in which something is missing that is read. Times
are microseconds of one clock, and what `json.dumps` makes of a document stands for it.
-/

namespace ControlPlane.Rehearsal

open Framework Registry

/-! ### The manifest and the answers -/

/-- What is read of a manifest that `validate_manifest` accepts. -/
structure Manifest where
  run : String
  account : String
  commit : String
  image : String
  cleanupAt : ℤ
deriving DecidableEq

/-- The prefix of the names of the run. -/
def Manifest.tag (m : Manifest) : String := "csa-native-" ++ m.run

/-- `control_db` and `downstream_db`, which the check pins. -/
def Manifest.control (m : Manifest) : String := m.tag ++ "-control"

/-- The database of the receipts. -/
def Manifest.remote (m : Manifest) : String := m.tag ++ "-receipts"

/-- The database that is restored. -/
def Manifest.target (m : Manifest) : String := m.tag ++ "-restore"

/-- Times are counted in microseconds. -/
def second : ℤ := 1000000

/-- A field that should hold a time: nothing, an aware time, or anything else. -/
inductive Stamp
  | absent
  | aware (moment : ℤ)
  | other
deriving DecidableEq

/-- A database as `describe_db_instances` returns it. -/
structure Database where
  identifier : String
  resource : String
  arn : String
  status : String
  instanceClass : String
  multiAZ : Bool
  publiclyAccessible : Bool
  storageEncrypted : Bool
  engine : String
  engineVersion : String
  allocatedStorage : ℤ
  backupRetentionPeriod : Option ℤ
  dbName : Option String
  key : String
  masterUserSecret : Option String
  latestRestorableTime : Stamp
  deletionProtection : Bool
  address : String
  subnetGroup : String
  securityGroups : List String
  parameterGroups : List String
  maxAllocatedStorage : Option ℤ
  /-- It has or is a read replica, or belongs to a cluster. -/
  replicated : Bool
deriving DecidableEq

/-- A row of `describe_db_instance_automated_backups`. -/
structure Backup where
  resource : String
  identifier : String
  instanceArn : String
  arn : String
  region : String
  engine : String
  engineVersion : String
  allocatedStorage : ℤ
  backupRetentionPeriod : Option ℤ
  encrypted : Bool
  key : String
  status : String
  earliest : Stamp
  latest : Stamp
deriving DecidableEq

/-- The answer to `describe_db_instance_automated_backups`. -/
structure Backups where
  rows : List Backup
  requestId : String
deriving DecidableEq

/-- A row of `describe_db_snapshots`. -/
structure Snapshot where
  status : String
  resource : String
  encrypted : Bool
  key : String
  created : ℤ
deriving DecidableEq

/-- The answer of `backup`. -/
structure Window where
  metadata : Backup
  earliest : ℤ
  latest : ℤ
  requestId : String
deriving DecidableEq

/-- The answer to `describe_db_instances` with a name. -/
inductive Described
  | found (rows : List Database)
  | notFound
deriving DecidableEq

/-- `registry.json` as it is read, with its length. -/
structure Document where
  rows : List Entry
  length : ℕ
  etag : String
deriving DecidableEq

/-- The arguments of `restore_db_instance_to_point_in_time` that are not constants. -/
structure RestoreRequest where
  source : String
  target : String
  restoreTime : ℤ
  subnetGroup : String
  securityGroups : List String
  parameterGroup : String
  run : String
deriving DecidableEq

/-- What `modify_db_instance` changes. -/
inductive Change
  | protectionOff
  | retainOneDay
deriving DecidableEq

/-- What a checkpoint keeps beside its phase. The records of the tasks and the seconds that a
restore took are left out. -/
inductive Payload
  | claimed (claim : Digest Manifest)
  | preflight (result : Json String)
  | selected (observed : Stamp) (point : ℤ) (window : Window) (source : String)
  | beforeDeletion (source remote : Database) (backup : Backup)
      (first second initial : Json String)
  | deleteIntent (database : Database) (retain : Bool)
  | available (restored : Database) (point : ℤ) (requestId : String)
  | blocked (result independent : Json String)
  | accepted (point1 point2 : ℤ) (blocked resumed final : Json String)
deriving DecidableEq

/-- `document` in `checkpoint` -/
structure Checkpoint where
  phase : String
  at_ : ℤ
  payload : Payload
deriving DecidableEq

/-- The arguments of `task`, where a recovery point stands for its `isoformat`. -/
structure Call where
  name : Native.TaskName
  phase : Option String := none
  restoredHost : Option String := none
  sourceDatabase : Option (Json String) := none
  recoveryPoint : Option ℤ := none
  expectedExit : ℕ := 0
deriving DecidableEq

/-- The calls of a rehearsal. -/
inductive Question
  | gate
  | now
  | fromisoformat (text : Json String)
  /-- Whether some page names a task. -/
  | listTasks (desiredStatus : String)
  | describeDbInstance (identifier : String)
  /-- The pages of all databases of the region. -/
  | describeDbInstances
  | describeAutomatedBackups (resource : String)
  | describeSnapshots (identifier : String)
  /-- `KeyState` -/
  | describeKey (key : String)
  | listTags (resource : String)
  | addTag (resource run : String)
  | modifyDbInstance (identifier : String) (change : Change)
  | deleteDbInstance (identifier : String) (deleteAutomatedBackups : Bool)
  /-- The answer is the request id. -/
  | restoreDbInstance (request : RestoreRequest)
  | getRegistry
  | putRegistry (rows : List Entry) (ifMatch : String)
  /-- What the local file then holds, if that is a checkpoint. -/
  | writeCheckpoint (checkpoint : Checkpoint)
  | putCheckpoint (checkpoint : Checkpoint)
  | getCheckpoint (phase : String) (checkpoint : Digest Checkpoint)
  /-- With `IfNoneMatch="*"`. -/
  | putClaim (claim : Manifest)
  | getClaim
  | task (writesFrozen : Bool) (call : Call)
deriving DecidableEq

/-- What each call answers. -/
@[reducible] def Question.Reply : Question → Type
  | now => ℤ
  | fromisoformat _ => Stamp
  | listTasks _ => Bool
  | describeDbInstance _ => Described
  | describeDbInstances => List Database
  | describeAutomatedBackups _ => Backups
  | describeSnapshots _ => List Snapshot
  | describeKey _ | restoreDbInstance _ => String
  | listTags _ => List (String × String)
  | getRegistry => Document
  | writeCheckpoint _ | getCheckpoint _ _ => Option Checkpoint
  | getClaim => Option Manifest
  | task _ _ => Json String
  | gate | addTag _ _ | modifyDbInstance _ _ | deleteDbInstance _ _ | putRegistry _ _
  | putCheckpoint _ | putClaim _ => Unit

open Dialogue (Replies check ofOption each poll)

abbrev Controller : Type → Type := Dialogue Question (Replies Question.Reply)

abbrev Exchange : Type := Framework.Exchange Question (Replies Question.Reply)

abbrev History : Type := Framework.History Question (Replies Question.Reply)

abbrev Environment : Type := Framework.Environment Question (Replies Question.Reply)

abbrev call (q : Question) : Controller q.Reply := Dialogue.call q

/-! ### `NativeRun` -/

/-- `drained` -/
def drained : Controller Unit := do
  check (!(← call (.listTasks "RUNNING")))
  check (!(← call (.listTasks "PENDING")))

/-- `["DBInstances"][0]` of `describe_db_instances` with a name. -/
def describe (identifier : String) : Controller Database := do
  match ← call (.describeDbInstance identifier) with
  | .found (row :: _) => pure row
  | _ => Dialogue.raise

/-- What `database` asks of the row. -/
def accepted (identifier : String) (db : Database) : Bool :=
  db.identifier = identifier && db.status = "available" && db.instanceClass = "db.t4g.micro" &&
    !db.multiAZ && !db.publiclyAccessible && db.storageEncrypted && db.engine = "postgres" &&
    db.engineVersion = "17.11" && db.allocatedStorage = 20 &&
    db.backupRetentionPeriod = some 1 && db.dbName = some "csaacceptance"

/-- `NativeRun.database` -/
def database (identifier : String) : Controller Database := do
  let db ← describe identifier
  check (accepted identifier db)
  pure db

/-- `self.run_task`, whose task is the subject of another model. -/
def task (writesFrozen : Bool) (arguments : Call) : Controller (Json String) :=
  call (.task writesFrozen arguments)

/-! ### `RetainedRecovery` -/

/-- `RetainedRecovery.instances` -/
def instances (names : List String) : Controller Unit := do
  let rows ← call .describeDbInstances
  check (rows.length ≤ 2 && rows.all (names.contains ·.identifier) &&
    names.all (rows.map (·.identifier)).contains)

/-- The ARN is that of an automated backup of the account. -/
def isAutoBackup (account arn : String) : Bool :=
  let head := "arn:aws:rds:us-east-2:" ++ account ++ ":auto-backup:"
  let name := arn.toList.drop head.length
  arn.toList = head.toList ++ name && name ≠ [] && name.all fun c => c.isAlphanum || c = '-'

/-- The backup is the one of the pinned, encrypted source. -/
def pinned (m : Manifest) (source : Database) (status : String) (row : Backup) : Bool :=
  row.resource = source.resource && row.identifier = m.control &&
    row.instanceArn = "arn:aws:rds:us-east-2:" ++ m.account ++ ":db:" ++ m.control &&
    (row.region = "us-east-2" || row.region = "use2") && row.engine = "postgres" &&
    row.engineVersion = "17.11" && row.allocatedStorage = 20 &&
    source.backupRetentionPeriod = some 1 &&
    (status ≠ "active" || row.backupRetentionPeriod = some 1) &&
    (status ≠ "retained" || row.backupRetentionPeriod = none ||
      row.backupRetentionPeriod = some 1) &&
    row.encrypted && row.key = source.key && isAutoBackup m.account row.arn

/-- The end of the window: of an active backup not after what the source itself reports. -/
def windowEnd (source : Database) (status : String) (latest : ℤ) : Option ℤ :=
  if status = "active" then
    match source.latestRestorableTime with
    | .aware moment => some (min latest moment)
    | _ => none
  else some latest

/-- The times of the row, if they are a window around the point. -/
def window (source : Database) (status : String) (point : ℤ) (row : Backup) (requestId : String) :
    Controller (Option Window) :=
  match row.earliest, row.latest with
  | .absent, _ | _, .absent => pure none
  | .aware earliest, .aware latest => do
    let latest ← ofOption (windowEnd source status latest)
    if earliest ≤ point && point < latest then pure (some ⟨row, earliest, latest, requestId⟩)
    else pure none
  | _, _ => Dialogue.raise

/-- `RetainedRecovery.backup` -/
def backup (m : Manifest) (source : Database) (status : String) (point : ℤ) :
    Controller (Option Window) := do
  let response ← call (.describeAutomatedBackups source.resource)
  match response.rows with
  | [] => pure none
  | [row] =>
    check (pinned m source status row)
    if row.status = status then window source status point row response.requestId else pure none
  | _ => Dialogue.raise

/-- `RetainedRecovery.tags` -/
def tags (m : Manifest) (arn : String) : Controller Unit := do
  let tags ← call (.listTags arn)
  -- the last of two tags with one key counts
  check (tags.reverse.lookup "AcceptanceRun" = some m.run)

/-- `RetainedRecovery.checkpoint` -/
def checkpoint (phase : String) (payload : Payload) : Controller Unit := do
  let at_ ← call .now
  let document : Checkpoint := ⟨phase, at_, payload⟩
  let written ← call (.writeCheckpoint document)
  check (written = some document)
  call (.putCheckpoint document)
  let read ← call (.getCheckpoint phase (digest document))
  check (read = some document)

/-- No longer document is read as a registry. -/
def registryBudget : ℕ := 2000000

/-- The row of a database, as `register` writes it. -/
def databaseRow (db : Database) : Entry :=
  ⟨"database", db.identifier, [("resource_id", .string db.resource),
    ("owner_secret", (db.masterUserSecret.map Json.string).getD .null)]⟩

/-- The row of the backup, as it is registered. -/
def backupRow (m : Manifest) (source : Database) (backup : Window) : Entry :=
  ⟨"backup", source.resource, [("arn", .string backup.metadata.arn),
    ("source_identifier", .string m.control), ("state", .string "active")]⟩

/-- `RetainedRecovery.register` -/
def register (m : Manifest) (source remote : Database) (backup : Window) : Controller Unit := do
  let response ← call .getRegistry
  check (response.length ≤ registryBudget)
  let merged ← ofOption
    ([databaseRow source, databaseRow remote, backupRow m source backup].foldlM registerRow
      (keyed response.rows))
  call (.putRegistry (values merged) response.etag)

/-! ### `ApplicationRecovery` -/

/-- `require_headroom` -/
def requireHeadroom (m : Manifest) (seconds : ℤ) : Controller Unit := do
  call .gate
  let now ← call .now
  check (seconds * second ≤ m.cleanupAt - now)

/-- `claim_execution` -/
def claimExecution (m : Manifest) : Controller Unit := do
  call (.putClaim m)
  let read ← call .getClaim
  check (read = some m)
  checkpoint "application-execution-claimed" (.claimed (digest m))

/-- `replace(microsecond=0)` -/
def wholeSecond (moment : ℤ) : ℤ := moment / second * second

/-- What one turn of `select_quiescent_point` makes of the time at which the window begins. -/
def tryPoint (m : Manifest) (observed : Stamp) (minimum : ℤ) (label : String) (source : Database) :
    Stamp → Controller (Option (ℤ × Database × Window))
  | .absent => pure none
  | .other => Dialogue.raise
  | .aware earliest => do
    let point := max minimum (wholeSecond earliest + second)
    match ← backup m source "active" point with
    | none => pure none
    | some window =>
      checkpoint (label ++ "-quiescent-point-selected")
        (.selected observed point window source.resource)
      pure (some (point, source, window))

/-- The time at which the window of the only row begins. -/
def windowStart : List Backup → Stamp
  | row :: _ => row.earliest
  | [] => .absent

/-- One turn of the loop in `select_quiescent_point`. -/
def tryQuiescentPoint (m : Manifest) (observed : Stamp) (minimum : ℤ) (label : String) :
    Controller (Option (ℤ × Database × Window)) := do
  call .gate
  drained
  let source ← database m.control
  let response ← call (.describeAutomatedBackups source.resource)
  check (response.rows.length ≤ 1)
  tryPoint m observed minimum label source (windowStart response.rows)

/-- `select_quiescent_point` -/
def selectQuiescentPoint (m : Manifest) (observed : Stamp) (label : String) :
    Controller (ℤ × Database × Window) :=
  match observed with
  | .aware moment =>
    poll (tryQuiescentPoint m observed (wholeSecond moment + 2 * second) label) 60
  | _ => Dialogue.raise

/-- `remember`, for a database with an owner secret. -/
def rememberSecret (secret resource : String) : Controller Unit := do
  let response ← call .getRegistry
  check (response.length ≤ registryBudget)
  call (.putRegistry (values (put (keyed response.rows) (managedSecret secret resource)))
    response.etag)
  let verified ← call .getRegistry
  check (verified.rows.any ((managedSecret secret resource).same))

/-- `remember` -/
def remember (m : Manifest) (db : Database) : Controller Unit :=
  match db.masterUserSecret.filter (· ≠ "") with
  | none => check (db.identifier = m.target)
  | some secret => rememberSecret secret db.resource

/-- One turn of the wait until the deletion protection is off. -/
def tryUnprotected (name resource : String) : Controller (Option Database) := do
  call .gate
  let row ← describe name
  check (row.resource = resource)
  pure (if row.status = "available" && !row.deletionProtection then some row else none)

/-- Both recovery points are in the active window, and the backup has the tag of the run. -/
def checkPoint (m : Manifest) (row : Database) (point : ℤ) : Controller Unit := do
  let window ← ofOption (← backup m row "active" point)
  tags m window.metadata.arn

/-- `retain`: the two points that must be recoverable afterwards, if the backups are kept. -/
def checkPoints (m : Manifest) (row : Database) : Option (ℤ × ℤ) → Controller Unit
  | none => pure ()
  | some (point1, point2) => each (checkPoint m row) [point1, point2]

/-- One turn of the wait until the database is gone. -/
def tryDeleted (m : Manifest) (name : String) : Controller (Option Unit) := do
  call .gate
  match ← call (.describeDbInstance name) with
  | .found _ => pure none
  | .notFound =>
    instances [m.remote]
    pure (some ())

/-- `delete_owned`; the points are there exactly where `retain` is. -/
def deleteOwned (m : Manifest) (db : Database) (points : Option (ℤ × ℤ)) : Controller Unit := do
  check ((db.identifier = m.control || db.identifier = m.target) &&
    (points.isNone || db.identifier = m.control))
  call .gate
  drained
  tags m db.arn
  let current ← database db.identifier
  check (current.resource = db.resource)
  remember m current
  checkpoint ("delete-intent-" ++ current.resource) (.deleteIntent current points.isSome)
  call (.modifyDbInstance db.identifier .protectionOff)
  let row ← poll (tryUnprotected db.identifier db.resource) 30
  drained
  checkPoints m row points
  call (.deleteDbInstance db.identifier points.isNone)
  poll (tryDeleted m db.identifier) 90

/-- One turn of the wait until the restored database is available. -/
def tryAvailable (m : Manifest) : Controller (Option Database) := do
  call .gate
  instances [m.remote, m.target]
  let row ← describe m.target
  pure (if row.status = "available" then some row else none)

/-- One turn of the wait until backups are retained for one day. -/
def tryRetaining (m : Manifest) : Controller (Option Unit) := do
  call .gate
  let row ← describe m.target
  pure (if row.status = "available" && row.backupRetentionPeriod = some 1 then some () else none)

/-- The restored database keeps its backups for one day. -/
def retainOneDay (m : Manifest) (row : Database) : Controller Unit :=
  if row.backupRetentionPeriod = some 1 then pure ()
  else do
    call (.modifyDbInstance m.target .retainOneDay)
    poll (tryRetaining m) 60

/-- The request that `restore` makes. -/
def restoreRequest (m : Manifest) (source : Database) (point : ℤ) (parameterGroup : String) :
    RestoreRequest where
  source := source.resource
  target := m.target
  restoreTime := point
  subnetGroup := source.subnetGroup
  securityGroups := source.securityGroups
  parameterGroup := parameterGroup
  run := m.run

/-- The first half of `restore`: what is checked before the request. -/
def checkRestore (m : Manifest) (source remote : Database) (point : ℤ) : Controller Unit := do
  requireHeadroom m 1500
  drained
  instances [m.remote]
  let retained ← ofOption (← backup m source "retained" point)
  tags m retained.metadata.arn
  check ((← database m.remote).resource = remote.resource)
  check ((← call (.describeKey source.key)) = "Enabled")

/-- The second half: the restored database is awaited and checked. -/
def awaitRestored (m : Manifest) (source remote : Database) (point : ℤ) (label requestId : String) :
    Controller Database := do
  let row ← poll (tryAvailable m) 100
  check (row.maxAllocatedStorage = none || row.maxAllocatedStorage = some 0)
  retainOneDay m row
  let restored ← database m.target
  check (restored.resource ≠ source.resource && restored.resource ≠ remote.resource &&
    restored.key = source.key)
  remember m restored
  checkpoint (label ++ "-rds-available") (.available restored point requestId)
  pure restored

/-- `restore` -/
def restore (m : Manifest) (source remote : Database) (point : ℤ) (label : String) :
    Controller Database := do
  checkRestore m source remote point
  let parameterGroup ← ofOption source.parameterGroups.head?
  let requestId ← call (.restoreDbInstance (restoreRequest m source point parameterGroup))
  awaitRestored m source remote point label requestId

/-! ### `execute` -/

open Native (reads is counts isCount verifyReceipts verifyResult)

/-- `result[name] == text` -/
def hasText (result : Json String) (name text : String) : Bool :=
  result.member name = some (.string text)

/-- The maintenance of the restored database, in a phase of the recovery. -/
def binding (restored : Database) (sourceDatabase : Json String) (point : ℤ) (phase : String) :
    Call where
  name := .receipt
  phase := some phase
  restoredHost := some restored.address
  sourceDatabase := some sourceDatabase
  recoveryPoint := some point

/-- The verification of the restored database. -/
def verification (restored : Database) (expectedExit : ℕ) : Call where
  name := .verify
  restoredHost := some restored.address
  expectedExit := expectedExit

/-- The rehearsal of the recovery operations on the source. -/
def preflightCall : Call where
  name := .receipt
  phase := some "source-preflight"

/-- The preflight passed, and its recovery was rolled back. -/
def rolledBack (preflight : Json String) : Bool :=
  reads preflight "stage" "source_preflight_passed" &&
    is preflight "recovery_operations_rolled_back" true && counts preflight "write_denials" 2

/-- The beginning of `execute`: the databases, and the preflight. -/
def prepare (m : Manifest) : Controller Database := do
  requireHeadroom m 9000
  claimExecution m
  drained
  instances [m.control, m.remote]
  let source ← database m.control
  let remote ← database m.remote
  check ((source.masterUserSecret.filter (· ≠ "")).isSome &&
    (remote.masterUserSecret.filter (· ≠ "")).isSome)
  let _ ← task false { name := .bootstrap }
  let preflight ← task false preflightCall
  check (rolledBack preflight)
  checkpoint "source-recovery-permissions-verified" (.preflight preflight)
  pure remote

/-- What the writers leave behind: the two points, and the source with its backup. -/
structure Baseline where
  first : Json String
  second : Json String
  point1 : ℤ
  point2 : ℤ
  source : Database
  backup : Window

/-- The two writers, and a quiescent point after each. -/
def write (m : Manifest) : Controller Baseline := do
  let first ← task false { name := .baseline }
  let firstObserved ← call (.fromisoformat (← ofOption (first.member "recovery_point")))
  check (is first "terminated_worker" true &&
    (first.member "comparison").any (counts · "remote_effects" 3))
  let (point1, _, _) ← selectQuiescentPoint m firstObserved "behind"
  let second ← task false { name := .control }
  let secondObserved ← call (.fromisoformat (← ofOption (second.member "recovery_point")))
  let (point2, source, window) ← selectQuiescentPoint m secondObserved "matching"
  check (point1 < point2 && (second.member "comparison").any (counts · "remote_effects" 5))
  let earlier ← backup m source "active" point1
  check earlier.isSome
  pure ⟨first, second, point1, point2, source, window⟩

/-- An independent comparison of five intents with five effects. -/
def safe (initial : Json String) : Bool :=
  is initial "safe_to_resume" true && counts initial "local_intents" 5 &&
    counts initial "remote_effects" 5

/-- The independent verification of the source, with the fingerprint of the ledger. -/
def verifySource (second : Json String) : Controller (Json String × String) := do
  let initial ← task false { name := .verify }
  check (safe initial)
  let expected ← ofOption (second.member "remote_ledger_sha256")
  let fingerprint ← ofOption (verifyReceipts expected initial)
  pure (initial, fingerprint)

/-- An hour. -/
def hour : ℤ := 3600 * second

/-- A snapshot of the source before the first point, which is kept long enough. -/
def usable (m : Manifest) (source : Database) (point1 : ℤ) (snapshot : Snapshot) : Bool :=
  snapshot.status = "available" && snapshot.resource = source.resource && snapshot.encrypted &&
    snapshot.key = source.key && snapshot.created ≤ point1 &&
    m.cleanupAt + hour < snapshot.created + 24 * hour

/-- What is checked and recorded between the verification and the deletion of the source. -/
def prepareDeletion (m : Manifest) (remote : Database) (baseline : Baseline)
    (initial : Json String) : Controller Unit := do
  requireHeadroom m 6900
  check ((← call (.describeKey baseline.source.key)) = "Enabled")
  check (!baseline.source.replicated)
  let snapshots ← call (.describeSnapshots m.control)
  check (snapshots.any (usable m baseline.source baseline.point1))
  call (.addTag baseline.backup.metadata.arn m.run)
  tags m baseline.backup.metadata.arn
  register m baseline.source remote baseline.backup
  checkpoint "application-before-source-deletion" (.beforeDeletion baseline.source remote
    baseline.backup.metadata baseline.first baseline.second initial)
  let current ← database m.control
  check (current.resource = baseline.source.resource)
  let window1 ← backup m current "active" baseline.point1
  check window1.isSome
  let window2 ← backup m current "active" baseline.point2
  check window2.isSome

/-- One turn of the wait until both windows are retained. -/
def tryRetained (m : Manifest) (baseline : Baseline) : Controller (Option Unit) := do
  call .gate
  match ← backup m baseline.source "retained" baseline.point1 with
  | none => pure none
  | some _ =>
    let window2 ← backup m baseline.source "retained" baseline.point2
    pure (window2.map fun _ => ())

/-- The earlier point was found blocked, and its worker claimed nothing. -/
def blockedStage (fingerprint : String) (blocked : Json String) : Bool :=
  reads blocked "stage" "behind_blocked" && is blocked "worker_claimed" false &&
    (blocked.member "verification").any (is · "safe_to_resume" false) &&
    hasText blocked "remote_ledger_sha256" fingerprint

/-- The maintenance of the earlier point, which must be blocked. -/
def blockBehind (m : Manifest) (restored : Database) (baseline : Baseline) (fingerprint : String) :
    Controller (Json String) := do
  let sourceDatabase ← ofOption (baseline.first.member "source_database")
  let blocked ← task true (binding restored sourceDatabase baseline.point1 "behind")
  check (blockedStage fingerprint blocked)
  let independent ← task true (verification restored 2)
  check (verifyResult 3 5 false (.string fingerprint) independent)
  checkpoint "application-behind-independently-blocked" (.blocked blocked independent)
  requireHeadroom m 3600
  pure blocked

/-- The later point was resumed, and no effect occurred twice. -/
def resumedStage (resumed : Json String) : Bool :=
  reads resumed "stage" "matching_resumed" && is resumed "old_completion_accepted" false &&
    isCount resumed "duplicate_business_effects" 0 &&
    is resumed "independent_database_identity_unchanged" true

/-- The status of a run that passed, with what the result says of the tasks. -/
structure Passed where
  point1 : ℤ
  point2 : ℤ
  blocked : Json String
  resumed : Json String
  final : Json String

/-- The maintenance of the matching point, which must be open. -/
def resumeMatching (m : Manifest) (remote matching : Database) (baseline : Baseline)
    (blocked : Json String) : Controller Passed := do
  let sourceDatabase ← ofOption (baseline.first.member "source_database")
  let resumed ← task true (binding matching sourceDatabase baseline.point2 "matching")
  check (resumedStage resumed)
  let final ← task true (verification matching 0)
  let ledger ← ofOption (resumed.member "remote_ledger_sha256")
  check (verifyResult 6 6 true ledger final)
  check ((← database m.remote).resource = remote.resource)
  checkpoint "application-recovery-independently-accepted"
    (.accepted baseline.point1 baseline.point2 blocked resumed final)
  pure ⟨baseline.point1, baseline.point2, blocked, resumed, final⟩

/-- `execute`, where `approved` is that the deletion of the source is allowed and checkpoints are
durable. -/
def execute (m : Manifest) (approved : Bool) : Controller Passed := do
  check approved
  let remote ← prepare m
  let baseline ← write m
  let (initial, fingerprint) ← verifySource baseline.second
  -- the writers are frozen from here on
  prepareDeletion m remote baseline initial
  deleteOwned m baseline.source (some (baseline.point1, baseline.point2))
  poll (tryRetained m baseline) 40
  let restored ← restore m baseline.source remote baseline.point1 "behind"
  let blocked ← blockBehind m restored baseline fingerprint
  deleteOwned m restored none
  let matching ← restore m baseline.source remote baseline.point2 "matching"
  check (matching.resource ≠ restored.resource)
  resumeMatching m remote matching baseline blocked

end ControlPlane.Rehearsal
