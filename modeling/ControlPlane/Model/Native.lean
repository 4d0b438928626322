import ControlPlane.Framework.Dialogue
import ControlPlane.Framework.Json
import ControlPlane.Model.Schema
import Mathlib.Algebra.GroupWithZero.Nat

/-!
# Native recovery runs

`native_run.py`, `native_retained.py` and `native_application.py`: the controller that
rehearses a recovery on one-off ECS tasks and takes what they print as evidence. The
controller is a dialogue with its providers. `task` is modelled call by call; the calls to
RDS, S3 and KMS between two tasks, which start no task, are one question for each stretch, and
its answer is what the later calls use. A provider that does not answer is an exception that
the controller does not catch, or a crash of the controller.
-/

namespace ControlPlane.Native

open Framework

/-! ### The manifest and the arguments of a task -/

/-- The tasks that a run starts. -/
inductive TaskName
  | bootstrap | baseline | control | receipt | verify
deriving DecidableEq

/-- The names by which the manifest lists them. -/
def TaskName.text : TaskName → String
  | bootstrap => "bootstrap"
  | baseline => "baseline"
  | control => "control"
  | receipt => "receipt"
  | verify => "verify"

/-- The workflows that an acceptance run can have. -/
inductive AcceptanceWorkflow
  | sqlFixture | applicationRecovery
deriving DecidableEq

/-- `repository@digest`. -/
structure Image where
  repository : String
  digest : String
deriving DecidableEq

/-- A manifest that `validate_manifest` accepts. -/
structure Manifest where
  acceptanceWorkflow : AcceptanceWorkflow
  /-- `recovery_strategy` is `STRATEGY`. -/
  retained : Bool
  run : String
  cluster : String
  tasks : TaskName → String
  taskSubnet : String
  taskGroups : TaskName → String
  image : Image
  controlDb : String
  downstreamDb : String
  application_retained : acceptanceWorkflow = .applicationRecovery → retained = true

/-- Whether the run recovers an application. -/
def Manifest.application (m : Manifest) : Bool := m.acceptanceWorkflow = .applicationRecovery

/-- `self.prefix`. -/
def Manifest.tag (m : Manifest) : String := "csa-native-" ++ m.run

/-- The keys of the dictionary `extra`. -/
inductive Variable
  | fixtureJson | restoredHost | sourceDatabase | recoveryPoint | recoveryPhase
deriving DecidableEq

/-- The dictionary `extra`. `fixtureJson` stands for the serialized document. -/
structure Extra where
  fixtureJson : Option (Json String) := none
  restoredHost : Option String := none
  sourceDatabase : Option (Json String) := none
  recoveryPoint : Option String := none
  recoveryPhase : Option String := none
deriving DecidableEq

/-- The keys of the dictionary. -/
def Extra.keys (extra : Extra) : List Variable :=
  [(.fixtureJson, extra.fixtureJson.isSome), (.restoredHost, extra.restoredHost.isSome),
    (.sourceDatabase, extra.sourceDatabase.isSome), (.recoveryPoint, extra.recoveryPoint.isSome),
    (.recoveryPhase, extra.recoveryPhase.isSome)].filterMap fun entry =>
      if entry.2 then some entry.1 else none

/-- The arguments of one call of `NativeRun.task`. -/
structure Call where
  name : TaskName
  extra : Option Extra := none
  expectedExit : ℕ := 0
deriving DecidableEq

/-- `extra or {}`. -/
def Call.overrides (call : Call) : Extra := call.extra.getD {}

/-- What the client token is the SHA-256 of. -/
structure TokenDocument where
  run : String
  task : TaskName
  definition : String
  extra : Option Extra
  expectedExit : ℕ
deriving DecidableEq

/-- The arguments of `ecs.run_task` that are not constants. -/
structure RunTask where
  cluster : String
  taskDefinition : String
  subnet : String
  securityGroup : String
  environment : Option Extra
  clientToken : Digest TokenDocument
  startedBy : String
deriving DecidableEq

/-- `kwargs`. -/
def Manifest.request (m : Manifest) (call : Call) : RunTask where
  cluster := m.cluster
  taskDefinition := m.tasks call.name
  subnet := m.taskSubnet
  securityGroup := m.taskGroups call.name
  environment := if call.overrides.keys = [] then none else call.extra
  clientToken := digest ⟨m.run, call.name, m.tasks call.name, call.extra, call.expectedExit⟩
  startedBy := m.tag

/-! ### What the providers answer -/

/-- The ARN of an ECS task. -/
abbrev Arn : Type := ℕ

/-- A container of a task definition. A missing entry point is an empty one. -/
structure Container where
  image : Image
  entryPoint : List String
  name : String
  command : List String
deriving DecidableEq

/-- The answer to `run_task`. -/
structure Launch where
  tasks : List Arn
  failures : Bool
deriving DecidableEq

/-- A container of a task that has stopped. -/
structure StoppedContainer where
  exitCode : Option ℤ
  imageDigest : String
deriving DecidableEq

/-- A task as `describe_tasks` reports it. -/
structure TaskState where
  taskArn : Arn
  lastStatus : String
  taskDefinitionArn : String
  containers : List StoppedContainer
deriving DecidableEq

/-- A log event: it decodes to a record with `native_fixture`, or to anything else. -/
abbrev Event : Type := Option (Json String)

/-- An entry of `self.records` for a task that was accepted. -/
structure Record where
  task : TaskName
  taskReference : Digest Arn
  exitCode : ℕ
  result : Json String
deriving DecidableEq

/-- What `datetime.fromisoformat` yields. -/
structure Instant where
  aware : Bool
  moment : Time

/-- What `self.database` keeps of an instance. -/
structure Database where
  resource : String
  address : String

/-- A restorable time, and its `isoformat`. -/
structure Point where
  moment : Time
  isoformat : String

/-- The phase under which `preserve_task_observation` archives. -/
inductive Phase
  | launchFailed | launchIncomplete | launched | waitFailedStopFailed | waitFailedStopRequested
  | stopped
deriving DecidableEq

/-- The calls of a run. -/
inductive Question
  | gate
  /-- Whether some page of `list_tasks` names a task. -/
  | listTasks (desiredStatus : String)
  | describeTaskDefinition (taskDefinition : String)
  /-- `self.database(identifier)`. -/
  | database (identifier : String)
  | fromisoformat (text : Json String)
  | now
  /-- No answer in the `Option` is an exception that `task` catches, as it does below. -/
  | runTask (request : RunTask)
  | waitStopped (arn : Arn)
  | stopTask (arn : Arn)
  | describeTasks (arn : Arn)
  | logEvents (name : TaskName) (arn : Arn)
  | archive (name : TaskName) (arn : Option Arn) (phase : Phase)
  /-- `self.records.append`. -/
  | record (entry : Record)
  -- the stretches between two tasks
  | checkpoint (phase : String)
  | separateDatabases
  | waitWindow (baseline : Instant)
  | pointInTimeRestore (baseline : Instant)
  | retainedPreparation (baseline : Instant)
  | retainedRestore (baseline : Instant)
  | receiptIdentity
  | applicationClaim
  | quiescentPoint (observed : Instant) (label : String)
  | earlierWindow (point : Point)
  | sourceDeletion (first second : Point)
  | restore (point : Point) (label : String)
  | restoredDeletion (restored : Database)

/-- What each call answers. -/
@[reducible] def Question.Answer : Question → Type
  | listTasks _ => Bool
  | describeTaskDefinition _ => List Container
  | database _ | pointInTimeRestore _ | retainedRestore _ | restore _ _ => Database
  | fromisoformat _ => Instant
  | now => Time
  | runTask _ => Option Launch
  | waitStopped _ | stopTask _ => Bool
  | describeTasks _ => List TaskState
  | logEvents _ _ => Option (List Event)
  | quiescentPoint _ _ => Point
  | gate | archive _ _ _ | record _ | checkpoint _ | separateDatabases | waitWindow _
  | retainedPreparation _ | receiptIdentity | applicationClaim | earlierWindow _
  | sourceDeletion _ _ | restoredDeletion _ => Unit

abbrev Controller : Type → Type := Dialogue Question Question.Answer

abbrev History : Type := Framework.History Question Question.Answer

open Dialogue (check ofOption)

def ask (q : Question) : Controller q.Answer := Dialogue.ask q

/-! ### One task -/

/-- `drained`. -/
def drained : Controller Unit := do
  check (!(← ask (.listTasks "RUNNING")))
  check (!(← ask (.listTasks "PENDING")))

/-- Whether this call is the preflight on the source. -/
def preflight (m : Manifest) (call : Call) : Bool :=
  m.application && call.name = .receipt && call.overrides.keys = [.recoveryPhase] &&
    call.overrides.recoveryPhase = some "source-preflight"

/-- Whether this call is a maintenance phase of a recovery. -/
def maintenance (m : Manifest) (call : Call) : Bool :=
  m.application && call.name = .receipt &&
    call.overrides.keys = [.restoredHost, .sourceDatabase, .recoveryPoint, .recoveryPhase]

/-- The content of the task definition that is approved. -/
def Manifest.container (m : Manifest) (name : TaskName) : Container where
  image := m.image
  entryPoint := []
  name := name.text
  command := ["python", "-m",
    if m.application then "controlplane.native_app_tasks" else "controlplane.native_tasks",
    name.text]

/-- The keys that `extra` may have for a task of this name. -/
def allowed (m : Manifest) (name : TaskName) : List Variable :=
  match name with
  | .receipt =>
    if m.application then [.restoredHost, .sourceDatabase, .recoveryPoint, .recoveryPhase]
    else [.fixtureJson]
  | .verify => [.restoredHost]
  | .bootstrap | .baseline | .control => []

/-- `re.fullmatch("[a-f0-9]{64}", text)`. -/
def isSha256 (text : String) : Bool :=
  text.length = 64 && text.toList.all fun c => ('a' ≤ c && c ≤ 'f') || ('0' ≤ c && c ≤ '9')

/-- The phase and the source database of a maintenance call. -/
def bound (extra : Extra) : Bool :=
  (extra.recoveryPhase = some "behind" || extra.recoveryPhase = some "matching") &&
    match extra.sourceDatabase with
    | some (.string source) => isSha256 source
    | _ => false

/-- A restored host must be the one that RDS reports. -/
def hostCheck (m : Manifest) : Option String → Controller Unit
  | none => pure ()
  | some host => do
    let restored ← ask (.database (m.tag ++ "-restore"))
    check (restored.address = host)

/-- A recovery point must be an aware time of the past. -/
def pointCheck (extra : Extra) : Controller Unit := do
  let text ← ofOption extra.recoveryPoint
  let point ← ask (.fromisoformat (.string text))
  let now ← ask .now
  check (point.aware && point.moment ≤ now)

/-- The checks that `task` makes of an application recovery only. -/
def applicationChecks (m : Manifest) (call : Call) : Controller Unit :=
  if m.application then do
    check (call.name ≠ .receipt || preflight m call ||
      (maintenance m call && bound call.overrides))
    hostCheck m call.overrides.restoredHost
    if call.name = .receipt && !preflight m call then pointCheck call.overrides else pure ()
  else pure ()

/-- The tasks of an incomplete launch are stopped. -/
def stopAll : List Arn → Controller Unit
  | [] => pure ()
  | arn :: arns => do
    let _ ← ask (.stopTask arn)
    stopAll arns

/-- What a stopped task must look like. -/
def Manifest.accepted (m : Manifest) (call : Call) (arn : Arn) : TaskState where
  taskArn := arn
  lastStatus := "STOPPED"
  taskDefinitionArn := m.tasks call.name
  containers := [⟨some call.expectedExit, m.image.digest⟩]

/-- The wait for the launched task failed: it is asked to stop, and the call raises. -/
def waitFailed (call : Call) (arn : Arn) : Controller (Json String) := do
  let stopped ← ask (.stopTask arn)
  let _ ← ask (.archive call.name (some arn)
    (if stopped then .waitFailedStopRequested else .waitFailedStopFailed))
  Dialogue.raise

/-- The second half of `task`: the launched task is observed until it has stopped, and its
one result is recorded. -/
def observe (m : Manifest) (call : Call) (arn : Arn) : Controller (Json String) := do
  let _ ← ask (.archive call.name (some arn) .launched)
  if ← ask (.waitStopped arn) then
    let described ← ask (.describeTasks arn)
    let logged ← ask (.logEvents call.name arn)
    let _ ← ask (.archive call.name (some arn) .stopped)
    -- a completed task cannot revive an expired execution window
    let _ ← ask .gate
    check (described = [m.accepted call arn])
    let events ← ofOption logged
    check (events.length < 1000)
    match events.filterMap id with
    | [result] =>
      let _ ← ask (.record ⟨call.name, digest arn, call.expectedExit, result⟩)
      pure result
    | _ => Dialogue.raise
  else
    waitFailed call arn

/-- `NativeRun.task`. -/
def task (m : Manifest) (writesFrozen : Bool) (call : Call) : Controller (Json String) := do
  check (!writesFrozen || call.name = .verify || maintenance m call)
  let _ ← ask .gate
  drained
  let containers ← ask (.describeTaskDefinition (m.tasks call.name))
  check (containers = [m.container call.name])
  applicationChecks m call
  check (call.overrides.keys.all (allowed m call.name).contains)
  match ← ask (.runTask (m.request call)) with
  | none =>
    let _ ← ask (.archive call.name none .launchFailed)
    Dialogue.raise
  | some ⟨[arn], false⟩ => observe m call arn
  | some launch =>
    let _ ← ask (.archive call.name none .launchIncomplete)
    stopAll launch.tasks
    Dialogue.raise

/-! ### What the workflows read in a result -/

/-- `result[name] == n`, where a missing member raises. -/
def counts (result : Json String) (name : String) (n : ℤ) : Bool :=
  (result.member name).any (·.equalsInteger n)

/-- `bool(result[name])`, where a missing member raises. -/
def holds (result : Json String) (name : String) : Bool :=
  (result.member name).any (·.truthy "")

/-- `result.get(name) is value`. -/
def is (result : Json String) (name : String) (value : Bool) : Bool :=
  result.member name = some (.bool value)

/-- `result.get(name) == text`. -/
def reads (result : Json String) (name text : String) : Bool :=
  result.member name = some (.string text)

/-- `type(result.get(name)) is int` and it is `n`. -/
def isCount (result : Json String) (name : String) (n : ℤ) : Bool :=
  result.member name = some (.integer n)

/-- The reasons of the findings, where a finding without one raises. -/
def reasons (result : Json String) : Option (List (Json String)) :=
  match result.member "findings" with
  | some (.array findings) => findings.mapM (·.member "reason")
  | _ => none

/-- The reason for a recovery whose downstream has gone ahead. -/
def remoteAhead : Json String := .string "remote_ahead_missing_intent"

/-- `verify_receipts`; `expected` is null where nothing is expected. -/
def verifyReceipts (expected result : Json String) : Option String :=
  match result.member "remote_ledger_sha256" with
  | some (.string fingerprint) =>
    if isSha256 fingerprint && isCount result "write_denials" 2 &&
        (expected = .null || expected = .string fingerprint) then
      some fingerprint
    else none
  | _ => none

/-- `verify_reconciliation`. -/
def verifyReconciliation (restored : Bool) (expected result : Json String) : Option String :=
  if is result "safe_to_resume" (!restored) &&
      isCount result "local_intents" (if restored then 0 else 1) &&
      isCount result "remote_effects" 1 &&
      reasons result = some (if restored then [remoteAhead] else []) then
    verifyReceipts expected result
  else none

/-- `verify_result`. -/
def verifyResult (intents effects : ℤ) (opened : Bool) (fingerprint result : Json String) :
    Bool :=
  isCount result "local_intents" intents && isCount result "remote_effects" effects &&
    is result "safe_to_resume" opened &&
    (result.member "execution_gate").any (reads · "mode" (if opened then "open" else "closed")) &&
    (verifyReceipts fingerprint result).isSome &&
    if opened then (result.member "findings").any (!·.truthy "")
    else (reasons result).any fun reasons =>
      reasons.count remoteAhead = 2 && reasons.count (.string "execution_gate_closed") = 1

/-! ### The workflows -/

/-- The status of a run that passed. -/
inductive Status
  | nativeSqlPitr | nativeRetainedSqlPitr | nativeApplicationRecovery
deriving DecidableEq

/-- The verification of a restored control database. -/
def verification (restored : Database) (expectedExit : ℕ) : Call :=
  ⟨.verify, some { restoredHost := some restored.address }, expectedExit⟩

/-- `binding`: the maintenance of a restored control database in a phase of the recovery. -/
def binding (restored : Database) (source : Json String) (point : Point) (phase : String) : Call :=
  { name := .receipt
    extra := some {
      restoredHost := some restored.address
      sourceDatabase := some source
      recoveryPoint := some point.isoformat
      recoveryPhase := some phase } }

/-- One of the two verifications of the restored control database. -/
def verifyRestored (m : Manifest) (restored : Database) (fingerprint : String) (attempt : String) :
    Controller Unit := do
  let _ ← ask .receiptIdentity
  let blocked ← task m true (verification restored 2)
  let _ ← ofOption (verifyReconciliation true (.string fingerprint) blocked)
  let _ ← ask (.checkpoint ("restored-reconciliation-" ++ attempt ++ "-verified"))

/-- `RetainedRecovery.execute`. -/
def executeRetained (m : Manifest) (baseline : Instant) : Controller Status := do
  let _ ← ask (.retainedPreparation baseline)
  let good ← task m false { name := .verify }
  let fingerprint ← ofOption (verifyReconciliation false .null good)
  -- the writers are frozen from here on
  let restored ← ask (.retainedRestore baseline)
  verifyRestored m restored fingerprint "1"
  verifyRestored m restored fingerprint "2"
  let _ ← ask (.checkpoint "restored-fail-closed-verified")
  pure .nativeRetainedSqlPitr

/-- `_recover_from_baseline`. -/
def recoverFromBaseline (m : Manifest) (baseline : Instant) : Controller Status := do
  if m.retained then executeRetained m baseline
  else
    let restored ← ask (.pointInTimeRestore baseline)
    let blocked ← task m false (verification restored 2)
    check (!holds blocked "safe_to_resume" && counts blocked "local_intents" 0 &&
      counts blocked "remote_effects" 1 &&
      (reasons blocked).any fun reasons => reasons ≠ [] && reasons.all (· = remoteAhead))
    let _ ← task m false { name := .verify }
    pure .nativeSqlPitr

/-- `ApplicationRecovery.execute`. -/
def executeApplication (m : Manifest) : Controller Status := do
  let _ ← ask .applicationClaim
  let _ ← task m false { name := .bootstrap }
  let preflight ← task m false
    { name := .receipt, extra := some { recoveryPhase := some "source-preflight" } }
  check (reads preflight "stage" "source_preflight_passed" &&
    is preflight "recovery_operations_rolled_back" true && counts preflight "write_denials" 2)
  let _ ← ask (.checkpoint "source-recovery-permissions-verified")
  let first ← task m false { name := .baseline }
  let firstObserved ← ask (.fromisoformat (← ofOption (first.member "recovery_point")))
  check (is first "terminated_worker" true &&
    (first.member "comparison").any (counts · "remote_effects" 3))
  let point1 ← ask (.quiescentPoint firstObserved "behind")
  let second ← task m false { name := .control }
  let secondObserved ← ask (.fromisoformat (← ofOption (second.member "recovery_point")))
  let point2 ← ask (.quiescentPoint secondObserved "matching")
  check (point1.moment < point2.moment &&
    (second.member "comparison").any (counts · "remote_effects" 5))
  let _ ← ask (.earlierWindow point1)
  let initial ← task m false { name := .verify }
  check (is initial "safe_to_resume" true && counts initial "local_intents" 5 &&
    counts initial "remote_effects" 5)
  let expected ← ofOption (second.member "remote_ledger_sha256")
  let fingerprint ← ofOption (verifyReceipts expected initial)
  -- the writers are frozen from here on
  let _ ← ask (.sourceDeletion point1 point2)
  let restored ← ask (.restore point1 "behind")
  let source ← ofOption (first.member "source_database")
  let blocked ← task m true (binding restored source point1 "behind")
  check (reads blocked "stage" "behind_blocked" && is blocked "worker_claimed" false &&
    (blocked.member "verification").any (is · "safe_to_resume" false) &&
    reads blocked "remote_ledger_sha256" fingerprint)
  let independent ← task m true (verification restored 2)
  check (verifyResult 3 5 false (.string fingerprint) independent)
  let _ ← ask (.checkpoint "application-behind-independently-blocked")
  let _ ← ask (.restoredDeletion restored)
  let matching ← ask (.restore point2 "matching")
  check (matching.resource ≠ restored.resource)
  let resumed ← task m true (binding matching source point2 "matching")
  check (reads resumed "stage" "matching_resumed" && is resumed "old_completion_accepted" false &&
    isCount resumed "duplicate_business_effects" 0 &&
    is resumed "independent_database_identity_unchanged" true)
  let final ← task m true (verification matching 0)
  let ledger ← ofOption (resumed.member "remote_ledger_sha256")
  check (verifyResult 6 6 true ledger final)
  let _ ← ask .receiptIdentity
  let _ ← ask (.checkpoint "application-recovery-independently-accepted")
  pure .nativeApplicationRecovery

/-- The wait for the backup window before the fixture, in a retained run only. -/
def windowWait (m : Manifest) (baseline : Instant) : Controller Unit :=
  if m.retained then ask (.waitWindow baseline) else pure ()

/-- `NativeRun.run`. -/
def run (m : Manifest) : Controller Status := do
  if m.application then executeApplication m
  else
    let _ ← ask .gate
    let _ ← ask .separateDatabases
    let _ ← task m false { name := .bootstrap }
    let initial ← task m false { name := .verify }
    check (holds initial "safe_to_resume" && counts initial "local_intents" 0 &&
      counts initial "remote_effects" 0)
    let started ← task m false { name := .baseline }
    let baseline ← ask (.fromisoformat (← ofOption (started.member "baseline_at")))
    windowWait m baseline
    let fixture ← task m false { name := .control }
    let receipt ← task m false
      { name := .receipt, extra := some { fixtureJson := some fixture } }
    let replay ← task m false
      { name := .receipt, extra := some { fixtureJson := some fixture } }
    check (receipt.same replay && counts receipt "effects" 1)
    let good ← task m false { name := .verify }
    check (holds good "safe_to_resume" && counts good "local_intents" 1 &&
      counts good "remote_effects" 1)
    recoverFromBaseline m baseline

end ControlPlane.Native
