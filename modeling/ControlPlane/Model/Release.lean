import ControlPlane.Framework.Guarded
import ControlPlane.Framework.Json
import ControlPlane.Framework.Table
import Mathlib.Data.String.Basic

/-!
# Releases

`release.py`: `Release.resume` opens the services of an approved release. The program is a
dialogue with ECS in which any call may answer with an error. A manifest, or a response, that
lacks a field which a call reads raises there, as an error of that call does; the cluster is the
same in all calls.
-/

namespace ControlPlane.Release

open Framework

/-! ### The manifest -/

/-- The names of services and tasks. -/
inductive Name
  | api | remote | worker | observer | migration | verifier
deriving DecidableEq

/-- The names as the manifest has them. -/
def Name.text : Name → String
  | api => "api"
  | remote => "remote"
  | worker => "worker"
  | observer => "observer"
  | migration => "migration"
  | verifier => "verifier"

/-- `expected` -/
def expected : List Name := [.api, .remote, .worker, .observer]

/-- The manifest of a release. -/
structure Manifest where
  commit : String
  image : String
  services : Table String String
  /-- Decoded numbers, or anything else. -/
  replicas : Table String (Json String)
  tasks : Table String String
  region : String
  subnets : List String
  groups : Table String String

/-- Why a manifest is refused. -/
inductive Refusal
  | commit | image | services | tasks | replicas | region
deriving DecidableEq

/-- The texts of the refusals. -/
def Refusal.message : Refusal → String
  | commit => "Invalid source commit"
  | image => "A digest-qualified private ECR image is required"
  | services => "Unexpected service topology"
  | tasks => "Unexpected task topology"
  | replicas => "Replica counts must be bounded 1..8"
  | region => "Unexpected region"

/-- `[0-9]` -/
def isDigit (c : Char) : Bool := '0' ≤ c && c ≤ '9'

/-- `[0-9a-f]` -/
def isHex (c : Char) : Bool := isDigit c || ('a' ≤ c && c ≤ 'f')

/-- `[a-z0-9-]` -/
def isRepository (c : Char) : Bool := isDigit c || ('a' ≤ c && c ≤ 'z') || c = '-'

/-- `[0-9]{12}\.dkr\.ecr\.ca-central-1\.amazonaws\.com/[a-z0-9-]+@sha256:[a-f0-9]{64}` -/
def isImage (image : String) : Bool :=
  let account := image.toList.takeWhile isDigit
  let registry := ".dkr.ecr.ca-central-1.amazonaws.com/".toList
  let path := image.toList.drop (account.length + registry.length)
  let repository := path.takeWhile isRepository
  let digest := path.drop (repository.length + "@sha256:".length)
  account.length = 12 && repository ≠ [] && digest.length = 64 && digest.all isHex &&
    image.toList = account ++ registry ++ repository ++ "@sha256:".toList ++ digest

/-- The set of the keys is the set of the names. -/
def sameNames (keys : List String) (names : List Name) : Bool :=
  keys.all (names.map Name.text).contains && (names.map Name.text).all keys.contains

/-- `type(n) is not int or n < 1 or n > 8`, negated. -/
def isCount : Json String → Bool
  | .integer n => 1 ≤ n && n ≤ 8
  | _ => false

/-- `validate_manifest(manifest)` -/
def validateManifest (m : Manifest) : Except Refusal Unit :=
  if !(m.commit.length = 40 && m.commit.toList.all isHex) then .error .commit
  else if !isImage m.image then .error .image
  else if !(sameNames m.services.keys expected && sameNames m.replicas.keys expected) then
    .error .services
  else if !sameNames m.tasks.keys (expected ++ [.migration, .verifier]) then .error .tasks
  else if m.replicas.entries.any fun entry => !isCount entry.2 then .error .replicas
  else if m.region ≠ "ca-central-1" then .error .region
  else .ok ()

/-- `self.m["services"][name]` -/
def Manifest.service (m : Manifest) (name : Name) : Option String := m.services.lookup name.text

/-- `self.m["tasks"][name]` -/
def Manifest.task (m : Manifest) (name : Name) : Option String := m.tasks.lookup name.text

/-- `self.m["replicas"][name]` -/
def Manifest.desiredCount (m : Manifest) (name : Name) : Option ℤ :=
  (m.replicas.lookup name.text).bind fun
    | .integer n => some n
    | _ => none

/-- `self.m['services'].values()` -/
def Manifest.serviceNames (m : Manifest) : List String := m.services.entries.map (·.2)

/-! ### What ECS answers -/

/-- A container of a task definition. What is missing is empty. -/
structure Container where
  image : String
  environment : List (String × String)
  command : List String
  entryPoint : List String
  secrets : List String
deriving DecidableEq

/-- The answer to `describe_task_definition`. -/
structure TaskDefinition where
  containerDefinitions : List Container
  status : Option String
deriving DecidableEq

/-- A service as `describe_services` reports it. -/
structure ServiceState where
  serviceName : String
  taskDefinition : String
  desiredCount : ℤ
  runningCount : ℤ
  pendingCount : ℤ
deriving DecidableEq

/-- The answer to `describe_services`. -/
structure Services where
  services : List ServiceState
  failures : Bool
deriving DecidableEq

/-- The answer to `run_task`, the tasks by their ARNs. -/
structure Launch where
  tasks : List String
  failures : Bool
deriving DecidableEq

/-- A task with the exit codes of its containers. -/
structure TaskState where
  taskArn : Option String
  lastStatus : Option String
  taskDefinitionArn : Option String
  containers : List (Option ℤ)
deriving DecidableEq

/-- The answer to `describe_tasks`. -/
structure Tasks where
  tasks : List TaskState
  failures : Bool
deriving DecidableEq

/-- The calls of a release. -/
inductive Question
  | describeTaskDefinition (taskDefinition : String)
  | describeServices (services : List String)
  /-- The pages of `list_tasks`, with what is running. -/
  | listTasks
  | updateService (service : String) (taskDefinition : Option String) (desiredCount : ℤ)
  /-- The waiter `services_stable`. -/
  | waitStable (services : List String)
  | runTask (taskDefinition : String) (subnets : List String) (securityGroup : String)
  | stopTask (task : String)
  /-- The waiter `tasks_stopped`. -/
  | waitStopped (task : String)
  | describeTasks (task : String)
deriving DecidableEq

/-- What each call answers. -/
@[reducible] def Question.Reply : Question → Type
  | describeTaskDefinition _ => TaskDefinition
  | describeServices _ => Services
  | listTasks => List (List String)
  | runTask _ _ _ => Launch
  | describeTasks _ => Tasks
  | updateService _ _ _ | waitStable _ | stopTask _ | waitStopped _ => Unit

open Dialogue (Replies check ofOption each rescue)

abbrev Controller : Type → Type := Dialogue Question (Replies Question.Reply)

abbrev Exchange : Type := Framework.Exchange Question (Replies Question.Reply)

abbrev History : Type := Framework.History Question (Replies Question.Reply)

abbrev Environment : Type := Framework.Environment Question (Replies Question.Reply)

abbrev call (q : Question) : Controller q.Reply := Dialogue.call q

/-! ### The checks -/

/-- `{v['name']: v['value'] for v in environment}` -/
def env (environment : List (String × String)) : Table String String :=
  environment.foldl (fun env v => env.insert v.1 v.2) ∅

/-- The variables that no container may set. -/
def forbidden : List String :=
  ["CONTROL_ADMIN_DSN", "TEST_ADMIN_DSN", "CONTROL_DSN", "REMOTE_DSN", "API_TOKENS",
    "EXECUTOR_TOKEN", "INJECTOR_TOKEN", "AWS_ACCESS_KEY_ID", "AWS_SECRET_ACCESS_KEY",
    "AWS_SESSION_TOKEN"]

/-- The container runs the image of the release, with nothing added. -/
def approvedContainer (m : Manifest) (name : String) (container : Container) : Bool :=
  container.image = m.image &&
    (env container.environment).lookup "SOURCE_COMMIT" = some m.commit &&
    container.command = ["python", "-m", "controlplane.cloud", name] &&
    container.entryPoint.isEmpty &&
    !(forbidden.any (env container.environment).keys.contains) && container.secrets.isEmpty &&
    (env container.environment).keys.length = container.environment.length

/-- What `validate_tasks` asks of a task definition. -/
def approved (m : Manifest) (name : String) (task : TaskDefinition) : Bool :=
  match task.containerDefinitions with
  | [container] => approvedContainer m name container && task.status.getD "ACTIVE" = "ACTIVE"
  | _ => false

/-- One step of `validate_tasks`. -/
def validateTask (m : Manifest) (entry : Sigma fun _ : String => String) : Controller Unit := do
  let task ← call (.describeTaskDefinition entry.2)
  check (approved m entry.1 task)

/-- `Release.validate_tasks` -/
def validateTasks (m : Manifest) : Controller Unit := each (validateTask m) m.tasks.entries

/-- `Release.services` -/
def services (m : Manifest) : Controller (List ServiceState) := do
  let result ← call (.describeServices m.serviceNames)
  check (!result.failures && result.services.length = m.services.entries.length)
  pure result.services

/-- Nothing runs, is wanted or is under way. -/
def idle (state : ServiceState) : Bool :=
  state.desiredCount = 0 && state.runningCount = 0 && state.pendingCount = 0

/-- `Release.assert_drained` -/
def assertDrained (m : Manifest) : Controller Unit := do
  let states ← services m
  check (states.all idle)
  let pages ← call .listTasks
  check (pages.all (·.isEmpty))

/-- One service is asked to shut down. -/
def close (m : Manifest) (name : Name) : Controller Unit := do
  let service ← ofOption (m.service name)
  call (.updateService service none 0)

/-- `Release.quiesce`: admission first, then workers. -/
def quiesce (m : Manifest) : Controller Unit := do
  each (close m) [.api, .worker, .remote, .observer]
  call (.waitStable m.serviceNames)
  assertDrained m

/-! ### The utility task -/

/-- The wait for a stopped task. Where it fails, the task is asked to stop, and whatever comes of
that, the utility raises. -/
def awaitStopped (arn : String) : Controller Unit :=
  rescue (call (.waitStopped arn)) do
    rescue (call (.stopTask arn)) Dialogue.raise
    Dialogue.raise

/-- What the one stopped task must look like. -/
def succeeded (definition arn : String) (task : TaskState) : Bool :=
  task.taskArn = some arn && task.lastStatus = some "STOPPED" &&
    task.taskDefinitionArn = some definition && task.containers = [some 0]

/-- The second half of `utility`, once one task is launched. -/
def finish (definition arn : String) : Controller String := do
  awaitStopped arn
  let response ← call (.describeTasks arn)
  match response with
  | ⟨[task], false⟩ => do
    check (succeeded definition arn task)
    pure arn
  | _ => Dialogue.raise

/-- `Release.utility` -/
def utility (m : Manifest) (name : Name) : Controller String := do
  let definition ← ofOption (m.task name)
  let group ← ofOption (m.groups.lookup name.text)
  let result ← call (.runTask definition m.subnets group)
  match result with
  | ⟨[arn], false⟩ => finish definition arn
  | ⟨tasks, _⟩ => do
    each (fun arn => call (.stopTask arn)) tasks
    Dialogue.raise

/-! ### Resumption -/

/-- The order in which the services are opened. -/
def order : List Name := [.remote, .api, .worker, .observer]

/-- One turn of the loop in `resume`. -/
def openService (m : Manifest) (name : Name) : Controller Unit := do
  let service ← ofOption (m.service name)
  let definition ← ofOption (m.task name)
  let desiredCount ← ofOption (m.desiredCount name)
  call (.updateService service (some definition) desiredCount)
  call (.waitStable [service])
  -- a rollback may also report stability
  let states ← services m
  let current ← ofOption (states.find? (·.serviceName = service))
  check (current.taskDefinition = definition)

/-- `Release.resume` -/
def resume (m : Manifest) : Controller String := do
  validateTasks m
  assertDrained m
  let proofTask ← utility m .verifier
  assertDrained m
  rescue (each (openService m) order) do
    quiesce m
    Dialogue.raise
  pure proofTask

/-- An instance of the class `Release`, whose constructor validates the manifest. -/
structure Instance where
  m : Manifest
  validated : validateManifest m = .ok ()

end ControlPlane.Release
