import ControlPlane.Model.Guard
import Mathlib.Data.Rat.Defs

/-!
# The arming of the guard

`native_arming.py`: `armed_gate` describes the schedule, the watchdog and the checker of a run, and
raises where one of them is not what the manifest says. `native_initialize_registry.py`:
`initialize_registry` puts the empty registry there, behind that gate and after an inventory of its
own. Any call may answer with an error, and so does a response in which something is missing that is
read.

`fromisoformat` is `datetime.fromisoformat` where the time is aware; a naive one is never equal to
an aware deadline, and cannot be subtracted from one.
-/

namespace ControlPlane.Arming

open Framework
open Dialogue (Replies check ofOption)

/-! ### The manifest and the answers -/

/-- What the guard reads of the manifest of the run. -/
structure Manifest where
  account : String
  run : String
  region : String
  acceptanceWorkflow : Option String
  recoveryStrategy : Option String
  cleanupAt : String
  schedule : String
  watchdog : String
  guardBucket : Option String
  guardKey : Option String
  guardCodeSha256 : String
deriving DecidableEq

/-- `prefix` -/
def Manifest.tag (m : Manifest) : String := "csa-native-" ++ m.run

/-- The run, for an inventory. -/
def Manifest.inventory (m : Manifest) : Inventory.Run := ⟨m.run, m.account⟩

/-- The answer to `get_account_plan_state`. -/
structure PlanState where
  planType : String
  planStatus : String
  /-- `none` where it is not finite -/
  amount : Option ℚ
  unit_ : Option String
deriving DecidableEq

/-- The answer to `get_schedule`. -/
structure Schedule where
  state : String
  expression : String
  timezone : Option String
  flexibleTimeWindow : String
  targetArn : String
  targetRole : String
  /-- `MaximumEventAgeInSeconds` and `MaximumRetryAttempts`, if there is nothing else. -/
  retryPolicy : Option (ℤ × ℤ)
  deadLetterArn : String
  startDate : ℤ
  endDate : ℤ
deriving DecidableEq

/-- The answer to `get_function_configuration`. -/
structure FunctionConfiguration where
  arn : String
  state : String
  role : String
  codeSha256 : String
  vpcId : Option String
  environment : List (String × String)
deriving DecidableEq

/-- The calls of the gate. -/
inductive Question
  | getCallerIdentity
  | getAccountPlanState
  | now
  | getSchedule (name : String)
  | getFunctionConfiguration (name : String)
deriving DecidableEq

/-- The answers to them, when they are given. -/
@[reducible] def Question.Reply : Question → Type
  | getCallerIdentity => String
  | getAccountPlanState => PlanState
  | now => ℤ
  | getSchedule _ => Schedule
  | getFunctionConfiguration _ => FunctionConfiguration

/-- The programs over these calls. -/
abbrev Controller : Type → Type := Dialogue Question (Replies Question.Reply)

/-- A call, with its answer. -/
abbrev Exchange : Type := Framework.Exchange Question (Replies Question.Reply)

/-- The calls so far. -/
abbrev History : Type := Framework.History Question (Replies Question.Reply)

/-- What answers them. -/
abbrev Environment : Type := Framework.Environment Question (Replies Question.Reply)

/-- One of these calls. -/
abbrev call (q : Question) : Controller q.Reply := Dialogue.call q

/-! ### `native_arming.py` -/

/-- The credits that an acceptance needs. -/
def required (m : Manifest) : ℚ :=
  if m.acceptanceWorkflow = some "application-recovery-v1" then 20 else 5

/-- What is asked of the plan of the account. -/
def headroom (m : Manifest) (state : PlanState) : Bool :=
  -- the credits are in dollars where twenty of them are needed
  (required m ≠ 20 || state.unit_ = some "USD") && state.planType = "FREE" &&
    state.planStatus = "ACTIVE" && state.amount.any (required m ≤ ·)

/-- `account_gate` -/
def accountGate (m : Manifest) : Controller Unit := do
  check (Inventory.isAccount m.account)
  check ((← call .getCallerIdentity) = m.account)
  check (headroom m (← call .getAccountPlanState))

/-- In microseconds. -/
def second : ℤ := 1000000

/-- A role of the guard, by its name. -/
def Manifest.role (m : Manifest) (name : String) : String :=
  "arn:aws:iam::" ++ m.account ++ ":role/csa-native-guard/" ++ m.run ++ "/" ++ m.tag ++ "-" ++ name

/-- The function that the schedule starts. -/
def Manifest.watchdogArn (m : Manifest) : String :=
  "arn:aws:lambda:us-east-2:" ++ m.account ++ ":function:" ++ m.tag ++ "-watchdog"

/-- The storage of the checkpoints is that of the guard. -/
def storage (m : Manifest) (environment : List (String × String)) : Bool :=
  m.recoveryStrategy ≠ some "retained-two-instance-v1" ||
    ((environment.lookup "GUARD_BUCKET").isSome &&
      environment.lookup "GUARD_BUCKET" = m.guardBucket &&
      (environment.lookup "GUARD_KEY_ARN").isSome &&
      environment.lookup "GUARD_KEY_ARN" = m.guardKey)

/-- The schedule starts the watchdog every minute, for one hour from the deadline on. -/
def scheduled (m : Manifest) (deadline : ℤ) (schedule : Schedule) : Bool :=
  schedule.state = "ENABLED" && schedule.expression = "rate(1 minute)" &&
    schedule.timezone = some "UTC" && schedule.flexibleTimeWindow = "OFF" &&
    schedule.targetArn = m.watchdogArn && schedule.targetRole = m.role "schedule" &&
    schedule.retryPolicy = some (300, 2) &&
    schedule.deadLetterArn =
      "arn:aws:sqs:us-east-2:" ++ m.account ++ ":" ++ m.tag ++ "-cleanup-failures" &&
    schedule.startDate = deadline && schedule.endDate = deadline + 3600 * second

section Gate

variable (fromisoformat : String → Option ℤ)

/-- The watchdog is the approved one, and has the run, the deadline and the disposition. -/
def configured (m : Manifest) (deadline : ℤ) (function : FunctionConfiguration) : Bool :=
  function.arn = m.watchdogArn && function.codeSha256 = m.guardCodeSha256 &&
    function.state = "Active" && function.role = m.role "watchdog" &&
    (function.vpcId.getD "" = "") && function.environment.lookup "RUN_ID" = some m.run &&
    function.environment.lookup "ACCOUNT_ID" = some m.account &&
    ((function.environment.lookup "CLEANUP_AT").bind fromisoformat = some deadline) &&
    function.environment.lookup "DISPOSITION" = some "discard_isolated_synthetic_state"

/-- The checker is active and the approved one, under its own role, and has the run. -/
def observing (m : Manifest) (checker : FunctionConfiguration) : Bool :=
  checker.state = "Active" && checker.role = m.role "checker" &&
    checker.codeSha256 = m.guardCodeSha256 && checker.environment.lookup "RUN_ID" = some m.run

/-- `armed_gate` -/
def armedGate (m : Manifest) : Controller Unit := do
  accountGate m
  let deadline ← ofOption (fromisoformat m.cleanupAt)
  let now ← call .now
  -- the deadline is ahead, within three hours
  check (0 < deadline - now && deadline - now ≤ 10800 * second)
  check (Inventory.isRun m.run && m.region = "us-east-2")
  check (m.schedule = m.tag ++ "-cleanup" && m.watchdog = m.tag ++ "-watchdog")
  let schedule ← call (.getSchedule m.schedule)
  let function ← call (.getFunctionConfiguration m.watchdog)
  check (storage m function.environment)
  check (scheduled m deadline schedule && configured fromisoformat m deadline function)
  -- the reader is described separately
  let checker ← call (.getFunctionConfiguration (m.tag ++ "-checker"))
  check (observing m checker)

/-- What `native_watchdog.handler` reads of its environment. -/
def settings (environment : List (String × String)) : Option Guard.Settings := do
  let run ← environment.lookup "RUN_ID"
  let account ← environment.lookup "ACCOUNT_ID"
  let cleanupAt ← (environment.lookup "CLEANUP_AT").bind fromisoformat
  let disposition ← environment.lookup "DISPOSITION"
  pure ⟨⟨run, account⟩, cleanupAt, disposition⟩

end Gate

end ControlPlane.Arming

/-! ### `native_initialize_registry.py` -/

namespace ControlPlane.Initialization

open Framework
open Arming (Manifest armedGate)
open Dialogue (Replies check)

/-- What `get_object` finds of the registry, with the length of what is read. -/
inductive Existing
  | found (isList : Bool) (length : ℕ)
  | noSuchKey
deriving DecidableEq

/-- The calls of the initialization: those of the gate, those of the inventory, and its own. -/
inductive Question
  | gate (q : Arming.Question)
  | getRegistry
  | inventory (q : Inventory.Question)
  /-- With `IfNoneMatch="*"`; the answer is the version. -/
  | putEmptyRegistry
  /-- What `read(3)` yields of the version. -/
  | readVersion (version : String)
deriving DecidableEq

/-- The answers to them, when they are given. -/
@[reducible] def Question.Reply : Question → Type
  | gate q => q.Reply
  | getRegistry => Existing
  | inventory q => q.Reply
  | putEmptyRegistry | readVersion _ => String

/-- The programs over these calls. -/
abbrev Controller : Type → Type := Dialogue Question (Replies Question.Reply)

/-- The calls so far. -/
abbrev History : Type := Framework.History Question (Replies Question.Reply)

/-- What answers them. -/
abbrev Environment : Type := Framework.Environment Question (Replies Question.Reply)

/-- One of these calls. -/
abbrev call (q : Question) : Controller q.Reply := Dialogue.call q

/-- The calls of the gate, among them. -/
def ofGate : Embedding Arming.Question (Replies Arming.Question.Reply) Question
    (Replies Question.Reply) := ⟨.gate, fun _ => rfl⟩

/-- The calls of the inventory, among them. -/
def ofInventory : Embedding Inventory.Question (Replies Inventory.Question.Reply) Question
    (Replies Question.Reply) := ⟨.inventory, fun _ => rfl⟩

/-- What the initialization reports. -/
inductive Status
  | existingRegistryPreserved
  | emptyRegistryInitialized (inventory : Inventory.PublicReport)
deriving DecidableEq

/-- What is done where there is no registry. -/
def initializeEmpty (m : Manifest) : Controller Status := do
  check m.inventory.valid
  -- nothing of the run may be there yet
  let rows ← (Inventory.collect m.inventory []).lift ofInventory
  check rows.isEmpty
  let version ← call .putEmptyRegistry
  -- the version that was put is read back
  check ((← call (.readVersion version)) = "[]")
  pure (.emptyRegistryInitialized (Inventory.publicReport (Guard.read rows)))

/-- `initialize_registry` -/
def initializeRegistry (fromisoformat : String → Option ℤ) (m : Manifest) : Controller Status := do
  (armedGate fromisoformat m).lift ofGate
  check (m.guardBucket = some (m.tag ++ "-guard-" ++ m.account))
  match ← call .getRegistry with
  | .found isList length =>
    -- it is never replaced
    check (length ≤ 2000000 && isList)
    pure .existingRegistryPreserved
  | .noSuchKey => initializeEmpty m

end ControlPlane.Initialization
