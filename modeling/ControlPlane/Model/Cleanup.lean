import ControlPlane.Framework.Guarded
import ControlPlane.Framework.Json
import ControlPlane.Model.Policy

/-!
# The cleanup pass

`native_watchdog.py`: `cleanup_pass` takes the rows of the inventory one after the other and
deletes what can be deleted; `archive_logs` keeps the events of a log group before it is deleted.
Both are dialogues with AWS, in which any call may answer with an error. A response that lacks a
field which is read is one of those errors. What an error says goes into a detail of the report
and is left out, as is the part of the report that repeats the rows.
-/

namespace ControlPlane.Cleanup

open Framework

/-! ### What `json.dumps` prints -/

namespace Dumps

/-- `\uXXXX` -/
def unicode (code : ℕ) : String :=
  "\\u" ++ String.ofList ([4096, 256, 16, 1].map fun place => Nat.digitChar (code / place % 16))

/-- How `json.dumps` prints a character of a string. -/
def escape (c : Char) : String :=
  if c = '"' then "\\\""
  else if c = '\\' then "\\\\"
  else if c = '\n' then "\\n"
  else if c = '\r' then "\\r"
  else if c = '\t' then "\\t"
  else if c = '\x0c' then "\\f"
  else if c = '\x08' then "\\b"
  else if ' ' ≤ c ∧ c ≤ '~' then c.toString
  else if c.toNat < 0x10000 then unicode c.toNat
  -- a surrogate pair
  else unicode (0xd800 + (c.toNat - 0x10000) / 0x400) ++
    unicode (0xdc00 + (c.toNat - 0x10000) % 0x400)

/-- How it prints a string. -/
def string (s : String) : String := "\"" ++ String.join (s.toList.map escape) ++ "\""

/-- How it prints an array. -/
def array (items : List String) : String := "[" ++ ", ".intercalate items ++ "]"

/-- The values are printed already. -/
def object (members : List (String × String)) : String :=
  "\x7b" ++ ", ".intercalate (members.map fun member => string member.1 ++ ": " ++ member.2) ++
    "\x7d"

end Dumps

/-! ### Logs -/

/-- An event as `get_log_events` returns it. -/
structure Event where
  timestamp : ℤ
  message : String
  ingestionTime : ℤ
deriving DecidableEq

/-- The members in the order of their names, as `sort_keys=True` has them. -/
def Event.dumps (event : Event) : String :=
  Dumps.object [("ingestionTime", toString event.ingestionTime),
    ("message", Dumps.string event.message), ("timestamp", toString event.timestamp)]

/-- How it prints the events of a stream. -/
def dumpsEvents (events : List Event) : String := Dumps.array (events.map Event.dumps)

/-- An entry of `captured`. -/
structure Captured where
  stream : String
  events : List Event
deriving DecidableEq

/-- `raw`: the archive of a log group. All of it is ASCII. -/
def archive (group : String) (captured : List Captured) : String :=
  Dumps.object [("group", Dumps.string group), ("streams", Dumps.array (captured.map fun entry =>
    Dumps.object [("events", dumpsEvents entry.events), ("stream", Dumps.string entry.stream)]))]

/-- The answer to `get_log_events`. -/
structure Batch where
  events : List Event
  nextForwardToken : String
deriving DecidableEq

/-! ### The inventory -/

/-- The kinds of rows of an inventory. -/
inductive Kind
  | task | database | snapshot | backup | repository | secret | logGroup | endpoint | eni
  | routeTable | securityGroup | subnet | vpc | dbSubnetGroup | dbParameterGroup
  | taskDefinition | cluster | role | key
deriving DecidableEq

/-- An association of a route table. -/
structure Association where
  main : Bool
  routeTableAssociationId : String
deriving DecidableEq

/-- A row of the inventory. A row has the fields of its kind; the others are as below. -/
structure Row where
  kind : Kind
  id : String
  state : String := ""
  cluster : String := ""
  protected_ : Bool := false
  runTagVerified : Bool := false
  managed : Bool := false
  requesterManaged : Bool := false
  associations : List Association := []
  ingress : List (Json String) := []
  egress : List (Json String) := []
deriving DecidableEq

/-- The two lists of rules that a security group has. -/
inductive Direction
  | ingress | egress
deriving DecidableEq

/-- The calls that change something, each on one resource. -/
inductive Mutation
  | stopTask (cluster : String)
  /-- `modify_db_instance` takes the deletion protection away. -/
  | unprotect
  | deleteDbInstance | deleteDbSnapshot | deleteDbInstanceAutomatedBackup | deleteRepository
  | deleteSecret | deleteLogGroup | deleteVpcEndpoints | deleteNetworkInterface
  | disassociateRouteTable | deleteRouteTable
  | revoke (direction : Direction) (permissions : List (Json String))
  | deleteSecurityGroup | deleteSubnet | deleteVpc | deleteDbSubnetGroup | deleteDbParameterGroup
  | deregisterTaskDefinition | deleteTaskDefinitions | deleteCluster
  | deleteRolePolicy (policy : String)
  | deleteRole | scheduleKeyDeletion
deriving DecidableEq

/-- The calls of a pass. -/
inductive Question
  /-- The pages of `describe_log_streams`, by the names of the streams. -/
  | describeLogStreams (group : String)
  | getLogEvents (group stream : String) (nextToken : Option String)
  /-- With `IfNoneMatch="*"`, under the digest of the object. -/
  | putObject (key : Digest String) (body : String)
  | getObject (key : Digest String)
  | mutate (mutation : Mutation) (resource : String)
  | listRolePolicies (role : String)
deriving DecidableEq

/-- The answer to `put_object`, where the code of an error decides. -/
inductive Put
  | stored | preconditionFailed
deriving DecidableEq

/-- What each call answers. -/
@[reducible] def Question.Reply : Question → Type
  | describeLogStreams _ => List (List String)
  | getLogEvents _ _ _ => Batch
  | putObject _ _ => Put
  | getObject _ => String
  /- whether nothing is reported as undone, which only the deletions of endpoints and of task
  definitions look at -/
  | mutate _ _ => Bool
  | listRolePolicies _ => List String

open Dialogue (Replies check each caught)

abbrev Controller : Type → Type := Dialogue Question (Replies Question.Reply)

abbrev Exchange : Type := Framework.Exchange Question (Replies Question.Reply)

abbrev History : Type := Framework.History Question (Replies Question.Reply)

abbrev Environment : Type := Framework.Environment Question (Replies Question.Reply)

abbrev call (q : Question) : Controller q.Reply := Dialogue.call q

/-! ### `archive_logs` -/

/-- More bytes of logs are not archived. -/
def byteBudget : ℕ := 2000000

/-- The loop over the pages of one stream. It returns the events, and how much of the budget is
used; a token that is an empty string is not passed on. -/
def readPages (group stream : String) : ℕ → ℕ → List Event → Option String →
    Controller (List Event × ℕ)
  | 0, _, _, _ => Dialogue.raise
  | turns + 1, used, events, token => do
    let response ← call (.getLogEvents group stream (token.filter (· ≠ "")))
    check (used + (dumpsEvents response.events).length ≤ byteBudget)
    if token = some response.nextForwardToken then
      pure (events ++ response.events, used + (dumpsEvents response.events).length)
    else
      readPages group stream turns (used + (dumpsEvents response.events).length)
        (events ++ response.events) (some response.nextForwardToken)

def readStreams (group : String) : ℕ → List Captured → List String → Controller (List Captured)
  | _, captured, [] => pure captured
  | used, captured, stream :: streams => do
    let (events, used) ← readPages group stream 100 used [] none
    readStreams group used (captured ++ [⟨stream, events⟩]) streams

/-- The archive is stored, unless it is there, and read back. -/
def store (raw : String) : Controller (Digest String) := do
  check (raw.length ≤ byteBudget)
  let _ ← call (.putObject (digest raw) raw)
  let body ← call (.getObject (digest raw))
  check (body = raw)
  pure (digest raw)

/-- `archive_logs(identifier)`, which answers the key of the archive. -/
def archiveLogs (group : String) : Controller (Digest String) := do
  let pages ← call (.describeLogStreams group)
  check (pages.flatten.length ≤ 20)
  let captured ← readStreams group 0 [] pages.flatten
  store (archive group captured)

/-! ### `cleanup_pass` -/

/-- One call, and the row counts as attempted. -/
def act (mutation : Mutation) (row : Row) : Controller Bool := do
  let _ ← call (.mutate mutation row.id)
  pure true

/-- One call, whose response may not report anything as undone. -/
def actFully (mutation : Mutation) (row : Row) : Controller Bool := do
  check (← call (.mutate mutation row.id))
  pure true

/-- Calls on something that belongs to the row. -/
def mutateEach (mutation : Mutation) (resources : List String) : Controller Unit :=
  each (fun resource => do let _ ← call (.mutate mutation resource)) resources

/-- A database loses its protection in one pass and is deleted in a later one. -/
def deleteDatabase (row : Row) : Controller Bool :=
  -- nothing is attempted while it is being deleted
  if row.state = "deleting" then pure false
  -- the protection goes first, and the row waits for the next pass
  else if row.protected_ then act .unprotect row
  else if row.state = "available" then act .deleteDbInstance row
  else pure true

/-- `if archive_log_group is not None: archive_log_group(identifier)` -/
def archiveFirst (group : String) :
    Option (String → Controller (Digest String)) → Controller Unit
  | none => pure ()
  | some archiveLogGroup => do
    let _ ← archiveLogGroup group

def deleteLogs (archiveLogGroup : Option (String → Controller (Digest String))) (row : Row) :
    Controller Bool := do
  archiveFirst row.id archiveLogGroup
  act .deleteLogGroup row

/-- The main association stays, and a route table that has one is not deleted. -/
def deleteRouteTable (row : Row) : Controller Bool := do
  mutateEach .disassociateRouteTable
    ((row.associations.filter (!·.main)).map (·.routeTableAssociationId))
  if row.associations.any (·.main) then pure true else act .deleteRouteTable row

/-- The rules of a direction are revoked together, if there are any. -/
def revokeAll (direction : Direction) (permissions : List (Json String)) (row : Row) :
    Controller Unit :=
  mutateEach (.revoke direction permissions) (if permissions = [] then [] else [row.id])

/-- The rules of a group are revoked before it is deleted. -/
def deleteSecurityGroup (row : Row) : Controller Bool := do
  revokeAll .ingress row.ingress row
  revokeAll .egress row.egress row
  act .deleteSecurityGroup row

/-- An active task definition is deregistered before it is deleted. -/
def deleteTaskDefinition (row : Row) : Controller Bool :=
  if row.state = "DELETE_IN_PROGRESS" then pure false
  else if row.state = "ACTIVE" then act .deregisterTaskDefinition row
  else actFully .deleteTaskDefinitions row

/-- The policies of a role are deleted before it. -/
def deleteRole (row : Row) : Controller Bool := do
  let policies ← call (.listRolePolicies row.id)
  each (fun policy => do let _ ← call (.mutate (.deleteRolePolicy policy) row.id)) policies
  act .deleteRole row

/-- None of these kinds is in the inventory. -/
def without (kinds : List Kind) (others : List Kind) : Bool := others.all (· ∉ kinds)

/-- A row that is no task, when the inventory has no task. It counts as attempted, or is passed
over. -/
def handleKind (archiveLogGroup : Option (String → Controller (Digest String)))
    (kinds : List Kind) (row : Row) : Controller Bool :=
  match row.kind with
  | .task => pure false
  | .database => deleteDatabase row
  | .snapshot => if row.state = "available" then act .deleteDbSnapshot row else pure false
  | .backup =>
    if row.state = "retained" then do
      check row.runTagVerified
      act .deleteDbInstanceAutomatedBackup row
    else pure false
  | .repository => act .deleteRepository row
  | .secret => if row.state = "active" && !row.managed then act .deleteSecret row else pure false
  | .logGroup => if without kinds [.database] then deleteLogs archiveLogGroup row else pure false
  | .endpoint => actFully .deleteVpcEndpoints row
  | .eni =>
    if !row.requesterManaged && without kinds [.database, .endpoint] then
      act .deleteNetworkInterface row
    else pure false
  | .routeTable => if without kinds [.endpoint] then deleteRouteTable row else pure false
  | .securityGroup =>
    if without kinds [.database, .endpoint, .eni] then deleteSecurityGroup row else pure false
  | .subnet =>
    if without kinds [.database, .endpoint, .eni] then act .deleteSubnet row else pure false
  | .vpc =>
    if without kinds [.database, .endpoint, .eni, .subnet, .securityGroup] then act .deleteVpc row
    else pure false
  | .dbSubnetGroup =>
    if without kinds [.database] then act .deleteDbSubnetGroup row else pure false
  | .dbParameterGroup =>
    if without kinds [.database] then act .deleteDbParameterGroup row else pure false
  | .taskDefinition => deleteTaskDefinition row
  | .cluster => act .deleteCluster row
  | .role => deleteRole row
  | .key =>
    if row.state ≠ "PendingDeletion" && without kinds [.database, .backup, .snapshot] then
      act .scheduleKeyDeletion row
    else pure false

/-- The body of the loop, inside the `try`. -/
def handleRow (archiveLogGroup : Option (String → Controller (Digest String)))
    (kinds : List Kind) (row : Row) : Controller Bool :=
  if row.kind = .task then act (.stopTask row.cluster) row
  else if Kind.task ∈ kinds then pure false
  else handleKind archiveLogGroup kinds row

/-- What a pass reports. -/
structure Report where
  attemptedKinds : List Kind := []
  failedKinds : List Kind := []
  /-- `resource_reference` of the details. -/
  failedReferences : List (Digest String) := []

/-- What a row adds to the report; an exception is no result. -/
def Report.add (report : Report) (row : Row) : Option Bool → Report
  | some true => { report with attemptedKinds := report.attemptedKinds ++ [row.kind] }
  | some false => report
  | none => { report with
      failedKinds := report.failedKinds ++ [row.kind]
      failedReferences := report.failedReferences ++ [digest row.id] }

/-- The loop over the rows. -/
def handleRows (archiveLogGroup : Option (String → Controller (Digest String)))
    (kinds : List Kind) : Report → List Row → Controller Report
  | report, [] => pure report
  | report, row :: rows => do
    let handled ← (handleRow archiveLogGroup kinds row).caught
    handleRows archiveLogGroup kinds (report.add row handled) rows

/-- `cleanup_pass`, with the rows that `inventory.collect()` has returned. -/
def cleanupPass (archiveLogGroup : Option (String → Controller (Digest String)))
    (rows : List Row) : Controller Report :=
  handleRows archiveLogGroup (rows.map (·.kind)) {} rows

end ControlPlane.Cleanup
