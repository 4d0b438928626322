import ControlPlane.Framework.Page
import ControlPlane.Model.Arming
import Mathlib.Algebra.GroupWithZero.Nat

/-!
# The end of the guard

`native_finalize_guard.py`: `finalize` retires the guard of a run. Once an inventory has shown that
nothing of the run is active, it copies every version of every object in the guard's bucket to a
local directory, stops the guard, and lists the versions once more; then it deletes them, the
bucket, and the guard with its roles, and last the key.

All questions about objects are about the bucket of the guard. Any call may answer with an error,
and so does a response in which something is missing that is read.
-/

namespace ControlPlane.Finalization

open Framework
open Arming (Manifest)
open Inventory (Tags)
open Registry (Entry)
open Dialogue (Replies check each gather ofOption perform)

/-! ### The answers -/

/-- A version of an object, or a marker that it was deleted. -/
structure Version where
  key : String
  id : String
  size : Option ℕ
  marker : Bool
deriving DecidableEq

/-- What a version is deleted by. -/
abbrev Version.name (v : Version) : String × String := (v.key, v.id)

/-- A page of `list_object_versions`. -/
structure Page where
  versions : List (String × String × Option ℕ)
  deleteMarkers : List (String × String × Option ℕ)
deriving DecidableEq

/-- The versions of the page, then its delete markers. -/
def Page.all (page : Page) : List Version :=
  page.versions.map (fun (key, id, size) => ⟨key, id, size, false⟩) ++
    page.deleteMarkers.map fun (key, id, size) => ⟨key, id, size, true⟩

/-- The answer to `get_role`. -/
structure Role where
  name : String
  path : String
deriving DecidableEq

/-- What a file has in it. -/
abbrev Bytes : Type := List UInt8

/-- A row of the archive: the file and the digest are there for what is not a marker. -/
structure Archived where
  key : String
  version : String
  marker : Bool
  file : Option (ℕ × String)
deriving DecidableEq

/-- The functions of the guard. -/
inductive Member
  | watchdog
  | checker
deriving DecidableEq

/-- The calls of `finalize`, those of the inventory among them. -/
inductive Question
  | inventory (q : Inventory.Question)
  | outputExists
  /-- The answer is the account of the key. -/
  | describeKey (key : String)
  | listResourceTags (key : String)
  | listObjectVersions
  | makeOutput
  /-- What `read(100_000_001)` yields of the version. -/
  | getObject (key version : String)
  | writeFile (number : ℕ) (data : Bytes)
  | readFile (number : ℕ)
  | writeIndex (rows : List Archived)
  | deleteSchedule
  /-- `put_function_concurrency` with 0 -/
  | stopFunction (member : Member)
  | sleep
  /-- The answer are the errors. -/
  | deleteObjects (objects : List (String × String))
  | listMultipartUploads
  | abortMultipartUpload (key upload : String)
  | deleteBucket
  | deleteFunction (member : Member)
  | deleteLogGroup (member : Member)
  | getQueueUrl
  | deleteQueue (url : String)
  | deleteAlarms
  | getRole (name : String)
  | listRolePolicies (role : String)
  | deleteRolePolicy (role policy : String)
  | deleteRole (role : String)
  | scheduleKeyDeletion (key : String)
  | now
deriving DecidableEq

/-- The answers to them, when they are given. -/
@[reducible] def Question.Reply : Question → Type
  | inventory q => q.Reply
  | outputExists => Bool
  | describeKey _ | getQueueUrl => String
  | listResourceTags _ => Tags
  | listObjectVersions => List Page
  | getObject _ _ | readFile _ => Bytes
  | deleteObjects _ => List String
  | listMultipartUploads => List (List (String × String))
  | getRole _ => Role
  | listRolePolicies _ => List (List String)
  | now => ℤ
  | makeOutput | writeFile _ _ | writeIndex _ | deleteSchedule | stopFunction _ | sleep
  | abortMultipartUpload _ _ | deleteBucket | deleteFunction _ | deleteLogGroup _ | deleteQueue _
  | deleteAlarms | deleteRolePolicy _ _ | deleteRole _ | scheduleKeyDeletion _ => Unit

/-- The programs over these calls. -/
abbrev Controller : Type → Type := Dialogue Question (Replies Question.Reply)

/-- A call, with its answer. -/
abbrev Exchange : Type := Framework.Exchange Question (Replies Question.Reply)

/-- The calls so far. -/
abbrev History : Type := Framework.History Question (Replies Question.Reply)

/-- What answers them. -/
abbrev Environment : Type := Framework.Environment Question (Replies Question.Reply)

/-- One of these calls. -/
abbrev call (q : Question) : Controller q.Reply := Dialogue.call q

/-- The calls of the inventory, among them. -/
def ofInventory : Embedding Inventory.Question (Replies Inventory.Question.Reply) Question
    (Replies Question.Reply) := ⟨.inventory, fun _ => rfl⟩

/-! ### The archive -/

/-- The test after each page. -/
def affordable (versions : List Version) : Bool :=
  versions.length ≤ 2000 && (versions.map (·.size.getD 0)).sum ≤ 100000000

/-- The first loop over the pages of versions, with what was listed before. -/
def enumerate : List Version → List Page → Controller (List Version)
  | versions, [] => pure versions
  | versions, page :: pages => do
    check (affordable (versions ++ page.all))
    enumerate (versions ++ page.all) pages

section Archive

variable (sha256 : Bytes → String)

/-- One turn of the loop over the versions. -/
def archiveVersion (item : Version × ℕ) : Controller (List Archived) :=
  if item.1.marker then pure [⟨item.1.key, item.1.id, true, none⟩]
  else do
    let data ← call (.getObject item.1.key item.1.id)
    check (item.1.size = some data.length)
    let _ ← call (.writeFile item.2 data)
    check ((← call (.readFile item.2)) = data)
    pure [⟨item.1.key, item.1.id, false, some (item.2, sha256 data)⟩]

/-- What is done before anything is changed. -/
def archive (m : Manifest) (known : List Entry) : Controller (List Version) := do
  check m.inventory.valid
  let runtime ← (Inventory.collect m.inventory known).lift ofInventory
  check (Inventory.publicReport (Guard.read runtime)).activeResourcesAbsent
  check (!(← call .outputExists))
  check (m.guardBucket = some (m.tag ++ "-guard-" ++ m.account))
  let key ← ofOption m.guardKey
  let account ← call (.describeKey key)
  let tags ← call (.listResourceTags key)
  check (account = m.account && tags.reverse.lookup "AcceptanceGuard" = some m.run)
  let versions ← enumerate [] (← call .listObjectVersions)
  let _ ← call .makeOutput
  let archived ← gather (archiveVersion sha256) versions.zipIdx
  let _ ← call (.writeIndex archived)
  pure versions

end Archive

/-! ### The retirement -/

/-- The guard is stopped, and what it has stored is still what was archived. -/
def quiesce (versions : List Version) : Controller Unit := do
  let _ ← call .deleteSchedule
  let _ ← call (.stopFunction .watchdog)
  let _ ← call (.stopFunction .checker)
  let _ ← call .sleep
  let current := ((← call .listObjectVersions).flatMap Page.all).map Version.name
  -- `set(current) != {…}`
  check (current.all (versions.map Version.name).contains &&
    (versions.map Version.name).all current.contains)

/-- One request deletes these versions, and reports no error. -/
def deleteVersions (objects : List (String × String)) : Controller Unit := do
  check ((← call (.deleteObjects objects)) = [])

/-- An upload that was not completed is aborted. -/
def abortUpload (upload : String × String) : Controller Unit :=
  perform (.abortMultipartUpload upload.1 upload.2)

/-- The versions are deleted by the thousand, then the uploads, then the bucket. -/
def emptyBucket (versions : List Version) : Controller Unit := do
  -- at most a thousand objects fit into one request
  each deleteVersions (slices 1000 (versions.map Version.name))
  let uploads ← call .listMultipartUploads
  each abortUpload uploads.flatten
  perform .deleteBucket

/-- A function of the guard, with its log group. -/
def deleteMember (member : Member) : Controller Unit := do
  let _ ← call (.deleteFunction member)
  perform (.deleteLogGroup member)

/-- A role of the guard, which must be in its path, with its policies. -/
def deleteRole (m : Manifest) (name : String) : Controller Unit := do
  let role ← call (.getRole (m.tag ++ "-" ++ name))
  check (role.path = "/csa-native-guard/" ++ m.run ++ "/")
  let policies ← call (.listRolePolicies role.name)
  each (fun policy => perform (.deleteRolePolicy role.name policy)) policies.flatten
  perform (.deleteRole role.name)

/-- What is left of the guard without its bucket. -/
def dismantle (m : Manifest) : Controller Unit := do
  each deleteMember [.watchdog, .checker]
  let url ← call .getQueueUrl
  let _ ← call (.deleteQueue url)
  let _ ← call .deleteAlarms
  each (deleteRole m) ["watchdog", "checker", "schedule"]

/-- `finalize`; the result is its time. -/
def finalize (sha256 : Bytes → String) (m : Manifest) (known : List Entry) : Controller ℤ := do
  let versions ← archive sha256 m known
  quiesce versions
  emptyBucket versions
  dismantle m
  let key ← ofOption m.guardKey
  let _ ← call (.scheduleKeyDeletion key)
  call .now

end ControlPlane.Finalization
