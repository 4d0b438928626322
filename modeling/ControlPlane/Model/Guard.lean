import ControlPlane.Model.Inventory

/-!
# The guard

Two functions look after the resources of a run. The watchdog (`handler` of `native_watchdog.py`)
does nothing before its deadline; then it collects the inventory, stores what it has seen, and runs
a cleanup pass. The checker (`handler` of `native_inventory.py`) collects the inventory and stores a
report. Both read the registry first, and both ask AWS what `Inventory.collect` asks.

`sessions` and the names of the stored objects are left out, and so are the second reading of the
clock, which is only for such a name, and the details of a failure in a report.
-/

namespace ControlPlane.Guard

open Framework Registry
open Inventory (Found PublicReport Run)
open Dialogue (Replies check)

/-- The environment of a function. -/
structure Settings where
  run : Run
  cleanupAt : ℤ
  disposition : String
deriving DecidableEq

/-- What `get_object` finds of the registry. A body that is not a list of rows, or has more than the
2000000 bytes that are read of it, raises. -/
inductive Stored
  | found (known : List Entry)
  | noSuchKey

/-- The calls of the watchdog: those of the inventory, those of a pass, and its own. -/
inductive Question
  /-- `datetime.now(UTC)` -/
  | now
  | getRegistry
  | inventory (q : Inventory.Question)
  | putRegistry (rows : List Entry)
  | putInventory (rows : List Entry)
  | cleanup (q : Cleanup.Question)
  | putCleanup (report : Cleanup.Report) (before : PublicReport)
  | putCheck (report : PublicReport)
  | invokeChecker

/-- What each call answers. -/
@[reducible] def Question.Reply : Question → Type
  | now => ℤ
  | getRegistry => Stored
  | inventory q => q.Reply
  | cleanup q => q.Reply
  | putRegistry _ | putInventory _ | putCleanup _ _ | putCheck _ | invokeChecker => Unit

abbrev Controller : Type → Type := Dialogue Question (Replies Question.Reply)

abbrev Exchange : Type := Framework.Exchange Question (Replies Question.Reply)

abbrev History : Type := Framework.History Question (Replies Question.Reply)

abbrev Environment : Type := Framework.Environment Question (Replies Question.Reply)

abbrev call (q : Question) : Controller q.Reply := Dialogue.call q

/-- The questions of the inventory. -/
def ofInventory :
    Embedding Inventory.Question (Replies Inventory.Question.Reply) Question
      (Replies Question.Reply) := ⟨.inventory, fun _ => rfl⟩

/-- The questions of the cleanup pass. -/
def ofCleanup :
    Embedding Cleanup.Question (Replies Cleanup.Question.Reply) Question
      (Replies Question.Reply) := ⟨.cleanup, fun _ => rfl⟩

/-- `Inventory(run, account, clients, known).collect()` -/
def collect (r : Run) (known : List Entry) : Controller (List Found) := do
  check r.valid
  (Inventory.collect r known).lift ofInventory

/-- The rows as `cleanup_pass` and `public_report` read them. -/
abbrev read (rows : List Found) : List Cleanup.Row := rows.map (·.toRow)

/-- The rows as they are stored. -/
abbrev written (rows : List Found) : List Entry := rows.map Found.entry

/-- A registry that is not there has no rows. -/
def Stored.known : Stored → List Entry
  | found known => known
  | noSuchKey => []

/-! ### The watchdog -/

/-- What the watchdog returns. -/
inductive Result
  | armedNoMutation
  | cleaned (report : Cleanup.Report)

/-- What the watchdog does when its time has come. -/
def clean (s : Settings) : Controller Result := do
  check (s.disposition = "discard_isolated_synthetic_state")
  let stored ← call .getRegistry
  let rows ← collect s.run stored.known
  let _ ← call (.putRegistry (values (keyed (stored.known ++ written rows))))
  let _ ← call (.putInventory (written rows))
  -- the pass collects once more
  let again ← collect s.run stored.known
  let report ← (Cleanup.cleanupPass (some Cleanup.archiveLogs) (read again)).lift ofCleanup
  let _ ← call (.putCleanup report (Inventory.publicReport (read again)))
  let _ ← call .invokeChecker
  check (report.failedKinds = [])
  pure (.cleaned report)

/-- `native_watchdog.handler` -/
def handler (s : Settings) : Controller Result := do
  let now ← call .now
  if now < s.cleanupAt then pure .armedNoMutation else clean s

/-! ### The checker -/

/-- `native_inventory.handler` -/
def checker (r : Run) : Controller PublicReport := do
  let stored ← call .getRegistry
  let rows ← collect r stored.known
  let _ ← call (.putCheck (Inventory.publicReport (read rows)))
  pure (Inventory.publicReport (read rows))

end ControlPlane.Guard
