import ControlPlane.Framework.Run
import ControlPlane.Model.Registry
import Mathlib.Data.List.Dedup
import Mathlib.Data.List.Sort
import Mathlib.Logic.Function.Basic

/-!
# The watchdog and the controller at the registry

`native_watchdog.py`: a cleanup pass of `handler` reads the registry, collects the inventory, writes
both back, and collects once more to delete. `native_retained.py`, `native_application.py`:
`register` and `remember` read the registry and write it back where it is still the version read.
`native_initialize_registry.py` puts the empty registry there.

The machine interleaves any number of passes and calls, whose reads and writes are steps of their
own. A step that is not enabled changes nothing, and a call or a pass that raises takes no further
step. In the inventory only the rows of secrets are computed, from what the provider answers.
-/

namespace ControlPlane.Watchdog

open Framework Registry

/-! ### The inventory -/

/-- An entry of `list_secrets`. -/
structure Listed where
  arn : String
  /-- `tags.get("AcceptanceRun") == self.run` -/
  tagged : Bool
  /-- It has a `DeletedDate`. -/
  deleted : Bool

/-- What one `collect()` is answered. -/
structure Seen where
  /-- The rows of the databases and of what else comes before the secrets. -/
  before : List Entry
  listed : List Listed
  /-- `describe_secret`, by whether there is a `DeletedDate`; a `ResourceNotFoundException` is
  `none`. -/
  described : String → Option Bool
  /-- The rows of what comes behind the secrets. -/
  after : List Entry
  noSecret : ∀ row ∈ before ++ after, row.kind ≠ "secret"

/-- The text that a member holds, if it is one. -/
def text : Option (Json String) → Option String
  | some (.string value) => some value
  | _ => none

/-- `r["kind"] == "secret" and r.get("managed") is True` -/
def isManaged (row : Entry) : Bool := row.kind = "secret" && row.get "managed" = some (.bool true)

/-- `owner_secrets` -/
def ownerSecrets (known rows : List Entry) : List String :=
  ((known ++ rows).filter (·.kind = "database")).filterMap
    (fun row => text (row.get "owner_secret")) ++
    (known.filter isManaged).map (·.id)

/-- The row of a secret, which is managed if a database owns it. -/
def secretRow (owners : List String) (arn : String) (deleted : Bool) : Entry :=
  ⟨"secret", arn, [("managed", .bool (owners.contains arn)),
    ("state", .string (if deleted then "pending_deletion" else "active"))]⟩

/-- The secrets of the listing that belong to the run. -/
def observed (owners : List String) (listed : List Listed) : List Listed :=
  listed.filter fun secret => secret.tagged || owners.contains secret.arn

/-- `sorted(known_secrets - observed_secrets)` -/
def unobserved (owners : List String) (known : List Entry) (observed : List Listed) : List String :=
  let knownSecrets := (known.filter (·.kind = "secret")).map (·.id)
  ((owners ++ knownSecrets).dedup.filter (· ∉ observed.map (·.arn))).insertionSort (· ≤ ·)

/-- `Inventory.collect()` -/
def collect (known : List Entry) (seen : Seen) : List Entry :=
  let owners := ownerSecrets known seen.before
  let observed := observed owners seen.listed
  seen.before ++ observed.map (fun secret => secretRow owners secret.arn secret.deleted) ++
    (unobserved owners known observed).filterMap
      (fun arn => (seen.described arn).map (secretRow owners arn)) ++
    seen.after

/-- The secrets that `cleanup_pass` calls `delete_secret` for. -/
def deletedSecrets (rows : List Entry) : List String :=
  if rows.any (·.kind = "task") then []
  else (rows.filter fun row => row.kind = "secret" && row.get "state" = some (.string "active") &&
    !(row.get "managed").any (·.truthy "")).map (·.id)

/-! ### The machine -/

/-- A version of `inventory/registry.json`. -/
structure Object where
  eTag : ℕ
  rows : List Entry

/-- How far a pass has come. -/
inductive Stage
  | read
  | discovered (rows : List Entry)
  | recorded

/-- A run of `handler`. -/
structure Pass where
  /-- The version that it has read, if there was one. -/
  eTag : Option ℕ
  known : List Entry
  stage : Stage

/-- The registry, and what the calls and passes under way have read of it. -/
structure State where
  object : Option Object
  /-- How many versions there were. -/
  versions : ℕ
  /-- What a call of `register` or `remember` has read. -/
  calls : ℕ → Option Object
  passes : ℕ → Option Pass

/-- There is no registry, and nothing is under way. -/
def initial : State where
  object := none
  versions := 0
  calls _ := none
  passes _ := none

/-- What `register` and `remember` read of a database. -/
structure Instance where
  identifier : String
  dbiResourceId : String
  ownerSecret : Option String

/-- The steps that calls and passes are made of. -/
inductive Action
  /-- `put_object(…, Body=b"[]", IfNoneMatch="*")` -/
  | initializeRegistry
  /-- `get_object` in a call of `register` or `remember` -/
  | readRegistry (call : ℕ)
  | remember (call : ℕ) (secret dbiResourceId : String)
  | register (call : ℕ) (source remote : Instance) (backupArn : String)
  /-- `get_object` in `handler` -/
  | startPass (pass : ℕ)
  /-- `inventory.collect()` in `handler` -/
  | discover (pass : ℕ) (seen : Seen)
  /-- `put_object` in `handler` -/
  | record (pass : ℕ)
  /-- `cleanup_pass`, which collects again -/
  | clean (pass : ℕ) (seen : Seen)

/-- What a pass reads: no registry has no rows. -/
def State.rows (s : State) : List Entry := s.object.elim [] (·.rows)

/-- The tag of the version that is stored. -/
def State.eTag (s : State) : Option ℕ := s.object.map (·.eTag)

/-- A new version, under a tag that was never used. -/
def State.write (s : State) (rows : List Entry) : State :=
  { s with object := some ⟨s.versions + 1, rows⟩, versions := s.versions + 1 }

/-- `put_object(…, IfMatch=response["ETag"])` -/
def State.writeIfMatch (s : State) (read : Object) (rows : List Entry) : State :=
  if s.eTag = some read.eTag then s.write rows else s

/-- What a pass has come to. -/
def State.setPass (s : State) (pass : ℕ) (value : Option Pass) : State :=
  { s with passes := Function.update s.passes pass value }

/-- The rows of `register`. -/
def registerRows (source remote : Instance) (backupArn : String) : List Entry :=
  let row (instance_ : Instance) : Entry :=
    ⟨"database", instance_.identifier, [("resource_id", .string instance_.dbiResourceId),
      ("owner_secret", instance_.ownerSecret.elim .null .string)]⟩
  [row source, row remote,
    ⟨"backup", source.dbiResourceId, [("arn", .string backupArn),
      ("source_identifier", .string source.identifier), ("state", .string "active")]⟩]

/-- The write of `remember`, which adds the secret to what the call has read. -/
def remember (s : State) (secret dbiResourceId : String) : Option Object → State
  | none => s
  | some read => s.writeIfMatch read
    (values (put (keyed read.rows) (managedSecret secret dbiResourceId)))

/-- The write of `register`, unless a row conflicts with what the call has read. -/
def register (s : State) (source remote : Instance) (backupArn : String) : Option Object → State
  | none => s
  | some read =>
    match (registerRows source remote backupArn).foldlM registerRow (keyed read.rows) with
    | none => s
    | some merged => s.writeIfMatch read (values merged)

/-- The first inventory of a pass, over the registry that it has read. -/
def discover (s : State) (pass : ℕ) (seen : Seen) : Option Pass → State
  | some ⟨eTag, known, .read⟩ => s.setPass pass
    (some ⟨eTag, known, .discovered (collect known seen)⟩)
  | _ => s

/-- The registry is written back with the inventory, whatever version is stored by now. -/
def record (s : State) (pass : ℕ) : Option Pass → State
  | some ⟨eTag, known, .discovered rows⟩ =>
    -- this put has no `IfMatch`, unlike the one of `register` and `remember`
    (s.write (values (keyed (known ++ rows)))).setPass pass (some ⟨eTag, known, .recorded⟩)
  | _ => s

/-- The pass is over. -/
def clean (s : State) (pass : ℕ) : Option Pass → State
  | some ⟨_, _, .recorded⟩ => s.setPass pass none
  | _ => s

/-- A step of one call or one pass. -/
def step (s : State) : Action → State
  | .initializeRegistry => if s.object.isNone then s.write [] else s
  | .readRegistry call => { s with calls := Function.update s.calls call s.object }
  | .remember call secret dbiResourceId => remember s secret dbiResourceId (s.calls call)
  | .register call source remote backupArn => register s source remote backupArn (s.calls call)
  | .startPass pass => s.setPass pass (some ⟨s.eTag, s.rows, .read⟩)
  | .discover pass seen => discover s pass seen (s.passes pass)
  | .record pass => record s pass (s.passes pass)
  | .clean pass _ => clean s pass (s.passes pass)

/-- The inventory that a step collects. -/
def collected (s : State) : Action → List Entry
  | .discover pass seen =>
    match s.passes pass with
    | some ⟨_, known, .read⟩ => collect known seen
    | _ => []
  | .clean pass seen =>
    match s.passes pass with
    | some ⟨_, known, .recorded⟩ => collect known seen
    | _ => []
  | _ => []

/-- The secrets that a step deletes. -/
def deletes (s : State) : Action → List String
  | .clean pass seen => deletedSecrets (collected s (.clean pass seen))
  | _ => []

end ControlPlane.Watchdog
