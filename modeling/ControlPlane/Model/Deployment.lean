import ControlPlane.Model.Policy
import ControlPlane.Model.Release

/-!
# Release commands

`release.py`: `main` carries out one action on the manifest of a release, and keeps a record of how
that ended. Operators give one command after another, each with a manifest of its own.
-/

namespace ControlPlane.Release

open Framework
open Dialogue (Outcome rescue)

/-- The choices of the argument `action`. -/
inductive Action
  | deploy | quiesce | verify | resume | rollback
deriving DecidableEq

/-- `args.action in ('deploy', 'rollback', 'quiesce')` -/
def Action.closes (action : Action) : Bool :=
  action ∈ [deploy, rollback, quiesce]

/-! ### The steps of a command -/

/-- Some actions stop what is running before they do anything else. -/
def closeFirst (m : Manifest) (action : Action) : Controller Unit :=
  if action.closes then quiesce m else pure ()

/-- The migration, of a deployment alone. -/
def migrateNext (m : Manifest) (action : Action) : Controller Unit :=
  if action = .deploy then do
    let _ ← utility m .migration
    pure ()
  else pure ()

/-- What is left of the command, with its `proof`. -/
def prove (m : Manifest) : Action → Controller (Option String)
  | .deploy | .resume | .rollback => do
    let proof ← resume m
    pure (some proof)
  | .verify => do
    assertDrained m
    let proof ← utility m .verifier
    pure (some proof)
  | .quiesce => pure none

/-- The command on a valid manifest. -/
def act (m : Manifest) (action : Action) : Controller (Option String) := do
  validateTasks m
  closeFirst m action
  migrateNext m action
  prove m action

/-! ### The record -/

/-- The record that a command leaves. -/
structure Record where
  action : Action
  /-- The status, `COMPLETED` or else `FAILED`. -/
  completed : Bool
  /-- The commit and the digest of the image, once the manifest is read. -/
  release : Option (String × String)
  proofTaskReference : Option (Digest String)
  taskReferences : List (String × Digest String)
deriving DecidableEq

/-- `image.rsplit('@', 1)[-1]` -/
def imageSha256 (image : String) : String :=
  String.ofList (image.toList.reverse.takeWhile (· ≠ '@')).reverse

/-- The commit and the digest of the image. -/
def Manifest.reference (m : Manifest) : String × String := (m.commit, imageSha256 m.image)

/-- The record of a command that has failed. -/
def failed (action : Action) (m : Option Manifest) : Record where
  action := action
  completed := false
  release := m.map Manifest.reference
  proofTaskReference := none
  taskReferences := []

/-- The record of a command that has come to its end. -/
def completed (action : Action) (m : Manifest) (proof : Option String) : Record where
  action := action
  completed := true
  release := some m.reference
  proofTaskReference := proof.map digest
  taskReferences := m.tasks.entries.map fun entry => (entry.1, digest entry.2)

/-- The command, with a manifest unless it cannot be read. -/
structure Command where
  action : Action
  manifest : Option Manifest

/-- `main`, as far as its record -/
def main (command : Command) : Controller Record :=
  match command.manifest with
  | none => pure (failed command.action none)
  | some m =>
    match validateManifest m with
    | .error _ => pure (failed command.action none)
    | .ok () =>
      rescue (do
        let proof ← act m command.action
        pure (completed command.action m proof)) (pure (failed command.action (some m)))

/-! ### One command after another -/

/-- A command with how it ended and the exchanges that it made. -/
structure Episode where
  command : Command
  end_ : Outcome Record
  stretch : History

/-- The episodes of the commands, from a history on. -/
def operate (env : Environment) : List Command → History → List Episode
  | [], _ => []
  | command :: commands, history =>
    let run := (main command).outcome env history
    ⟨command, run.1, run.2.drop history.length⟩ :: operate env commands run.2

end ControlPlane.Release
