import ControlPlane.Framework.Embed
import ControlPlane.Model.Rehearsal

/-!
# The recovery from a retained backup

`RetainedRecovery.execute` of `native_retained.py`: the control database is deleted, its automated
backups are kept, and it is restored from them to the baseline. Most calls are those of the
rehearsal of an application recovery, whose helpers are the same methods; they are embedded. The
description of a key is read more closely here, and the checkpoints keep other documents.

The baseline is an aware time: with a naive one `wait_window` does not return.
-/

namespace ControlPlane.Retained

open Framework Registry
open Rehearsal (Backup Database RestoreRequest Window second)
open Dialogue (Replies check ofOption each poll)
open Native (verifyReconciliation)

/-- The databases and the active window before anything is changed. -/
structure Survey where
  source : Database
  before : Window
  remote : Database
deriving DecidableEq

/-- The ARN of the backup that the survey has found. -/
def Survey.backupArn (s : Survey) : String := s.before.metadata.arn

/-- `payload` -/
structure Evidence where
  source : Database
  remoteResource : String
  backup : Backup
  baseline : ℤ
  fingerprint : String
deriving DecidableEq

/-- `result`, without the constants, the records of the tasks and the list of the phases. -/
structure Result where
  baseline : ℤ
  requestId : String
  fingerprint : String
deriving DecidableEq

/-- What a checkpoint adds to the evidence. -/
inductive Addition
  | beforeDeletion
  | retained (backup : Backup)
  | available (restored : Database) (requestId : String)
  | reconciled (restored : Database) (observation : Json String) (attempt : ℕ)
  | passed (result : Result)
deriving DecidableEq

/-- `document` in `checkpoint` -/
structure Checkpoint where
  phase : String
  at_ : ℤ
  evidence : Evidence
  addition : Addition
deriving DecidableEq

/-- What is read of `describe_key`. -/
structure KeyMetadata where
  keyState : String
  /-- It has a date of deletion. -/
  deletionDate : Bool
deriving DecidableEq

/-- The calls of the workflow. -/
inductive Question
  /-- As the rehearsal of an application recovery asks it. -/
  | shared (q : Rehearsal.Question)
  | describeKey (key : String)
  /-- What the local file then holds, if that is a checkpoint. -/
  | writeCheckpoint (checkpoint : Checkpoint)
  | putCheckpoint (checkpoint : Checkpoint)
  | getCheckpoint (phase : String) (checkpoint : Digest Checkpoint)
deriving DecidableEq

/-- What each call answers. -/
@[reducible] def Question.Reply : Question → Type
  | shared q => q.Reply
  | describeKey _ => KeyMetadata
  | writeCheckpoint _ | getCheckpoint _ _ => Option Checkpoint
  | putCheckpoint _ => Unit

abbrev Controller : Type → Type := Dialogue Question (Replies Question.Reply)

abbrev Exchange : Type := Framework.Exchange Question (Replies Question.Reply)

abbrev History : Type := Framework.History Question (Replies Question.Reply)

abbrev Environment : Type := Framework.Environment Question (Replies Question.Reply)

abbrev call (q : Question) : Controller q.Reply := Dialogue.call q

/-- The calls that it has in common with a rehearsal. -/
def ofRehearsal :
    Embedding Rehearsal.Question (Replies Rehearsal.Question.Reply) Question
      (Replies Question.Reply) := ⟨.shared, fun _ => rfl⟩

/-- A stretch of calls that the rehearsal could make. -/
def shared {α : Type} (x : Rehearsal.Controller α) : Controller α := x.lift ofRehearsal

/-! ### The stretches of shared calls -/

section Shared

open Rehearsal (backup database drained instances tags register)

/-- One turn of the loop in `wait_window`. -/
def tryWindow (m : Rehearsal.Manifest) (baseline : ℤ) :
    Rehearsal.Controller (Option (Database × Window)) := do
  Rehearsal.call .gate
  let source ← database m.control
  let window ← backup m source "active" baseline
  pure (window.map (source, ·))

/-- `wait_window` -/
def waitWindow (m : Rehearsal.Manifest) (baseline : ℤ) : Rehearsal.Controller (Database × Window) :=
  poll (tryWindow m baseline) 60

/-- The beginning of `execute`, up to the verification. -/
def survey (m : Rehearsal.Manifest) (baseline : ℤ) : Rehearsal.Controller Survey := do
  Rehearsal.call .gate
  drained
  instances [m.control, m.remote]
  let (source, before) ← waitWindow m baseline
  let remote ← database m.remote
  check (!source.replicated)
  check (source.resource ≠ remote.resource)
  pure ⟨source, before, remote⟩

/-- The backup gets the tag of the run, and all three resources are registered. -/
def enlist (m : Rehearsal.Manifest) (s : Survey) : Rehearsal.Controller Unit := do
  Rehearsal.call (.addTag s.backupArn m.run)
  tags m s.backupArn
  register m s.source s.remote s.before

/-- What is checked once more behind the checkpoint, and the end of the deletion protection. -/
def unprotect (m : Rehearsal.Manifest) (s : Survey) (baseline : ℤ) :
    Rehearsal.Controller Database := do
  Rehearsal.call .gate
  drained
  instances [m.control, m.remote]
  let latest ← database m.control
  let current ← backup m latest "active" baseline
  check (latest.resource = s.source.resource && current.any (·.metadata.arn = s.backupArn))
  tags m s.backupArn
  Rehearsal.call (.modifyDbInstance m.control .protectionOff)
  poll (Rehearsal.tryUnprotected m.control s.source.resource) 20

/-- What is checked just before the deletion. -/
def confirm (m : Rehearsal.Manifest) (s : Survey) (baseline : ℤ) : Rehearsal.Controller Unit := do
  let row ← unprotect m s baseline
  Rehearsal.call .gate
  drained
  tags m s.backupArn
  let window ← backup m row "active" baseline
  check window.isSome

/-- One turn of the wait for the retained backup. -/
def tryRetained (m : Rehearsal.Manifest) (s : Survey) (baseline : ℤ) :
    Rehearsal.Controller (Option Window) := do
  Rehearsal.call .gate
  backup m s.source "retained" baseline

/-- The retained backup, which must be the one that was active. -/
def awaitRetained (m : Rehearsal.Manifest) (s : Survey) (baseline : ℤ) :
    Rehearsal.Controller Backup := do
  let retained ← poll (tryRetained m s baseline) 40
  check (retained.metadata.arn = s.backupArn)
  tags m s.backupArn
  check ((← database m.remote).resource = s.remote.resource)
  pure retained.metadata

/-- The wait for the restored database, and what is checked of it. -/
def awaitRestored (m : Rehearsal.Manifest) (s : Survey) : Rehearsal.Controller Database := do
  let row ← poll (Rehearsal.tryAvailable m) 90
  check (row.maxAllocatedStorage = none || row.maxAllocatedStorage = some 0)
  Rehearsal.retainOneDay m row
  let restored ← database m.target
  check (restored.resource ≠ s.source.resource && restored.resource ≠ s.remote.resource &&
    restored.key = s.source.key)
  pure restored

/-- The verification of the restored database, which must refuse to resume. -/
def verifyBlocked (m : Rehearsal.Manifest) (s : Survey) (restored : Database) :
    Rehearsal.Controller (Json String) := do
  check ((← database m.remote).resource = s.remote.resource)
  Rehearsal.task true (Rehearsal.verification restored 2)

end Shared

/-! ### `execute` -/

/-- `checkpoint` -/
def checkpoint (phase : String) (evidence : Evidence) (addition : Addition) :
    Controller Unit := do
  let at_ ← call (.shared .now)
  let document : Checkpoint := ⟨phase, at_, evidence, addition⟩
  let written ← call (.writeCheckpoint document)
  check (written = some document)
  call (.putCheckpoint document)
  let read ← call (.getCheckpoint phase (digest document))
  check (read = some document)

/-- What the survey adds up to, once the receipts are verified. -/
def Survey.evidence (s : Survey) (baseline : ℤ) (fingerprint : String) : Evidence where
  source := s.source
  remoteResource := s.remote.resource
  backup := s.before.metadata
  baseline := baseline
  fingerprint := fingerprint

/-- The time that must remain before the cleanup. -/
def headroom : ℤ := 5400 * second

/-- What is checked and recorded between the verification and the deletion of the source. -/
def prepareDeletion (m : Rehearsal.Manifest) (s : Survey) (baseline : ℤ) (fingerprint : String) :
    Controller Unit := do
  let now ← call (.shared .now)
  check (headroom ≤ m.cleanupAt - now)
  let key ← call (.describeKey s.source.key)
  check (key.keyState = "Enabled" && !key.deletionDate)
  let snapshots ← call (.shared (.describeSnapshots m.control))
  check (snapshots.any (Rehearsal.usable m s.source baseline))
  shared (enlist m s)
  checkpoint "before-source-deletion" (s.evidence baseline fingerprint) .beforeDeletion

/-- The deletion of the source, and the wait until it is gone and only the receipts database is
left. -/
def deleteSource (m : Rehearsal.Manifest) (s : Survey) (baseline : ℤ) : Controller Unit := do
  shared (confirm m s baseline)
  call (.shared (.deleteDbInstance m.control false))
  shared (poll (Rehearsal.tryDeleted m m.control) 90)

/-- The request to restore; the answer is its id. -/
def restore (m : Rehearsal.Manifest) (s : Survey) (baseline : ℤ) : Controller String := do
  shared do
    Rehearsal.call .gate
    Rehearsal.instances [m.remote]
  let key ← call (.describeKey s.source.key)
  check (key.keyState = "Enabled")
  let parameterGroup ← ofOption s.source.parameterGroups.head?
  call (.shared
    (.restoreDbInstance (Rehearsal.restoreRequest m s.source baseline parameterGroup)))

/-- One of the verifications of the restored database. -/
def verifyRestored (m : Rehearsal.Manifest) (s : Survey) (evidence : Evidence)
    (restored : Database) (attempt : ℕ) : Controller Unit := do
  let blocked ← shared (verifyBlocked m s restored)
  let _ ← ofOption (verifyReconciliation true (.string evidence.fingerprint) blocked)
  checkpoint ("restored-reconciliation-" ++ toString attempt ++ "-verified") evidence
    (.reconciled restored blocked attempt)

/-- All that comes behind the checkpoint before the deletion. -/
def recover (m : Rehearsal.Manifest) (s : Survey) (evidence : Evidence) : Controller Result := do
  deleteSource m s evidence.baseline
  let retained ← shared (awaitRetained m s evidence.baseline)
  checkpoint "retained-backup-observed" evidence (.retained retained)
  let requestId ← restore m s evidence.baseline
  let restored ← shared (awaitRestored m s)
  checkpoint "restored-instance-available" evidence (.available restored requestId)
  each (verifyRestored m s evidence restored) [1, 2]
  let result : Result := ⟨evidence.baseline, requestId, evidence.fingerprint⟩
  checkpoint "restored-fail-closed-verified" evidence (.passed result)
  pure result

/-- `execute`, where `approved` is that the deletion of the source is allowed and there is a
directory for the checkpoints. -/
def execute (m : Rehearsal.Manifest) (approved : Bool) (baseline : ℤ) : Controller Result := do
  check approved
  let s ← shared (survey m baseline)
  let good ← call (.shared (.task false { name := .verify }))
  let fingerprint ← ofOption (verifyReconciliation false .null good)
  -- the writers are frozen from here on
  prepareDeletion m s baseline fingerprint
  recover m s (s.evidence baseline fingerprint)

end ControlPlane.Retained
