import ControlPlane.Locking.Alone
import ControlPlane.Model.Timeline

/-!
# While the clock stands still

The transactions under a running clock are those of `Model.Statements`, read at several
moments. With nobody else and in one moment they are the same (`Tx.timed_alone`).
-/

namespace ControlPlane

open Framework

namespace Timed

/-- The end of a transaction in a moment that does not pass. -/
def still (now : Time) (ending : (Bool × Answer) × Db) : (Bool × Answer) × Moment :=
  (ending.1, ⟨ending.2, now⟩)

variable {now : Time} {db : Db}

theorem ofTransaction_alone (transaction : Transaction) :
    (ofTransaction transaction).alone ⟨db, now⟩ id = still now (transaction.alone db id) := by
  have h := Script.alone_within (c := Moment.data) (fun _ => rfl) transaction ⟨db, now⟩ id
  rw [Moment.data.modify_id] at h
  exact h

theorem checkBacklog_alone (name : String) (route : Destination) {next : Timed}
    {transaction : Transaction} (h : next.alone ⟨db, now⟩ id =
      still now (transaction.alone db id)) :
    (checkBacklog name route next).alone ⟨db, now⟩ id =
      still now ((Capacity.checkBacklogScript now name route transaction).alone db id) := by
  simp only [checkBacklog, Capacity.checkBacklogScript, lock, read, alone_lock, alone_read,
    Script.alone, id]
  split
  · rfl
  · exact h

theorem admission_alone (owner : Option String) {next : Option String → Timed}
    {transaction : Option String → Transaction} (h : ∀ destination,
      (next destination).alone ⟨db, now⟩ id = still now ((transaction destination).alone db id)) :
    (admission owner next).alone ⟨db, now⟩ id =
      still now ((Capacity.admissionScript now owner transaction).alone db id) := by
  simp only [admission, Capacity.admissionScript, read, alone_read, Script.alone, id]
  split
  · exact h none
  simp only [alone_read, Script.alone, id]
  cases owner.bind fun owner => db.destinationRoutes.lookup owner with
  | none => rfl
  | some name =>
    dsimp only
    cases db.destinations.lookup name with
    | none => rfl
    | some route => exact checkBacklog_alone name route (h (some name))

theorem readmission_alone (key : Uuid) {next : Timed} {transaction : Transaction}
    (h : next.alone ⟨db, now⟩ id = still now (transaction.alone db id)) :
    (readmission key next).alone ⟨db, now⟩ id =
      still now ((Capacity.readmissionScript now key transaction).alone db id) := by
  simp only [readmission, Capacity.readmissionScript, read, alone_read, Script.alone, id]
  cases db.jobRoutes.lookup key with
  | none => exact h
  | some name =>
    dsimp only
    cases db.destinations.lookup name with
    | none => exact h
    | some route => exact checkBacklog_alone name route h

theorem propose_alone (actor : Actor) (command : Contract.Proposal) :
    (propose actor command).alone ⟨db, now⟩ id =
      still now ((Service.proposeScript now actor command).alone db id) := by
  simp only [propose, Service.proposeScript, executionOpen, alone_executionOpen, Script.alone, id]
  split
  · rfl
  simp only [lock, alone_lock, Script.alone, id]
  cases db.customers.lookup command.customerId with
  | none => rfl
  | some row =>
    simp only [read, alone_lock, alone_read, Script.alone, id]
    cases db.proposals.lookup command.requestId with
    | some previous =>
      dsimp only
      split
      · exact ofTransaction_alone _
      · rfl
    | none =>
      dsimp only
      split
      · exact admission_alone _ fun _ => ofTransaction_alone _
      · exact ofTransaction_alone _

theorem resolve_alone (actor : Actor) (id : ℕ) (command : Contract.Resolution) :
    (resolve actor id command).alone ⟨db, now⟩ (fun m => m) =
      still now ((Service.resolveScript now actor id command).alone db fun db => db) := by
  simp only [resolve, Service.resolveScript, lock, alone_lock, Script.alone]
  cases Service.exceptionRow db id with
  | none => rfl
  | some row =>
    dsimp only
    split
    · rfl
    -- the tests are those of the transaction, at a clock that stands still
    cases command.disposition with
    | acknowledge => exact ofTransaction_alone _
    | requeue =>
      dsimp only
      unfold requeue Service.requeueScript
      split
      · rfl
      cases row.subject with
      | text | exception => rfl
      | id key =>
        simp only [lock, alone_lock, Script.alone]
        cases db.jobs.lookup key with
        | none => rfl
        | some job =>
          dsimp only
          split
          · rfl
          · exact readmission_alone key (ofTransaction_alone _)

end Timed

/-- **In a moment that does not pass**, a transaction with nobody else does what its
statements in `Model.Statements` do. -/
theorem Tx.timed_alone (now : Time) (db : Db) (tx : Tx) :
    (tx.timed now).alone ⟨db, now⟩ id = Timed.still now ((tx.script now).alone db id) := by
  cases tx with
  | propose actor command => exact Timed.propose_alone actor command
  | resolve actor id command => exact Timed.resolve_alone actor id command
  | _ => exact Timed.ofTransaction_alone _

end ControlPlane
