import ControlPlane.Model.Operations

/-!
# The control database

`Db` is the state every control-plane transaction reads and writes: the business
tables, the recovery tables and the sequences. A transaction is a function from the
state it starts in to an `Outcome`: the state it commits with its answer, or the error
it raises, in which case everything it wrote is rolled back (`Outcome.commit`).

`Db.audit`, `Db.exception` and `Db.executionOpen` are the helpers of `db.py`.
-/

namespace ControlPlane

open Framework

/-! ### Recovery proofs -/

/-- What the quiescence witness reports; `observedAt` is absent when the text names no
time zone. -/
structure Witness where
  quiescent : Bool
  observedAt : Option Time
  registeredRuntime : List String
deriving DecidableEq

/-- The catalogue rows of the fingerprint: roles, memberships and privileges. -/
structure Catalog where
  roles : List String
  memberships : List String
  privileges : List String
deriving DecidableEq

/-- What `fingerprint` hashes. -/
structure Fingerprint where
  tables : ControlRows
  runtimePolicy : Digest Policy
  catalog : Catalog
deriving DecidableEq

abbrev Snapshot : Type :=
  List (JobView Mutation (Digest Mutation)) × List (ReceiptView Mutation (Digest Mutation))

/-- The result of an observation, and the report of a proof. -/
structure Report where
  safeToResume : Bool
  localIntents : ℕ
  remoteEffects : ℕ
  findings : List Finding
  snapshotHash : Digest Snapshot
  controlFingerprint : Digest Fingerprint
  bindingHash : Digest Binding
  quiescence : Witness
  policyHash : Digest Policy
deriving DecidableEq

/-- A row of `cp.recovery_proofs`. -/
structure Proof where
  sessionId : Uuid
  report : Report
  reportHash : Digest Report
  createdAt : Time
deriving DecidableEq

/-! ### The state -/

structure Db extends Business where
  gate : Gate
  sessions : Table Uuid Session
  proofs : Table Uuid Proof
  /-- The next value `uuid4` draws. -/
  supply : Uuid

/-- The freshly migrated database under a destination registry, which only the
migration owner writes. -/
def Db.migrated (destinations : Table String Destination)
    (destinationRoutes : Table String String) : Db where
  customers := ∅
  identities := ∅
  events := ∅
  proposals := ∅
  jobs := ∅
  exceptions := []
  auditLog := []
  destinations := destinations
  destinationRoutes := destinationRoutes
  jobRoutes := ∅
  capacityState := ∅
  requestPermits := ∅
  capacityRequests := ∅
  capacityCompletions := ∅
  gate := ⟨.opened, 0, none, none, none⟩
  sessions := ∅
  proofs := ∅
  supply := 0

/-! ### Outcomes -/

/-- What a transaction can raise. -/
inductive Fault
  | customerNotFound | proposalNotFound | exceptionNotFound | jobNotFound
  | staleContext | identityRebindingForbidden
  | multipleAuthoritativeRecordsRequireReviewedMigration
  | exceptionAlreadyResolved | requiresNewSourceEventOrProposal | jobNotDead
  | destinationNotAuthorized | destinationOverloaded | missingKey | constraintViolation
  | recoveryAlreadyActive | closedCurrentRecoverySessionRequired | recoveryBindingChanged
  | recoveryDatabaseIdentityChanged | runtimeNotQuiescent | staleQuiescenceWitness
  | allDestinationReadersRequired | freshSafeProofRequired | recoveryEvidenceChanged
  | exactOperatorApprovalRequired
deriving DecidableEq

/-- A committed answer with the new state, or an exception. -/
abbrev Outcome (α : Type) : Type := Except Fault (α × Db)

/-- The state after a transaction that started in `db`: a raised exception rolls
everything back. -/
def Outcome.commit {α : Type} (outcome : Outcome α) (db : Db) : Db :=
  match outcome with
  | .ok (_, db') => db'
  | .error _ => db

@[simp] theorem Outcome.commit_ok {α : Type} (a : α) (db db' : Db) :
    Outcome.commit (.ok (a, db')) db = db' := rfl

@[simp] theorem Outcome.commit_error {α : Type} (fault : Fault) (db : Db) :
    Outcome.commit (.error fault : Outcome α) db = db := rfl

/-- What the caller gets. -/
def Outcome.answer {α : Type} (outcome : Outcome α) : Except Fault α :=
  match outcome with
  | .ok (a, _) => .ok a
  | .error fault => .error fault

theorem Outcome.answer_eq_ok {α : Type} {outcome : Outcome α} {a : α} :
    outcome.answer = .ok a ↔ ∃ db, outcome = .ok (a, db) := by
  unfold Outcome.answer
  split
  · rename_i b db
    constructor
    · intro h
      cases h
      exact ⟨db, rfl⟩
    · rintro ⟨db', h⟩
      cases h
      rfl
  · constructor
    · intro h
      cases h
    · rintro ⟨db', h⟩
      cases h

/-! ### The helpers of `db.py` -/

namespace Db

def audit (db : Db) (now : Time) (actor : Actor) (subject : Subject) (detail : AuditDetail) :
    Db :=
  { db with auditLog := db.auditLog ++ [⟨now, actor, subject, policyHash, detail⟩] }

/-- The id the next row of `cp.exceptions` gets. -/
def nextException (db : Db) : ℕ := db.exceptions.length + 1

def exception (db : Db) (now : Time) (category : Category) (subject : Subject)
    (detail : ExceptionDetail) : Db :=
  { db with exceptions := db.exceptions ++ [⟨category, subject, detail, .opened, now⟩] }

/-- `cp.execution_open()`. -/
def executionOpen (db : Db) : Bool := db.gate.mode = .opened

end Db

end ControlPlane
