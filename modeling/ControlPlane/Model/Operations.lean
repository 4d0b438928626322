import ControlPlane.Model.Schema
import Mathlib.Data.List.Sort

/-!
# The recovery comparison

`compare_receipts` of `operations.py`: the rows of `cp.jobs` against the receipts of
`remote.effects`, as two dictionaries keyed by the text of the id. The comparison is
read-only and never asks what the documents mean, so it is defined over an arbitrary
type of documents with its digest; `isEmpty` is the falsity of an empty document.

A receipt carries its `body` when it comes from the SQL snapshot and none in the
minimal in-memory comparisons.

Over registered destinations there is one ledger for each lane, and each is compared with
the jobs of its lane (`compareLanes`).
-/

namespace ControlPlane

open Framework

/-- The columns of `cp.jobs` that the comparison reads. -/
structure JobView (Doc Hash : Type) where
  id : Uuid
  status : JobStatus
  mutation : Option Doc
  uncertain : Bool
  remoteResult : Option (RemoteResult Hash)
deriving DecidableEq

/-- The columns of `remote.effects` that the comparison reads. -/
structure ReceiptView (Doc Hash : Type) where
  key : Uuid
  hash : Hash
  body : Option Doc
  receipt : Uuid
deriving DecidableEq

/-- The reasons of findings. -/
inductive FindingReason
  | receiptBodyHashConflict | remoteAheadMissingIntent | remoteIdentityConflict
  | remoteAheadNotReconcilable | terminalIntentRequiresReview | acknowledgedReceiptMissing
  | receiptIdentityChanged | currentAuthorityRefreshMissing
deriving DecidableEq

/-- A finding about one key. -/
structure Finding where
  key : Uuid
  reason : FindingReason
  /-- Only the authority findings name a field. -/
  field : Option Field
deriving DecidableEq

/-- `{str(row[key]): row for row in rows}`: a later row overwrites an earlier one. -/
def byKey {ρ : Type} (key : ρ → Uuid) (rows : List ρ) : Table Uuid ρ :=
  rows.foldl (fun table row => table.insert (key row) row) ∅

/-- `sorted(table.items())`. -/
def sortedItems {ρ : Type} (table : Table Uuid ρ) : List (Sigma fun _ : Uuid => ρ) :=
  table.entries.insertionSort fun a b => a.1 ≤ b.1

/-- What `compare_receipts` returns. -/
structure Comparison (Doc Hash : Type) where
  safeToResume : Bool
  localIntents : ℕ
  remoteEffects : ℕ
  findings : List Finding
  snapshotHash : Digest (List (JobView Doc Hash) × List (ReceiptView Doc Hash))

section Compare

variable {Doc Hash : Type} [DecidableEq Hash] (digest : Doc → Hash) (isEmpty : Doc → Bool)

/-- The first loop: the persisted body must hash to the asserted hash. -/
def bodyFinding (key : Uuid) (receipt : ReceiptView Doc Hash) : List Finding :=
  match receipt.body with
  | some body =>
    if digest body ≠ receipt.hash then [⟨key, .receiptBodyHashConflict, none⟩] else []
  | none => []

/-- `job['mutation'] and digest(job['mutation']) == receipt['hash']`. -/
def sameIntent (job : JobView Doc Hash) (receipt : ReceiptView Doc Hash) : Bool :=
  match job.mutation with
  | some mutation => !isEmpty mutation && decide (digest mutation = receipt.hash)
  | none => false

/-- The second loop: the ladder over the job a receipt belongs to. -/
def intentFinding (jobs : Table Uuid (JobView Doc Hash)) (key : Uuid)
    (receipt : ReceiptView Doc Hash) : List Finding :=
  match jobs.lookup key with
  | none => [⟨key, .remoteAheadMissingIntent, none⟩]
  | some job =>
    if !sameIntent digest isEmpty job receipt then [⟨key, .remoteIdentityConflict, none⟩]
    else if job.status ≠ .succeeded ∧ job.uncertain = false then
      [⟨key, .remoteAheadNotReconcilable, none⟩]
    else if job.status = .dead ∨ job.status = .blocked then
      [⟨key, .terminalIntentRequiresReview, none⟩]
    else []

/-- `str((job.get('remote_result') or {}).get('receipt')) == str(receipt['receipt'])`:
a missing receipt id reads `None`, which is the text of no UUID. -/
def sameReceipt (job : JobView Doc Hash) (receipt : ReceiptView Doc Hash) : Bool :=
  decide (job.remoteResult.bind (·.receipt) = some receipt.receipt)

/-- The third loop: a succeeded job must have its receipt, under its identity. -/
def acknowledgementFinding (receipts : Table Uuid (ReceiptView Doc Hash)) (key : Uuid)
    (job : JobView Doc Hash) : List Finding :=
  if job.status = .succeeded then
    match receipts.lookup key with
    | none => [⟨key, .acknowledgedReceiptMissing, none⟩]
    | some receipt =>
      if !sameReceipt job receipt then [⟨key, .receiptIdentityChanged, none⟩] else []
  else []

/-- `compare_receipts` -/
def compareReceipts (jobs : List (JobView Doc Hash)) (receipts : List (ReceiptView Doc Hash)) :
    Comparison Doc Hash :=
  let localJobs := byKey JobView.id jobs
  let remote := byKey ReceiptView.key receipts
  let findings :=
    (sortedItems remote).flatMap (fun item => bodyFinding digest item.1 item.2) ++
    (sortedItems remote).flatMap
      (fun item => intentFinding digest isEmpty localJobs item.1 item.2) ++
    (sortedItems localJobs).flatMap (fun item => acknowledgementFinding remote item.1 item.2)
  { safeToResume := findings.isEmpty
    localIntents := localJobs.entries.length
    remoteEffects := remote.entries.length
    findings := findings
    snapshotHash := ControlPlane.digest (jobs, receipts) }

/-! ### One ledger for each destination -/

/-- A job with its label, `coalesce(r.destination, '__legacy__')`. -/
structure LaneJob (Doc Hash : Type) extends JobView Doc Hash where
  destination : String
deriving DecidableEq

/-- The comparison of one lane; its hash covers the label of the jobs too. -/
structure Lane (Doc Hash : Type) where
  safeToResume : Bool
  localIntents : ℕ
  remoteEffects : ℕ
  findings : List Finding
  snapshotHash : Digest (List (LaneJob Doc Hash) × List (ReceiptView Doc Hash))

/-- The comparison of one destination, with its own digest. -/
def compareLane (jobs : List (LaneJob Doc Hash)) (receipts : List (ReceiptView Doc Hash)) :
    Lane Doc Hash :=
  let comparison := compareReceipts digest isEmpty (jobs.map LaneJob.toJobView) receipts
  { safeToResume := comparison.safeToResume
    localIntents := comparison.localIntents
    remoteEffects := comparison.remoteEffects
    findings := comparison.findings
    snapshotHash := ControlPlane.digest (jobs, receipts) }

/-- The preserved ledger from before the destinations. -/
def legacyLane : String := "__legacy__"

/-- The ledgers, `for name in sorted(readers)`. -/
def ledgers (readers : Table String (List (ReceiptView Doc Hash))) :
    List (Sigma fun _ : String => List (ReceiptView Doc Hash)) :=
  readers.entries.insertionSort fun a b => a.1 ≤ b.1

/-- The comparison of each destination with the jobs that are routed to it. -/
def compareLanes (jobs : List (LaneJob Doc Hash))
    (readers : Table String (List (ReceiptView Doc Hash))) : List (String × Lane Doc Hash) :=
  (ledgers readers).map fun ledger =>
    (ledger.1, compareLane digest isEmpty
      (jobs.filter fun job => job.destination = ledger.1) ledger.2)

end Compare

end ControlPlane
