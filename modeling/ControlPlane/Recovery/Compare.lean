import ControlPlane.Model.Recovery
import Mathlib.Data.List.Induction

/-!
# The recovery comparison, spelled out

`compareReceipts` walks two dictionaries with three loops and a ladder of `elif`s. On rows
with distinct keys the dictionaries are the rows themselves (`lookup_byKey`), and no
finding is reported exactly when every receipt is accounted for by a job and every
succeeded job has its receipt (`compare_iff`).

The ladder accepts a receipt of a succeeded job without looking at the flag, and the third
loop then compares the receipt ids. So a succeeded job with another receipt id is always
reported, also when it is still flagged uncertain (`succeeded_uncertain_refused`).
-/

namespace ControlPlane

open Framework

/-! ### Dictionaries of rows -/

/-- The last row under a key counts. -/
theorem byKey_concat {ρ : Type} (key : ρ → Uuid) (rows : List ρ) (row : ρ) :
    byKey key (rows ++ [row]) = (byKey key rows).insert (key row) row := by
  unfold byKey
  rw [List.foldl_append]
  rfl

/-- With distinct keys no row is overwritten. -/
theorem lookup_byKey {ρ : Type} {key : ρ → Uuid} {rows : List ρ}
    (h : (rows.map key).Nodup) {k : Uuid} {row : ρ} :
    (byKey key rows).lookup k = some row ↔ row ∈ rows ∧ key row = k := by
  -- a dict comprehension: a later row replaces an earlier one, which distinct keys rule out
  induction rows using List.reverseRecOn with
  | nil => exact iff_of_false (fun h => by cases h) (fun h => by cases h.1)
  | append_singleton rows last ih =>
    rw [List.map_append, List.map_singleton, List.nodup_append] at h
    obtain ⟨h_rows, -, h_last⟩ := h
    rw [byKey_concat, Table.lookup_insert, List.mem_append, List.mem_singleton]
    split
    · rename_i h_k
      constructor
      · intro h_row
        obtain rfl := Option.some.inj h_row
        exact ⟨.inr rfl, h_k.symm⟩
      · rintro ⟨h_row | rfl, h_key⟩
        · exact absurd (h_key.trans h_k)
            (h_last _ (List.mem_map_of_mem h_row) _ List.mem_cons_self)
        · rfl
    · rename_i h_k
      rw [ih h_rows]
      constructor
      · exact fun ⟨h_row, h_key⟩ => ⟨.inl h_row, h_key⟩
      · rintro ⟨h_row | rfl, h_key⟩
        · exact ⟨h_row, h_key⟩
        · exact absurd h_key.symm h_k

/-- The items of a table, in some order. -/
theorem mem_sortedItems {ρ : Type} {table : Table Uuid ρ} {k : Uuid} {row : ρ} :
    (⟨k, row⟩ : Sigma fun _ : Uuid => ρ) ∈ sortedItems table ↔ table.lookup k = some row := by
  unfold sortedItems
  rw [(List.perm_insertionSort _ _).mem_iff]
  exact Table.mem_entries

/-- No key comes twice. -/
theorem keys_nodup_sortedItems {ρ : Type} (table : Table Uuid ρ) :
    ((sortedItems table).map (·.1)).Nodup := by
  have h_perm := (List.perm_insertionSort (fun a b : Sigma fun _ : Uuid => ρ => a.1 ≤ b.1)
    table.entries).map (·.1)
  exact h_perm.nodup_iff.mpr table.keys_nodup

/-- A loop over the items of a dictionary reports nothing exactly when no row is reported. -/
theorem flatMap_sortedItems_eq_nil {ρ : Type} {table : Table Uuid ρ}
    (report : Uuid → ρ → List Finding) :
    (sortedItems table).flatMap (fun item => report item.1 item.2) = [] ↔
      ∀ k row, table.lookup k = some row → report k row = [] := by
  rw [List.flatMap_eq_nil_iff]
  constructor
  · exact fun h k row h_row => h ⟨k, row⟩ (mem_sortedItems.mpr h_row)
  · exact fun h item h_item => h item.1 item.2 (mem_sortedItems.mp h_item)

/-- A view for each job. -/
theorem mem_jobViews {db : Db} {view : JobView Mutation (Digest Mutation)} :
    view ∈ Recovery.jobViews db ↔ ∃ job, db.jobs.lookup view.id = some job ∧
      view = ⟨view.id, job.status, job.mutation, job.uncertain, job.remoteResult⟩ := by
  unfold Recovery.jobViews
  rw [List.mem_map]
  constructor
  · rintro ⟨⟨id, job⟩, h_item, rfl⟩
    exact ⟨job, mem_sortedItems.mp h_item, rfl⟩
  · rintro ⟨job, h_job, h_view⟩
    exact ⟨⟨view.id, job⟩, mem_sortedItems.mpr h_job, h_view.symm⟩

/-- No job comes twice. -/
theorem nodup_jobViews (db : Db) : ((Recovery.jobViews db).map JobView.id).Nodup := by
  unfold Recovery.jobViews
  rw [List.map_map]
  exact keys_nodup_sortedItems db.jobs

/-! ### The three loops -/

section Compare

variable {Doc Hash : Type} [DecidableEq Hash] {digest : Doc → Hash} {isEmpty : Doc → Bool}

/-- A receipt without this finding has the hash of its body. -/
theorem bodyFinding_eq_nil {key : Uuid} {receipt : ReceiptView Doc Hash} :
    bodyFinding digest key receipt = [] ↔
      ∀ body, receipt.body = some body → digest body = receipt.hash := by
  unfold bodyFinding
  cases h_body : receipt.body with
  | none => exact iff_of_true rfl fun body h => by cases h
  | some body =>
    dsimp only
    split
    · rename_i h_ne
      exact iff_of_false (fun h => by cases h) fun h => h_ne (h body rfl)
    · rename_i h_eq
      refine iff_of_true rfl fun other h => ?_
      obtain rfl := Option.some.inj h
      exact not_not.mp h_eq

/-- The job's document is not empty and has the digest of the receipt. -/
def JobView.Matches (digest : Doc → Hash) (isEmpty : Doc → Bool) (job : JobView Doc Hash)
    (receipt : ReceiptView Doc Hash) : Prop :=
  ∃ mutation, job.mutation = some mutation ∧ isEmpty mutation = false ∧
    digest mutation = receipt.hash

/-- The intent is the same if the receipt matches the job. -/
theorem sameIntent_eq_true {job : JobView Doc Hash} {receipt : ReceiptView Doc Hash} :
    sameIntent digest isEmpty job receipt = true ↔ job.Matches digest isEmpty receipt := by
  unfold sameIntent JobView.Matches
  cases job.mutation with
  | none => exact iff_of_false (fun h => by cases h) fun ⟨_, h, _⟩ => by cases h
  | some mutation => simp

/-- The ladder accepts a receipt of a succeeded job, and of an uncertain one that is not
terminal. -/
theorem intentFinding_eq_nil {jobs : Table Uuid (JobView Doc Hash)} {key : Uuid}
    {receipt : ReceiptView Doc Hash} :
    intentFinding digest isEmpty jobs key receipt = [] ↔
      ∃ job, jobs.lookup key = some job ∧ job.Matches digest isEmpty receipt ∧
        (job.status = .succeeded ∨
          (job.uncertain = true ∧ job.status ≠ .dead ∧ job.status ≠ .blocked)) := by
  unfold intentFinding
  cases jobs.lookup key with
  | none => exact iff_of_false (fun h => by cases h) fun ⟨_, h, _⟩ => by cases h
  | some job =>
    have h_matches : sameIntent digest isEmpty job receipt = true ↔
        job.Matches digest isEmpty receipt := sameIntent_eq_true
    dsimp only
    -- the branches of the second loop, each but the last with its finding
    cases h_same : sameIntent digest isEmpty job receipt with
    | false =>
      refine iff_of_false (fun h => by cases h) ?_
      rintro ⟨_, h, h_job, -⟩
      obtain rfl := Option.some.inj h
      exact absurd (h_matches.mpr h_job) (by rw [h_same]; decide)
    | true =>
      rw [if_neg (by decide)]
      have h_job := h_matches.mp h_same
      constructor
      · intro h
        refine ⟨job, rfl, h_job, ?_⟩
        split at h
        · cases h
        split at h
        · cases h
        rename_i h_ladder h_terminal
        by_cases h_status : job.status = .succeeded
        · exact .inl h_status
        · rw [not_or] at h_terminal
          exact .inr ⟨by simpa [h_status] using h_ladder, h_terminal⟩
      · rintro ⟨_, h, -, h_case⟩
        obtain rfl := Option.some.inj h
        rcases h_case with h_status | ⟨h_uncertain, h_dead, h_blocked⟩
        · rw [if_neg (fun h => h.1 h_status), if_neg (by rw [h_status]; decide)]
        · rw [if_neg (by rw [h_uncertain]; exact fun h => by cases h.2),
            if_neg (not_or.mpr ⟨h_dead, h_blocked⟩)]

omit [DecidableEq Hash] in
/-- A job without this finding has the receipt that it names, if it has succeeded. -/
theorem acknowledgementFinding_eq_nil {receipts : Table Uuid (ReceiptView Doc Hash)} {key : Uuid}
    {job : JobView Doc Hash} :
    acknowledgementFinding receipts key job = [] ↔ (job.status = .succeeded →
      ∃ receipt, receipts.lookup key = some receipt ∧
        job.remoteResult.bind (·.receipt) = some receipt.receipt) := by
  unfold acknowledgementFinding
  split
  · rename_i h_status
    cases receipts.lookup key with
    | none =>
      refine iff_of_false (fun h => by cases h) fun h => ?_
      obtain ⟨_, h_none, -⟩ := h h_status
      cases h_none
    | some receipt =>
      by_cases h_same : job.remoteResult.bind (·.receipt) = some receipt.receipt
      · simp [sameReceipt, h_same]
      · simp [sameReceipt, h_same, h_status]
  · rename_i h_status
    exact iff_of_true rfl fun h => absurd h h_status

/-! ### The verdict -/

/-- What makes a comparison safe: the bodies are the hashed ones, every receipt belongs to a
job that has succeeded with it or may still look it up, and every succeeded job has a
receipt. -/
structure Comparable (digest : Doc → Hash) (isEmpty : Doc → Bool)
    (jobs : List (JobView Doc Hash)) (receipts : List (ReceiptView Doc Hash)) : Prop where
  body : ∀ receipt ∈ receipts, ∀ body, receipt.body = some body → digest body = receipt.hash
  intent : ∀ receipt ∈ receipts, ∃ job ∈ jobs, job.id = receipt.key ∧
    job.Matches digest isEmpty receipt ∧
    ((job.status = .succeeded ∧ job.remoteResult.bind (·.receipt) = some receipt.receipt) ∨
      (job.uncertain = true ∧ job.status ≠ .succeeded ∧ job.status ≠ .dead ∧
        job.status ≠ .blocked))
  acknowledged : ∀ job ∈ jobs, job.status = .succeeded → ∃ receipt ∈ receipts,
    receipt.key = job.id

/-- Resuming is safe if there is no finding. -/
theorem safeToResume_iff_findings {jobs : List (JobView Doc Hash)}
    {receipts : List (ReceiptView Doc Hash)} :
    (compareReceipts digest isEmpty jobs receipts).safeToResume = true ↔
      (∀ k receipt, (byKey ReceiptView.key receipts).lookup k = some receipt →
        bodyFinding digest k receipt = []) ∧
      (∀ k receipt, (byKey ReceiptView.key receipts).lookup k = some receipt →
        intentFinding digest isEmpty (byKey JobView.id jobs) k receipt = []) ∧
      ∀ k job, (byKey JobView.id jobs).lookup k = some job →
        acknowledgementFinding (byKey ReceiptView.key receipts) k job = [] := by
  unfold compareReceipts
  dsimp only
  rw [List.isEmpty_iff, List.append_eq_nil_iff, List.append_eq_nil_iff,
    flatMap_sortedItems_eq_nil, flatMap_sortedItems_eq_nil, flatMap_sortedItems_eq_nil, and_assoc]

/-- **The comparison is exact.** -/
theorem compare_iff {jobs : List (JobView Doc Hash)} {receipts : List (ReceiptView Doc Hash)}
    (h_jobs : (jobs.map JobView.id).Nodup) (h_receipts : (receipts.map ReceiptView.key).Nodup) :
    (compareReceipts digest isEmpty jobs receipts).safeToResume = true ↔
      Comparable digest isEmpty jobs receipts := by
  rw [safeToResume_iff_findings]
  -- no finding in any of the three loops
  simp only [bodyFinding_eq_nil, intentFinding_eq_nil, acknowledgementFinding_eq_nil,
    lookup_byKey h_jobs, lookup_byKey h_receipts]
  constructor
  · rintro ⟨h_body, h_intent, h_acknowledged⟩
    refine
      { body := fun receipt h_receipt => h_body _ receipt ⟨h_receipt, rfl⟩
        intent := fun receipt h_receipt => ?_
        acknowledged := fun job h_job h_status => ?_ }
    · obtain ⟨job, ⟨h_job, h_key⟩, h_matches, h_case⟩ := h_intent _ receipt ⟨h_receipt, rfl⟩
      refine ⟨job, h_job, h_key, h_matches, ?_⟩
      by_cases h_status : job.status = .succeeded
      · -- the third loop has compared the receipt ids
        obtain ⟨other, ⟨h_other, h_other_key⟩, h_same⟩ :=
          h_acknowledged _ job ⟨h_job, rfl⟩ h_status
        obtain rfl : other = receipt :=
          List.inj_on_of_nodup_map h_receipts h_other h_receipt (h_other_key.trans h_key)
        exact .inl ⟨h_status, h_same⟩
      · obtain ⟨h_uncertain, h_open⟩ := h_case.resolve_left h_status
        exact .inr ⟨h_uncertain, h_status, h_open⟩
    · obtain ⟨receipt, ⟨h_receipt, h_key⟩, -⟩ := h_acknowledged _ job ⟨h_job, rfl⟩ h_status
      exact ⟨receipt, h_receipt, h_key⟩
  · intro h
    refine ⟨fun _ receipt h_receipt => h.body receipt h_receipt.1, ?_, ?_⟩
    · rintro _ receipt ⟨h_receipt, rfl⟩
      obtain ⟨job, h_job, h_key, h_matches, h_case⟩ := h.intent receipt h_receipt
      refine ⟨job, ⟨h_job, h_key⟩, h_matches, ?_⟩
      rcases h_case with ⟨h_status, -⟩ | ⟨h_uncertain, -, h_open⟩
      · exact .inl h_status
      · exact .inr ⟨h_uncertain, h_open⟩
    · rintro _ job ⟨h_job, rfl⟩ h_status
      obtain ⟨receipt, h_receipt, h_key⟩ := h.acknowledged job h_job h_status
      refine ⟨receipt, ⟨h_receipt, h_key⟩, ?_⟩
      -- the receipt belongs to this very job, which has succeeded
      obtain ⟨owner, h_owner, h_id, -, h_case⟩ := h.intent receipt h_receipt
      obtain rfl : owner = job :=
        List.inj_on_of_nodup_map h_jobs h_owner h_job (h_id.trans h_key)
      rcases h_case with ⟨-, h_same⟩ | ⟨-, h_not, -⟩
      · exact h_same
      · exact absurd h_status h_not

end Compare

/-- A job that has succeeded under another receipt id is refused even while it is still
flagged uncertain. -/
theorem succeeded_uncertain_refused :
    let mutation : Mutation := ⟨0, .syncProfile, 1, .profile FieldMap.empty⟩
    let jobs : List (JobView Mutation (Digest Mutation)) :=
      [⟨0, .succeeded, some mutation, true, some ⟨none, some 1, none, none⟩⟩]
    let receipts : List (ReceiptView Mutation (Digest Mutation)) :=
      [⟨0, digest mutation, none, 2⟩]
    (jobs.map JobView.id).Nodup ∧ (receipts.map ReceiptView.key).Nodup ∧
    ¬ ((compareReceipts digest (fun _ => false) jobs receipts).safeToResume = true ↔
      (∀ receipt ∈ receipts, ∀ body, receipt.body = some body → digest body = receipt.hash) ∧
      (∀ receipt ∈ receipts, ∃ job ∈ jobs, job.id = receipt.key ∧
        job.Matches digest (fun _ => false) receipt ∧
        ((job.status = .succeeded ∧ job.remoteResult.bind (·.receipt) = some receipt.receipt) ∨
          (job.uncertain = true ∧ job.status ≠ .dead ∧ job.status ≠ .blocked))) ∧
      ∀ job ∈ jobs, job.status = .succeeded → ∃ receipt ∈ receipts, receipt.key = job.id) := by
  refine ⟨by decide, by decide, fun h => ?_⟩
  have h_safe := h.mpr ⟨fun receipt h_receipt body h_body => ?_, fun receipt h_receipt => ?_,
    fun job h_job _ => ?_⟩
  · revert h_safe
    decide
  all_goals
    first
      | obtain rfl := List.mem_singleton.mp h_receipt
      | obtain rfl := List.mem_singleton.mp h_job
  · cases h_body
  · exact ⟨_, List.mem_cons_self, rfl, ⟨_, rfl, rfl, rfl⟩, .inr ⟨rfl, by decide, by decide⟩⟩
  · exact ⟨_, List.mem_cons_self, rfl⟩

end ControlPlane
