import Mathlib.Data.List.Basic

/-!
# Locks that are held to the end of a transaction

A lock is taken on a resource in shared or exclusive mode and belongs to its owner until
the owner releases everything it holds. A `LockTable` lists the locks held; that any two
of them are compatible is a field, so a table with a conflict cannot be built. A lock is
granted when it is compatible with all there are (`LockTable.Grants`); an owner never
conflicts with itself, so it may take a lock again, or in the stronger mode.
-/

namespace Framework

/-- How a row is locked. -/
inductive LockMode
  | shared
  | exclusive
deriving DecidableEq

/-- A lock: the transaction that holds it, on what, and how. -/
structure Hold (ω ρ : Type) where
  owner : ω
  resource : ρ
  mode : LockMode
deriving DecidableEq

namespace Hold

variable {ω ρ : Type}

instance [DecidableEq ω] [DecidableEq ρ] : LawfulBEq (Hold ω ρ) := inferInstance

/-- Two locks can be held at once: they are on different resources, of one owner, or both
shared. -/
def Compatible (a b : Hold ω ρ) : Prop :=
  a.resource = b.resource → a.owner = b.owner ∨ (a.mode = .shared ∧ b.mode = .shared)

instance [DecidableEq ω] [DecidableEq ρ] (a b : Hold ω ρ) : Decidable (a.Compatible b) :=
  inferInstanceAs (Decidable (_ → _))

/-- Compatibility is symmetric. -/
theorem Compatible.symm {a b : Hold ω ρ} (h : a.Compatible b) : b.Compatible a := by
  intro h_resource
  rcases h h_resource.symm with h_owner | ⟨h_a, h_b⟩
  · exact .inl h_owner.symm
  · exact .inr ⟨h_b, h_a⟩

/-- A transaction is not in its own way. -/
theorem compatible_self (a : Hold ω ρ) : a.Compatible a := fun _ => .inl rfl

end Hold

/-- The locks held, no two of them in conflict. -/
structure LockTable (ω ρ : Type) where
  holds : List (Hold ω ρ)
  consistent : ∀ a ∈ holds, ∀ b ∈ holds, a.Compatible b

namespace LockTable

variable {ω ρ : Type}

/-- Nothing is locked. -/
def empty : LockTable ω ρ := ⟨[], fun _ h => (by cases h)⟩

/-- The lock can be taken now. -/
def Grants (locks : LockTable ω ρ) (hold : Hold ω ρ) : Prop :=
  ∀ other ∈ locks.holds, hold.Compatible other

instance [DecidableEq ω] [DecidableEq ρ] (locks : LockTable ω ρ) (hold : Hold ω ρ) :
    Decidable (locks.Grants hold) :=
  inferInstanceAs (Decidable (∀ other ∈ locks.holds, hold.Compatible other))

/-- One more lock. -/
def grant (locks : LockTable ω ρ) (hold : Hold ω ρ) (h : locks.Grants hold) :
    LockTable ω ρ where
  holds := hold :: locks.holds
  consistent a h_a b h_b := by
    rcases List.mem_cons.mp h_a with h_a | h_a <;> rcases List.mem_cons.mp h_b with h_b | h_b
    · rw [h_a, h_b]
      exact hold.compatible_self
    · rw [h_a]
      exact h b h_b
    · rw [h_b]
      exact (h a h_a).symm
    · exact locks.consistent a h_a b h_b

/-- The end of a transaction. -/
def release [DecidableEq ω] (locks : LockTable ω ρ) (owner : ω) : LockTable ω ρ where
  holds := locks.holds.filter fun hold => hold.owner ≠ owner
  consistent a h_a b h_b :=
    locks.consistent a (List.mem_filter.mp h_a).1 b (List.mem_filter.mp h_b).1

/-- The new lock is held, and those before. -/
theorem mem_grant {locks : LockTable ω ρ} {hold other : Hold ω ρ} (h : locks.Grants hold) :
    other ∈ (locks.grant hold h).holds ↔ other = hold ∨ other ∈ locks.holds :=
  List.mem_cons

/-- The locks of the others are held. -/
theorem mem_release [DecidableEq ω] {locks : LockTable ω ρ} {owner : ω} {hold : Hold ω ρ} :
    hold ∈ (locks.release owner).holds ↔ hold ∈ locks.holds ∧ hold.owner ≠ owner := by
  unfold release
  rw [List.mem_filter, decide_eq_true_iff]

/-- **Exclusion.** Who holds a resource exclusively is the only one to hold it. -/
theorem owner_eq_of_exclusive {locks : LockTable ω ρ} {owner owner' : ω} {resource : ρ}
    {mode : LockMode} (h : ⟨owner, resource, .exclusive⟩ ∈ locks.holds)
    (h' : ⟨owner', resource, mode⟩ ∈ locks.holds) : owner' = owner := by
  rcases locks.consistent _ h' _ h rfl with h_owner | ⟨-, h_mode⟩
  · exact h_owner
  · cases h_mode

/-! ### The locks of one owner -/

variable [DecidableEq ω]

/-- The locks that the owner holds. -/
def heldBy (locks : LockTable ω ρ) (owner : ω) : List (ρ × LockMode) :=
  (locks.holds.filter fun hold => hold.owner = owner).map fun hold => (hold.resource, hold.mode)

/-- What a transaction holds. -/
theorem mem_heldBy {locks : LockTable ω ρ} {owner : ω} {resource : ρ} {mode : LockMode} :
    (resource, mode) ∈ locks.heldBy owner ↔ ⟨owner, resource, mode⟩ ∈ locks.holds := by
  unfold heldBy
  rw [List.mem_map]
  constructor
  · rintro ⟨⟨owner', resource', mode'⟩, h_hold, h_eq⟩
    obtain ⟨h_holds, h_owner⟩ := List.mem_filter.mp h_hold
    cases h_eq
    obtain rfl : owner' = owner := of_decide_eq_true h_owner
    exact h_holds
  · intro h_hold
    exact ⟨_, List.mem_filter.mpr ⟨h_hold, decide_eq_true rfl⟩, rfl⟩

/-- It holds the new lock too. -/
theorem heldBy_grant_self {locks : LockTable ω ρ} {owner : ω} {resource : ρ} {mode : LockMode}
    (h : locks.Grants ⟨owner, resource, mode⟩) :
    (locks.grant _ h).heldBy owner = (resource, mode) :: locks.heldBy owner := by
  unfold heldBy
  change ((⟨owner, resource, mode⟩ :: locks.holds).filter fun hold => hold.owner = owner).map _ = _
  rw [List.filter_cons, if_pos (decide_eq_true rfl), List.map_cons]

/-- Another one holds what it held. -/
theorem heldBy_grant_of_ne {locks : LockTable ω ρ} {hold : Hold ω ρ} (h : locks.Grants hold)
    {owner : ω} (h_ne : owner ≠ hold.owner) :
    (locks.grant hold h).heldBy owner = locks.heldBy owner := by
  unfold heldBy
  change ((hold :: locks.holds).filter fun hold => hold.owner = owner).map _ = _
  rw [List.filter_cons, if_neg fun h_eq => h_ne (of_decide_eq_true h_eq).symm]

/-- Another one holds what it held. -/
theorem heldBy_release_of_ne (locks : LockTable ω ρ) {owner owner' : ω} (h : owner' ≠ owner) :
    (locks.release owner).heldBy owner' = locks.heldBy owner' := by
  unfold heldBy
  change ((locks.holds.filter _).filter _).map _ = _
  rw [List.filter_filter]
  congr 1
  refine List.filter_congr fun hold _ => ?_
  by_cases h_eq : hold.owner = owner'
  · rw [h_eq]
    simp [h]
  · simp [h_eq]

/-- Who owns no lock holds nothing. -/
theorem heldBy_eq_nil {locks : LockTable ω ρ} {owner : ω}
    (h : ∀ hold ∈ locks.holds, hold.owner ≠ owner) : locks.heldBy owner = [] := by
  unfold heldBy
  rw [List.filter_eq_nil_iff.mpr fun hold h_hold h_eq =>
    h hold h_hold (of_decide_eq_true h_eq), List.map_nil]

end LockTable
end Framework
