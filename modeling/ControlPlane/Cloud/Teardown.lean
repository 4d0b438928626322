import ControlPlane.Model.Teardown
import Mathlib.Data.List.Forall2
import Mathlib.Data.List.Perm.Basic
import Mathlib.Data.Option.Basic

/-!
# Exactly the approved deletions

`validate_plan` accepts a plan exactly when its relevant changes and the approved addresses
correspond one to one, each change being the deletion approved for its address
(`validatePlan_eq_some_iff`). `Deletes` says what a change must look like, `validateChange_iff`
is one turn of the loop and `validateChanges_iff` the loop.
-/

namespace ControlPlane.Teardown

open Framework

/-- Neither a data source nor a lone no-op. -/
def Relevant (change : Document) : Prop :=
  change.member "mode" ≠ some (text "data") ∧ actions change ≠ some (.array [text "no-op"])

instance (change : Document) : Decidable (Relevant change) :=
  inferInstanceAs (Decidable (_ ∧ _))

/-- The change is one deletion, of what the inventory approves for the address. -/
structure Deletes (expected change : Document) (address : String) : Prop where
  h_actions : actions change = some (.array [text "delete"])
  h_address : change.member "address" = some (text address)
  h_approved : ∃ approved id approvedId type approvedType,
    expected.member address = some approved ∧
      priorId change = some id ∧ approved.member "id" = some approvedId ∧
      change.member "type" = some type ∧ approved.member "type" = some approvedType ∧
      id.same approvedId = true ∧ type.same approvedType = true

variable {expected change : Document} {seen seen' : List String} {address : String}

theorem approvedAddress_eq_some_iff (h_actions : actions change = some (.array [text "delete"])) :
    approvedAddress expected change = some address ↔ Deletes expected change address := by
  constructor
  · intro h
    unfold approvedAddress at h
    obtain ⟨value, h_address, h⟩ := Option.bind_eq_some_iff.mp h
    cases value with
    | string address' =>
      obtain ⟨id, h_id, h⟩ := Option.bind_eq_some_iff.mp h
      obtain ⟨approved, h_approved, h⟩ := Option.bind_eq_some_iff.mp h
      obtain ⟨approvedId, h_approvedId, h⟩ := Option.bind_eq_some_iff.mp h
      obtain ⟨type, h_type, h⟩ := Option.bind_eq_some_iff.mp h
      obtain ⟨approvedType, h_approvedType, h⟩ := Option.bind_eq_some_iff.mp h
      obtain ⟨h_same, h_eq⟩ := Option.ite_none_right_eq_some.mp h
      obtain rfl := Option.some.inj h_eq
      obtain ⟨h_sameId, h_sameType⟩ := (Bool.and_eq_true _ _).mp h_same
      exact ⟨h_actions, h_address, approved, id, approvedId, type, approvedType, h_approved, h_id,
        h_approvedId, h_type, h_approvedType, h_sameId, h_sameType⟩
    | null | bool _ | integer _ | decimal _ | array _ | object _ => cases h
  · rintro ⟨-, h_address, approved, id, approvedId, type, approvedType, h_approved, h_id,
      h_approvedId, h_type, h_approvedType, h_sameId, h_sameType⟩
    simp [approvedAddress, h_address, text, h_approved, h_id, h_approvedId, h_type,
      h_approvedType, h_sameId, h_sameType]

/-- **One turn of the loop.** -/
theorem validateChange_iff : validateChange expected seen change = some seen' ↔
    (¬ Relevant change ∧ seen' = seen) ∨
      (Relevant change ∧ ∃ address, Deletes expected change address ∧ address ∉ seen ∧
        seen' = address :: seen) := by
  unfold validateChange
  split
  next h_data =>
    have h_skipped : ¬ Relevant change := fun h => h.1 h_data
    simp [h_skipped, eq_comm]
  next h_data =>
  split
  next h_noop =>
    have h_skipped : ¬ Relevant change := fun h => h.2 h_noop
    simp [h_skipped, eq_comm]
  next h_noop =>
  -- what is left must be a deletion of an expected address, seen for the first time
  have h_relevant : Relevant change := ⟨h_data, h_noop⟩
  split
  next h_actions =>
    constructor
    · intro h
      obtain ⟨address, h_address, h⟩ := Option.bind_eq_some_iff.mp h
      obtain ⟨h_new, h_eq⟩ := Option.ite_none_left_eq_some.mp h
      exact .inr ⟨h_relevant, address, (approvedAddress_eq_some_iff h_actions).mp h_address, h_new,
        (Option.some.inj h_eq).symm⟩
    · rintro (⟨h, -⟩ | ⟨-, address, h_deletes, h_new, rfl⟩)
      · exact absurd h_relevant h
      · rw [(approvedAddress_eq_some_iff h_actions).mpr h_deletes]
        exact if_neg h_new
  next h_actions =>
    refine iff_of_false nofun ?_
    rintro (⟨h, -⟩ | ⟨-, address, h_deletes, -⟩)
    · exact h h_relevant
    · exact h_actions h_deletes.h_actions

/-- **The loop.** The addresses that it adds are those of the relevant changes, in their order. -/
theorem validateChanges_iff {changes : List Document} :
    validateChanges expected seen changes = some seen' ↔
      ∃ addresses, List.Forall₂ (Deletes expected) (changes.filter (Relevant ·)) addresses ∧
        addresses.Nodup ∧ (∀ address ∈ addresses, address ∉ seen) ∧
        seen' = addresses.reverse ++ seen := by
  induction changes generalizing seen with
  | nil =>
    constructor
    · intro h
      exact ⟨[], .nil, List.nodup_nil, nofun, (Option.some.inj h).symm⟩
    · rintro ⟨addresses, h_all, -, -, rfl⟩
      cases h_all
      rfl
  | cons change changes ih =>
    constructor
    · intro h
      obtain ⟨mid, h_turn, h_rest⟩ := Option.bind_eq_some_iff.mp h
      obtain ⟨addresses, h_all, h_nodup, h_apart, rfl⟩ := ih.mp h_rest
      rcases validateChange_iff.mp h_turn with ⟨h_skipped, rfl⟩ | ⟨h_relevant, h_turn⟩
      · rw [List.filter_cons_of_neg (by simpa using h_skipped)]
        exact ⟨addresses, h_all, h_nodup, h_apart, rfl⟩
      · obtain ⟨address, h_deletes, h_new, rfl⟩ := h_turn
        rw [List.filter_cons_of_pos (by simpa using h_relevant)]
        -- the addresses of the other changes are not the one just seen
        have h_other : address ∉ addresses := fun h_mem =>
          h_apart address h_mem List.mem_cons_self
        refine ⟨address :: addresses, .cons h_deletes h_all, h_nodup.cons h_other, ?_, ?_⟩
        · intro other h_mem
          rcases List.mem_cons.mp h_mem with rfl | h_mem
          · exact h_new
          · exact fun h_seen => h_apart other h_mem (List.mem_cons_of_mem address h_seen)
        · rw [List.reverse_cons, List.append_assoc, List.singleton_append]
    · rintro ⟨addresses, h_all, h_nodup, h_apart, rfl⟩
      by_cases h_relevant : Relevant change
      · rw [List.filter_cons_of_pos (by simpa using h_relevant)] at h_all
        cases h_all with
        | cons h_deletes h_all =>
          rename_i address addresses
          obtain ⟨h_other, h_nodup⟩ := List.nodup_cons.mp h_nodup
          have h_new := h_apart address List.mem_cons_self
          refine Option.bind_eq_some_iff.mpr ⟨address :: seen,
            validateChange_iff.mpr (.inr ⟨h_relevant, address, h_deletes, h_new, rfl⟩),
            ih.mpr ⟨addresses, h_all, h_nodup, fun other h_mem h_seen => ?_, ?_⟩⟩
          · rcases List.mem_cons.mp h_seen with rfl | h_seen
            · exact h_other h_mem
            · exact h_apart other (List.mem_cons_of_mem address h_mem) h_seen
          · rw [List.reverse_cons, List.append_assoc, List.singleton_append]
      · rw [List.filter_cons_of_neg (by simpa using h_relevant)] at h_all
        exact Option.bind_eq_some_iff.mpr ⟨seen, validateChange_iff.mpr (.inl ⟨h_relevant, rfl⟩),
          ih.mpr ⟨addresses, h_all, h_nodup, h_apart, rfl⟩⟩

/-- What a plan and an inventory must be: the inventory of the isolated stage, bounded and to be
discarded, and a finished plan that deletes each of its resources and nothing else. -/
structure Exact (plan inventory resources : Document) : Prop where
  h_environment : inventory.member "environment" = some (text "stage")
  h_region : inventory.member "region" = some (text "ca-central-1")
  h_disposition : inventory.member "disposition" = some (text "discard_isolated_synthetic_state")
  h_resources : inventory.member "resources" = some resources
  h_bounded : 1 ≤ resources.keys.length ∧ resources.keys.length ≤ 300
  h_unerrored : ((plan.member "errored").getD .null).truthy "" = false
  h_complete : plan.member "complete" ≠ some (.bool false)
  h_deletions : ∃ addresses, addresses.Perm resources.keys ∧
    List.Forall₂ (Deletes resources) ((resourceChanges plan).filter (Relevant ·)) addresses

/-- **A plan is accepted exactly when it is the approved teardown**, and then with the number
of resources. -/
theorem validatePlan_eq_some_iff (plan inventory : Document) (n : ℕ) :
    validatePlan plan inventory = some n ↔
      ∃ resources, Exact plan inventory resources ∧ n = resources.keys.length := by
  constructor
  -- an accepted plan has passed every test of the program
  · intro h
    simp only [validatePlan, Option.bind_eq_bind, Option.bind_eq_some_iff, Option.guard_eq_some',
      Option.pure_def, Option.some.injEq] at h
    obtain ⟨-, ⟨h_environment, h_region⟩, -, h_disposition, resources, h_resources, -,
      ⟨h_nonempty, h_most⟩, seen, h_loop, -, ⟨h_known, h_all⟩, -, ⟨h_unerrored, h_complete⟩,
      rfl⟩ := h
    obtain ⟨addresses, h_deletes, h_nodup, -, rfl⟩ := validateChanges_iff.mp h_loop
    have h_perm : addresses.Perm resources.keys := by
      refine (List.perm_ext_iff_of_nodup h_nodup resources.nodup_keys).mpr fun address => ?_
      exact ⟨fun h => h_known address (by simpa using h), fun h => by simpa using h_all address h⟩
    refine ⟨resources, ⟨h_environment, h_region, h_disposition, h_resources, ⟨?_, h_most⟩,
      h_unerrored, h_complete, addresses, h_perm, h_deletes⟩, ?_⟩
    · exact List.length_pos_iff.mpr h_nonempty
    · rw [List.append_nil, List.length_reverse, h_perm.length_eq]
  · rintro ⟨resources, h, rfl⟩
    obtain ⟨addresses, h_perm, h_deletes⟩ := h.h_deletions
    have h_loop : validateChanges resources [] (resourceChanges plan) = some addresses.reverse :=
      validateChanges_iff.mpr ⟨addresses, h_deletes, h_perm.nodup_iff.mpr resources.nodup_keys,
        fun _ _ => List.not_mem_nil, (List.append_nil _).symm⟩
    simp only [validatePlan, Option.bind_eq_bind, Option.bind_eq_some_iff, Option.guard_eq_some',
      Option.pure_def, Option.some.injEq]
    refine ⟨(), ⟨h.h_environment, h.h_region⟩, (), h.h_disposition, resources, h.h_resources, (),
      ⟨List.length_pos_iff.mp h.h_bounded.1, h.h_bounded.2⟩, addresses.reverse, h_loop, (), ?_, (),
      ⟨h.h_unerrored, h.h_complete⟩, ?_⟩
    · simp only [List.mem_reverse, h_perm.mem_iff]
      exact ⟨fun _ h => h, fun _ h => h⟩
    · rw [List.length_reverse, h_perm.length_eq]

end ControlPlane.Teardown
