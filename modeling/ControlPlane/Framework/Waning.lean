import ControlPlane.Framework.Run
import Mathlib.Algebra.BigOperators.Group.List.Basic
import Mathlib.Algebra.GroupWithZero.Nat
import Mathlib.Data.List.MinMax
import Mathlib.Data.List.ReduceOption

/-!
# Rounds that take things away

A collection is worked off in rounds. The *phase* of an item says how far it still is from being
done with, and is zero for an item that no longer counts. A round may take an item away or change
it, and raises no phase (`Wanes`). An item that is *due* in a round comes nearer to its end.

* `total_lt` — a round in which an item is due lowers the sum of the phases.
* `exists_unblocked` — where blocking goes up a rank, some item that counts is not blocked.
* `leads_total` — after as many good rounds as the sum of the phases, nothing counts any more.
-/

namespace Framework

variable {α : Type}

/-- What is left of the phase, of an item that may be gone. -/
def remains (phase : α → ℕ) (out : Option α) : ℕ := out.elim 0 phase

/-- The sum of the phases. -/
def total (phase : α → ℕ) (items : List α) : ℕ := (items.map phase).sum

/-- A round, in which the items that are due come nearer to their end. -/
def Wanes (phase : α → ℕ) (Due : α → Prop) (items next : List α) : Prop :=
  ∃ outs : List (Option α), next.Perm outs.reduceOption ∧
    List.Forall₂ (fun item out => remains phase out ≤ phase item ∧
      (Due item → remains phase out < phase item)) items outs

variable {phase : α → ℕ} {Due Due' : α → Prop} {items next : List α}

theorem total_eq_zero : total phase items = 0 ↔ ∀ item ∈ items, phase item = 0 := by
  induction items with
  | nil => simp [total]
  | cons item items ih =>
    rw [total, List.map_cons, List.sum_cons, Nat.add_eq_zero_iff, List.forall_mem_cons]
    exact and_congr_right fun _ => ih

theorem total_reduceOption (outs : List (Option α)) :
    total phase outs.reduceOption = (outs.map (remains phase)).sum := by
  induction outs with
  | nil => rfl
  | cons out outs ih =>
    cases out with
    | none => simpa [remains] using ih
    | some item => simpa [remains, total] using ih

theorem Wanes.imp (h : Wanes phase Due items next)
    (h_due : ∀ item ∈ items, Due' item → Due item) : Wanes phase Due' items next := by
  obtain ⟨outs, h_next, h_outs⟩ := h
  refine ⟨outs, h_next, ?_⟩
  clear h_next
  induction h_outs with
  | nil => exact .nil
  | @cons item out items outs h_item _ ih =>
    refine .cons ⟨h_item.1, fun h => h_item.2 (h_due item List.mem_cons_self h)⟩ (ih ?_)
    exact fun other h_other => h_due other (List.mem_cons_of_mem item h_other)

theorem Wanes.total_le (h : Wanes phase Due items next) : total phase next ≤ total phase items := by
  obtain ⟨outs, h_next, h_outs⟩ := h
  have h_total : total phase next = (outs.map (remains phase)).sum := by
    rw [← total_reduceOption]
    exact (h_next.map phase).sum_eq
  rw [h_total]
  clear h_next h_total
  induction h_outs with
  | nil => rfl
  | cons h_item _ ih =>
    rw [List.map_cons, List.sum_cons, total, List.map_cons, List.sum_cons]
    exact Nat.add_le_add h_item.1 ih

/-- **A round in which an item is due** lowers the sum of the phases. -/
theorem Wanes.total_lt (h : Wanes phase Due items next) (h_due : ∃ item ∈ items, Due item) :
    total phase next < total phase items := by
  obtain ⟨outs, h_next, h_outs⟩ := h
  have h_total : total phase next = (outs.map (remains phase)).sum := by
    rw [← total_reduceOption]
    exact (h_next.map phase).sum_eq
  rw [h_total]
  clear h_next h_total
  obtain ⟨item, h_mem, h_item⟩ := h_due
  induction h_outs with
  | nil => exact absurd h_mem List.not_mem_nil
  | @cons first out items outs h_first h_rest ih =>
    rw [List.map_cons, List.sum_cons, total, List.map_cons, List.sum_cons]
    rcases List.mem_cons.mp h_mem with rfl | h_later
    · have h_le : (outs.map (remains phase)).sum ≤ (items.map phase).sum := by
        rw [← total_reduceOption]
        exact Wanes.total_le ⟨outs, .refl _, h_rest⟩
      exact Nat.add_lt_add_of_lt_of_le (h_first.2 h_item) h_le
    · exact Nat.add_lt_add_of_le_of_lt h_first.1 (ih h_later)

/-- **Something is not blocked**: where an item that blocks another has the lower rank, some item
that counts is blocked by none of them. -/
theorem exists_unblocked (Blocks : α → α → Prop) (rank : α → ℕ)
    (h_rank : ∀ a b, Blocks a b → rank a < rank b) (h : total phase items ≠ 0) :
    ∃ item ∈ items, phase item ≠ 0 ∧ ∀ other ∈ items, phase other ≠ 0 → ¬ Blocks other item := by
  set counting := items.filter (phase · ≠ 0) with h_counting
  have h_some : counting ≠ [] := by
    intro h_none
    refine h (total_eq_zero.mpr fun item h_item => ?_)
    by_contra h_counts
    have h_mem : item ∈ counting := List.mem_filter.mpr ⟨h_item, decide_eq_true h_counts⟩
    exact List.not_mem_nil (h_none ▸ h_mem)
  obtain ⟨item, h_argmin⟩ := Option.ne_none_iff_exists'.mp
    (fun h_none => h_some (List.argmin_eq_none.mp h_none) : counting.argmin rank ≠ none)
  have h_mem : item ∈ counting := List.argmin_mem h_argmin
  refine ⟨item, (List.mem_filter.mp h_mem).1, by simpa using (List.mem_filter.mp h_mem).2, ?_⟩
  intro other h_other h_counts h_blocks
  have h_least := List.not_lt_of_mem_argmin
    (List.mem_filter.mpr ⟨h_other, by simpa using h_counts⟩) h_argmin
  exact h_least (h_rank other item h_blocks)

/-- **After enough good rounds nothing counts any more.** The other rounds are not known to achieve
anything. -/
theorem leads_total {Round : Type} {Step : List α → Round → List α → Prop} {good : Round → Bool}
    (h_keep : ∀ items round next, Step items round next → total phase next ≤ total phase items)
    (h_good : ∀ items round next, Step items round next → good round = true →
      total phase items ≠ 0 → total phase next < total phase items)
    {rounds : List Round} (h : Leads Step items rounds next)
    (h_enough : total phase items ≤ rounds.countP good) : total phase next = 0 := by
  -- the sum falls in each good round, so that as many are enough
  induction rounds generalizing items with
  | nil =>
    obtain rfl : items = next := h
    exact Nat.le_zero.mp h_enough
  | cons round rounds ih =>
    obtain ⟨mid, h_step, h_rest⟩ := h
    refine ih h_rest ?_
    have h_le := h_keep items round mid h_step
    rw [List.countP_cons] at h_enough
    cases h_round : good round with
    | false =>
      rw [h_round] at h_enough
      exact h_le.trans h_enough
    | true =>
      rw [h_round] at h_enough
      rcases Nat.eq_zero_or_pos (total phase items) with h_zero | h_pos
      -- nothing counts any more already
      · omega
      · have h_lt := h_good items round mid h_step h_round h_pos.ne'
        simp only [if_true] at h_enough
        omega

end Framework
