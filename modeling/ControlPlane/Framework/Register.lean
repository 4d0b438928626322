import Mathlib.Data.List.Perm.Basic
import Mathlib.Data.Nat.Basic

/-!
# Registers that keep the highest offer

A register takes offers one at a time. `Accepts` says which offers its content lets in,
`written` what an accepted offer leaves, and every offer has a rank. When the offers that
the first content lets in are let in by each other exactly along the ranks (`Ranked`), the
order of arrival does not matter:

* `Ranked.settled` — after any list of offers the register holds the highest of those that
  the first content lets in, and that one was accepted when it came; or the first content,
  when none of them is let in.
* `Ranked.perm` — so two orders of the same offers leave the same content, if no two offers
  that are let in have the same rank.
-/

namespace Framework

structure Register (Cell Offer : Type) where
  Accepts : Cell → Offer → Prop
  written : Offer → Cell
  rank : Offer → ℕ

namespace Register

variable {Cell Offer : Type}

/-- What one offer does to the content. -/
inductive Puts (r : Register Cell Offer) (c : Cell) (o : Offer) : Cell → Prop
  | taken (h : r.Accepts c o) : Puts r c o (r.written o)
  | refused (h : ¬ r.Accepts c o) : Puts r c o c

/-- What a list of offers does to the content, in the order of their arrival. -/
inductive Fills (r : Register Cell Offer) (c : Cell) : List Offer → Cell → Prop
  | empty : Fills r c [] c
  | offered {os : List Offer} {c' c'' : Cell} (o : Offer) (h : Fills r c os c')
      (h_put : r.Puts c' o c'') : Fills r c (os ++ [o]) c''

/-- The offers that `c` lets in are let in by each other along their ranks. -/
structure Ranked (r : Register Cell Offer) (c : Cell) (os : List Offer) : Prop where
  rank : ∀ o ∈ os, ∀ o' ∈ os, r.Accepts c o → r.Accepts c o' →
    (r.Accepts (r.written o) o' ↔ r.rank o < r.rank o')
  /-- What is let in later would have been let in first. -/
  first : ∀ o ∈ os, ∀ o' ∈ os, r.Accepts c o → r.Accepts (r.written o) o' → r.Accepts c o'

/-- The content after the offers `os`: the one of the highest rank among those that `c`
lets in, or `c` itself. -/
inductive Settled (r : Register Cell Offer) (c : Cell) (os : List Offer) : Cell → Prop
  | won (o : Offer) (h_mem : o ∈ os) (h_accepts : r.Accepts c o)
      (h_highest : ∀ o' ∈ os, r.Accepts c o' → r.rank o' ≤ r.rank o) :
      Settled r c os (r.written o)
  | kept (h_none : ∀ o ∈ os, ¬ r.Accepts c o) : Settled r c os c

variable {r : Register Cell Offer} {c : Cell} {os : List Offer}

theorem Ranked.init (h : r.Ranked c os) {os' : List Offer} (h_sub : ∀ o ∈ os', o ∈ os) :
    r.Ranked c os' where
  rank o h_o o' h_o' := h.rank o (h_sub o h_o) o' (h_sub o' h_o')
  first o h_o o' h_o' := h.first o (h_sub o h_o) o' (h_sub o' h_o')

/-- **The highest offer wins.** -/
theorem Ranked.settled (h : r.Ranked c os) {c' : Cell} (h_fills : r.Fills c os c') :
    r.Settled c os c' := by
  -- induction on the offers: the register holds the highest so far
  induction h_fills with
  | empty => exact .kept fun o h_o => absurd h_o List.not_mem_nil
  | @offered os c' c'' o h_fills h_put ih =>
    have h_last : o ∈ os ++ [o] := List.mem_append_right os List.mem_cons_self
    have h_old : ∀ o' ∈ os, o' ∈ os ++ [o] := fun o' h_o' => List.mem_append_left [o] h_o'
    have h_cases : ∀ o' ∈ os ++ [o], o' ∈ os ∨ o' = o := by
      intro o' h_o'
      simpa using h_o'
    cases ih (h.init h_old) with
    | won w h_w h_accepts h_highest =>
      cases h_put with
      | taken h_taken =>
        -- a higher offer takes over from the winner so far
        have h_first := h.first w (h_old w h_w) o h_last h_accepts h_taken
        have h_lt := (h.rank w (h_old w h_w) o h_last h_accepts h_first).mp h_taken
        refine .won o h_last h_first fun o' h_o' h_in => ?_
        rcases h_cases o' h_o' with h_o' | rfl
        · exact le_trans (h_highest o' h_o' h_in) (Nat.le_of_lt h_lt)
        · exact le_rfl
      | refused h_refused =>
        -- an offer that is refused is not above the winner
        refine .won w (h_old w h_w) h_accepts fun o' h_o' h_in => ?_
        rcases h_cases o' h_o' with h_o' | rfl
        · exact h_highest o' h_o' h_in
        · have h_rank := h.rank w (h_old w h_w) o' h_last h_accepts h_in
          exact not_lt.mp (mt h_rank.mpr h_refused)
    -- so far everything was refused against the first value
    | kept h_none =>
      cases h_put with
      | taken h_taken =>
        refine .won o h_last h_taken fun o' h_o' h_in => ?_
        rcases h_cases o' h_o' with h_o' | rfl
        · exact absurd h_in (h_none o' h_o')
        · exact le_rfl
      | refused h_refused =>
        refine .kept fun o' h_o' => ?_
        rcases h_cases o' h_o' with h_o' | rfl
        · exact h_none o' h_o'
        · exact h_refused

/-- Whatever is accepted on the way would have been let in first. -/
theorem Ranked.accepted (h : r.Ranked c os) {pre post : List Offer} {o : Offer} {c' : Cell}
    (h_split : os = pre ++ o :: post) (h_fills : r.Fills c pre c') (h_accepts : r.Accepts c' o) :
    r.Accepts c o := by
  subst h_split
  have h_o : o ∈ pre ++ o :: post := List.mem_append_right pre List.mem_cons_self
  have h_pre : ∀ o' ∈ pre, o' ∈ pre ++ o :: post := fun o' => List.mem_append_left _
  cases (h.init h_pre).settled h_fills with
  | won w h_w h_in => exact h.first w (h_pre w h_w) o h_o h_in h_accepts
  | kept => exact h_accepts

/-- The winner was accepted when it came, if no other offer has its rank. -/
theorem Ranked.wins (h : r.Ranked c os) {pre post : List Offer} {o : Offer} {c' : Cell}
    (h_split : os = pre ++ o :: post) (h_fills : r.Fills c pre c') (h_accepts : r.Accepts c o)
    (h_highest : ∀ o' ∈ os, r.Accepts c o' → r.rank o' ≤ r.rank o)
    (h_distinct : ∀ o' ∈ pre, r.Accepts c o' → r.rank o' ≠ r.rank o) : r.Accepts c' o := by
  subst h_split
  have h_o : o ∈ pre ++ o :: post := List.mem_append_right pre List.mem_cons_self
  have h_pre : ∀ o' ∈ pre, o' ∈ pre ++ o :: post := fun o' => List.mem_append_left _
  cases (h.init h_pre).settled h_fills with
  | won w h_w h_in =>
    have h_le := h_highest w (h_pre w h_w) h_in
    have h_lt := lt_of_le_of_ne h_le (h_distinct w h_w h_in)
    exact (h.rank w (h_pre w h_w) o h_o h_in h_accepts).mpr h_lt
  | kept => exact h_accepts

/-- There is one way to settle, if no two offers that are let in have the same rank. -/
theorem Settled.unique {os' : List Offer} {c₁ c₂ : Cell} (h₁ : r.Settled c os c₁)
    (h₂ : r.Settled c os' c₂) (h_mem : ∀ o, o ∈ os ↔ o ∈ os')
    (h_distinct : ∀ o ∈ os, ∀ o' ∈ os, r.Accepts c o → r.Accepts c o' →
      r.rank o = r.rank o' → o = o') : c₁ = c₂ := by
  cases h₁ with
  | won o h_o h_in h_highest =>
    cases h₂ with
    | won o' h_o' h_in' h_highest' =>
      have h_le := h_highest' o ((h_mem o).mp h_o) h_in
      have h_ge := h_highest o' ((h_mem o').mpr h_o') h_in'
      rw [h_distinct o h_o o' ((h_mem o').mpr h_o') h_in h_in' (le_antisymm h_le h_ge)]
    | kept h_none => exact absurd h_in (h_none o ((h_mem o).mp h_o))
  | kept h_none =>
    cases h₂ with
    | won o' h_o' h_in' => exact absurd h_in' (h_none o' ((h_mem o').mpr h_o'))
    | kept => rfl

/-- **The order of arrival does not matter.** -/
theorem Ranked.perm (h : r.Ranked c os) {os' : List Offer} (h_perm : os.Perm os') {c₁ c₂ : Cell}
    (h₁ : r.Fills c os c₁) (h₂ : r.Fills c os' c₂)
    (h_distinct : ∀ o ∈ os, ∀ o' ∈ os, r.Accepts c o → r.Accepts c o' →
      r.rank o = r.rank o' → o = o') : c₁ = c₂ := by
  have h_mem : ∀ o, o ∈ os ↔ o ∈ os' := fun o => h_perm.mem_iff
  have h_ranked : r.Ranked c os' := h.init fun o h_o => (h_mem o).mpr h_o
  exact (h.settled h₁).unique (h_ranked.settled h₂) h_mem h_distinct

end Register
end Framework
