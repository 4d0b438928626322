import Mathlib.Data.List.Basic
import Mathlib.Data.List.Infix
import Mathlib.Tactic.ByContra

/-!
# Runs of a deterministic machine

A machine is a step function `step : State → Action → State`. All nondeterminism
(which party moves, which message arrives, what a clock reads) is carried by the
action, and an action that is not enabled leaves the state as it is. A run is then
a list of actions, `run step s as` is the state it ends in, and a *moment* of the
run `as` is a prefix `pre <+: as`.

The rules below package the inductions once:

* `run_induction`, `run_invariant` — what one step preserves holds at the end of
  every run. The first keeps the history of actions in view.
* `run_stable` — a property that no step destroys holds at every later moment.
* `run_last_switch` — a property that fails at one moment and holds at a later one
  was switched on by a step, and the last such step can be chosen.
* `Meets.invariant`, `Meets.stable` — invariance and stability under a condition that every
  step meets.
* `run_progress`, `run_unchanged` — when every step that changes something raises a
  measure of it, what is the same at both ends of a stretch never changed in between.
-/

namespace Framework

variable {State Action : Type}

/-- The state reached from `s` by the actions `as` in order. -/
def run (step : State → Action → State) (s : State) (as : List Action) : State :=
  as.foldl step s

section Rules

variable {step : State → Action → State} {s : State}

@[simp] theorem run_nil : run step s [] = s := rfl

@[simp] theorem run_cons (a : Action) (as : List Action) :
    run step s (a :: as) = run step (step s a) as := rfl

/-- Two runs, one after the other. -/
theorem run_append (as bs : List Action) :
    run step s (as ++ bs) = run step (run step s as) bs :=
  List.foldl_append

@[simp] theorem run_concat (as : List Action) (a : Action) :
    run step s (as ++ [a]) = step (run step s as) a := by
  rw [run_append, run_cons, run_nil]

variable (step s) in
/-- **History induction.** `P` relates the actions taken so far to the state they
lead to. -/
theorem run_induction {P : List Action → State → Prop} (h_init : P [] s)
    (h_step : ∀ as a, P as (run step s as) → P (as ++ [a]) (step (run step s as) a)) :
    ∀ as, P as (run step s as) := by
  intro as
  induction as using List.reverseRecOn with
  | nil => exact h_init
  | append_singleton as a ih =>
    rw [run_concat]
    exact h_step as a ih

/-- **Invariance.** A property of the initial state that every step preserves holds
at the end of every run. -/
theorem run_invariant {I : State → Prop} (h_init : I s)
    (h_step : ∀ s a, I s → I (step s a)) (as : List Action) : I (run step s as) :=
  run_induction step s (P := fun _ s => I s) h_init (fun _ a h => h_step _ a h) as

/-- **Stability.** What no step destroys survives to every later moment. -/
theorem run_stable {P : State → Prop} (h_step : ∀ s a, P s → P (step s a))
    {pre as : List Action} (h : pre <+: as) (h_pre : P (run step s pre)) :
    P (run step s as) := by
  obtain ⟨rest, rfl⟩ := h
  rw [run_append]
  exact run_invariant h_pre h_step rest

variable (step s) in
/-- Stability under an invariant that the run keeps. -/
theorem run_stable_of {P I : State → Prop} (h_inv : ∀ as, I (run step s as))
    (h_step : ∀ s a, I s → P s → P (step s a)) {pre as : List Action} (h : pre <+: as)
    (h_pre : P (run step s pre)) : P (run step s as) := by
  obtain ⟨rest, rfl⟩ := h
  induction rest using List.reverseRecOn with
  | nil => rwa [List.append_nil]
  | append_singleton rest a ih =>
    rw [← List.append_assoc, run_concat]
    exact h_step _ a (h_inv _) ih

/-- A proper prefix extended by one action: either the moment is the old end of the
run or it is an earlier moment. -/
theorem prefix_concat_cases {pre as : List Action} {a : Action} (h : pre <+: as ++ [a]) :
    pre = as ++ [a] ∨ pre <+: as := by
  rcases List.prefix_concat_iff.mp h with h | h
  · exact Or.inl (by simpa using h)
  · exact Or.inr h

/-- The last action of a moment of `as ++ [a]` is either `a` itself or was taken
in `as`. -/
theorem concat_prefix_concat_cases {pre as : List Action} {b a : Action}
    (h : pre ++ [b] <+: as ++ [a]) : (pre = as ∧ b = a) ∨ pre ++ [b] <+: as := by
  rcases prefix_concat_cases h with h | h
  · obtain ⟨h₁, h₂⟩ := List.append_inj' h rfl
    exact Or.inl ⟨h₁, by simpa using h₂⟩
  · exact Or.inr h

variable (step s) in
/-- **The last switch.** If `P` fails at the moment `pre` and holds at the end of the
run, some step after `pre` switched it on, and from that step on it stayed on. -/
theorem run_last_switch {P : State → Prop} {pre as : List Action} (h : pre <+: as)
    (h_pre : ¬ P (run step s pre)) (h_end : P (run step s as)) :
    ∃ mid a, pre <+: mid ∧ mid ++ [a] <+: as ∧ ¬ P (run step s mid) ∧
      ∀ later, mid ++ [a] <+: later → later <+: as → P (run step s later) := by
  induction as using List.reverseRecOn with
  | nil =>
    obtain rfl := List.prefix_nil.mp h
    exact absurd h_end h_pre
  | append_singleton as a ih =>
    rcases prefix_concat_cases h with rfl | h
    · exact absurd h_end h_pre
    · by_cases h_as : P (run step s as)
      · obtain ⟨mid, b, h₁, h₂, h₃, h₄⟩ := ih h h_as
        refine ⟨mid, b, h₁, h₂.trans (List.prefix_append as [a]), h₃, ?_⟩
        intro later h_mid h_later
        rcases prefix_concat_cases h_later with rfl | h_later
        · exact h_end
        · exact h₄ later h_mid h_later
      · refine ⟨as, a, h, List.prefix_refl _, h_as, ?_⟩
        intro later h_mid h_later
        obtain rfl : later = as ++ [a] :=
          h_later.eq_of_length_le h_mid.length_le
        exact h_end

/-- **Progress.** If every step of a stretch leaves `f` as it is or raises its measure, the
whole stretch does. -/
theorem run_progress {α β : Type} [Preorder β] {f : State → α} (measure : α → β)
    {pre as : List Action} (h : pre <+: as)
    (h_step : ∀ mid a, pre <+: mid → mid ++ [a] <+: as →
      f (step (run step s mid) a) = f (run step s mid) ∨
        measure (f (run step s mid)) < measure (f (step (run step s mid) a))) :
    f (run step s as) = f (run step s pre) ∨
      measure (f (run step s pre)) < measure (f (run step s as)) := by
  obtain ⟨rest, rfl⟩ := h
  induction rest using List.reverseRecOn with
  | nil =>
    rw [List.append_nil]
    exact .inl rfl
  | append_singleton rest a ih =>
    rw [← List.append_assoc] at h_step ⊢
    have h_rest := ih fun mid b h_mid h_b => h_step mid b h_mid
      (h_b.trans (List.prefix_append _ [a]))
    have h_last := h_step _ a (List.prefix_append pre rest) (List.prefix_refl _)
    rw [run_concat]
    rcases h_rest with h_rest | h_rest <;> rcases h_last with h_last | h_last
    · exact .inl (h_last.trans h_rest)
    · exact .inr (h_rest ▸ h_last)
    · exact .inr (h_last ▸ h_rest)
    · exact .inr (h_rest.trans h_last)

/-- So when `f` is the same at both ends of a stretch, it was the same all the time. -/
theorem run_unchanged {α β : Type} [Preorder β] {f : State → α} (measure : α → β)
    {pre as : List Action} (h_step : ∀ mid a, pre <+: mid → mid ++ [a] <+: as →
      f (step (run step s mid) a) = f (run step s mid) ∨
        measure (f (run step s mid)) < measure (f (step (run step s mid) a)))
    (h_ends : f (run step s as) = f (run step s pre)) {mid : List Action} (h_pre : pre <+: mid)
    (h_as : mid <+: as) : f (run step s mid) = f (run step s pre) := by
  have h_first := run_progress measure h_pre fun later a h_later h_a =>
    h_step later a h_later (h_a.trans h_as)
  have h_second := run_progress measure h_as fun later a h_later h_a =>
    h_step later a (h_pre.trans h_later) h_a
  rcases h_first with h_first | h_first
  · exact h_first
  · rw [h_ends] at h_second
    rcases h_second with h_second | h_second
    · exact h_second.symm
    · exact absurd (h_first.trans h_second) (lt_irrefl _)

/-- What every step of a stretch keeps is the same at its ends. -/
theorem run_constant {α : Type} {f : State → α} {pre as : List Action} (h : pre <+: as)
    (h_step : ∀ mid a, pre <+: mid → mid ++ [a] <+: as →
      f (step (run step s mid) a) = f (run step s mid)) : f (run step s as) = f (run step s pre) :=
  (run_progress (fun _ => 0) h fun mid a h_mid h_a =>
    .inl (h_step mid a h_mid h_a)).resolve_right (lt_irrefl 0)

variable (step) in
/-- Every step of the run meets `ok`, a condition on the state before it and the action. -/
def Meets (ok : State → Action → Prop) (s : State) : List Action → Prop
  | [] => True
  | a :: as => ok s a ∧ Meets ok (step s a) as

instance Meets.decidable {ok : State → Action → Prop} [∀ s a, Decidable (ok s a)] :
    ∀ (s : State) (as : List Action), Decidable (Meets step ok s as)
  | _, [] => .isTrue trivial
  | s, a :: as =>
    have : Decidable (Meets step ok (step s a) as) := Meets.decidable _ as
    inferInstanceAs (Decidable (ok s a ∧ Meets step ok (step s a) as))

/-- All but the last step meet the condition, and so does the last one. -/
theorem Meets.concat {ok : State → Action → Prop} {as : List Action} {a : Action}
    (h : Meets step ok s (as ++ [a])) : Meets step ok s as ∧ ok (run step s as) a := by
  induction as generalizing s with
  | nil => exact ⟨trivial, h.1⟩
  | cons b as ih =>
    obtain ⟨h_as, h_a⟩ := ih h.2
    exact ⟨⟨h.1, h_as⟩, h_a⟩

/-- Invariance under a condition that the steps meet. -/
theorem Meets.invariant {I : State → Prop} {ok : State → Action → Prop} (h_init : I s)
    (h_step : ∀ s a, ok s a → I s → I (step s a)) {as : List Action}
    (h : Meets step ok s as) : I (run step s as) := by
  induction as using List.reverseRecOn with
  | nil => exact h_init
  | append_singleton as a ih =>
    obtain ⟨h_as, h_a⟩ := h.concat
    rw [run_concat]
    exact h_step _ a h_a (ih h_as)

/-- The condition, moment by moment. -/
theorem meets_iff {ok : State → Action → Prop} {as : List Action} :
    Meets step ok s as ↔ ∀ pre a, pre ++ [a] <+: as → ok (run step s pre) a := by
  constructor
  · rintro h pre a ⟨rest, rfl⟩
    induction pre generalizing s with
    | nil => exact h.1
    | cons b pre ih => exact ih h.2
  · intro h
    induction as generalizing s with
    | nil => trivial
    | cons b as ih =>
      refine ⟨h [] b (List.prefix_append [b] as), ih fun pre a h_pre => ?_⟩
      exact h (b :: pre) a (List.cons_prefix_cons.mpr ⟨rfl, h_pre⟩)

/-- What no step destroys that meets the condition, in states that the run keeps to. -/
theorem Meets.stable {P I : State → Prop} {ok : State → Action → Prop}
    (h_inv : ∀ as, I (run step s as)) (h_step : ∀ s a, I s → ok s a → P s → P (step s a))
    {pre later as : List Action} (h : Meets step ok s as) (h_pre : pre <+: later)
    (h_later : later <+: as) (h_holds : P (run step s pre)) : P (run step s later) := by
  obtain ⟨rest, rfl⟩ := h_pre
  induction rest using List.reverseRecOn with
  | nil => rwa [List.append_nil]
  | append_singleton rest a ih =>
    rw [← List.append_assoc] at h_later ⊢
    rw [run_concat]
    refine h_step _ a (h_inv _) (meets_iff.mp h _ a h_later) (ih ?_)
    exact (List.prefix_append _ [a]).trans h_later

end Rules

/-! ### Paths of a relation -/

/-- The labels `as` lead from `s` to `s'`, each by a step that the relation allows. -/
def Leads (Step : State → Action → State → Prop) : State → List Action → State → Prop
  | s, [], s' => s = s'
  | s, a :: as, s' => ∃ s₁, Step s a s₁ ∧ Leads Step s₁ as s'

variable {Step Step' : State → Action → State → Prop} {s s' : State} {as : List Action}

/-- One more step. -/
theorem Leads.concat {s'' : State} {a : Action} (h : Leads Step s as s')
    (h_step : Step s' a s'') : Leads Step s (as ++ [a]) s'' := by
  induction as generalizing s with
  | nil =>
    obtain rfl : s = s' := h
    exact ⟨s'', h_step, rfl⟩
  | cons b as ih =>
    obtain ⟨s₁, h_b, h_rest⟩ := h
    exact ⟨s₁, h_b, ih h_rest⟩

/-- Steps of another kind. -/
theorem Leads.imp (h : Leads Step s as s') (h_imp : ∀ s a s', Step s a s' → Step' s a s') :
    Leads Step' s as s' := by
  induction as generalizing s with
  | nil => exact h
  | cons a as ih =>
    obtain ⟨s₁, h_a, h_rest⟩ := h
    exact ⟨s₁, h_imp s a s₁ h_a, ih h_rest⟩

end Framework
