import ControlPlane.Framework.Rely

/-!
# Scripts over a part of the state

A `Component` is a part of a state that can be read and replaced. `Script.within` runs a
script over the component in the whole state, where other scripts see more; with nobody else
it does there what it does in the component (`alone_within`). `Script.stamped` keeps a value of
the sequence with every write.
-/

namespace Framework

/-- A part of the state `τ`. -/
structure Component (τ σ : Type) where
  get : τ → σ
  set : τ → σ → τ
  get_set : ∀ t s, get (set t s) = s
  set_get : ∀ t, set t (get t) = t
  set_set : ∀ t s s', set (set t s) s' = set t s'

namespace Component

variable {τ σ : Type} (c : Component τ σ)

def modify (f : σ → σ) (t : τ) : τ := c.set t (f (c.get t))

theorem modify_id : c.modify id = id := funext c.set_get

theorem modify_comp (f g : σ → σ) : c.modify f ∘ c.modify g = c.modify (f ∘ g) := by
  funext t
  show c.set (c.set t _) (f (c.get (c.set t _))) = _
  rw [c.get_set, c.set_set]
  rfl

end Component

namespace Script

variable {τ σ ρ β : Type} (c : Component τ σ)

/-- The same transaction on a component of the state. -/
def within : Script σ ρ β → Script τ ρ β
  | commit answer => commit answer
  | rollback answer => rollback answer
  | select lock next => select (fun t => lock (c.get t)) fun t => (next (c.get t)).within
  | draw next => draw fun t => (next (c.get t)).within
  | write effect next => write (c.modify effect) next.within

variable {c}

theorem within_ite {p : Prop} [Decidable p] (yes no : Script σ ρ β) :
    (if p then yes else no).within c = if p then yes.within c else no.within c := by
  split <;> rfl

/-- With nobody else it leaves the rest of the state alone. -/
theorem alone_within [Sequence σ] [Sequence τ]
    (h_advance : ∀ t : τ, Sequence.advance t = c.modify Sequence.advance t)
    (script : Script σ ρ β) (t : τ) (pending : σ → σ) :
    (script.within c).alone t (c.modify pending) =
      ((script.alone (c.get t) pending).1, c.set t (script.alone (c.get t) pending).2) := by
  have h_get : ∀ f : σ → σ, ∀ t, c.get (c.modify f t) = f (c.get t) := fun f t => c.get_set t _
  induction script generalizing t pending with
  | commit answer => rfl
  | rollback answer =>
    show ((false, answer), t) = ((false, answer), c.set t (c.get t))
    rw [c.set_get]
  | select lock next ih =>
    show ((next (c.get (c.modify pending t))).within c).alone t (c.modify pending) = _
    rw [h_get]
    exact ih _ t pending
  | draw next ih =>
    show ((next (c.get t)).within c).alone (Sequence.advance t) (c.modify pending) = _
    rw [h_advance, ih, h_get]
    show _ = (((next (c.get t)).alone (Sequence.advance (c.get t)) pending).1, _)
    unfold Component.modify
    rw [c.set_set]
    rfl
  | write effect next ih =>
    show (next.within c).alone t (c.modify effect ∘ c.modify pending) = _
    rw [c.modify_comp]
    exact ih t (effect ∘ pending)

/-- The writes on the component are the writes of the script. -/
theorem Writes.within {Ok : (σ → σ) → Prop} {Ok' : (τ → τ) → Prop} {script : Script σ ρ β}
    (h : script.Writes Ok) (h_ok : ∀ f, Ok f → Ok' (c.modify f)) :
    (script.within c).Writes Ok' := by
  induction script with
  | commit | rollback => trivial
  | select lock next ih => exact fun t => ih _ (h _)
  | draw next ih => exact fun t => ih _ (h _)
  | write effect next ih => exact ⟨h_ok effect h.1, ih h.2⟩

/-! ### Stamped writes -/

variable [Counter τ] (c : Component τ σ) (mark : ℕ → (σ → σ) → τ → τ)

/-- The same transaction on a component of the state, where every write draws a value first,
which `mark` may keep beside what is written. -/
def stamped : Script σ ρ β → Script τ ρ β
  | commit answer => commit answer
  | rollback answer => rollback answer
  | select lock next => select (fun t => lock (c.get t)) fun t => (next (c.get t)).stamped
  | draw next => draw fun t => (next (c.get t)).stamped
  | write effect next => draw fun t => write (mark (Counter.value t) effect) next.stamped

variable {c mark}

theorem stamped_ite {p : Prop} [Decidable p] (yes no : Script σ ρ β) :
    (if p then yes else no).stamped c mark =
      if p then yes.stamped c mark else no.stamped c mark := by
  split <;> rfl

theorem Writes.stamped {Ok : (σ → σ) → Prop} {Ok' : (τ → τ) → Prop} {script : Script σ ρ β}
    (h : script.Writes Ok) (h_ok : ∀ value f, Ok f → Ok' (mark value f)) :
    (script.stamped c mark).Writes Ok' := by
  induction script with
  | commit | rollback => trivial
  | select lock next ih => exact fun t => ih _ (h _)
  | draw next ih => exact fun t => ih _ (h _)
  | write effect next ih => exact fun t => ⟨h_ok (Counter.value t) effect h.1, ih h.2⟩

end Script
end Framework
