import ControlPlane.Framework.Lock
import Mathlib.Logic.Function.Basic

/-!
# Transactions, statement by statement

A `Script` is a transaction as the client sends it: statements that read, lock, draw from
a sequence or write, each chosen after the answers to those before, up to a commit or a
rollback, which hand an answer to the caller. The isolation is *read committed*: a
statement reads the state committed when it runs, with the transaction's own writes
applied to it. A write is kept as a function of the state until the commit; a value drawn
from a sequence is gone whether the transaction commits or not.

* `Script.alone` is a script that runs with nobody else.
* `Script.Ensures` is the rule for one guarded component of the state, such as a gate row.
  It follows what the transaction knows about the component — nothing before it has locked
  it, and its value from then on — and demands a postcondition of every commit.
* `Script.Requests` says which locks a script may ask for, `Script.Writes` what it may write,
  and `Script.Answers` what it may answer.
-/

namespace Framework

/-- A state with a sequence, such as a generator of ids. -/
class Sequence (σ : Type) where
  /-- The state with the next value gone. -/
  advance : σ → σ

/-- A transaction over the state `σ` that locks resources `ρ` and answers a `β`. -/
inductive Script (σ ρ β : Type)
  | commit (answer : β)
  | rollback (answer : β)
  /-- `SELECT`, possibly with a lock on what it finds; the answer is read under the lock. -/
  | select (lock : σ → Option (ρ × LockMode)) (next : σ → Script σ ρ β)
  /-- A draw from the sequence, read in the state before it advances. -/
  | draw (next : σ → Script σ ρ β)
  | write (effect : σ → σ) (next : Script σ ρ β)

/-! ### What a transaction knows of the guarded component -/

/-- What a transaction knows of a guarded component: nothing until it has locked it, then
its value. -/
abbrev Guard (γ : Type) : Type := Option (LockMode × γ)

namespace Guard

variable {ρ γ : Type}

/-- The component may have the value `v`. -/
def Allows (guard : Guard γ) (v : γ) : Prop := ∀ mode u, guard = some (mode, u) → v = u

/-- The component is locked once more when it has the value `v`. -/
def take (guard : Guard γ) (mode : LockMode) (v : γ) : Guard γ :=
  some (if guard.any (·.1 = .exclusive) then .exclusive else mode, v)

/-- What a transaction knows after a statement that may have locked the component, whose
lock is `gate`. -/
def after [DecidableEq ρ] (gate : ρ) (guard : Guard γ) (lock : Option (ρ × LockMode)) (v : γ) :
    Guard γ :=
  match lock with
  | none => guard
  | some (resource, mode) => if resource = gate then guard.take mode v else guard

end Guard

namespace Script

variable {σ ρ β γ : Type}

/-- The same transaction under another answer. -/
def map {β' : Type} (f : β → β') : Script σ ρ β → Script σ ρ β'
  | commit answer => commit (f answer)
  | rollback answer => rollback (f answer)
  | select lock next => select lock fun s => (next s).map f
  | draw next => draw fun s => (next s).map f
  | write effect next => write effect (next.map f)

/-- How a script ends when no other transaction runs, from the committed state `s` and the
writes `pending` so far: whether it commits, its answer, and the state it leaves. -/
def alone [Sequence σ] : Script σ ρ β → σ → (σ → σ) → (Bool × β) × σ
  | commit answer, s, pending => ((true, answer), pending s)
  | rollback answer, s, _ => ((false, answer), s)
  | select _ next, s, pending => (next (pending s)).alone s pending
  | draw next, s, pending => (next s).alone (Sequence.advance s) pending
  | write effect next, s, pending => next.alone s (effect ∘ pending)

theorem alone_map [Sequence σ] {β' : Type} (f : β → β') (script : Script σ ρ β) (s : σ)
    (pending : σ → σ) :
    (script.map f).alone s pending =
      (Prod.map id f (script.alone s pending).1, (script.alone s pending).2) := by
  induction script generalizing s pending with
  | commit | rollback => rfl
  | select lock next ih => exact ih (pending s) s pending
  | draw next ih => exact ih s (Sequence.advance s) pending
  | write effect next ih => exact ih s (effect ∘ pending)

/-! ### Rules -/

section Ensures

variable [Sequence σ] [DecidableEq ρ] (gate : ρ) (component : σ → γ)

/-- Every commit of the script, from the writes `pending` and what it knows on, meets `Post`,
and every rollback meets `Undo`. A draw leaves the component alone. -/
def Ensures (Post : Guard γ → (σ → σ) → β → Prop) (Undo : β → Prop) :
    Script σ ρ β → Guard γ → (σ → σ) → Prop
  | commit answer, guard, pending => Post guard pending answer
  | rollback answer, _, _ => Undo answer
  | select lock next, guard, pending => ∀ s, Guard.Allows guard (component s) →
      (next (pending s)).Ensures Post Undo
        (Guard.after gate guard (lock (pending s)) (component s)) pending
  | draw next, guard, pending => ∀ s, Guard.Allows guard (component s) →
      component (Sequence.advance s) = component s ∧ (next s).Ensures Post Undo guard pending
  | write effect next, guard, pending => next.Ensures Post Undo guard (effect ∘ pending)

variable {gate component}

/-- A postcondition on the answer carries over to the renamed answers. -/
theorem Ensures.map {β' : Type} {f : β → β'} {Post : Guard γ → (σ → σ) → β' → Prop}
    {Undo : β' → Prop} {script : Script σ ρ β} {guard : Guard γ} {pending : σ → σ}
    (h : script.Ensures gate component (fun guard pending answer => Post guard pending (f answer))
      (fun answer => Undo (f answer)) guard pending) :
    (script.map f).Ensures gate component Post Undo guard pending := by
  induction script generalizing guard pending with
  | commit | rollback => exact h
  | select lock next ih => exact fun s h_s => ih _ (h s h_s)
  | draw next ih => exact fun s h_s => ⟨(h s h_s).1, ih s (h s h_s).2⟩
  | write effect next ih => exact ih h

end Ensures

/-- Every lock the script may ask for is one of `Ask`. -/
def Requests (Ask : ρ → LockMode → Prop) : Script σ ρ β → Prop
  | commit _ | rollback _ => True
  | select lock next =>
    ∀ s, (∀ resource mode, lock s = some (resource, mode) → Ask resource mode) ∧
      (next s).Requests Ask
  | draw next => ∀ s, (next s).Requests Ask
  | write _ next => next.Requests Ask

theorem Requests.map {β' : Type} {f : β → β'} {Ask : ρ → LockMode → Prop}
    {script : Script σ ρ β} (h : script.Requests Ask) : (script.map f).Requests Ask := by
  induction script with
  | commit | rollback => trivial
  | select lock next ih => exact fun s => ⟨(h s).1, ih s (h s).2⟩
  | draw next ih => exact fun s => ih s (h s)
  | write effect next ih => exact ih h

/-- Every answer of the script is one of `Answer`. -/
def Answers (Answer : β → Prop) : Script σ ρ β → Prop
  | commit answer | rollback answer => Answer answer
  | select _ next | draw next => ∀ s, (next s).Answers Answer
  | write _ next => next.Answers Answer

theorem answers_map {β' : Type} (f : β → β') {Answer : β' → Prop} (h : ∀ b, Answer (f b))
    (script : Script σ ρ β) : (script.map f).Answers Answer := by
  induction script with
  | commit answer | rollback answer => exact h answer
  | select _ next ih | draw next ih => exact ih
  | write effect next ih => exact ih

/-- Every write of the script is one of `Ok`. -/
def Writes (Ok : (σ → σ) → Prop) : Script σ ρ β → Prop
  | commit _ | rollback _ => True
  | select _ next | draw next => ∀ s, (next s).Writes Ok
  | write effect next => Ok effect ∧ next.Writes Ok

theorem Writes.imp {Ok Ok' : (σ → σ) → Prop} {script : Script σ ρ β} (h : script.Writes Ok)
    (h_imp : ∀ effect, Ok effect → Ok' effect) : script.Writes Ok' := by
  induction script with
  | commit | rollback => trivial
  | select lock next ih | draw next ih => exact fun s => ih s (h s)
  | write effect next ih => exact ⟨h_imp effect h.1, ih h.2⟩

theorem Writes.ite {Ok : (σ → σ) → Prop} {c : Prop} [Decidable c] {yes no : Script σ ρ β}
    (h_yes : yes.Writes Ok) (h_no : no.Writes Ok) : (if c then yes else no).Writes Ok := by
  split
  · exact h_yes
  · exact h_no

end Script
end Framework
