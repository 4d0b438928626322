import Mathlib.Data.List.Basic

/-!
# Programs in dialogue with their environment

A `Dialogue` is a program that puts questions `ι` to its environment and goes on with the
answers, `ρ q` being the answers to `q`, until it returns a result or raises. What the
environment answers may depend on everything asked and answered so far, the *history* of the
run. An environment that does not answer cuts the program short; this is an exception that
the program does not catch, and equally a crash.

* `Dialogue.run` is the run against an environment. It keeps the history.
* `Dialogue.Ensures` is the rule of postconditions: whatever is answered, `Post` holds of the
  result and the history at a normal end, and `Fail` wherever else the run may stop.
  `Ensures.bind` composes programs, `ensures_ask` and `ensures_check` are the steps.
* `run_history` carries a property of histories that the answers of the environment keep.
* `Dialogue.Yields` is the rule for one environment: the program ends normally, with `Post`.
-/

namespace Framework

/-- A program with the questions `ι`, whose answers are `ρ`, that returns an `α`. -/
inductive Dialogue (ι : Type) (ρ : ι → Type) (α : Type)
  | done (result : α)
  | raise
  | question (q : ι) (next : ρ q → Dialogue ι ρ α)

/-- A question with its answer. -/
abbrev Exchange (ι : Type) (ρ : ι → Type) : Type := (q : ι) × ρ q

/-- The exchanges of a run so far, the oldest first. -/
abbrev History (ι : Type) (ρ : ι → Type) : Type := List (Exchange ι ρ)

/-- What the environment answers after a history, if it does. -/
abbrev Environment (ι : Type) (ρ : ι → Type) : Type := History ι ρ → (q : ι) → Option (ρ q)

namespace Dialogue

variable {ι : Type} {ρ : ι → Type} {α β : Type}

/-- One dialogue after the other, unless the first one raises. -/
protected def bind : Dialogue ι ρ α → (α → Dialogue ι ρ β) → Dialogue ι ρ β
  | done result, f => f result
  | raise, _ => raise
  | question q next, f => question q fun answer => (next answer).bind f

instance : Monad (Dialogue ι ρ) where
  pure := done
  bind := Dialogue.bind

/-- One question, whose answer is the result. -/
def ask (q : ι) : Dialogue ι ρ (ρ q) := question q done

/-- The program goes on only where the test holds. -/
def check (test : Bool) : Dialogue ι ρ Unit := if test then done () else raise

/-- A value that may be missing; reading it then raises. -/
def ofOption : Option α → Dialogue ι ρ α
  | some value => done value
  | none => raise

/-- The run from a history on: the result of a normal end, and the history it leaves. -/
def run (env : Environment ι ρ) : Dialogue ι ρ α → History ι ρ → Option α × History ι ρ
  | done result, history => (some result, history)
  | raise, history => (none, history)
  | question q next, history =>
    match env history q with
    | none => (none, history)
    | some answer => (next answer).run env (history ++ [⟨q, answer⟩])

/-- A property that each answer of the environment keeps holds of the history at the end. -/
theorem run_history {env : Environment ι ρ} {I : History ι ρ → Prop}
    (h_step : ∀ history q answer, I history → env history q = some answer →
      I (history ++ [⟨q, answer⟩])) (x : Dialogue ι ρ α) {history : History ι ρ}
    (h_init : I history) : I (x.run env history).2 := by
  induction x generalizing history with
  | done | raise => exact h_init
  | question q next ih =>
    rw [run]
    split
    next => exact h_init
    next answer h_answer => exact ih answer (h_step history q answer h_init h_answer)

/-! ### Postconditions -/

/-- Whatever the environment answers from the history on, `Post` holds at a normal end and
`Fail` at every other moment at which the run may stop. -/
def Ensures (Post : α → History ι ρ → Prop) (Fail : History ι ρ → Prop) :
    Dialogue ι ρ α → History ι ρ → Prop
  | done result, history => Post result history
  | raise, history => Fail history
  | question q next, history =>
    Fail history ∧ ∀ answer, (next answer).Ensures Post Fail (history ++ [⟨q, answer⟩])

variable {Post : α → History ι ρ → Prop} {Fail : History ι ρ → Prop} {history : History ι ρ}

/-- The rule speaks about the run against any environment. -/
theorem Ensures.run {x : Dialogue ι ρ α} (h : x.Ensures Post Fail history)
    (env : Environment ι ρ) :
    (∃ result, (x.run env history).1 = some result ∧ Post result (x.run env history).2) ∨
      ((x.run env history).1 = none ∧ Fail (x.run env history).2) := by
  induction x generalizing history with
  | done result => exact .inl ⟨result, rfl, h⟩
  | raise => exact .inr ⟨rfl, h⟩
  | question q next ih =>
    rw [Dialogue.run]
    split
    next => exact .inr ⟨rfl, h.1⟩
    next answer _ => exact ih answer (h.2 answer)

/-- The rule of sequence. -/
theorem Ensures.bind {Mid : α → History ι ρ → Prop} {Post : β → History ι ρ → Prop}
    {x : Dialogue ι ρ α} {f : α → Dialogue ι ρ β} (h_x : x.Ensures Mid Fail history)
    (h_f : ∀ result history, Mid result history → (f result).Ensures Post Fail history) :
    (x >>= f).Ensures Post Fail history := by
  induction x generalizing history with
  | done result => exact h_f result history h_x
  | raise => exact h_x
  | question q next ih => exact ⟨h_x.1, fun answer => ih answer (h_x.2 answer)⟩

/-- A question may get any answer. -/
theorem ensures_ask {q : ι} {Post : ρ q → History ι ρ → Prop} :
    (ask q).Ensures Post Fail history ↔
      Fail history ∧ ∀ answer, Post answer (history ++ [⟨q, answer⟩]) := Iff.rfl

/-- A test that passes. -/
theorem ensures_check {test : Bool} {Post : Unit → History ι ρ → Prop}
    (h_fail : Fail history) (h_post : test = true → Post () history) :
    (check test).Ensures Post Fail history := by
  cases test with
  | false => exact h_fail
  | true => exact h_post rfl

/-- A value that is there. -/
theorem ensures_ofOption {value : Option α} (h_fail : Fail history)
    (h_post : ∀ result, value = some result → Post result history) :
    (ofOption value).Ensures Post Fail history := by
  cases value with
  | none => exact h_fail
  | some result => exact h_post result rfl

/-! ### Against one environment -/

/-- Against this environment the program ends normally from the history on, with `Post`. -/
def Yields (env : Environment ι ρ) (Post : α → History ι ρ → Prop) (x : Dialogue ι ρ α)
    (history : History ι ρ) : Prop :=
  ∃ result history', x.run env history = (some result, history') ∧ Post result history'

variable {env : Environment ι ρ}

/-- The rule of sequence. -/
theorem Yields.bind {Mid : α → History ι ρ → Prop} {Post : β → History ι ρ → Prop}
    {x : Dialogue ι ρ α} {f : α → Dialogue ι ρ β} (h_x : Yields env Mid x history)
    (h_f : ∀ result history, Mid result history → Yields env Post (f result) history) :
    Yields env Post (x >>= f) history := by
  obtain ⟨result, history', h_run, h_mid⟩ := h_x
  induction x generalizing history with
  | done result' =>
    obtain ⟨rfl, rfl⟩ : result' = result ∧ history = history' := by simpa [Dialogue.run] using h_run
    exact h_f result' history h_mid
  | raise => simp [Dialogue.run] at h_run
  | question q next ih =>
    rw [Dialogue.run] at h_run
    cases h_answer : env history q with
    | none => simp [h_answer] at h_run
    | some answer =>
      rw [h_answer] at h_run
      obtain ⟨last, after, h_after, h_post⟩ := ih answer h_run
      refine ⟨last, after, ?_, h_post⟩
      show Dialogue.run env (question q fun answer => (next answer).bind f) history = _
      rw [Dialogue.run, h_answer]
      exact h_after

/-- A result, without a question. -/
theorem yields_pure {result : α} (h : Post result history) :
    Yields env Post (pure result) history := ⟨result, history, rfl, h⟩

/-- A question that is answered. -/
theorem yields_ask_bind {q : ι} {answer : ρ q} {f : ρ q → Dialogue ι ρ α}
    (h_answer : env history q = some answer)
    (h : Yields env Post (f answer) (history ++ [⟨q, answer⟩])) :
    Yields env Post (ask q >>= f) history := by
  obtain ⟨result, history', h_run, h_post⟩ := h
  refine ⟨result, history', ?_, h_post⟩
  show Dialogue.run env (question q f) history = _
  rw [Dialogue.run, h_answer]
  exact h_run

end Dialogue
end Framework
