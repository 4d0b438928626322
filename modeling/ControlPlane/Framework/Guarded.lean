import ControlPlane.Framework.Dialogue

/-!
# Guarded dialogues

Programs that catch exceptions, and questions that may be asked only for a reason.

* A call is a question whose answer may be an error, which raises (`call`). `rescue` is
  `try … except`. `Dialogue.outcome` tells a raise from a run that is cut short, and
  `Dialogue.Ends` speaks about the exchanges of a whole run.
* `Dialogue.Guarded` is the rule of both: whatever is answered, `Allowed` permits each question
  after the history so far, `Post` holds at a normal end and `Raise` where the program raises.
  `Guarded.outcome` reads it back for every environment.
* `Guarded.andThen` composes. What was proved of a program on its own, for an empty history, holds
  of the stretch of exchanges that it adds to any other one.
* `each` and `poll` are the loops, over a list and with a bounded number of turns.
* A `steady` environment answers by the question alone. What a program returns and asks there is
  computed without the history (`value`, `Asks`).
-/

namespace Framework.Dialogue

variable {ι : Type} {ρ : ι → Type} {α β γ : Type}

/-! ### Exceptions -/

/-- The answers of an environment that may answer with an error. -/
abbrev Replies (τ : ι → Type) (q : ι) : Type := Option (τ q)

/-- A question to a provider; an error raises. -/
def call {τ : ι → Type} (q : ι) : Dialogue ι (Replies τ) (τ q) := ask q >>= ofOption

/-- A call whose answer is not read. -/
def perform {τ : ι → Type} (q : ι) : Dialogue ι (Replies τ) Unit := call q >>= fun _ => pure ()

/-- The program, with a raise as the result `none`. -/
def caught : Dialogue ι ρ α → Dialogue ι ρ (Option α)
  | done result => done (some result)
  | raise => done none
  | question q next => question q fun answer => (next answer).caught

/-- `try: x; except Exception: handler` -/
def rescue (x handler : Dialogue ι ρ α) : Dialogue ι ρ α :=
  x.caught >>= fun
    | some result => done result
    | none => handler

/-- How a run ends: with a result, with an exception, or cut short. -/
inductive Outcome (α : Type)
  | returned (result : α)
  | raised
  | cut

/-- The run from a history on: how it ends, and the history it leaves. -/
def outcome (env : Environment ι ρ) : Dialogue ι ρ α → History ι ρ → Outcome α × History ι ρ
  | done result, history => (.returned result, history)
  | raise, history => (.raised, history)
  | question q next, history =>
    match env history q with
    | none => (.cut, history)
    | some answer => (next answer).outcome env (history ++ [⟨q, answer⟩])

/-- The exchanges are a whole run of the program, which ends so. -/
def Ends (end_ : Outcome α) : Dialogue ι ρ α → History ι ρ → Prop
  | done result, stretch => stretch = [] ∧ end_ = .returned result
  | raise, stretch => stretch = [] ∧ end_ = .raised
  | question q next, stretch =>
    ∃ answer rest, stretch = ⟨q, answer⟩ :: rest ∧ (next answer).Ends end_ rest

/-! ### The rule -/

/-- Whatever the environment answers from the history on, each question is allowed when it is
asked, `Post` holds at a normal end, and `Raise` where the program raises. -/
def Guarded (Allowed : History ι ρ → ι → Prop) (Post : α → History ι ρ → Prop)
    (Raise : History ι ρ → Prop) : Dialogue ι ρ α → History ι ρ → Prop
  | done result, history => Post result history
  | raise, history => Raise history
  | question q next, history =>
    Allowed history q ∧ ∀ answer,
      (next answer).Guarded Allowed Post Raise (history ++ [⟨q, answer⟩])

variable {Allowed Allowed' : History ι ρ → ι → Prop} {Post Post' : α → History ι ρ → Prop}
  {Raise Raise' : History ι ρ → Prop} {history : History ι ρ}

/-- No exchange comes after a history that was before it. -/
theorem not_answered_later {before : History ι ρ} {exchange : Exchange ι ρ}
    (h : history <+: before) : ¬ before ++ [exchange] <+: history := by
  intro h_after
  have h_length := Nat.le_trans h_after.length_le h.length_le
  rw [List.length_append, List.length_singleton] at h_length
  omega

/-- What the rule says of the run from `history` on that has come to `after`. -/
theorem Guarded.outcome {x : Dialogue ι ρ α} (h : x.Guarded Allowed Post Raise history)
    (env : Environment ι ρ) {end_ : Outcome α} {after : History ι ρ}
    (h_run : x.outcome env history = (end_, after)) :
    history <+: after ∧
      (∀ before exchange, history <+: before → before ++ [exchange] <+: after →
        Allowed before exchange.1) ∧
      (∀ result, end_ = .returned result → Post result after) ∧
      (end_ = .raised → Raise after) := by
  induction x generalizing history with
  | done result =>
    cases h_run
    refine ⟨List.prefix_refl _, fun before exchange h_before h_after => ?_, ?_, nofun⟩
    · exact absurd h_after (not_answered_later h_before)
    · rintro _ ⟨⟩
      exact h
  | raise =>
    cases h_run
    refine ⟨List.prefix_refl _, fun before exchange h_before h_after => ?_, nofun, fun _ => h⟩
    exact absurd h_after (not_answered_later h_before)
  | question q next ih =>
    rw [Dialogue.outcome] at h_run
    split at h_run
    next =>
      cases h_run
      refine ⟨List.prefix_refl _, fun before exchange h_before h_after => ?_, nofun, nofun⟩
      exact absurd h_after (not_answered_later h_before)
    next answer _ =>
      obtain ⟨h_grows, h_allowed, h_end⟩ := ih answer (h.2 answer) h_run
      refine ⟨(List.prefix_append _ _).trans h_grows, ?_, h_end⟩
      intro before exchange h_before h_after
      -- either the call is a later one, or it is this one
      rcases Nat.lt_or_ge history.length before.length with h_length | h_length
      · refine h_allowed before exchange ?_ h_after
        refine List.prefix_of_prefix_length_le h_grows
          ((List.prefix_append _ _).trans h_after) ?_
        rwa [List.length_append, List.length_singleton]
      · obtain rfl := h_before.eq_of_length_le h_length
        have h_same := List.prefix_of_prefix_length_le h_after h_grows (by simp)
        obtain ⟨-, h_exchange⟩ := List.append_inj' (h_same.eq_of_length (by simp)) rfl
        obtain rfl := List.singleton_inj.mp h_exchange
        exact h.1

/-- Weaker conditions hold too. -/
theorem Guarded.imp {x : Dialogue ι ρ α} (h : x.Guarded Allowed Post Raise history)
    (h_allowed : ∀ history q, Allowed history q → Allowed' history q)
    (h_post : ∀ result history, Post result history → Post' result history)
    (h_raise : ∀ history, Raise history → Raise' history) :
    x.Guarded Allowed' Post' Raise' history := by
  induction x generalizing history with
  | done result => exact h_post _ _ h
  | raise => exact h_raise _ h
  | question q next ih => exact ⟨h_allowed _ _ h.1, fun answer => ih answer (h.2 answer)⟩

/-- Two rules hold together. -/
theorem Guarded.and {x : Dialogue ι ρ α} (h : x.Guarded Allowed Post Raise history)
    (h' : x.Guarded Allowed' Post' Raise' history) :
    x.Guarded (fun history q => Allowed history q ∧ Allowed' history q)
      (fun result history => Post result history ∧ Post' result history)
      (fun history => Raise history ∧ Raise' history) history := by
  induction x generalizing history with
  | done result => exact ⟨h, h'⟩
  | raise => exact ⟨h, h'⟩
  | question q next ih => exact ⟨⟨h.1, h'.1⟩, fun answer => ih answer (h.2 answer) (h'.2 answer)⟩

/-- A family of postconditions. -/
theorem Guarded.all [Inhabited β] {Post : β → α → History ι ρ → Prop} {x : Dialogue ι ρ α}
    (h : ∀ b, x.Guarded Allowed (Post b) Raise history) :
    x.Guarded Allowed (fun result history => ∀ b, Post b result history) Raise history := by
  induction x generalizing history with
  | done result => exact h
  | raise => exact h default
  | question q next ih => exact ⟨(h default).1, fun answer => ih answer fun b => (h b).2 answer⟩

/-- The rule of sequence. -/
theorem Guarded.bind {M : α → History ι ρ → Prop} {Post : β → History ι ρ → Prop}
    {x : Dialogue ι ρ α} {f : α → Dialogue ι ρ β} (h_x : x.Guarded Allowed M Raise history)
    (h_f : ∀ result history, M result history →
      (f result).Guarded Allowed Post Raise history) :
    (x >>= f).Guarded Allowed Post Raise history := by
  induction x generalizing history with
  | done result => exact h_f result history h_x
  | raise => exact h_x
  | question q next ih => exact ⟨h_x.1, fun answer => ih answer (h_x.2 answer)⟩

/-- What every allowed question keeps holds wherever the program stops. -/
theorem Guarded.keeps {I : History ι ρ → Prop} {x : Dialogue ι ρ α}
    (h : x.Guarded Allowed Post Raise history) (h_init : I history)
    (h_step : ∀ history q answer, Allowed history q → I history → I (history ++ [⟨q, answer⟩])) :
    x.Guarded Allowed (fun result history => Post result history ∧ I history)
      (fun history => Raise history ∧ I history) history := by
  induction x generalizing history with
  | done result => exact ⟨h, h_init⟩
  | raise => exact ⟨h, h_init⟩
  | question q next ih =>
    exact ⟨h.1, fun answer => ih answer (h.2 answer) (h_step history q answer h.1 h_init)⟩

/-- A rule of the stretch alone holds behind any history. -/
theorem Guarded.shift {x : Dialogue ι ρ α} {stretch : History ι ρ}
    (h : x.Guarded Allowed' Post' Raise' stretch)
    (h_allowed : ∀ stretch q, Allowed' stretch q → Allowed (history ++ stretch) q)
    (h_post : ∀ result stretch, Post' result stretch → Post result (history ++ stretch))
    (h_raise : ∀ stretch, Raise' stretch → Raise (history ++ stretch)) :
    x.Guarded Allowed Post Raise (history ++ stretch) := by
  induction x generalizing stretch with
  | done result => exact h_post result stretch h
  | raise => exact h_raise stretch h
  | question q next ih =>
    refine ⟨h_allowed stretch q h.1, fun answer => ?_⟩
    rw [List.append_assoc]
    exact ih answer (h.2 answer)

/-- Behind any history the program adds a stretch as it does to an empty one. -/
theorem Guarded.after {x : Dialogue ι ρ α} (h : x.Guarded Allowed' Post' Raise' [])
    (h_allowed : ∀ stretch q, Allowed' stretch q → Allowed (history ++ stretch) q)
    (h_post : ∀ result stretch, Post' result stretch → Post result (history ++ stretch))
    (h_raise : ∀ stretch, Raise' stretch → Raise (history ++ stretch)) :
    x.Guarded Allowed Post Raise history := by
  rw [← List.append_nil history]
  exact h.shift h_allowed h_post h_raise

/-- **Composition**: a program with a rule of its own, behind any history. -/
theorem Guarded.andThen {AllowedX : History ι ρ → ι → Prop} {M : α → History ι ρ → Prop}
    {RaiseX : History ι ρ → Prop} {Post : β → History ι ρ → Prop} {x : Dialogue ι ρ α}
    {f : α → Dialogue ι ρ β} (h : x.Guarded AllowedX M RaiseX [])
    (h_allowed : ∀ stretch q, AllowedX stretch q → Allowed (history ++ stretch) q)
    (h_raise : ∀ stretch, RaiseX stretch → Raise (history ++ stretch))
    (h_next : ∀ result stretch, M result stretch →
      (f result).Guarded Allowed Post Raise (history ++ stretch)) :
    (x >>= f).Guarded Allowed Post Raise history := by
  have h_x : x.Guarded Allowed
      (fun result after => ∃ stretch, M result stretch ∧ after = history ++ stretch)
      Raise history :=
    h.after h_allowed (fun result stretch h_mid => ⟨stretch, h_mid, rfl⟩) h_raise
  refine h_x.bind ?_
  rintro result _ ⟨stretch, h_mid, rfl⟩
  exact h_next result stretch h_mid

/-- Every program adds a whole run of itself. -/
theorem guarded_ends (x : Dialogue ι ρ α) :
    x.Guarded (fun _ _ => True) (fun result => x.Ends (.returned result)) (x.Ends .raised) [] := by
  induction x with
  | done result => exact ⟨rfl, rfl⟩
  | raise => exact ⟨rfl, rfl⟩
  | question q next ih =>
    refine ⟨trivial, fun answer => (ih answer).after (fun _ _ _ => trivial) ?_ ?_⟩
    · exact fun result stretch h => ⟨answer, stretch, rfl, h⟩
    · exact fun stretch h => ⟨answer, stretch, rfl, h⟩

/-- A run adds to the history. -/
theorem prefix_outcome (x : Dialogue ι ρ α) (env : Environment ι ρ) (history : History ι ρ) :
    history <+: (x.outcome env history).2 := by
  have h : x.Guarded (fun _ _ => True) (fun _ _ => True) (fun _ => True) history :=
    (guarded_ends x).after (fun _ _ _ => trivial) (fun _ _ _ => trivial) fun _ _ => trivial
  exact (h.outcome env (Prod.eta _).symm).1

/-! ### Steps -/

/-- A result, without a question. -/
theorem guarded_pure {result : α} (h : Post result history) :
    (pure result : Dialogue ι ρ α).Guarded Allowed Post Raise history := h

/-- Raising, without a question. -/
theorem guarded_raise (h : Raise history) :
    (raise : Dialogue ι ρ α).Guarded Allowed Post Raise history := h

/-- A test, behind which the program goes on. -/
theorem guarded_check {test : Bool} {f : Unit → Dialogue ι ρ α} (h_raise : Raise history)
    (h_next : test = true → (f ()).Guarded Allowed Post Raise history) :
    (check test >>= f).Guarded Allowed Post Raise history := by
  cases test with
  | false => exact h_raise
  | true => exact h_next rfl

/-- A value, behind which the program goes on. -/
theorem guarded_ofOption {value : Option β} {f : β → Dialogue ι ρ α} (h_raise : Raise history)
    (h_next : ∀ result, value = some result → (f result).Guarded Allowed Post Raise history) :
    (ofOption value >>= f).Guarded Allowed Post Raise history := by
  cases value with
  | none => exact h_raise
  | some result => exact h_next result rfl

section Calls

variable {τ : ι → Type} {q : ι} {Allowed : History ι (Replies τ) → ι → Prop}
  {Raise : History ι (Replies τ) → Prop} {history : History ι (Replies τ)}

/-- A call, behind which the program goes on. -/
theorem guarded_call {f : τ q → Dialogue ι (Replies τ) α}
    {Post : α → History ι (Replies τ) → Prop} (h_allowed : Allowed history q)
    (h_raise : Raise (history ++ [⟨q, none⟩]))
    (h_next : ∀ reply,
      (f reply).Guarded Allowed Post Raise (history ++ [⟨q, some reply⟩])) :
    (call q >>= f).Guarded Allowed Post Raise history :=
  ⟨h_allowed, fun
    | none => h_raise
    | some reply => h_next reply⟩

/-- The last call of a program. -/
theorem guarded_lastCall {Post : τ q → History ι (Replies τ) → Prop}
    (h_allowed : Allowed history q) (h_raise : Raise (history ++ [⟨q, none⟩]))
    (h_post : ∀ reply, Post reply (history ++ [⟨q, some reply⟩])) :
    (call q).Guarded Allowed Post Raise history :=
  ⟨h_allowed, fun
    | none => h_raise
    | some reply => h_post reply⟩

/-- A call whose answer does not matter. -/
theorem guarded_perform {Post : Unit → History ι (Replies τ) → Prop}
    (h_allowed : Allowed history q) (h_raise : Raise (history ++ [⟨q, none⟩]))
    (h_post : ∀ reply, Post () (history ++ [⟨q, some reply⟩])) :
    (perform q).Guarded Allowed Post Raise history := guarded_call h_allowed h_raise h_post

/-- The run after a call that is answered. -/
theorem outcome_call {f : τ q → Dialogue ι (Replies τ) α} {env : Environment ι (Replies τ)}
    {reply : τ q} (h : env history q = some (some reply)) :
    (call q >>= f).outcome env history =
      (f reply).outcome env (history ++ [⟨q, some reply⟩]) := by
  have h_question : (call q >>= f) = question q fun answer => ofOption answer >>= f := rfl
  rw [h_question, outcome, h]
  rfl

end Calls

/-- The last check of a program. -/
theorem guarded_lastCheck {test : Bool} {Post : Unit → History ι ρ → Prop}
    (h_raise : Raise history) (h_post : test = true → Post () history) :
    (check test).Guarded Allowed Post Raise history := by
  cases test with
  | false => exact h_raise
  | true => exact h_post rfl

/-- A program whose failure is caught. -/
theorem Guarded.caught {x : Dialogue ι ρ α} (h : x.Guarded Allowed Post Raise' history) :
    x.caught.Guarded Allowed
      (fun result history => result.elim (Raise' history) (Post · history)) Raise history := by
  induction x generalizing history with
  | done result => exact h
  | raise => exact h
  | question q next ih => exact ⟨h.1, fun answer => ih answer (h.2 answer)⟩

/-- A program with a handler, which finds what was done so far. -/
theorem Guarded.rescue {M : History ι ρ → Prop} {x handler : Dialogue ι ρ α}
    (h_x : x.Guarded Allowed Post M history)
    (h_handler : ∀ history, M history → handler.Guarded Allowed Post Raise history) :
    (x.rescue handler).Guarded Allowed Post Raise history := by
  refine h_x.caught.bind fun result history h_mid => ?_
  cases result with
  | none => exact h_handler history h_mid
  | some result => exact h_mid

/-! ### Loops -/

/-- `for item in items: body(item)` -/
def each (body : α → Dialogue ι ρ Unit) : List α → Dialogue ι ρ Unit
  | [] => pure ()
  | item :: items => do
    body item
    each body items

/-- **The invariant rule of the loop over a list**: `I` relates the turns that were made to the
history. -/
theorem guarded_each {body : α → Dialogue ι ρ Unit} {I : List α → History ι ρ → Prop}
    {items : List α} (h_init : I [] history)
    (h_turn : ∀ made item rest history, items = made ++ item :: rest → I made history →
      (body item).Guarded Allowed (fun _ => I (made ++ [item])) Raise history) :
    (each body items).Guarded Allowed (fun _ => I items) Raise history := by
  suffices h_rest : ∀ rest made history, items = made ++ rest → I made history →
      (each body rest).Guarded Allowed (fun _ => I items) Raise history from
    h_rest items [] history rfl h_init
  intro rest
  induction rest with
  | nil =>
    intro made history h_items h_made
    rw [List.append_nil] at h_items
    exact h_items ▸ h_made
  | cons item rest ih =>
    intro made history h_items h_made
    refine (h_turn made item rest history h_items h_made).bind fun _ history h_item => ?_
    exact ih (made ++ [item]) history (by simp [h_items]) h_item

/-- `for _ in range(turns): body`, which raises if no turn has a result. -/
def poll (body : Dialogue ι ρ (Option α)) : ℕ → Dialogue ι ρ α
  | 0 => raise
  | turns + 1 => do
    match ← body with
    | some result => pure result
    | none => poll body turns

/-- **The invariant rule of the loop with a bound.** -/
theorem guarded_poll {body : Dialogue ι ρ (Option α)} {I : History ι ρ → Prop} {turns : ℕ}
    (h_init : I history) (h_raise : ∀ history, I history → Raise history)
    (h_turn : ∀ history, I history → body.Guarded Allowed
      (fun result history => result.elim (I history) (Post · history)) Raise history) :
    (poll body turns).Guarded Allowed Post Raise history := by
  induction turns generalizing history with
  | zero => exact h_raise history h_init
  | succ turns ih =>
    refine (h_turn history h_init).bind fun result history h_mid => ?_
    cases result with
    | none => exact ih h_mid
    | some result => exact h_mid

/-! ### Steady environments -/

section Steady

variable {answers : (q : ι) → ρ q}

/-- The environment that answers by the question alone. -/
def steady (answers : (q : ι) → ρ q) : Environment ι ρ := fun _ q => some (answers q)

/-- The result against a steady environment, if the program does not raise. -/
def value (answers : (q : ι) → ρ q) : Dialogue ι ρ α → Option α
  | done result => some result
  | raise => none
  | question q next => (next (answers q)).value answers

/-- The question is asked in the run against a steady environment. -/
def Asks (answers : (q : ι) → ρ q) (q : ι) : Dialogue ι ρ α → Prop
  | done _ | raise => False
  | question q' next => q' = q ∨ (next (answers q')).Asks answers q

@[simp] theorem value_pure (result : α) :
    (pure result : Dialogue ι ρ α).value answers = some result := rfl

@[simp] theorem value_raise : (raise : Dialogue ι ρ α).value answers = none := rfl

@[simp] theorem value_check (test : Bool) :
    (check test : Dialogue ι ρ Unit).value answers = if test then some () else none := by
  cases test <;> rfl

@[simp] theorem value_ofOption (result : Option α) :
    (ofOption result : Dialogue ι ρ α).value answers = result := by
  cases result <;> rfl

@[simp] theorem value_bind (x : Dialogue ι ρ α) (f : α → Dialogue ι ρ β) :
    (x >>= f).value answers = (x.value answers).bind fun result => (f result).value answers := by
  induction x with
  | done result => rfl
  | raise => rfl
  | question q next ih => exact ih (answers q)

@[simp] theorem value_call {τ : ι → Type} {answers : (q : ι) → Replies τ q} (q : ι) :
    (call (τ := τ) q).value answers = answers q := value_ofOption (answers q)

@[simp] theorem value_poll (body : Dialogue ι ρ (Option α)) (turns : ℕ) :
    (poll body (turns + 1)).value answers =
      (body.value answers).bind fun result =>
        result.elim ((poll body turns).value answers) some := by
  rw [poll, value_bind]
  congr 1
  funext result
  cases result <;> rfl

/-- The question comes in the second part. -/
theorem Asks.bind {x : Dialogue ι ρ α} {f : α → Dialogue ι ρ β} {q : ι} {result : α}
    (h_x : x.value answers = some result) (h : (f result).Asks answers q) :
    (x >>= f).Asks answers q := by
  induction x with
  | done result' =>
    obtain rfl := Option.some.inj h_x
    exact h
  | raise => cases h_x
  | question q' next ih => exact .inr (ih (answers q') h_x)

/-- The question comes in the first part. -/
theorem Asks.left {x : Dialogue ι ρ α} {q : ι} (h : x.Asks answers q) (f : α → Dialogue ι ρ β) :
    (x >>= f).Asks answers q := by
  induction x with
  | done result => exact h.elim
  | raise => exact h.elim
  | question q' next ih => exact h.imp id (ih (answers q'))

/-- It comes behind a test that passes. -/
theorem asks_check {test : Bool} {f : Unit → Dialogue ι ρ α} {q : ι} (h_test : test = true)
    (h : (f ()).Asks answers q) : (check test >>= f).Asks answers q := by
  subst h_test
  exact h

section Calls

variable {τ : ι → Type} {answers : (q : ι) → Replies τ q} {q q' : ι}

/-- It is the next one. -/
theorem asks_call {f : τ q → Dialogue ι (Replies τ) α} : (call q >>= f).Asks answers q := .inl rfl

/-- It comes behind a call that is answered. -/
theorem Asks.behind {reply : τ q'} {f : τ q' → Dialogue ι (Replies τ) α}
    (h_reply : answers q' = some reply) (h : (f reply).Asks answers q) :
    (call q' >>= f).Asks answers q := by
  refine Asks.bind ?_ h
  rw [value_call, h_reply]

end Calls

/-- The question is in the history that the run leaves. -/
theorem Asks.outcome {x : Dialogue ι ρ α} {q : ι} (h : x.Asks answers q) (history : History ι ρ) :
    ∃ before, before ++ [⟨q, answers q⟩] <+: (x.outcome (steady answers) history).2 := by
  induction x generalizing history with
  | done result => exact h.elim
  | raise => exact h.elim
  | question q' next ih =>
    rcases h with rfl | h
    · exact ⟨history, prefix_outcome (next (answers q')) _ _⟩
    · exact ih (answers q') h (history ++ [⟨q', answers q'⟩])

/-- Every exchange of the run has the answer of the environment. -/
theorem outcome_steady (x : Dialogue ι ρ α) {history : History ι ρ}
    (h : ∀ exchange ∈ history, exchange.2 = answers exchange.1) :
    ∀ exchange ∈ (x.outcome (steady answers) history).2, exchange.2 = answers exchange.1 := by
  induction x generalizing history with
  | done result => exact h
  | raise => exact h
  | question q next ih =>
    refine ih (answers q) (List.forall_mem_append.mpr ⟨h, ?_⟩)
    rintro _ (_ | ⟨_, ⟨⟩⟩)
    rfl

end Steady

end Framework.Dialogue
