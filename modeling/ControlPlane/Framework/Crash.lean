import ControlPlane.Framework.Guarded

/-!
# Programs that may crash

The questions of a `Dialogue`, put to a store. A `Service` says how the store may answer and what
it is behind the answer. A run may be cut short before every question, and what it has stored by
then stays stored.

* `Dialogue.Runs` are the runs, with their ends.
* `Dialogue.Survives` is the rule: `Post` holds of the store at a normal end, `Raise` where the
  program raises, and `Crash` wherever it may be cut short. `Survives.runs` reads it back.
* `fold` is the loop over a list with an accumulator, `survives_fold` its invariant rule.
* `Left` are the stores that any number of runs leave, whatever their ends, and `Left.invariant` is
  what all of them keep.
* `serve` is the run against a deterministic server, to be computed.
-/

namespace Framework.Dialogue

variable {σ ι : Type} {ρ : ι → Type} {α β : Type}

/-- The answers that a store may give, each with the store behind it. -/
abbrev Service (σ ι : Type) (ρ : ι → Type) : Type := σ → (q : ι) → ρ q → σ → Prop

variable {serves : Service σ ι ρ}

variable (serves) in
/-- The program, begun with the store `s`, may end so and leave `s'`. -/
def Runs (end_ : Outcome α) (s' : σ) : Dialogue ι ρ α → σ → Prop
  | done result, s => s' = s ∧ end_ = .returned result
  | raise, s => s' = s ∧ end_ = .raised
  | question q next, s =>
    (s' = s ∧ end_ = .cut) ∨ ∃ answer mid, serves s q answer mid ∧ (next answer).Runs end_ s' mid

variable (serves) in
/-- Whatever the store answers, `Post` holds at a normal end, `Raise` where the program raises, and
`Crash` wherever it may be cut short. -/
def Survives (Post : α → σ → Prop) (Raise Crash : σ → Prop) : Dialogue ι ρ α → σ → Prop
  | done result, s => Post result s
  | raise, s => Raise s
  | question q next, s =>
    Crash s ∧ ∀ answer s', serves s q answer s' → (next answer).Survives Post Raise Crash s'

variable {Post Post' : α → σ → Prop} {Raise Raise' Crash Crash' : σ → Prop} {s s' : σ}

/-- What the rule says of a run. -/
theorem Survives.runs {x : Dialogue ι ρ α} (h : x.Survives serves Post Raise Crash s)
    {end_ : Outcome α} (h_run : x.Runs serves end_ s' s) :
    (∀ result, end_ = .returned result → Post result s') ∧ (end_ = .raised → Raise s') ∧
      (end_ = .cut → Crash s') := by
  induction x generalizing s with
  | done result =>
    obtain ⟨rfl, rfl⟩ := h_run
    refine ⟨?_, nofun, nofun⟩
    rintro _ ⟨⟩
    exact h
  | raise =>
    obtain ⟨rfl, rfl⟩ := h_run
    exact ⟨nofun, fun _ => h, nofun⟩
  | question q next ih =>
    rcases h_run with ⟨rfl, rfl⟩ | ⟨answer, mid, h_serves, h_rest⟩
    · exact ⟨nofun, nofun, fun _ => h.1⟩
    · exact ih answer (h.2 answer mid h_serves) h_rest

/-- Weaker conditions are survived too. -/
theorem Survives.imp {x : Dialogue ι ρ α} (h : x.Survives serves Post Raise Crash s)
    (h_post : ∀ result s, Post result s → Post' result s) (h_raise : ∀ s, Raise s → Raise' s)
    (h_crash : ∀ s, Crash s → Crash' s) : x.Survives serves Post' Raise' Crash' s := by
  induction x generalizing s with
  | done result => exact h_post _ _ h
  | raise => exact h_raise _ h
  | question q next ih =>
    exact ⟨h_crash _ h.1, fun answer mid h_serves => ih answer (h.2 answer mid h_serves)⟩

/-- Two programs, one after the other. -/
theorem Survives.bind {Mid : α → σ → Prop} {Post : β → σ → Prop} {x : Dialogue ι ρ α}
    {f : α → Dialogue ι ρ β} (h_x : x.Survives serves Mid Raise Crash s)
    (h_f : ∀ result s, Mid result s → (f result).Survives serves Post Raise Crash s) :
    (x >>= f).Survives serves Post Raise Crash s := by
  induction x generalizing s with
  | done result => exact h_f result s h_x
  | raise => exact h_x
  | question q next ih =>
    exact ⟨h_x.1, fun answer mid h_serves => ih answer (h_x.2 answer mid h_serves)⟩

/-! ### Steps -/

/-- A result, without a question. -/
theorem survives_pure {result : α} (h : Post result s) :
    (pure result : Dialogue ι ρ α).Survives serves Post Raise Crash s := h

/-- A test, which raises where it fails. -/
theorem survives_check {test : Bool} {f : Unit → Dialogue ι ρ α}
    (h_raise : test = false → Raise s)
    (h_next : test = true → (f ()).Survives serves Post Raise Crash s) :
    (check test >>= f).Survives serves Post Raise Crash s := by
  cases test with
  | false => exact h_raise rfl
  | true => exact h_next rfl

/-- A value, which raises where there is none. -/
theorem survives_ofOption {value : Option β} {f : β → Dialogue ι ρ α}
    (h_raise : value = none → Raise s)
    (h_next : ∀ result, value = some result →
      (f result).Survives serves Post Raise Crash s) :
    (ofOption value >>= f).Survives serves Post Raise Crash s := by
  cases value with
  | none => exact h_raise rfl
  | some result => exact h_next result rfl

section Calls

variable {τ : ι → Type} {q : ι} {serves : Service σ ι (Replies τ)}

/-- A call: it may be the last one, it may fail, and it may be answered. -/
theorem survives_call {f : τ q → Dialogue ι (Replies τ) α} (h_crash : Crash s)
    (h_raise : ∀ s', serves s q none s' → Raise s')
    (h_next : ∀ reply s', serves s q (some reply) s' →
      (f reply).Survives serves Post Raise Crash s') :
    (call q >>= f).Survives serves Post Raise Crash s :=
  ⟨h_crash, fun
    | none => h_raise
    | some reply => h_next reply⟩

/-- The last call of a program. -/
theorem survives_lastCall {Post : τ q → σ → Prop} (h_crash : Crash s)
    (h_raise : ∀ s', serves s q none s' → Raise s')
    (h_post : ∀ reply s', serves s q (some reply) s' → Post reply s') :
    (call q).Survives serves Post Raise Crash s :=
  ⟨h_crash, fun
    | none => h_raise
    | some reply => h_post reply⟩

end Calls

/-! ### Loops -/

/-- `for item in items: result = body(result, item)` -/
def fold (body : β → α → Dialogue ι ρ β) : List α → β → Dialogue ι ρ β
  | [], result => pure result
  | item :: items, result => body result item >>= fold body items

/-- **The invariant rule of the loop**: `I` relates the turns that were made to the result so far
and the store. -/
theorem survives_fold {body : β → α → Dialogue ι ρ β} {I : List α → β → σ → Prop}
    {items : List α} {first : β} (h_init : I [] first s)
    (h_turn : ∀ made item rest result s, items = made ++ item :: rest → I made result s →
      (body result item).Survives serves (I (made ++ [item])) Raise Crash s) :
    (fold body items first).Survives serves (I items) Raise Crash s := by
  suffices h_rest : ∀ rest made result s, items = made ++ rest → I made result s →
      (fold body rest result).Survives serves (I items) Raise Crash s from
    h_rest items [] first s rfl h_init
  intro rest
  induction rest with
  | nil =>
    intro made result s h_items h_made
    rw [List.append_nil] at h_items
    exact h_items ▸ h_made
  | cons item rest ih =>
    intro made result s h_items h_made
    refine (h_turn made item rest result s h_items h_made).bind fun next s h_item => ?_
    exact ih (made ++ [item]) next s (by simp [h_items]) h_item

/-- The loop without a result, every turn of which keeps `I`. -/
theorem survives_each {body : α → Dialogue ι ρ Unit} {I : σ → Prop} {items : List α}
    (h_init : I s) (h_turn : ∀ item ∈ items, ∀ s, I s →
      (body item).Survives serves (fun _ => I) Raise Crash s) :
    (each body items).Survives serves (fun _ => I) Raise Crash s := by
  induction items generalizing s with
  | nil => exact h_init
  | cons item items ih =>
    refine (h_turn item List.mem_cons_self s h_init).bind fun _ s h_item => ?_
    exact ih h_item fun other h_other => h_turn other (List.mem_cons_of_mem item h_other)

/-! ### One run after another -/

variable (serves) in
/-- The stores that runs of the programs leave, whatever their ends. -/
inductive Left (init : σ → Prop) (Program : Dialogue ι ρ α → Prop) : σ → Prop
  | start {s : σ} (h : init s) : Left init Program s
  | run {s s' : σ} {x : Dialogue ι ρ α} {end_ : Outcome α} (h : Left init Program s)
    (h_program : Program x) (h_run : x.Runs serves end_ s' s) : Left init Program s'

/-- **What no run destroys**, wherever it is cut short. -/
theorem Left.invariant {init I : σ → Prop} {Program : Dialogue ι ρ α → Prop}
    (h_init : ∀ s, init s → I s)
    (h_run : ∀ x, Program x → ∀ s, I s → x.Survives serves (fun _ => I) I I s)
    (h : Left serves init Program s) : I s := by
  induction h with
  | start h => exact h_init _ h
  | @run s s' x end_ _ h_program h_runs ih =>
    obtain ⟨h_post, h_raise, h_crash⟩ := (h_run x h_program s ih).runs h_runs
    cases end_ with
    | returned result => exact h_post result rfl
    | raised => exact h_raise rfl
    | cut => exact h_crash rfl

/-! ### A server -/

/-- The run against a server, which cuts it short where it does not answer. -/
def serve (server : σ → (q : ι) → Option (ρ q × σ)) : Dialogue ι ρ α → σ → Outcome α × σ
  | done result, s => (.returned result, s)
  | raise, s => (.raised, s)
  | question q next, s =>
    match server s q with
    | none => (.cut, s)
    | some (answer, s') => (next answer).serve server s'

/-- What a server answers is a run. -/
theorem runs_serve {server : σ → (q : ι) → Option (ρ q × σ)}
    (h : ∀ s q answer s', server s q = some (answer, s') → serves s q answer s')
    (x : Dialogue ι ρ α) (s : σ) :
    x.Runs serves (x.serve server s).1 (x.serve server s).2 s := by
  induction x generalizing s with
  | done | raise => exact ⟨rfl, rfl⟩
  | question q next ih =>
    rw [serve]
    split
    next => exact .inl ⟨rfl, rfl⟩
    next answer s' h_server => exact .inr ⟨answer, s', h s q answer s' h_server, ih answer s'⟩

/-- A server that always answers cuts no run short. -/
theorem serve_ne_cut {server : σ → (q : ι) → Option (ρ q × σ)}
    (h : ∀ s q, server s q ≠ none) (x : Dialogue ι ρ α) (s : σ) :
    (x.serve server s).1 ≠ .cut := by
  induction x generalizing s with
  | done | raise => exact nofun
  | question q next ih =>
    rw [serve]
    split
    next h_server => exact absurd h_server (h s q)
    next answer s' _ => exact ih answer s'

end Framework.Dialogue
