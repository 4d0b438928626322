import ControlPlane.Framework.Guarded

/-!
# Programs inside programs

A larger program that runs a smaller one asks the questions of the smaller one as questions of its
own. `Embedding` says how, `lift` is the smaller program among the questions of the larger, and
`Guarded.lift` carries its rule over: what was proved of the program on its own holds of the
stretch that the lifted one adds.

`gather` is the loop that appends what each turn lists, with its rule. `Only` says that a program
asks no other questions than these, whatever is answered; it is closed under all constructions.
-/

namespace Framework

/-- The questions `ι` among the questions `κ`, with the same answers. -/
structure Embedding (ι : Type) (ρ : ι → Type) (κ : Type) (σ : κ → Type) where
  ask : ι → κ
  same : ∀ q, σ (ask q) = ρ q

namespace Embedding

variable {ι κ : Type} {ρ : ι → Type} {σ : κ → Type} (e : Embedding ι ρ κ σ)

/-- An exchange of the part, among those of the whole. -/
def exchange (x : Exchange ι ρ) : Exchange κ σ := ⟨e.ask x.1, cast (e.same x.1).symm x.2⟩

/-- The exchanges of the part, among those of the whole. -/
def history (h : History ι ρ) : History κ σ := h.map e.exchange

@[simp] theorem history_nil : e.history [] = [] := rfl

@[simp] theorem history_append (h h' : History ι ρ) :
    e.history (h ++ h') = e.history h ++ e.history h' := List.map_append

/-- The exchange with the answer that the larger program gets. -/
theorem exchange_cast (q : ι) (answer : σ (e.ask q)) :
    e.exchange ⟨q, cast (e.same q) answer⟩ = ⟨e.ask q, answer⟩ := by
  rw [exchange, cast_cast, cast_eq]

end Embedding

namespace Dialogue

variable {ι κ : Type} {ρ : ι → Type} {σ : κ → Type} {α β : Type}

/-- The program among the questions of a larger one. -/
def lift (e : Embedding ι ρ κ σ) : Dialogue ι ρ α → Dialogue κ σ α
  | done result => done result
  | raise => raise
  | question q next => question (e.ask q) fun answer => (next (cast (e.same q) answer)).lift e

/-- **The rule of the lifted program**, behind what it has asked before. -/
theorem Guarded.liftFrom {e : Embedding ι ρ κ σ} {Allowed : History ι ρ → ι → Prop}
    {Post : α → History ι ρ → Prop} {Raise : History ι ρ → Prop} {x : Dialogue ι ρ α}
    {history : History ι ρ} (h : x.Guarded Allowed Post Raise history) :
    (x.lift e).Guarded
      (fun before q => ∃ asked q', before = e.history asked ∧ q = e.ask q' ∧ Allowed asked q')
      (fun result stretch => ∃ asked, stretch = e.history asked ∧ Post result asked)
      (fun stretch => ∃ asked, stretch = e.history asked ∧ Raise asked) (e.history history) := by
  induction x generalizing history with
  | done result => exact ⟨history, rfl, h⟩
  | raise => exact ⟨history, rfl, h⟩
  | question q next ih =>
    refine ⟨⟨history, q, rfl, rfl, h.1⟩, fun answer => ?_⟩
    have h_next := ih (cast (e.same q) answer) (h.2 _)
    rw [e.history_append, show e.history [_] = [e.exchange _] from rfl, e.exchange_cast] at h_next
    exact h_next

/-- The rule of the lifted program. -/
theorem Guarded.lift {e : Embedding ι ρ κ σ} {Allowed : History ι ρ → ι → Prop}
    {Post : α → History ι ρ → Prop} {Raise : History ι ρ → Prop} {x : Dialogue ι ρ α}
    (h : x.Guarded Allowed Post Raise []) :
    (x.lift e).Guarded
      (fun before q => ∃ asked q', before = e.history asked ∧ q = e.ask q' ∧ Allowed asked q')
      (fun result stretch => ∃ asked, stretch = e.history asked ∧ Post result asked)
      (fun stretch => ∃ asked, stretch = e.history asked ∧ Raise asked) [] := h.liftFrom

/-! ### Listing -/

/-- `for item in items: rows.extend(body(item))` -/
def gather (body : α → Dialogue ι ρ (List β)) : List α → Dialogue ι ρ (List β)
  | [] => pure []
  | item :: items => do
    let first ← body item
    let rest ← gather body items
    pure (first ++ rest)

/-- What one turn has listed, and the stretch that it has added. -/
abbrev Turn (ι : Type) (ρ : ι → Type) (β : Type) : Type := List β × History ι ρ

/-- Each item has had its turn. -/
theorem exists_turn {P : α → Turn ι ρ β → Prop} {items : List α} {turns : List (Turn ι ρ β)}
    {item : α} (h : List.Forall₂ P items turns) (h_item : item ∈ items) :
    ∃ turn, P item turn ∧ turn.1 ⊆ (turns.map Prod.fst).flatten ∧
      turn.2 <:+: (turns.map Prod.snd).flatten := by
  induction h with
  | nil => exact absurd h_item List.not_mem_nil
  | cons h_turn _ ih =>
    rcases List.mem_cons.mp h_item with rfl | h_later
    · exact ⟨_, h_turn, List.subset_append_left _ _, (List.prefix_append _ _).isInfix⟩
    · obtain ⟨turn, h_turn', h_listed, h_stretch⟩ := ih h_later
      exact ⟨turn, h_turn', List.Subset.trans h_listed (List.subset_append_right _ _),
        h_stretch.trans (List.suffix_append _ _).isInfix⟩

/-- **The rule of the listing**: it ends with what its turns have listed, each on its
own stretch. -/
theorem guarded_gather {Allowed : History ι ρ → ι → Prop} {Raise : History ι ρ → Prop}
    {Post : α → List β → History ι ρ → Prop} {body : α → Dialogue ι ρ (List β)} {items : List α}
    (h_turn : ∀ item ∈ items, (body item).Guarded Allowed (Post item) Raise [])
    (h_allowed : ∀ history stretch q, Allowed stretch q → Allowed (history ++ stretch) q)
    (h_raise : ∀ history stretch, Raise stretch → Raise (history ++ stretch)) :
    (gather body items).Guarded Allowed
      (fun listed stretch => ∃ turns : List (Turn ι ρ β), listed = (turns.map Prod.fst).flatten ∧
        stretch = (turns.map Prod.snd).flatten ∧
        List.Forall₂ (fun item turn => Post item turn.1 turn.2) items turns)
      Raise [] := by
  induction items with
  | nil => exact guarded_pure ⟨[], rfl, rfl, .nil⟩
  | cons item items ih =>
    refine (h_turn item List.mem_cons_self).bind fun first stretch h_first => ?_
    refine (ih fun other h_other => h_turn other (List.mem_cons_of_mem item h_other)).andThen
      (h_allowed stretch) (h_raise stretch) ?_
    rintro _ _ ⟨turns, rfl, rfl, h_turns⟩
    exact guarded_pure ⟨(first, stretch) :: turns, rfl, rfl, .cons h_first h_turns⟩

/-! ### Questions of one sort -/

/-- What is asked in a run is allowed. -/
theorem Guarded.asked {P : ι → Prop} {Post : α → History ι ρ → Prop} {Raise : History ι ρ → Prop}
    {x : Dialogue ι ρ α} (h : x.Guarded (fun _ q => P q) Post Raise []) (env : Environment ι ρ) :
    ∀ exchange ∈ (x.outcome env []).2, P exchange.1 := by
  intro exchange h_mem
  obtain ⟨before, later, h_history⟩ := List.append_of_mem h_mem
  obtain ⟨-, h_allowed, -⟩ := h.outcome env (Prod.eta _).symm
  refine h_allowed before exchange List.nil_prefix ?_
  rw [h_history]
  exact ⟨later, by rw [List.append_assoc, List.singleton_append]⟩

/-- The program asks no other questions, whatever is answered. -/
abbrev Only (P : ι → Prop) (x : Dialogue ι ρ α) : Prop :=
  x.Guarded (fun _ q => P q) (fun _ _ => True) (fun _ => True) []

section Only

variable {P P' : ι → Prop} {x : Dialogue ι ρ α}

/-- A result, without a question. -/
theorem only_pure (result : α) : Only P (pure result : Dialogue ι ρ α) := guarded_pure trivial

/-- Raising, without a question. -/
theorem only_raise : Only P (raise : Dialogue ι ρ α) := guarded_raise trivial

/-- A test asks nothing. -/
theorem only_check (test : Bool) : Only P (check test : Dialogue ι ρ Unit) :=
  guarded_lastCheck trivial fun _ => trivial

/-- Behind any history, where these questions are allowed. -/
theorem Only.behind {Allowed : History ι ρ → ι → Prop} {history : History ι ρ} (h : Only P x)
    (h_allowed : ∀ stretch q, P q → Allowed (history ++ stretch) q) :
    x.Guarded Allowed (fun _ _ => True) (fun _ => True) history :=
  Guarded.after h h_allowed (fun _ _ _ => trivial) fun _ _ => trivial

/-- A value asks nothing. -/
theorem only_ofOption (value : Option α) : Only P (ofOption value : Dialogue ι ρ α) := by
  cases value with
  | none => exact only_raise
  | some result => exact only_pure result

/-- Two programs, one after the other. -/
theorem Only.bind {f : α → Dialogue ι ρ β} (h_x : Only P x) (h_f : ∀ result, Only P (f result)) :
    Only P (x >>= f) :=
  h_x.andThen (fun _ _ h => h) (fun _ _ => trivial) fun result _ _ =>
    (h_f result).after (fun _ _ h => h) (fun _ _ _ => trivial) fun _ _ => trivial

/-- A test between two programs. -/
theorem only_ite {test : Prop} [Decidable test] {y : Dialogue ι ρ α} (h_x : test → Only P x)
    (h_y : ¬ test → Only P y) : Only P (if test then x else y) := by
  split
  next h => exact h_x h
  next h => exact h_y h

/-- One call. -/
theorem only_call {τ : ι → Type} {q : ι} (h : P q) : Only P (call (τ := τ) q) :=
  guarded_lastCall h trivial fun _ => trivial

/-- A loop. -/
theorem only_each {body : β → Dialogue ι ρ Unit} {items : List β}
    (h : ∀ item ∈ items, Only P (body item)) : Only P (each body items) := by
  induction items with
  | nil => exact only_pure ()
  | cons item items ih =>
    refine (h item List.mem_cons_self).bind fun _ => ?_
    exact ih fun other h_other => h other (List.mem_cons_of_mem item h_other)

/-- A program whose failure is caught asks no more. -/
theorem Only.caught (h : Only P x) : Only P x.caught := by
  have h_caught : x.caught.Guarded (fun _ q => P q) _ (fun _ => True) [] := Guarded.caught h
  exact h_caught.imp (fun _ _ h => h) (fun _ _ _ => trivial) fun _ h => h

/-- A program with a handler asks what both ask. -/
theorem Only.rescue {handler : Dialogue ι ρ α} (h : Only P x) (h_handler : Only P handler) :
    Only P (x.rescue handler) := by
  refine h.caught.bind fun result => ?_
  cases result with
  | none => exact h_handler
  | some result => exact only_pure result

end Only

end Dialogue
end Framework
