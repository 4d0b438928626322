import ControlPlane.Framework.Hierarchy

/-!
# What concurrent transactions promise each other

A rely–guarantee rule for the scripts of an `Engine`. The state has parts: one for every
resource, which belongs to whoever has it locked, and one for every value of the sequence,
which belongs to whoever has drawn it. A `Contract` says what it means that a part stays as
it is, what holds of every part always, and which invariant every commit keeps.

* A transaction *relies* on the others to keep the parts that are its own, and *guarantees*
  with its commit to keep those that are not (`Relies`, `Guarantees`).
* `Script.Safe` follows a script through its statements. What it has read under a lock is
  still there when it commits, up to what the others may change; its commit has to keep the
  guarantee. A `Spec` adds what the script may ask for, what its commit may assume and what
  its answer has to be.
* `Engine.Honors` says of every open transaction that it is safe from where it is.
  `Honors.statement` is the step lemma: the statements of one client keep what the others
  rely on. A commit is then known to keep the guarantee (`Honors.commit`).

Who owns which values is kept beside the engine and never forgotten, so that a client may
carry a value from one transaction to the next.
-/

namespace Framework

/-- A sequence of numbers. -/
class Counter (σ : Type) extends Sequence σ where
  value : σ → ℕ
  value_advance : ∀ s, value (advance s) = value s + 1

/-- The parts of the state. -/
inductive Part (ρ : Type)
  /-- What everybody keeps. -/
  | always
  | locked (resource : ρ)
  | drawn (value : ℕ)

namespace Part

variable {ρ : Type}

/-- The part belongs to a transaction with these locks and values. -/
def Within (held : List (ρ × LockMode)) (own : List ℕ) : Part ρ → Prop
  | always => True
  | locked resource => ∃ mode, (resource, mode) ∈ held
  | drawn value => value ∈ own

/-- A transaction with these locks and values has to keep the part. -/
def Beyond (held : List (ρ × LockMode)) (own : List ℕ) : Part ρ → Prop
  | always => True
  | locked resource => (resource, .exclusive) ∉ held
  | drawn value => value ∉ own

end Part

/-- What all transactions keep: an invariant, and what a reader may rely on in each of its parts. -/
structure Contract (σ ρ : Type) [Counter σ] where
  Inv : σ → Prop
  Keeps : Part ρ → σ → σ → Prop
  refl : ∀ part s, Keeps part s s
  trans : ∀ part s₁ s₂ s₃, Keeps part s₁ s₂ → Keeps part s₂ s₃ → Keeps part s₁ s₃
  value_le : ∀ s s', Keeps .always s s' → Counter.value s ≤ Counter.value s'
  advance : ∀ s, Inv s → Inv (Sequence.advance s) ∧ ∀ part, Keeps part s (Sequence.advance s)

namespace Contract

variable {σ ρ : Type} [Counter σ] (C : Contract σ ρ)

/-- What the others do to a transaction with these locks and values. -/
structure Relies (held : List (ρ × LockMode)) (own : List ℕ) (s s' : σ) : Prop where
  inv : C.Inv s'
  keeps : ∀ part, part.Within held own → C.Keeps part s s'

/-- What a transaction with these locks and values may do to the others. -/
structure Guarantees (held : List (ρ × LockMode)) (own : List ℕ) (s s' : σ) : Prop where
  inv : C.Inv s'
  keeps : ∀ part, part.Beyond held own → C.Keeps part s s'

variable {C} {held held' : List (ρ × LockMode)} {own own' : List ℕ} {s s₁ s₂ s₃ : σ}

/-- Nothing has changed. -/
theorem Relies.refl (h : C.Inv s) : C.Relies held own s s := ⟨h, fun part _ => C.refl part s⟩

/-- Two changes. -/
theorem Relies.trans (h₁ : C.Relies held own s₁ s₂) (h₂ : C.Relies held own s₂ s₃) :
    C.Relies held own s₁ s₃ :=
  ⟨h₂.inv, fun part h => C.trans part _ _ _ (h₁.keeps part h) (h₂.keeps part h)⟩

/-- Who holds less relies on less. -/
theorem Relies.mono (h : C.Relies held own s₁ s₂) (h_held : held' ⊆ held) (h_own : own' ⊆ own) :
    C.Relies held' own' s₁ s₂ where
  inv := h.inv
  keeps part h_part := by
    refine h.keeps part ?_
    cases part with
    | always => trivial
    | locked resource =>
      obtain ⟨mode, h_mem⟩ := h_part
      exact ⟨mode, h_held h_mem⟩
    | drawn value => exact h_own h_part

/-- What nobody ever changes. -/
theorem Relies.always (h : C.Relies held own s₁ s₂) : C.Keeps .always s₁ s₂ :=
  h.keeps .always trivial

/-- What nobody else changes under the lock. -/
theorem Relies.locked (h : C.Relies held own s₁ s₂) {resource : ρ} {mode : LockMode}
    (h_held : (resource, mode) ∈ held) : C.Keeps (.locked resource) s₁ s₂ :=
  h.keeps (.locked resource) ⟨mode, h_held⟩

/-- What nobody else knows. -/
theorem Relies.drawn (h : C.Relies held own s₁ s₂) {value : ℕ} (h_own : value ∈ own) :
    C.Keeps (.drawn value) s₁ s₂ := h.keeps (.drawn value) h_own

variable (C) in
/-- A transaction has gone on: it holds what it held, and the others have kept that. -/
structure Since (own : List ℕ) (held : List (ρ × LockMode)) (s : σ)
    (held' : List (ρ × LockMode)) (s' : σ) : Prop where
  holds : held ⊆ held'
  relies : C.Relies held own s s'

/-- What is relied on since now. -/
theorem Relies.since (h : C.Relies held own s₁ s₂) : C.Since own held s₁ held s₂ :=
  ⟨List.Subset.refl _, h⟩

/-- Since an earlier time. -/
theorem Since.trans {held₁ held₂ held₃ : List (ρ × LockMode)} (h₁ : C.Since own held₁ s₁ held₂ s₂)
    (h₂ : C.Since own held₂ s₂ held₃ s₃) : C.Since own held₁ s₁ held₃ s₃ :=
  ⟨List.Subset.trans h₁.holds h₂.holds,
    h₁.relies.trans (h₂.relies.mono h₁.holds (List.Subset.refl _))⟩

/-- One more lock. -/
theorem Since.lock (h : C.Since own held s₁ held' s₂) (entry : ρ × LockMode) :
    C.Since own held s₁ (entry :: held') s₂ := ⟨List.subset_cons_of_subset _ h.holds, h.relies⟩

/-- **What one guarantees, another relies on**, when no lock of the one is in the way of the
other's and no value is of both. -/
theorem Guarantees.relies (h : C.Guarantees held own s₁ s₂)
    (h_held : ∀ resource mode, (resource, mode) ∈ held' → (resource, .exclusive) ∉ held)
    (h_own : ∀ value ∈ own', value ∉ own) : C.Relies held' own' s₁ s₂ where
  inv := h.inv
  keeps part h_part := by
    refine h.keeps part ?_
    cases part with
    | always => trivial
    | locked resource =>
      obtain ⟨mode, h_mem⟩ := h_part
      exact h_held resource mode h_mem
    | drawn value => exact h_own value h_part

/-- A change that keeps every part. -/
theorem Guarantees.of_keeps (h_inv : C.Inv s₂) (h : ∀ part, C.Keeps part s₁ s₂) :
    C.Guarantees held own s₁ s₂ := ⟨h_inv, fun part _ => h part⟩

end Contract

/-- What is said of one transaction besides. -/
structure Spec (σ ρ β : Type) where
  /-- The lock it may ask for, in the state committed, with what it holds and has drawn. -/
  Ask : σ → List (ρ × LockMode) → List ℕ → ρ → LockMode → Prop
  /-- What its commit may assume of the state. -/
  Given : σ → (σ → σ) → β → Prop
  /-- What it may answer. -/
  Post : List ℕ → β → Prop

namespace Spec

variable {σ ρ β : Type}

/-- Nothing is said. -/
def any : Spec σ ρ β := ⟨fun _ _ _ _ _ => True, fun _ _ _ => True, fun _ _ => True⟩

/-- The same of answers that are renamed. -/
def comap {β' : Type} (f : β → β') (spec : Spec σ ρ β') : Spec σ ρ β where
  Ask := spec.Ask
  Given s pending answer := spec.Given s pending (f answer)
  Post own answer := spec.Post own (f answer)

end Spec

/-! ### Scripts -/

namespace Script

variable {σ ρ β : Type} [Counter σ] (C : Contract σ ρ) (spec : Spec σ ρ β)

/-- From the locks `held`, the values `own`, the state `s₀` read last and the writes `pending`
on, the script keeps the contract whatever the others do within theirs. -/
def Safe : Script σ ρ β → List (ρ × LockMode) → List ℕ → σ → (σ → σ) → Prop
  | commit answer, held, own, s₀, pending => spec.Post own answer ∧ ∀ s,
    C.Relies held own s₀ s → spec.Given s pending answer → C.Guarantees held own s (pending s)
  | rollback _, _, _, _, _ => True
  | select lock next, held, own, s₀, pending => ∀ s, C.Relies held own s₀ s →
    match lock (pending s) with
    | none => (next (pending s)).Safe held own s pending
    | some (resource, mode) => spec.Ask s held own resource mode ∧
        (next (pending s)).Safe ((resource, mode) :: held) own s pending
  | draw next, held, own, s₀, pending => ∀ s, C.Relies held own s₀ s →
    (next s).Safe held (Counter.value s :: own) (Sequence.advance s) pending
  | write effect next, held, own, s₀, pending => next.Safe held own s₀ (effect ∘ pending)

variable {C spec}

/-- The answers may be read in another way. -/
theorem Safe.map {β' : Type} {f : β → β'} {spec : Spec σ ρ β'} {script : Script σ ρ β}
    {held : List (ρ × LockMode)} {own : List ℕ} {s₀ : σ} {pending : σ → σ}
    (h : script.Safe C (spec.comap f) held own s₀ pending) :
    (script.map f).Safe C spec held own s₀ pending := by
  induction script generalizing held own s₀ pending with
  | commit answer => exact h
  | rollback answer => trivial
  | select lock next ih =>
    intro s h_s
    have h_next := h s h_s
    split at h_next
    · exact ih _ h_next
    · exact ⟨h_next.1, ih _ h_next.2⟩
  | draw next ih => exact fun s h_s => ih _ (h s h_s)
  | write effect next ih => exact ih h

/-- A statement that may find nothing to lock. -/
theorem Safe.select {lock : σ → Option (ρ × LockMode)} {next : σ → Script σ ρ β}
    {held : List (ρ × LockMode)} {own : List ℕ} {s₀ : σ} {pending : σ → σ}
    (h : ∀ s, C.Relies held own s₀ s →
      (∀ resource mode, lock (pending s) = some (resource, mode) →
        spec.Ask s held own resource mode) ∧
      ∀ held', held ⊆ held' → (∀ entry ∈ held', entry ∈ held ∨ lock (pending s) = some entry) →
        (next (pending s)).Safe C spec held' own s pending) :
    (Script.select lock next).Safe C spec held own s₀ pending := by
  intro s h_s
  obtain ⟨h_ask, h_next⟩ := h s h_s
  split
  · exact h_next held (List.Subset.refl _) fun _ h_entry => .inl h_entry
  · rename_i resource mode h_lock
    refine ⟨h_ask resource mode h_lock, h_next _ (List.subset_cons_self ..) fun entry h_entry => ?_⟩
    rcases List.mem_cons.mp h_entry with rfl | h_entry
    · exact .inr h_lock
    · exact .inl h_entry

/-- A test between two scripts. -/
theorem Safe.ite {c : Prop} [Decidable c] {yes no : Script σ ρ β} {held : List (ρ × LockMode)}
    {own : List ℕ} {s₀ : σ} {pending : σ → σ} (h_yes : c → yes.Safe C spec held own s₀ pending)
    (h_no : ¬ c → no.Safe C spec held own s₀ pending) :
    (if c then yes else no).Safe C spec held own s₀ pending := by
  split
  · exact h_yes ‹c›
  · exact h_no ‹¬ c›

/-- A script is safe when no sequence of its writes can do anything to the others. -/
theorem Writes.safe {Ok : (σ → σ) → Prop} {script : Script σ ρ β} (h : script.Writes Ok)
    (h_comp : ∀ f g, Ok f → Ok g → Ok (f ∘ g))
    (h_ok : ∀ f, Ok f → ∀ held own s, C.Inv s → C.Guarantees held own s (f s))
    (h_ask : ∀ s held own resource mode, spec.Ask s held own resource mode)
    (h_post : ∀ own answer, spec.Post own answer) {held : List (ρ × LockMode)} {own : List ℕ}
    {s₀ : σ} {pending : σ → σ} (h_pending : Ok pending) :
    script.Safe C spec held own s₀ pending := by
  induction script generalizing held own s₀ pending with
  | commit answer =>
    exact ⟨h_post own answer, fun s h_s _ => h_ok pending h_pending held own s h_s.inv⟩
  | rollback answer => trivial
  | select lock next ih =>
    intro s _
    split
    · exact ih _ (h _) h_pending
    · exact ⟨h_ask .., ih _ (h _) h_pending⟩
  | draw next ih => exact fun s _ => ih _ (h _) h_pending
  | write effect next ih => exact ih h.2 (h_comp _ _ h.1 h_pending)

end Script

/-! ### The engine -/

namespace Engine

variable {σ ρ ω β : Type} [DecidableEq ω] [Counter σ]

/-- Every open transaction keeps the contract from where it is. `own` tells who has drawn
which values. -/
structure Honors (C : Contract σ ρ) (spec : ω → Spec σ ρ β) (own : ω → List ℕ)
    (e : Engine σ ρ ω β) : Prop where
  inv : C.Inv e.state
  owners : ∀ hold ∈ e.locks.holds, (e.running hold.owner).isSome
  bounded : ∀ o, ∀ v ∈ own o, v < Counter.value e.state
  disjoint : ∀ o o' v, v ∈ own o → v ∈ own o' → o = o'
  scripts : ∀ o running, e.running o = some running → ∃ s,
    C.Relies (e.locks.heldBy o) (own o) s e.state ∧
      running.script.Safe C (spec o) (e.locks.heldBy o) (own o) s running.pending
  /-- What is held was asked for. -/
  asked : ∀ hold ∈ e.locks.holds, ∃ s held own', C.Relies held own' s e.state ∧
    held ⊆ e.locks.heldBy hold.owner ∧ own' ⊆ own hold.owner ∧
      (spec hold.owner).Ask s held own' hold.resource hold.mode

variable {C : Contract σ ρ} {spec : ω → Spec σ ρ β} {own : ω → List ℕ} {e : Engine σ ρ ω β}

/-- Nothing runs. -/
theorem initial_honors {s : σ} (h : C.Inv s) :
    (initial s : Engine σ ρ ω β).Honors C spec fun _ => [] where
  inv := h
  owners _ h_hold := by cases h_hold
  bounded _ _ h_v := by cases h_v
  disjoint _ _ _ h_v := by cases h_v
  scripts _ _ h_running := by cases h_running
  asked _ h_hold := by cases h_hold

/-- A change that keeps every part of the others: one client goes on with `running`, or has
no transaction any more. -/
theorem Honors.update {e' : Engine σ ρ ω β} {own' : ω → List ℕ} {spec' : ω → Spec σ ρ β}
    (h : e.Honors C spec own) (o : ω) (h_inv : C.Inv e'.state)
    (h_spec : ∀ o', o' ≠ o → spec' o' = spec o')
    (h_running : ∀ o', o' ≠ o → e'.running o' = e.running o')
    (h_holds : ∀ hold ∈ e'.locks.holds, hold.owner ≠ o → hold ∈ e.locks.holds)
    (h_held : ∀ o', o' ≠ o → e'.locks.heldBy o' = e.locks.heldBy o')
    (h_own : ∀ o', o' ≠ o → own' o' = own o')
    (h_bounded : ∀ o, ∀ v ∈ own' o, v < Counter.value e'.state)
    (h_disjoint : ∀ o o' v, v ∈ own' o → v ∈ own' o' → o = o')
    (h_others : ∀ o', o' ≠ o → C.Relies (e.locks.heldBy o') (own o') e.state e'.state)
    (h_owner : ∀ hold ∈ e'.locks.holds, hold.owner = o → (e'.running o).isSome)
    (h_script : ∀ running, e'.running o = some running → ∃ s,
      C.Relies (e'.locks.heldBy o) (own' o) s e'.state ∧
        running.script.Safe C (spec' o) (e'.locks.heldBy o) (own' o) s running.pending)
    (h_asked : ∀ hold ∈ e'.locks.holds, hold.owner = o → ∃ s held own₁,
      C.Relies held own₁ s e'.state ∧ held ⊆ e'.locks.heldBy hold.owner ∧
        own₁ ⊆ own' hold.owner ∧ (spec' hold.owner).Ask s held own₁ hold.resource hold.mode) :
    e'.Honors C spec' own' where
  inv := h_inv
  owners hold h_hold := by
    by_cases h_eq : hold.owner = o
    · rw [h_eq]
      exact h_owner hold h_hold h_eq
    · rw [h_running _ h_eq]
      exact h.owners hold (h_holds hold h_hold h_eq)
  bounded := h_bounded
  disjoint := h_disjoint
  scripts o' running h_some := by
    by_cases h_eq : o' = o
    · subst h_eq
      exact h_script running h_some
    · rw [h_running o' h_eq] at h_some
      obtain ⟨s, h_relies, h_safe⟩ := h.scripts o' running h_some
      -- the others are where they were, up to what they let the client do
      rw [h_held o' h_eq, h_own o' h_eq, h_spec o' h_eq]
      exact ⟨s, h_relies.trans (h_others o' h_eq), h_safe⟩
  asked hold h_hold := by
    by_cases h_eq : hold.owner = o
    · exact h_asked hold h_hold h_eq
    · obtain ⟨s, held, own₁, h_relies, h_sub, h_sub', h_ask⟩ :=
        h.asked hold (h_holds hold h_hold h_eq)
      rw [h_held _ h_eq, h_own _ h_eq, h_spec _ h_eq]
      exact ⟨s, held, own₁, h_relies.trans ((h_others _ h_eq).mono h_sub h_sub'), h_sub, h_sub',
        h_ask⟩

/-- The client that has no transaction open holds nothing. -/
theorem Honors.idle (h : e.Honors C spec own) {o : ω} (h_idle : e.running o = none) :
    ∀ hold ∈ e.locks.holds, hold.owner ≠ o := by
  intro hold h_hold h_owner
  have h_some := h.owners hold h_hold
  rw [h_owner, h_idle] at h_some
  cases h_some

/-- What a client with these locks and values guarantees, every other one relies on. -/
theorem Honors.relies (h : e.Honors C spec own) {o o' : ω} (h_ne : o' ≠ o) {s : σ}
    (h_guarantees : C.Guarantees (e.locks.heldBy o) (own o) e.state s) :
    C.Relies (e.locks.heldBy o') (own o') e.state s := by
  refine h_guarantees.relies (fun resource mode h_held h_exclusive => ?_) fun v h_v h_v' => ?_
  · exact h_ne (LockTable.owner_eq_of_exclusive (LockTable.mem_heldBy.mp h_exclusive)
      (LockTable.mem_heldBy.mp h_held))
  · exact h_ne (h.disjoint o' o v h_v h_v')

/-- The state changes by what nobody has locked or drawn. -/
theorem Honors.change (h : e.Honors C spec own) {s : σ}
    (h_change : C.Guarantees [] [] e.state s) :
    ({ e with state := s } : Engine σ ρ ω β).Honors C spec own where
  inv := h_change.inv
  owners := h.owners
  bounded o v h_v :=
    (h.bounded o v h_v).trans_le (C.value_le _ _ (h_change.keeps .always trivial))
  disjoint := h.disjoint
  scripts o running h_some := by
    obtain ⟨s₁, h_relies, h_safe⟩ := h.scripts o running h_some
    exact ⟨s₁, h_relies.trans (h_change.relies (fun _ _ _ => List.not_mem_nil)
      fun _ _ => List.not_mem_nil), h_safe⟩
  asked hold h_hold := by
    obtain ⟨s₁, held, own₁, h_relies, h_sub, h_sub', h_ask⟩ := h.asked hold h_hold
    exact ⟨s₁, held, own₁, h_relies.trans (h_change.relies (fun _ _ _ => List.not_mem_nil)
      fun _ _ => List.not_mem_nil), h_sub, h_sub', h_ask⟩

/-- What is said of a client that has no transaction open is free. -/
theorem Honors.respec {spec' : ω → Spec σ ρ β} (h : e.Honors C spec own) {o : ω}
    (h_idle : e.running o = none) (h_spec : ∀ o', o' ≠ o → spec' o' = spec o') :
    e.Honors C spec' own := by
  refine h.update o h.inv h_spec (fun _ _ => rfl) (fun _ h_hold _ => h_hold) (fun _ _ => rfl)
    (fun _ _ => rfl) h.bounded h.disjoint (fun _ _ => .refl h.inv)
    (fun hold h_hold h_eq => absurd h_eq (h.idle h_idle hold h_hold)) (fun running h_running => ?_)
    fun hold h_hold h_eq => absurd h_eq (h.idle h_idle hold h_hold)
  cases h_idle.symm.trans h_running

/-- A transaction starts under a specification of its own. -/
theorem Honors.start {spec' : ω → Spec σ ρ β} (h : e.Honors C spec own) {o : ω}
    {script : Script σ ρ β} (h_idle : e.running o = none)
    (h_spec : ∀ o', o' ≠ o → spec' o' = spec o')
    (h_script : script.Safe C (spec' o) [] (own o) e.state id) :
    (e.start o script).Honors C spec' own := by
  have h_none : e.locks.heldBy o = [] := LockTable.heldBy_eq_nil (h.idle h_idle)
  rw [start_idle h_idle]
  refine h.update o h.inv h_spec (fun o' h_ne => goOn_of_ne e _ h_ne)
    (fun _ h_hold _ => h_hold) (fun _ _ => rfl) (fun _ _ => rfl) h.bounded h.disjoint
    (fun _ _ => .refl h.inv) (fun hold h_hold h_eq => absurd h_eq (h.idle h_idle hold h_hold))
    (fun running h_running => ?_) fun hold h_hold h_eq => absurd h_eq (h.idle h_idle hold h_hold)
  rw [goOn_self] at h_running
  obtain rfl := Option.some.inj h_running
  refine ⟨e.state, .refl h.inv, ?_⟩
  change script.Safe C (spec' o) (e.locks.heldBy o) (own o) e.state id
  rw [h_none]
  exact h_script

/-- A client that is at a transaction starts no other. -/
theorem Honors.start_any (h : e.Honors C spec own) {o : ω} {script : Script σ ρ β}
    (h_script : script.Safe C (spec o) [] (own o) e.state id) :
    (e.start o script).Honors C spec own := by
  cases h_running : e.running o with
  | none => exact h.start h_running (fun _ _ => rfl) h_script
  | some running =>
    rw [start_busy h_running]
    exact h

/-- The end of a transaction, which may change the state as it has promised. -/
theorem Honors.close (h : e.Honors C spec own) (o : ω) {s : σ}
    (h_guarantees : C.Guarantees (e.locks.heldBy o) (own o) e.state s) :
    ({ e.close o with state := s } : Engine σ ρ ω β).Honors C spec own := by
  have h_always : C.Keeps .always e.state s := h_guarantees.keeps .always trivial
  refine h.update o h_guarantees.inv (fun _ _ => rfl)
    (fun o' h_ne => close_of_ne e h_ne) (fun hold h_hold _ => (LockTable.mem_release.mp h_hold).1)
    (fun o' h_ne => e.locks.heldBy_release_of_ne h_ne) (fun _ _ => rfl)
    (fun o' v h_v => (h.bounded o' v h_v).trans_le (C.value_le _ _ h_always)) h.disjoint
    (fun o' h_ne => h.relies h_ne h_guarantees)
    (fun hold h_hold h_eq => absurd h_eq (LockTable.mem_release.mp h_hold).2)
    (fun running h_running => ?_)
    fun hold h_hold h_eq => absurd h_eq (LockTable.mem_release.mp h_hold).2
  cases (close_self e o).symm.trans h_running

/-- A transaction is lost. -/
theorem Honors.abort (h : e.Honors C spec own) (o : ω) : (e.abort o).Honors C spec own :=
  h.close o (.of_keeps h.inv fun part => C.refl part e.state)

/-- **Every commit keeps its promise**, and answers as it should. -/
theorem Honors.commit (h : e.Honors C spec own) {o : ω} {answer : β} {pending : σ → σ}
    (h_running : e.running o = some ⟨.commit answer, pending⟩) :
    (spec o).Post (own o) answer ∧ ((spec o).Given e.state pending answer →
      C.Guarantees (e.locks.heldBy o) (own o) e.state (pending e.state)) := by
  obtain ⟨s, h_relies, h_post, h_safe⟩ := h.scripts o _ h_running
  exact ⟨h_post, h_safe e.state h_relies⟩

/-- A client goes on, and nothing else changes. -/
theorem Honors.goOn (h : e.Honors C spec own) {o : ω} {running : Running σ ρ β}
    (h_script : ∃ s, C.Relies (e.locks.heldBy o) (own o) s e.state ∧
      running.script.Safe C (spec o) (e.locks.heldBy o) (own o) s running.pending) :
    (e.goOn o running).Honors C spec own := by
  refine h.update o h.inv (fun _ _ => rfl) (fun o' h_ne => goOn_of_ne e _ h_ne)
    (fun _ h_hold _ => h_hold) (fun _ _ => rfl) (fun _ _ => rfl) h.bounded h.disjoint
    (fun _ _ => .refl h.inv) (fun _ _ _ => ?_) (fun next h_some => ?_)
    fun hold h_hold _ => h.asked hold h_hold
  · rw [goOn_self]
    rfl
  · rw [goOn_self] at h_some
    obtain rfl := Option.some.inj h_some
    exact h_script

/-- A client goes on with a lock it may ask for. -/
theorem Honors.grant (h : e.Honors C spec own) {o : ω} {resource : ρ} {mode : LockMode}
    (h_grants : e.locks.Grants ⟨o, resource, mode⟩) {running : Running σ ρ β}
    (h_ask : (spec o).Ask e.state (e.locks.heldBy o) (own o) resource mode)
    (h_script : running.script.Safe C (spec o) ((resource, mode) :: e.locks.heldBy o) (own o)
      e.state running.pending) :
    ({ e with locks := e.locks.grant _ h_grants }.goOn o running).Honors C spec own := by
  refine h.update o h.inv (fun _ _ => rfl) (fun o' h_ne => goOn_of_ne _ _ h_ne)
    (fun hold h_hold h_ne => ?_) (fun o' h_ne => LockTable.heldBy_grant_of_ne h_grants h_ne)
    (fun _ _ => rfl) h.bounded h.disjoint (fun _ _ => .refl h.inv) (fun _ _ _ => ?_)
    (fun next h_some => ?_) fun hold h_hold h_eq => ?_
  -- another party holds what it held before
  · rcases (LockTable.mem_grant h_grants).mp h_hold with rfl | h_hold
    · exact absurd rfl h_ne
    · exact h_hold
  · rw [goOn_self]
    rfl
  · rw [goOn_self] at h_some
    obtain rfl := Option.some.inj h_some
    refine ⟨e.state, .refl h.inv, ?_⟩
    change Script.Safe C (spec o) _ ((e.locks.grant _ h_grants).heldBy o) (own o) e.state _
    rw [LockTable.heldBy_grant_self]
    exact h_script
  · change ∃ s held own₁, C.Relies held own₁ s e.state ∧
      held ⊆ (e.locks.grant _ h_grants).heldBy hold.owner ∧ _
    rw [h_eq, LockTable.heldBy_grant_self]
    rcases (LockTable.mem_grant h_grants).mp h_hold with rfl | h_hold
    · exact ⟨e.state, _, own o, .refl h.inv, List.subset_cons_self .., List.Subset.refl _, h_ask⟩
    · obtain ⟨s₁, held, own₁, h_relies, h_sub, h_asked⟩ := h.asked hold h_hold
      rw [h_eq] at h_sub h_asked
      exact ⟨s₁, held, own₁, h_relies, List.subset_cons_of_subset _ h_sub, h_asked⟩

/-- The values drawn, after one more is drawn from the state. -/
def drawn (own : ω → List ℕ) (e : Engine σ ρ ω β) (o : ω) : ω → List ℕ :=
  Function.update own o (Counter.value e.state :: own o)

/-- The client owns what it has drawn. -/
theorem drawn_self (o : ω) : drawn own e o o = Counter.value e.state :: own o :=
  Function.update_self ..

/-- Another client owns what it owned. -/
theorem drawn_of_ne {o o' : ω} (h : o' ≠ o) : drawn own e o o' = own o' :=
  Function.update_of_ne h ..

/-- What is owned was owned, or is the number drawn. -/
theorem mem_drawn {o o' : ω} {v : ℕ} :
    v ∈ drawn own e o o' ↔ v ∈ own o' ∨ (o' = o ∧ v = Counter.value e.state) := by
  by_cases h_eq : o' = o
  · subst h_eq
    rw [drawn_self, List.mem_cons]
    simp [or_comm]
  · rw [drawn_of_ne h_eq]
    simp [h_eq]

/-- A client goes on with a value nobody has drawn. -/
theorem Honors.draw (h : e.Honors C spec own) {o : ω} {running : Running σ ρ β}
    (h_script : running.script.Safe C (spec o) (e.locks.heldBy o)
      (Counter.value e.state :: own o) (Sequence.advance e.state) running.pending) :
    ({ e with state := Sequence.advance e.state }.goOn o running).Honors C spec
      (drawn own e o) := by
  obtain ⟨h_inv, h_keeps⟩ := C.advance e.state h.inv
  -- what is drawn lies above everything that anybody owns
  have h_new : ∀ o', Counter.value e.state ∉ own o' := fun o' h_v =>
    absurd (h.bounded o' _ h_v) (lt_irrefl _)
  refine h.update o h_inv (fun _ _ => rfl) (fun o' h_ne => goOn_of_ne _ _ h_ne)
    (fun _ h_hold _ => h_hold) (fun _ _ => rfl) (fun o' h_ne => drawn_of_ne h_ne)
    (fun o' v h_v => ?_) (fun o₁ o₂ v h₁ h₂ => ?_)
    (fun _ _ => ⟨h_inv, fun part _ => h_keeps part⟩) (fun _ _ _ => ?_)
    (fun next h_some => ?_) fun hold h_hold h_eq => ?_
  · change v < Counter.value (Sequence.advance e.state)
    rw [Counter.value_advance]
    rcases mem_drawn.mp h_v with h_v | ⟨-, rfl⟩
    · exact Nat.lt_succ_of_lt (h.bounded o' v h_v)
    · exact Nat.lt_succ_self _
  · rcases mem_drawn.mp h₁ with h_old₁ | ⟨h_eq₁, h_value⟩
    · rcases mem_drawn.mp h₂ with h_old₂ | ⟨-, h_value⟩
      · exact h.disjoint o₁ o₂ v h_old₁ h_old₂
      · exact absurd (h_value ▸ h_old₁) (h_new o₁)
    · rcases mem_drawn.mp h₂ with h_old₂ | ⟨h_eq₂, -⟩
      · exact absurd (h_value ▸ h_old₂) (h_new o₂)
      · exact h_eq₁.trans h_eq₂.symm
  · rw [goOn_self]
    rfl
  · rw [goOn_self] at h_some
    obtain rfl := Option.some.inj h_some
    refine ⟨Sequence.advance e.state, .refl h_inv, ?_⟩
    rw [drawn_self]
    exact h_script
  · obtain ⟨s₁, held, own₁, h_relies, h_sub, h_sub', h_ask⟩ := h.asked hold h_hold
    refine ⟨s₁, held, own₁, h_relies.trans ⟨h_inv, fun part _ => h_keeps part⟩, h_sub,
      fun v h_v => ?_, h_ask⟩
    exact mem_drawn.mpr (.inl (h_sub' h_v))

variable [DecidableEq ρ]

/-- What a client asks for is what it may ask for. -/
theorem Honors.asks (h : e.Honors C spec own) {o : ω} {resource : ρ} {mode : LockMode}
    (h_asks : e.asking o = some (resource, mode)) :
    (spec o).Ask e.state (e.locks.heldBy o) (own o) resource mode ∧
      (resource, .exclusive) ∉ e.locks.heldBy o := by
  unfold asking at h_asks
  split at h_asks
  · rename_i lock next pending h_running
    obtain ⟨h_lock, h_free⟩ := Option.filter_eq_some_iff.mp h_asks
    obtain ⟨s, h_relies, h_safe⟩ := h.scripts o _ h_running
    have h_next := h_safe e.state h_relies
    rw [h_lock] at h_next
    exact ⟨h_next.1, fun h_held => of_decide_eq_true h_free (LockTable.mem_heldBy.mp h_held)⟩
  · cases h_asks

/-- What the commit that is the client's next statement, if it is one, may assume. -/
def Due (spec : ω → Spec σ ρ β) (e : Engine σ ρ ω β) (o : ω) : Prop :=
  ∀ answer pending, e.running o = some ⟨.commit answer, pending⟩ →
    (spec o).Given e.state pending answer

/-- What everybody keeps is kept by a statement. -/
theorem Honors.statement_always (h : e.Honors C spec own) {o : ω} (h_due : e.Due spec o) :
    C.Keeps .always e.state (e.statement o).state := by
  have h_stated := e.stated o
  generalize e.statement o = e' at h_stated ⊢
  cases h_stated with
  | stutter | rolledBack | read | granted | wrote => exact C.refl .always e.state
  | committed answer pending h_running =>
    exact ((h.commit h_running).2 (h_due answer pending h_running)).keeps .always trivial
  | drew => exact (C.advance e.state h.inv).2 .always

/-- **One statement keeps what everybody relies on.** -/
theorem Honors.statement (h : e.Honors C spec own) {o : ω} (h_due : e.Due spec o) :
    ∃ own', (∀ o', own o' ⊆ own' o') ∧ (e.statement o).Honors C spec own' := by
  have h_same : ∀ o', own o' ⊆ own o' := fun _ => List.Subset.refl _
  have h_stated := e.stated o
  generalize e.statement o = e' at h_stated ⊢
  cases h_stated with
  | stutter => exact ⟨own, h_same, h⟩
  | rolledBack answer pending h_running => exact ⟨own, h_same, h.abort o⟩
  | committed answer pending h_running =>
    exact ⟨own, h_same, h.close o ((h.commit h_running).2 (h_due answer pending h_running))⟩
  -- what others did since the last statement is something the script allows for
  | read lock next pending h_running h_lock =>
    obtain ⟨s, h_relies, h_safe⟩ := h.scripts o _ h_running
    have h_next := h_safe e.state h_relies
    rw [h_lock] at h_next
    exact ⟨own, h_same, h.goOn ⟨e.state, .refl h.inv, h_next⟩⟩
  | granted lock next pending resource mode h_grants h_running h_lock =>
    obtain ⟨s, h_relies, h_safe⟩ := h.scripts o _ h_running
    have h_next := h_safe e.state h_relies
    rw [h_lock] at h_next
    exact ⟨own, h_same, h.grant h_grants h_next.1 h_next.2⟩
  | wrote effect next pending h_running =>
    obtain ⟨s, h_relies, h_safe⟩ := h.scripts o _ h_running
    exact ⟨own, h_same, h.goOn ⟨s, h_relies, h_safe⟩⟩
  | drew next pending h_running =>
    obtain ⟨s, h_relies, h_safe⟩ := h.scripts o _ h_running
    exact ⟨drawn own e o, fun o' v h_v => mem_drawn.mpr (.inl h_v),
      h.draw (h_safe e.state h_relies)⟩

end Engine
end Framework
