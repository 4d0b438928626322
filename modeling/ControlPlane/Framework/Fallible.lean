import Mathlib.Data.List.Basic

/-!
# Fallible computations

Rules for `Except`: when a sequence of steps succeeds and with what it may fail. A loop that
stops at the first failure is a `List.foldlM`. `foldlM_ok` is its invariant rule, where the
invariant speaks about the turns that are still to come, and `foldlM_error` traces a failure to
the turn that failed.

A `List.mapM` in `Option` relates the list to its results one by one (`forall₂_of_mapM`).
-/

namespace Framework

variable {ε α β : Type}

/-- Two steps return if both do. -/
theorem bind_eq_ok {x : Except ε α} {f : α → Except ε β} {b : β} :
    x >>= f = .ok b ↔ ∃ a, x = .ok a ∧ f a = .ok b := by
  cases x with
  | error e => exact iff_of_false nofun fun ⟨_, h, _⟩ => nomatch h
  | ok a => exact ⟨fun h => ⟨a, rfl, h⟩, fun ⟨_, h_a, h⟩ => Except.ok.inj h_a ▸ h⟩

/-- Two steps fail if one of them does. -/
theorem bind_eq_error {x : Except ε α} {f : α → Except ε β} {e : ε} :
    x >>= f = .error e ↔ x = .error e ∨ ∃ a, x = .ok a ∧ f a = .error e := by
  cases x with
  | error e' =>
    refine ⟨fun h => .inl ?_, ?_⟩
    · exact congrArg _ (Except.error.inj h)
    · rintro (h | ⟨_, h, _⟩)
      · exact congrArg _ (Except.error.inj h)
      · cases h
  | ok a =>
    refine ⟨fun h => .inr ⟨a, rfl, h⟩, ?_⟩
    rintro (h | ⟨_, h_a, h⟩)
    · cases h
    · exact Except.ok.inj h_a ▸ h

/-- **The invariant rule of a loop.** `I rest b` relates the turns to come to the result so
far. -/
theorem foldlM_ok {f : β → α → Except ε β} {I : List α → β → Prop}
    (h_turn : ∀ a rest b b', I (a :: rest) b → f b a = .ok b' → I rest b') {l : List α} {b b' : β}
    (h_init : I l b) (h : l.foldlM f b = .ok b') : I [] b' := by
  induction l generalizing b with
  | nil =>
    obtain rfl := Except.ok.inj h
    exact h_init
  | cons a rest ih =>
    rw [List.foldlM_cons] at h
    obtain ⟨mid, h_mid, h_rest⟩ := bind_eq_ok.mp h
    exact ih (h_turn a rest b mid h_init h_mid) h_rest

/-- A loop fails where one of its turns does. -/
theorem foldlM_error {f : β → α → Except ε β} {l : List α} {b : β} {e : ε}
    (h : l.foldlM f b = .error e) : ∃ a ∈ l, ∃ b', f b' a = .error e := by
  induction l generalizing b with
  | nil => cases h
  | cons a rest ih =>
    rw [List.foldlM_cons] at h
    rcases bind_eq_error.mp h with h_turn | ⟨mid, -, h_rest⟩
    · exact ⟨a, List.mem_cons_self, b, h_turn⟩
    · obtain ⟨other, h_other, b', h_turn⟩ := ih h_rest
      exact ⟨other, List.mem_cons_of_mem a h_other, b', h_turn⟩

/-- A loop that returns has returned for each item. -/
theorem forM_ok {f : α → Except ε Unit} {l : List α} (h : l.forM f = .ok ()) :
    ∀ a ∈ l, f a = .ok () := by
  induction l with
  | nil => exact nofun
  | cons a rest ih =>
    change (f a >>= fun _ => rest.forM f) = .ok () at h
    obtain ⟨_, h_turn, h_rest⟩ := bind_eq_ok.mp h
    exact List.forall_mem_cons.mpr ⟨h_turn, ih h_rest⟩

/-- A loop that fails has failed for some item. -/
theorem forM_error {f : α → Except ε Unit} {l : List α} {e : ε} (h : l.forM f = .error e) :
    ∃ a ∈ l, f a = .error e := by
  induction l with
  | nil => cases h
  | cons a rest ih =>
    change (f a >>= fun _ => rest.forM f) = .error e at h
    rcases bind_eq_error.mp h with h_turn | ⟨_, -, h_rest⟩
    · exact ⟨a, List.mem_cons_self, h_turn⟩
    · obtain ⟨other, h_other, h_turn⟩ := ih h_rest
      exact ⟨other, List.mem_cons_of_mem a h_other, h_turn⟩

/-! ### One by one -/

/-- A loop that returns values returns one for each item. -/
theorem forall₂_of_mapM {f : α → Option β} {l : List α} {l' : List β} (h : l.mapM f = some l') :
    List.Forall₂ (fun a b => f a = some b) l l' := by
  induction l generalizing l' with
  | nil =>
    obtain rfl := Option.some.inj h
    exact .nil
  | cons a l ih =>
    rw [List.mapM_cons] at h
    obtain ⟨b, h_b, h⟩ := Option.bind_eq_some_iff.mp h
    obtain ⟨rest, h_rest, h⟩ := Option.bind_eq_some_iff.mp h
    obtain rfl := Option.some.inj h
    exact .cons h_b (ih h_rest)

/-- A loop over items with values returns. -/
theorem exists_mapM {f : α → Option β} {l : List α} (h : ∀ a ∈ l, ∃ b, f a = some b) :
    ∃ l', l.mapM f = some l' := by
  induction l with
  | nil => exact ⟨[], rfl⟩
  | cons a l ih =>
    obtain ⟨⟨b, h_b⟩, h_l⟩ := List.forall_mem_cons.mp h
    obtain ⟨l', h_l'⟩ := ih h_l
    exact ⟨b :: l', by simp [List.mapM_cons, h_b, h_l']⟩

/-- A loop that returns each item as it is returns the list. -/
theorem mapM_self {f : α → Option α} {l : List α} (h : ∀ a ∈ l, f a = some a) :
    l.mapM f = some l := by
  induction l with
  | nil => rfl
  | cons a l ih =>
    obtain ⟨h_a, h_l⟩ := List.forall_mem_cons.mp h
    simp [List.mapM_cons, h_a, ih h_l]

/-- An item has its partner. -/
theorem exists_of_forall₂ {R : α → β → Prop} {as : List α} {bs : List β}
    (h : List.Forall₂ R as bs) {a : α} (h_a : a ∈ as) : ∃ b ∈ bs, R a b := by
  induction h with
  | nil => cases h_a
  | cons h_head _ ih =>
    rcases List.mem_cons.mp h_a with rfl | h_a
    · exact ⟨_, List.mem_cons_self, h_head⟩
    · obtain ⟨b, h_b, h_related⟩ := ih h_a
      exact ⟨b, List.mem_cons_of_mem _ h_b, h_related⟩

end Framework
