import Mathlib.Data.List.Infix

/-!
# Stages of a history

`Passes stages history`: the stages come one after another in the history, each a stretch of it,
with anything between them. Histories that are appended pass the stages of both
(`Passes.append`), and no later or earlier stretch takes a stage away.
-/

namespace Framework

variable {ε : Type}

/-- The stages come in this order, with anything before, between and after them. -/
def Passes : List (List ε → Prop) → List ε → Prop
  | [], _ => True
  | stage :: stages, history =>
    ∃ before stretch rest, history = before ++ stretch ++ rest ∧ stage stretch ∧ Passes stages rest

variable {stage : List ε → Prop} {stages stages' : List (List ε → Prop)}
  {history history' stretch : List ε}

theorem passes_one (h : stage stretch) : Passes [stage] stretch :=
  ⟨[], stretch, [], by simp, h, trivial⟩

theorem Passes.behind (h : Passes stages history) (before : List ε) :
    Passes stages (before ++ history) := by
  cases stages with
  | nil => trivial
  | cons stage stages =>
    obtain ⟨earlier, stretch, rest, rfl, h_stage, h_rest⟩ := h
    exact ⟨before ++ earlier, stretch, rest, by simp [List.append_assoc], h_stage, h_rest⟩

theorem Passes.append (h : Passes stages history) (h' : Passes stages' history') :
    Passes (stages ++ stages') (history ++ history') := by
  induction stages generalizing history with
  | nil => exact h'.behind history
  | cons stage stages ih =>
    obtain ⟨before, stretch, rest, rfl, h_stage, h_rest⟩ := h
    exact ⟨before, stretch, rest ++ history', by simp [List.append_assoc], h_stage, ih h_rest⟩

theorem Passes.extend (h : Passes stages history) (later : List ε) :
    Passes stages (history ++ later) := by
  rw [← List.append_nil stages]
  exact h.append trivial

theorem Passes.concat (h : Passes stages history) (h_stage : stage stretch) :
    Passes (stages ++ [stage]) (history ++ stretch) := h.append (passes_one h_stage)

theorem Passes.tail (h : Passes (stage :: stages) history) : Passes stages history := by
  obtain ⟨before, stretch, rest, rfl, -, h_rest⟩ := h
  exact h_rest.behind (before ++ stretch)

theorem Passes.left (h : Passes (stages ++ stages') history) : Passes stages history := by
  induction stages generalizing history with
  | nil => trivial
  | cons stage stages ih =>
    obtain ⟨before, stretch, rest, rfl, h_stage, h_rest⟩ := h
    exact ⟨before, stretch, rest, rfl, h_stage, ih h_rest⟩

/-- A stage may be replaced by what its stretches pass. -/
theorem Passes.expand (first inner : List (List ε → Prop)) {last : List (List ε → Prop)}
    (h : Passes (first ++ stage :: last) history)
    (h_inner : ∀ stretch, stage stretch → Passes inner stretch) :
    Passes (first ++ (inner ++ last)) history := by
  induction first generalizing history with
  | nil =>
    obtain ⟨before, stretch, rest, rfl, h_stage, h_rest⟩ := h
    exact ((h_inner stretch h_stage).behind before).append h_rest
  | cons _ first ih =>
    obtain ⟨before, stretch, rest, rfl, h_stage, h_rest⟩ := h
    exact ⟨before, stretch, rest, rfl, h_stage, ih h_rest⟩

/-- Each stage is a stretch of the history. -/
theorem Passes.exists_infix (h : Passes stages history) (h_mem : stage ∈ stages) :
    ∃ stretch, stretch <:+: history ∧ stage stretch := by
  induction stages generalizing history with
  | nil => exact absurd h_mem List.not_mem_nil
  | cons first stages ih =>
    obtain ⟨before, stretch, rest, rfl, h_stage, h_rest⟩ := h
    rcases List.mem_cons.mp h_mem with rfl | h_later
    · exact ⟨stretch, ⟨before, rest, rfl⟩, h_stage⟩
    · obtain ⟨stretch', h_infix, h_stage'⟩ := ih h_rest h_later
      exact ⟨stretch', h_infix.trans (List.suffix_append _ _).isInfix, h_stage'⟩

/-- A history of other exchanges passes the stages that it passes under their images. -/
theorem Passes.map {ε' : Type} (h : Passes stages history) (f : ε → ε') :
    Passes (stages.map fun stage stretch => ∃ asked, stretch = asked.map f ∧ stage asked)
      (history.map f) := by
  induction stages generalizing history with
  | nil => trivial
  | cons stage stages ih =>
    obtain ⟨before, stretch, rest, rfl, h_stage, h_rest⟩ := h
    exact ⟨before.map f, stretch.map f, rest.map f, by simp, ⟨stretch, rfl, h_stage⟩, ih h_rest⟩

end Framework
