import ControlPlane.Framework.Run

/-!
# Version stamps

A machine keeps a row with a version number. Optimistic concurrency control reads the
version at one moment and compares it at a later one, and concludes from an equal version
that nothing happened in between. The rule behind it is about single steps: a step that
does not touch the row leaves it as it is, and a step that touches it raises the version.

`run_version` is the rule for whole runs, `version_eq_iff` the comparison, and
`version_determines_row` its consequence for the row as a whole.
-/

namespace Framework

variable {State Action Row : Type}

/-- No step between the moments `pre` and `as` touches the row. -/
def Untouched (step : State → Action → State) (s : State) (touches : State → Action → Prop)
    (pre as : List Action) : Prop :=
  ∀ mid a, pre <+: mid → mid ++ [a] <+: as → ¬ touches (run step s mid) a

/-- The discipline of a version stamp, under an invariant `I` of the machine. -/
structure Versioned (step : State → Action → State) (I : State → Prop)
    (touches : State → Action → Prop) (row : State → Option Row) (version : Row → ℕ) :
    Prop where
  /-- A step that does not touch the row leaves it as it is. -/
  keep : ∀ s a, I s → ¬ touches s a → row (step s a) = row s
  /-- A step that touches the row raises its version. -/
  raise : ∀ s a r, I s → touches s a → row s = some r →
    ∃ r', row (step s a) = some r' ∧ version r < version r'

section Rules

variable {step : State → Action → State} {s : State} {I : State → Prop}
  {touches : State → Action → Prop} {row : State → Option Row} {version : Row → ℕ}

theorem Untouched.concat_iff {pre as : List Action} {a : Action} (h : pre <+: as) :
    Untouched step s touches pre (as ++ [a]) ↔
      Untouched step s touches pre as ∧ ¬ touches (run step s as) a := by
  constructor
  · intro h_un
    exact ⟨fun mid b h_pre h_mid => h_un mid b h_pre (h_mid.trans (List.prefix_append as [a])),
      h_un as a h (List.prefix_refl _)⟩
  · rintro ⟨h_un, h_last⟩ mid b h_pre h_mid
    rcases concat_prefix_concat_cases h_mid with ⟨rfl, rfl⟩ | h_mid
    · exact h_last
    · exact h_un mid b h_pre h_mid

/-- **The rule for runs.** Between two moments either no step touches the row and it is
the same row, or some step touches it and its version is higher. -/
theorem run_version (h_versioned : Versioned step I touches row version)
    (h_inv : ∀ as, I (run step s as)) {pre as : List Action} (h : pre <+: as) {r : Row}
    (h_row : row (run step s pre) = some r) :
    (Untouched step s touches pre as ∧ row (run step s as) = some r) ∨
      (¬ Untouched step s touches pre as ∧
        ∃ r', row (run step s as) = some r' ∧ version r < version r') := by
  obtain ⟨rest, rfl⟩ := h
  induction rest using List.reverseRecOn with
  | nil =>
    rw [List.append_nil]
    refine .inl ⟨fun mid a h_pre h_mid => ?_, h_row⟩
    -- a step of an empty stretch would be longer than the stretch
    have h_le := (h_mid.trans h_pre).length_le
    rw [List.length_append, List.length_singleton] at h_le
    omega
  | append_singleton rest a ih =>
    rw [← List.append_assoc, run_concat,
      Untouched.concat_iff (List.prefix_append pre rest)]
    by_cases h_touch : touches (run step s (pre ++ rest)) a
    · refine .inr ⟨fun h_un => h_un.2 h_touch, ?_⟩
      rcases ih with ⟨-, h_same⟩ | ⟨-, r', h_row', h_lt⟩
      · exact h_versioned.raise _ a r (h_inv _) h_touch h_same
      · obtain ⟨r'', h_row'', h_lt'⟩ := h_versioned.raise _ a r' (h_inv _) h_touch h_row'
        exact ⟨r'', h_row'', h_lt.trans h_lt'⟩
    · rw [h_versioned.keep _ a (h_inv _) h_touch]
      rcases ih with ⟨h_un, h_same⟩ | ⟨h_not, h_lt⟩
      · exact .inl ⟨⟨h_un, h_touch⟩, h_same⟩
      · exact .inr ⟨fun h_un => h_not h_un.1, h_lt⟩

/-- **The comparison.** A version read earlier is still the current one exactly when no
step since then touched the row. -/
theorem version_eq_iff (h_versioned : Versioned step I touches row version)
    (h_inv : ∀ as, I (run step s as)) {pre as : List Action} (h : pre <+: as) {r r' : Row}
    (h_row : row (run step s pre) = some r) (h_row' : row (run step s as) = some r') :
    version r' = version r ↔ Untouched step s touches pre as := by
  rcases run_version h_versioned h_inv h h_row with ⟨h_un, h_same⟩ | ⟨h_not, r'', h_eq, h_lt⟩
  · obtain rfl : r = r' := Option.some.inj (h_same.symm.trans h_row')
    exact iff_of_true rfl h_un
  · obtain rfl : r'' = r' := Option.some.inj (h_eq.symm.trans h_row')
    exact iff_of_false h_lt.ne' h_not

theorem version_mono (h_versioned : Versioned step I touches row version)
    (h_inv : ∀ as, I (run step s as)) {pre as : List Action} (h : pre <+: as) {r r' : Row}
    (h_row : row (run step s pre) = some r) (h_row' : row (run step s as) = some r') :
    version r ≤ version r' := by
  rcases run_version h_versioned h_inv h h_row with ⟨-, h_same⟩ | ⟨-, r'', h_eq, h_lt⟩
  · obtain rfl : r = r' := Option.some.inj (h_same.symm.trans h_row')
    exact le_rfl
  · obtain rfl : r'' = r' := Option.some.inj (h_eq.symm.trans h_row')
    exact h_lt.le

/-- **A version stands for the whole row.** -/
theorem version_determines_row (h_versioned : Versioned step I touches row version)
    (h_inv : ∀ as, I (run step s as)) {pre as : List Action} (h : pre <+: as) {r r' : Row}
    (h_row : row (run step s pre) = some r) (h_row' : row (run step s as) = some r')
    (h_eq : version r' = version r) : r' = r := by
  rcases run_version h_versioned h_inv h h_row with ⟨-, h_same⟩ | ⟨-, r'', h_row'', h_lt⟩
  · exact Option.some.inj (h_row'.symm.trans h_same)
  · obtain rfl : r'' = r' := Option.some.inj (h_row''.symm.trans h_row')
    exact absurd h_eq h_lt.ne'

end Rules
end Framework
