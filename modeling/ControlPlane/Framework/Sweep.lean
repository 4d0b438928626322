import Mathlib

/-!
# Sweeping over intervals

How many half-open intervals overlap at most is found by a sweep: each interval opens with the
event `+1` and closes with `-1`, the events are sorted by time and at equal times the closings
first, and the sum so far never exceeds the limit.

`within_iff` says that the sweep is exact: it stays within the limit exactly when no instant is
in more intervals than that. The sum of the events up to an instant is the number of intervals
that cover it (`sum_upTo`). A sorted list has them in front (`exists_split`), which is one
direction; where the sweep exceeds the limit, only openings are left of the same instant
(`sum_upTo_ge`), which is the other.
-/

namespace Framework

namespace Sweep

/-- An interval, closed at its start and open at its end. -/
structure Span (τ : Type) where
  start : τ
  finish : τ

/-- An instant, and what changes at it. -/
abbrev Event (τ : Type) : Type := τ × ℤ

variable {τ : Type} [LinearOrder τ]

/-- An interval adds one where it starts, and takes it away where it ends. -/
def events (spans : List (Span τ)) : List (Event τ) :=
  spans.flatMap fun span => [(span.start, 1), (span.finish, -1)]

/-- By time, and at equal times by what changes. -/
def Precedes (a b : Event τ) : Prop := a.1 < b.1 ∨ (a.1 = b.1 ∧ a.2 ≤ b.2)

instance : DecidableRel (Precedes (τ := τ)) := fun a b =>
  inferInstanceAs (Decidable (a.1 < b.1 ∨ (a.1 = b.1 ∧ a.2 ≤ b.2)))

instance : Std.Total (Precedes (τ := τ)) where
  total a b := by
    rcases lt_trichotomy a.1 b.1 with h | h | h
    · exact .inl (.inl h)
    · exact (le_total a.2 b.2).imp (fun h_le => .inr ⟨h, h_le⟩) fun h_le => .inr ⟨h.symm, h_le⟩
    · exact .inr (.inl h)

instance : IsTrans (Event τ) Precedes where
  trans a b c := by
    rintro (h_ab | ⟨h_ab, h_le⟩) (h_bc | ⟨h_bc, h_le'⟩)
    · exact .inl (h_ab.trans h_bc)
    · exact .inl (h_bc ▸ h_ab)
    · exact .inl (h_ab ▸ h_bc)
    · exact .inr ⟨h_ab.trans h_bc, h_le.trans h_le'⟩

/-- In the order of the sweep. -/
def sorted (l : List (Event τ)) : List (Event τ) := l.insertionSort Precedes

/-- The sum so far never exceeds the limit. -/
def within (limit : ℕ) : ℤ → List (Event τ) → Bool
  | _, [] => true
  | active, event :: rest => active + event.2 ≤ limit && within limit (active + event.2) rest

/-- What the events come to. -/
def sum (l : List (Event τ)) : ℤ := (l.map Prod.snd).sum

/-- The instant lies in the interval. -/
def covers (x : τ) (span : Span τ) : Bool := span.start ≤ x ∧ x < span.finish

/-- How many of the intervals an instant lies in. -/
def overlap (spans : List (Span τ)) (x : τ) : ℕ := spans.countP (covers x)

/-- The events up to an instant. -/
def upTo (x : τ) (l : List (Event τ)) : List (Event τ) := l.filter (·.1 ≤ x)

omit [LinearOrder τ] in
@[simp] theorem sum_append (a b : List (Event τ)) : sum (a ++ b) = sum a + sum b := by
  simp [sum]

omit [LinearOrder τ] in
@[simp] theorem sum_cons (event : Event τ) (l : List (Event τ)) :
    sum (event :: l) = event.2 + sum l := by
  simp [sum]

/-- **The events up to an instant add up** to the intervals that it lies in. -/
theorem sum_upTo {spans : List (Span τ)} (h : ∀ span ∈ spans, span.start ≤ span.finish) (x : τ) :
    sum (upTo x (events spans)) = overlap spans x := by
  induction spans with
  | nil => rfl
  | cons span spans ih =>
    have h_rest := ih fun other h_mem => h other (List.mem_cons_of_mem span h_mem)
    have h_span := h span List.mem_cons_self
    have h_split : upTo x (events (span :: spans)) =
        upTo x [(span.start, 1), (span.finish, -1)] ++ upTo x (events spans) :=
      List.filter_append ..
    rw [h_split, sum_append, h_rest, overlap, overlap, List.countP_cons]
    by_cases h_start : span.start ≤ x <;> by_cases h_finish : span.finish ≤ x
    · simp [upTo, covers, h_start, h_finish, sum, not_lt.mpr h_finish]
    · simp [upTo, covers, h_start, h_finish, sum, not_le.mp h_finish, add_comm]
    · exact absurd (h_span.trans h_finish) h_start
    · simp [upTo, covers, h_start, h_finish, sum]

/-- The order does not matter to the sum up to a time. -/
theorem sum_upTo_sorted (l : List (Event τ)) (x : τ) : sum (upTo x (sorted l)) = sum (upTo x l) :=
  (((List.perm_insertionSort Precedes l).filter _).map _).sum_eq

/-- In a sorted list the events up to an instant come first. -/
theorem exists_split {l : List (Event τ)} (h : l.Pairwise Precedes) (x : τ) :
    ∃ later, l = upTo x l ++ later := by
  induction l with
  | nil => exact ⟨[], rfl⟩
  | cons event l ih =>
    obtain ⟨h_event, h_l⟩ := List.pairwise_cons.mp h
    by_cases h_le : event.1 ≤ x
    · obtain ⟨later, h_later⟩ := ih h_l
      refine ⟨later, ?_⟩
      rw [upTo, List.filter_cons_of_pos (by simpa using h_le), List.cons_append]
      exact congrArg (event :: ·) h_later
    · -- all that follows is later still
      refine ⟨event :: l, ?_⟩
      have h_none : upTo x (event :: l) = [] := by
        refine List.filter_eq_nil_iff.mpr fun other h_other => ?_
        rw [decide_eq_true_iff]
        rcases List.mem_cons.mp h_other with rfl | h_other
        · exact h_le
        · rcases h_event other h_other with h_lt | ⟨h_eq, -⟩
          · exact fun h_other => h_le (h_lt.le.trans h_other)
          · exact fun h_other => h_le (h_eq ▸ h_other)
      rw [h_none, List.nil_append]

omit [LinearOrder τ] in
/-- At no point of the sweep is the limit exceeded. -/
theorem within_prefix {limit : ℕ} {active : ℤ} {before later : List (Event τ)}
    (h : within limit active (before ++ later) = true) (h_active : active ≤ limit) :
    active + sum before ≤ limit := by
  induction before generalizing active with
  | nil => simpa [sum] using h_active
  | cons event before ih =>
    obtain ⟨h_event, h_rest⟩ := (Bool.and_eq_true _ _).mp h
    rw [sum_cons, ← add_assoc]
    exact ih h_rest (of_decide_eq_true h_event)

omit [LinearOrder τ] in
/-- The first event with which the sum exceeds the limit. -/
theorem exists_exceeding {limit : ℕ} {active : ℤ} {l : List (Event τ)}
    (h : within limit active l = false) (h_active : active ≤ limit) :
    ∃ before event later, l = before ++ event :: later ∧ active + sum before ≤ limit ∧
      limit < active + sum before + event.2 := by
  induction l generalizing active with
  | nil => cases h
  | cons event l ih =>
    rw [within, Bool.and_eq_false_iff, decide_eq_false_iff_not, not_le] at h
    by_cases h_event : active + event.2 ≤ limit
    · obtain ⟨before, other, later, rfl, h_before, h_other⟩ :=
        ih (h.resolve_left (not_lt.mpr h_event)) h_event
      refine ⟨event :: before, other, later, rfl, ?_, ?_⟩
      · rwa [sum_cons, ← add_assoc]
      · rwa [sum_cons, ← add_assoc]
    · exact ⟨[], event, l, rfl, by simpa [sum] using h_active, by simpa [sum] using h_event⟩

/-- Behind an opening, only openings are left of its instant. -/
theorem sum_upTo_ge {before later : List (Event τ)} {event : Event τ}
    (h : (before ++ event :: later).Pairwise Precedes) (h_opens : 0 < event.2) :
    sum before + event.2 ≤ sum (upTo event.1 (before ++ event :: later)) := by
  obtain ⟨-, h_later, h_before⟩ := List.pairwise_append.mp h
  have h_front : upTo event.1 before = before := by
    refine List.filter_eq_self.mpr fun other h_other => decide_eq_true ?_
    rcases h_before other h_other event List.mem_cons_self with h_lt | ⟨h_eq, -⟩
    · exact h_lt.le
    · exact h_eq.le
  have h_back : 0 ≤ sum (upTo event.1 later) := by
    refine List.sum_nonneg fun change h_change => ?_
    obtain ⟨other, h_other, rfl⟩ := List.mem_map.mp h_change
    obtain ⟨h_mem, h_le⟩ := List.mem_filter.mp h_other
    rcases (List.pairwise_cons.mp h_later).1 other h_mem with h_lt | ⟨-, h_change⟩
    · exact absurd (of_decide_eq_true h_le) (not_le.mpr h_lt)
    · exact h_opens.le.trans h_change
  have h_all : upTo event.1 (before ++ event :: later) =
      before ++ event :: upTo event.1 later := by
    rw [upTo, List.filter_append, List.filter_cons_of_pos (by simp)]
    exact congrArg (· ++ _) h_front
  rw [h_all, sum_append, sum_cons]
  omega

/-- They are in order. -/
theorem pairwise_sorted (l : List (Event τ)) : (sorted l).Pairwise Precedes :=
  List.pairwise_insertionSort Precedes l

/-- **The sweep is exact.** -/
theorem within_iff {limit : ℕ} {spans : List (Span τ)}
    (h : ∀ span ∈ spans, span.start ≤ span.finish) :
    within limit 0 (sorted (events spans)) = true ↔ ∀ x, overlap spans x ≤ limit := by
  constructor
  · intro h_within x
    obtain ⟨later, h_split⟩ := exists_split (pairwise_sorted (events spans)) x
    rw [h_split] at h_within
    have h_sum := within_prefix h_within (Int.natCast_nonneg limit)
    rw [sum_upTo_sorted, sum_upTo h] at h_sum
    omega
  · intro h_overlap
    by_contra h_not
    obtain ⟨before, event, later, h_split, h_before, h_event⟩ :=
      exists_exceeding (Bool.eq_false_of_not_eq_true h_not) (Int.natCast_nonneg limit)
    have h_sorted := pairwise_sorted (events spans)
    rw [h_split] at h_sorted
    have h_ge := sum_upTo_ge h_sorted (by omega)
    rw [← h_split, sum_upTo_sorted, sum_upTo h] at h_ge
    have h_le := h_overlap event.1
    omega

end Sweep
end Framework
