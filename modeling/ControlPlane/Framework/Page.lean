import Mathlib.Data.List.Sort
import Mathlib.Order.Lattice

/-!
# Reading by pages

A table whose rows have a numeric id is read in pages: the rows with an id beyond the cursor,
in the order of their ids, and at most so many of them. The next page starts at the largest id
received so far, which is `advance`.

`mem_page` and `page_progress` are what a reader gets out of one page: rows beyond the cursor
only, and of every row beyond the cursor either the row itself or a cursor that has come
nearer to it without passing it.

`slices` cuts a list that is there into parts for one request each.
-/

namespace Framework

variable {ρ : Type}

/-- `WHERE id > cursor ORDER BY id LIMIT limit`. -/
def page (limit cursor : ℕ) (rows : List (ℕ × ρ)) : List (ℕ × ρ) :=
  ((rows.filter (cursor < ·.1)).insertionSort (·.1 ≤ ·.1)).take limit

/-- The largest id received so far. -/
def advance (cursor : ℕ) (rows : List (ℕ × ρ)) : ℕ := rows.foldl (fun c row => max c row.1) cursor

variable {limit cursor : ℕ} {rows : List (ℕ × ρ)} {row : ℕ × ρ}

theorem mem_page (h : row ∈ page limit cursor rows) : row ∈ rows ∧ cursor < row.1 := by
  have h_sorted := List.mem_of_mem_take h
  rw [List.mem_insertionSort, List.mem_filter, decide_eq_true_iff] at h_sorted
  exact h_sorted

theorem le_advance : cursor ≤ advance cursor rows := by
  induction rows generalizing cursor with
  | nil => exact le_rfl
  | cons row rows ih => exact (le_max_left _ _).trans ih

theorem le_advance_of_mem (h : row ∈ rows) : row.1 ≤ advance cursor rows := by
  induction rows generalizing cursor with
  | nil => cases h
  | cons other rows ih =>
    rcases List.mem_cons.mp h with rfl | h
    · exact (le_max_right _ _).trans le_advance
    · exact ih h

/-- A bound of the cursor and of all ids is a bound of the next cursor. -/
theorem advance_lt {bound : ℕ} (h_cursor : cursor < bound) (h_rows : ∀ row ∈ rows, row.1 < bound) :
    advance cursor rows < bound := by
  induction rows generalizing cursor with
  | nil => exact h_cursor
  | cons row rows ih =>
    refine ih (max_lt h_cursor (h_rows row List.mem_cons_self)) fun other h_other => ?_
    exact h_rows other (List.mem_cons_of_mem row h_other)

/-- The rows of a page come one after the other in a table without a repeated row. -/
theorem nodup_map_page {κ : Type} {f : ℕ × ρ → κ} (h : (rows.map f).Nodup) :
    ((page limit cursor rows).map f).Nodup := by
  have h_perm := ((rows.filter (cursor < ·.1)).perm_insertionSort (·.1 ≤ ·.1)).map f
  have h_filter : ((rows.filter (cursor < ·.1)).map f).Nodup :=
    h.sublist ((List.filter_sublist (p := (cursor < ·.1))).map f)
  exact (h_perm.nodup_iff.mpr h_filter).sublist ((List.take_sublist limit _).map f)

/-- A row beyond the cursor is in the page, or the page is full of rows before it. -/
theorem page_progress (h_limit : 0 < limit) (h_row : row ∈ rows) (h_beyond : cursor < row.1)
    (h_ids : ∀ other ∈ rows, other.1 = row.1 → other = row) :
    row ∈ page limit cursor rows ∨
      (cursor < advance cursor (page limit cursor rows) ∧
        advance cursor (page limit cursor rows) < row.1) := by
  refine or_iff_not_imp_left.mpr fun h_missing => ?_
  set sorted := (rows.filter (cursor < ·.1)).insertionSort (·.1 ≤ ·.1) with h_sorted
  have h_page : page limit cursor rows = sorted.take limit := rfl
  have h_mem : row ∈ sorted := by simp [h_sorted, h_row, h_beyond]
  have h_split : sorted.take limit ++ sorted.drop limit = sorted := List.take_append_drop ..
  have h_drop : row ∈ sorted.drop limit := by
    rw [← h_split, List.mem_append] at h_mem
    exact h_mem.resolve_left h_missing
  -- the rows of the page come before the row
  have h_before : ∀ other ∈ page limit cursor rows, other.1 < row.1 := by
    intro other h_other
    have h_pairwise : sorted.Pairwise (·.1 ≤ ·.1) := List.pairwise_insertionSort _ _
    rw [← h_split] at h_pairwise
    have h_le := (List.pairwise_append.mp h_pairwise).2.2 other h_other row h_drop
    refine lt_of_le_of_ne h_le fun h_eq => h_missing ?_
    rwa [← h_ids other (mem_page h_other).1 h_eq]
  refine ⟨?_, advance_lt h_beyond h_before⟩
  -- and there is one, since the page is full
  have h_full : limit < sorted.length := by
    by_contra h_short
    rw [List.drop_eq_nil_of_le (not_lt.mp h_short)] at h_drop
    cases h_drop
  have h_nonempty : 0 < (page limit cursor rows).length := by
    rw [h_page, List.length_take]
    exact lt_min h_limit (h_limit.trans h_full)
  obtain ⟨first, h_first⟩ := List.exists_mem_of_length_pos h_nonempty
  exact (mem_page h_first).2.trans_le (le_advance_of_mem h_first)

/-! ### Slices -/

/-- `[items[start : start + size] for start in range(0, len(items), size)]` -/
def slices {α : Type} (size : ℕ) (items : List α) : List (List α) :=
  (List.range ((items.length + size - 1) / size)).map fun turn =>
    (items.drop (turn * size)).take size

theorem flatten_slices {α : Type} {size : ℕ} (h_size : 0 < size) (items : List α) :
    (slices size items).flatten = items := by
  have h_turns (turns : ℕ) : ((List.range turns).map fun turn =>
      (items.drop (turn * size)).take size).flatten = items.take (turns * size) := by
    induction turns with
    | zero => rw [Nat.zero_mul, List.take_zero]; rfl
    | succ turns ih =>
      rw [List.range_succ, List.map_append, List.flatten_append, ih, List.map_singleton,
        List.flatten_singleton, ← List.take_add, Nat.succ_mul]
  rw [slices, h_turns]
  -- the last turn reaches the end
  refine List.take_of_length_le ?_
  have h_div := Nat.lt_div_mul_add (a := items.length + size - 1) h_size
  omega

end Framework
