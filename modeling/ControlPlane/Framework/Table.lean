import Mathlib.Data.List.AList
import Mathlib.Data.Multiset.Filter

/-!
# Keyed tables

A table with a primary key is an `AList`: its well-formedness (no key twice) is a
field, so a table with a duplicate key cannot be built. `INSERT` of a fresh key and
`UPDATE ... WHERE key = k` are both `AList.insert`, read back by
`Table.lookup_insert`, and a conditional `DELETE` is `Table.filter`.

`Table.rows` are the rows in no order: two tables have the same rows exactly when they
look up the same (`rows_eq_iff`), and the lemmas about `rows` count what a write adds or
takes away.
-/

namespace Framework

/-- A table of rows `ρ` under the primary key `κ`. -/
abbrev Table (κ ρ : Type) : Type := AList fun _ : κ => ρ

namespace Table

variable {κ ρ : Type} [DecidableEq κ]

/-- Reading a table after one write. -/
theorem lookup_insert (t : Table κ ρ) (k k' : κ) (r : ρ) :
    (t.insert k r).lookup k' = if k' = k then some r else t.lookup k' := by
  by_cases h : k' = k
  · subst h
    rw [if_pos rfl]
    exact AList.lookup_insert t
  · rw [if_neg h]
    exact AList.lookup_insert_ne h

@[simp] theorem lookup_insert_self (t : Table κ ρ) (k : κ) (r : ρ) :
    (t.insert k r).lookup k = some r :=
  AList.lookup_insert t

/-- Another row stays. -/
theorem lookup_insert_of_ne (t : Table κ ρ) {k k' : κ} (r : ρ) (h : k' ≠ k) :
    (t.insert k r).lookup k' = t.lookup k' :=
  AList.lookup_insert_ne h

/-- Inserting under an unused key keeps every row there is. -/
theorem lookup_insert_of_none {t : Table κ ρ} {k : κ} {r : ρ} (h_new : t.lookup k = none)
    {k' : κ} {r' : ρ} (h : t.lookup k' = some r') : (t.insert k r).lookup k' = some r' := by
  rw [lookup_insert_of_ne]
  · exact h
  · rintro rfl
    rw [h_new] at h
    cases h

/-- A row is listed exactly when its key looks it up. -/
theorem mem_entries {t : Table κ ρ} {k : κ} {r : ρ} :
    (⟨k, r⟩ : Sigma fun _ : κ => ρ) ∈ t.entries ↔ t.lookup k = some r :=
  AList.mem_lookup_iff.symm

/-- `DELETE`: the rows that satisfy `keep` stay. -/
def filter (keep : κ → ρ → Bool) (t : Table κ ρ) : Table κ ρ where
  entries := t.entries.filter fun row => keep row.1 row.2
  nodupKeys := t.nodupKeys.sublist List.filter_sublist

/-- What is found is a row that is kept. -/
theorem lookup_filter_eq_some {keep : κ → ρ → Bool} {t : Table κ ρ} {k : κ} {r : ρ} :
    (t.filter keep).lookup k = some r ↔ t.lookup k = some r ∧ keep k r = true := by
  rw [← mem_entries, ← mem_entries]
  exact List.mem_filter

/-- What is found after a deletion was there before. -/
theorem lookup_of_erase {t : Table κ ρ} {k k' : κ} {r : ρ}
    (h : (t.erase k).lookup k' = some r) : t.lookup k' = some r := by
  rw [← mem_entries] at h ⊢
  exact (List.kerase_sublist k t.entries).subset h

/-! ### The rows in no order -/

/-- The rows of the table, in no order. -/
def rows (t : Table κ ρ) : Multiset (Sigma fun _ : κ => ρ) := t.entries

/-- Two tables have the same rows if each key has the same row. -/
theorem rows_eq_iff {t t' : Table κ ρ} : t.rows = t'.rows ↔ ∀ k, t.lookup k = t'.lookup k := by
  unfold rows
  rw [Multiset.coe_eq_coe]
  constructor
  · exact fun h k => AList.perm_lookup h
  · intro h
    refine List.lookup_ext t.nodupKeys t'.nodupKeys fun k r => ?_
    change t.lookup k = some r ↔ t'.lookup k = some r
    rw [h k]

/-- A new row. -/
theorem rows_insert_of_none {t : Table κ ρ} {k : κ} {r : ρ} (h : t.lookup k = none) :
    rows (t.insert k r) = ⟨k, r⟩ ::ₘ t.rows := by
  unfold rows
  rw [AList.entries_insert_of_notMem (AList.lookup_eq_none.mp h), Multiset.cons_coe]

/-- A row less. -/
theorem rows_erase_of_some {t : Table κ ρ} {k : κ} {r : ρ} (h : t.lookup k = some r) :
    t.rows = ⟨k, r⟩ ::ₘ rows (t.erase k) := by
  show t.rows = ⟨k, r⟩ ::ₘ (t.entries.kerase k : Multiset (Sigma fun _ : κ => ρ))
  rw [Multiset.cons_coe, ← AList.entries_insert]
  refine rows_eq_iff.mpr fun k' => ?_
  rw [lookup_insert]
  split
  · rename_i h_eq
    rw [h_eq, h]
  · rfl

/-- There was no such row. -/
theorem rows_erase_of_none {t : Table κ ρ} {k : κ} (h : t.lookup k = none) :
    rows (t.erase k) = t.rows := by
  refine rows_eq_iff.mpr fun k' => ?_
  by_cases h_eq : k' = k
  · rw [h_eq, AList.lookup_erase, h]
  · exact AList.lookup_erase_ne h_eq

/-- An update exchanges one row for another. -/
theorem rows_insert_of_some {t : Table κ ρ} {k : κ} {r : ρ} (h : t.lookup k = some r) (r' : ρ) :
    ⟨k, r⟩ ::ₘ rows (t.insert k r') = ⟨k, r'⟩ ::ₘ t.rows := by
  rw [rows_erase_of_some h, Multiset.cons_swap]
  rfl

/-- Writing a row that is there already changes nothing. -/
theorem rows_insert_same {t : Table κ ρ} {k : κ} {r : ρ} (h : t.lookup k = some r) :
    rows (t.insert k r) = t.rows :=
  (Multiset.cons_inj_right _).mp (rows_insert_of_some h r)

/-- An update changes no number. -/
theorem card_insert_of_some {t : Table κ ρ} {k : κ} {r r' : ρ} (h : t.lookup k = some r) :
    (rows (t.insert k r')).card = t.rows.card := by
  have h_card := congrArg Multiset.card (rows_insert_of_some h r')
  rw [Multiset.card_cons, Multiset.card_cons] at h_card
  omega

/-- An insert adds one row at most. -/
theorem card_insert_le (t : Table κ ρ) (k : κ) (r : ρ) :
    (rows (t.insert k r)).card ≤ t.rows.card + 1 := by
  cases h : t.lookup k with
  | none => rw [rows_insert_of_none h, Multiset.card_cons]
  | some r₀ => exact (card_insert_of_some h).le.trans (Nat.le_succ _)

omit [DecidableEq κ] in
/-- Filtering adds no row. -/
theorem rows_filter_le (keep : κ → ρ → Bool) (t : Table κ ρ) : (t.filter keep).rows ≤ t.rows :=
  Multiset.coe_le.mpr List.filter_sublist.subperm

/-- Nor does erasing. -/
theorem rows_erase_le (t : Table κ ρ) (k : κ) : rows (t.erase k) ≤ t.rows :=
  Multiset.coe_le.mpr (List.kerase_sublist k t.entries).subperm

/-! ### Counting -/

/-- `SELECT count(*)`: how many rows satisfy `p`. -/
def count (p : κ → ρ → Bool) (t : Table κ ρ) : ℕ :=
  (t.entries.filter fun row => p row.1 row.2).length

/-- A new row counts if it should. -/
theorem count_insert_of_none {t : Table κ ρ} {k : κ} {r : ρ} (h : t.lookup k = none)
    (p : κ → ρ → Bool) : count p (t.insert k r) = count p t + if p k r then 1 else 0 := by
  unfold count
  rw [AList.entries_insert_of_notMem (AList.lookup_eq_none.mp h), List.filter_cons]
  split
  · rfl
  · rfl

omit [DecidableEq κ] in
/-- Filtering raises no count. -/
theorem count_filter_le (p keep : κ → ρ → Bool) (t : Table κ ρ) :
    count p (t.filter keep) ≤ count p t :=
  (List.filter_sublist.filter _).length_le

/-- Nor does erasing. -/
theorem count_erase_le (p : κ → ρ → Bool) (t : Table κ ρ) (k : κ) :
    count p (t.erase k) ≤ count p t :=
  ((List.kerase_sublist k t.entries).filter _).length_le

omit [DecidableEq κ] in
/-- A weaker test counts no less. -/
theorem count_le_of_imp {p q : κ → ρ → Bool} (h : ∀ k r, p k r = true → q k r = true)
    (t : Table κ ρ) : count p t ≤ count q t :=
  (List.monotone_filter_right t.entries fun row => h row.1 row.2).length_le

/-- Different keys whose rows satisfy `p` are counted once each. -/
theorem length_le_count {p : κ → ρ → Bool} {t : Table κ ρ} {ks : List κ} (h_nodup : ks.Nodup)
    (h : ∀ k ∈ ks, ∃ r, t.lookup k = some r ∧ p k r = true) : ks.length ≤ count p t := by
  have h_subset : ks ⊆ (t.entries.filter fun row => p row.1 row.2).map (·.1) := by
    intro k h_k
    obtain ⟨r, h_lookup, h_p⟩ := h k h_k
    exact List.mem_map.mpr ⟨⟨k, r⟩, List.mem_filter.mpr ⟨mem_entries.mpr h_lookup, h_p⟩, rfl⟩
  have h_le := (List.subperm_of_subset h_nodup h_subset).length_le
  rw [List.length_map] at h_le
  exact h_le

end Table
end Framework
