import Mathlib.Data.List.Infix

/-!
# Splicing markers into a text

A text is searched for matches, and a marker is put in their place. What is copied between two
matches is a *run*, and the result is the runs with the marker between them. A marker fenced
by two delimiters keeps the runs apart: a word without the delimiters that stands in the
result stands in a run or inside the marker (`Marker.Apart.infix_intercalate`).

* `replace word` searches for a word from the left, without overlaps. The word is in none of
  its runs (`not_infix_of_mem_runsFrom`).
* `Splitting.mark` marks the matches of any search, as of a regular expression with one group
  that leads the match and may be kept. Its runs stand in the source
  (`Splitting.infix_source_of_mem_runs`).

So neither creates a word without delimiters that the marker does not have inside
(`Marker.Apart.infix_replace`, `Splitting.infix_mark`), and the first removes the word it
searches for (`Marker.Apart.not_infix_replace`).
-/

namespace Framework

variable {α : Type}

/-- A word without the delimiter is on one side of it. -/
theorem infix_append_cons {word left right : List α} {d : α} (h_word : d ∉ word)
    (h : word <:+: left ++ d :: right) : word <:+: left ∨ word <:+: right := by
  obtain ⟨before, after, h_eq⟩ := h
  rcases List.append_eq_append_iff.mp h_eq with ⟨rest, h_left, -⟩ | ⟨rest, h_start, h_right⟩
  · exact .inl ⟨before, rest, h_left.symm⟩
  · -- the word ends behind the left side, so the delimiter is in it or before it
    cases rest with
    | nil =>
      rw [List.append_nil] at h_start
      exact .inl ⟨before, [], by rw [List.append_nil, h_start]⟩
    | cons d' rest =>
      obtain ⟨rfl, rfl⟩ := List.cons.inj h_right
      rcases List.append_eq_append_iff.mp h_start with ⟨part, -, h_part⟩ | ⟨part, -, h_part⟩
      · exact absurd (h_part ▸ List.mem_append_right part List.mem_cons_self) h_word
      · cases part with
        | nil =>
          rw [List.nil_append] at h_part
          exact absurd (h_part ▸ List.mem_cons_self) h_word
        | cons d' part =>
          obtain ⟨-, rfl⟩ := List.cons.inj h_part
          exact .inr ⟨part, after, by simp⟩

/-- A marker: an interior between two delimiters. -/
structure Marker (α : Type) where
  opening : α
  interior : List α
  closing : α

namespace Marker

def text (m : Marker α) : List α := m.opening :: (m.interior ++ [m.closing])

theorem text_append (m : Marker α) (before after : List α) :
    before ++ m.text ++ after = before ++ m.opening :: (m.interior ++ m.closing :: after) := by
  simp [text]

/-- The word has no delimiter and is not part of the interior. -/
structure Apart (m : Marker α) (word : List α) : Prop where
  opening : m.opening ∉ word
  closing : m.closing ∉ word
  interior : ¬ word <:+: m.interior

/-- **Runs between markers.** A word apart from the marker stands in one run. -/
theorem Apart.infix_intercalate {m : Marker α} {word : List α} (h_apart : m.Apart word) :
    ∀ {runs : List (List α)}, word <:+: m.text.intercalate runs → word ≠ [] →
      ∃ run ∈ runs, word <:+: run
  | [], h, h_ne => absurd (List.infix_nil.mp h) h_ne
  | [run], h, _ => ⟨run, List.mem_singleton_self run, by rwa [List.intercalate_singleton] at h⟩
  | run :: next :: runs, h, h_ne => by
    rw [List.intercalate_cons_cons, m.text_append] at h
    rcases infix_append_cons h_apart.opening h with h | h
    · exact ⟨run, List.mem_cons_self, h⟩
    · rcases infix_append_cons h_apart.closing h with h | h
      · exact absurd h h_apart.interior
      · obtain ⟨piece, h_mem, h_piece⟩ := h_apart.infix_intercalate h h_ne
        exact ⟨piece, List.mem_cons_of_mem run h_mem, h_piece⟩

end Marker

/-! ### Replacing a word -/

section Replace

variable [DecidableEq α]

/-- One more letter at the front of the first run. -/
def pushFirst (x : α) : List (List α) → List (List α)
  | [] => [[x]]
  | run :: runs => (x :: run) :: runs

/-- The runs between the occurrences of a word, from the left and without overlaps. The number
counts the letters of an occurrence that are still to be passed over. -/
def runsFrom (word : List α) : ℕ → List α → List (List α)
  | _, [] => [[]]
  | skip + 1, _ :: text => runsFrom word skip text
  | 0, x :: text =>
    if word <+: x :: text then [] :: runsFrom word (word.length - 1) text
    else pushFirst x (runsFrom word 0 text)

/-- Every occurrence of the word is replaced. -/
def replace (word marker text : List α) : List α := marker.intercalate (runsFrom word 0 text)

theorem runsFrom_cons (word : List α) (skip : ℕ) (text : List α) :
    ∃ run runs, runsFrom word skip text = run :: runs ∧ (skip = 0 → run <+: text) := by
  fun_induction runsFrom word skip text with
  | case1 => exact ⟨[], [], rfl, fun _ => List.nil_prefix⟩
  | case2 skip x text ih =>
    obtain ⟨run, runs, h_eq, -⟩ := ih
    exact ⟨run, runs, h_eq, nofun⟩
  | case3 x text h_found ih => exact ⟨[], _, rfl, fun _ => List.nil_prefix⟩
  | case4 x text h_not ih =>
    obtain ⟨run, runs, h_eq, h_prefix⟩ := ih
    rw [h_eq]
    exact ⟨x :: run, runs, rfl, fun _ => List.cons_prefix_cons.mpr ⟨rfl, h_prefix rfl⟩⟩

/-- A run of a search that goes on behind a letter: the first one with the letter, or another. -/
theorem mem_pushFirst {word text : List α} {x : α} {run : List α}
    (h : run ∈ pushFirst x (runsFrom word 0 text)) :
    (∃ first, run = x :: first ∧ first <+: text ∧ first ∈ runsFrom word 0 text) ∨
      run ∈ runsFrom word 0 text := by
  obtain ⟨first, runs, h_eq, h_prefix⟩ := runsFrom_cons word 0 text
  rw [h_eq] at h ⊢
  rcases List.mem_cons.mp h with rfl | h
  · exact .inl ⟨first, rfl, h_prefix rfl, List.mem_cons_self⟩
  · exact .inr (List.mem_cons_of_mem first h)

theorem infix_of_mem_runsFrom {word text run : List α} {skip : ℕ}
    (h : run ∈ runsFrom word skip text) : run <:+: text := by
  fun_induction runsFrom word skip text with
  | case1 => exact List.mem_singleton.mp h ▸ List.infix_rfl
  | case2 skip x text ih => exact (ih h).trans (List.suffix_cons x text).isInfix
  | case3 x text h_found ih =>
    rcases List.mem_cons.mp h with rfl | h
    · exact List.nil_infix
    · exact (ih h).trans (List.suffix_cons x text).isInfix
  | case4 x text h_not ih =>
    rcases mem_pushFirst h with ⟨first, rfl, h_prefix, -⟩ | h
    · exact (List.cons_prefix_cons.mpr ⟨rfl, h_prefix⟩).isInfix
    · exact (ih h).trans (List.suffix_cons x text).isInfix

/-- **The word is in none of its own runs.** -/
theorem not_infix_of_mem_runsFrom {word text run : List α} {skip : ℕ} (h_ne : word ≠ [])
    (h : run ∈ runsFrom word skip text) : ¬ word <:+: run := by
  fun_induction runsFrom word skip text generalizing run with
  | case1 =>
    rw [List.mem_singleton.mp h, List.infix_nil]
    exact h_ne
  | case2 skip x text ih => exact ih h
  | case3 x text h_found ih =>
    rcases List.mem_cons.mp h with rfl | h
    · rw [List.infix_nil]
      exact h_ne
    · exact ih h
  | case4 x text h_not ih =>
    rcases mem_pushFirst h with ⟨first, rfl, h_prefix, h_first⟩ | h
    · -- an occurrence at the front of the run would be one at the front of the text
      rw [List.infix_cons_iff]
      rintro (h_front | h_later)
      · exact h_not (h_front.trans (List.cons_prefix_cons.mpr ⟨rfl, h_prefix⟩))
      · exact ih h_first h_later
    · exact ih h

variable {m : Marker α} {word : List α}

/-- **A word is removed.** -/
theorem Marker.Apart.not_infix_replace (h_apart : m.Apart word) (h_ne : word ≠ [])
    (text : List α) : ¬ word <:+: replace word m.text text := by
  intro h
  obtain ⟨run, h_run, h_infix⟩ := h_apart.infix_intercalate h h_ne
  exact not_infix_of_mem_runsFrom h_ne h_run h_infix

/-- Replacing another word creates no word apart from the marker. -/
theorem Marker.Apart.infix_replace (h_apart : m.Apart word) (h_ne : word ≠ [])
    {other text : List α} (h : word <:+: replace other m.text text) : word <:+: text := by
  obtain ⟨run, h_run, h_infix⟩ := h_apart.infix_intercalate h h_ne
  exact h_infix.trans (infix_of_mem_runsFrom h_run)

end Replace

/-! ### Replacing the matches of a search -/

/-- A match: the group that leads it, and the rest. -/
structure Match (α : Type) where
  group : List α
  rest : List α

def Match.text (found : Match α) : List α := found.group ++ found.rest

/-- A text around its matches, each with the text up to the next one. -/
structure Splitting (α : Type) where
  head : List α
  tail : List (Match α × List α)

namespace Splitting

/-- The text that was searched. -/
def source (s : Splitting α) : List α :=
  s.head ++ s.tail.flatMap fun piece => piece.1.text ++ piece.2

/-- The text with each match replaced. -/
def splice (f : Match α → List α) (s : Splitting α) : List α :=
  s.head ++ s.tail.flatMap fun piece => f piece.1 ++ piece.2

/-- The text with the marker behind what is kept of each match. -/
def mark (keep : Match α → List α) (marker : List α) : Splitting α → List α :=
  splice fun found => keep found ++ marker

/-- What is copied between the markers. -/
def runs (keep : Match α → List α) : List α → List (Match α × List α) → List (List α)
  | head, [] => [head]
  | head, (found, next) :: tail => (head ++ keep found) :: runs keep next tail

theorem runs_cons (keep : Match α → List α) (head : List α) (tail : List (Match α × List α)) :
    ∃ run rest, runs keep head tail = run :: rest := by
  cases tail with
  | nil => exact ⟨head, [], rfl⟩
  | cons piece tail => exact ⟨_, _, rfl⟩

theorem mark_eq_intercalate (keep : Match α → List α) (marker head : List α)
    (tail : List (Match α × List α)) :
    mark keep marker ⟨head, tail⟩ = marker.intercalate (runs keep head tail) := by
  induction tail generalizing head with
  | nil => simp [mark, splice, runs, List.intercalate]
  | cons piece tail ih =>
    obtain ⟨found, next⟩ := piece
    obtain ⟨run, rest, h_runs⟩ := runs_cons keep next tail
    have h_step : mark keep marker ⟨head, (found, next) :: tail⟩ =
        head ++ keep found ++ (marker ++ mark keep marker ⟨next, tail⟩) := by
      simp [mark, splice]
    rw [h_step, ih next, runs, h_runs, List.intercalate_cons_cons, List.append_assoc _ marker]

/-- A run stands in the source, where the matches keep their group or nothing. -/
theorem infix_source_of_mem_runs {keep : Match α → List α}
    (h_keep : ∀ found, keep found <+: found.text) {head run : List α}
    {tail : List (Match α × List α)} (h : run ∈ runs keep head tail) :
    run <:+: source ⟨head, tail⟩ := by
  induction tail generalizing head with
  | nil =>
    rw [List.mem_singleton.mp h]
    simp [source]
  | cons piece tail ih =>
    obtain ⟨found, next⟩ := piece
    have h_source : source ⟨head, (found, next) :: tail⟩ =
        head ++ found.text ++ source ⟨next, tail⟩ := by
      simp [source]
    rw [h_source]
    rcases List.mem_cons.mp h with rfl | h
    · exact ((List.prefix_append_right_inj head).mpr (h_keep found)).isInfix.trans
        (List.prefix_append _ _).isInfix
    · exact (ih h).trans (List.suffix_append _ _).isInfix

/-- **Marking creates no word** apart from the marker. -/
theorem infix_mark {m : Marker α} {word : List α} (h_apart : m.Apart word) (h_ne : word ≠ [])
    {keep : Match α → List α} (h_keep : ∀ found, keep found <+: found.text) {s : Splitting α}
    (h : word <:+: s.mark keep m.text) : word <:+: s.source := by
  obtain ⟨head, tail⟩ := s
  rw [mark_eq_intercalate] at h
  obtain ⟨run, h_run, h_infix⟩ := h_apart.infix_intercalate h h_ne
  exact h_infix.trans (infix_source_of_mem_runs h_keep h_run)

end Splitting
end Framework
