import Mathlib.Data.List.Basic
import Mathlib.Data.String.Basic
import Mathlib.Data.Nat.Notation

/-!
# Texts that can be told apart

A printer is **legible** (`Legible`) if what it prints can be told from the rest behind it: two
texts that agree print the same value and have the same rest. Where a printer does not mark its own
end, as that of a number, this holds only in front of the rests that may follow there, so the notion
takes them as a parameter.

* `Legible.pair` and `Legible.list` put printers one behind the other: what follows the first has to
  be one of its rests;
* `legible_word` is the printer whose characters do not occur at the beginning of a rest;
* `Legible.injective` is what it is for: nothing that was printed is lost.
-/

namespace Framework

variable {α β : Type} {Rest Rest' : List Char → Prop} {print : α → List Char}

/-- In front of such a rest the text tells what was printed and where it ends. -/
def Legible (Rest : List Char → Prop) (print : α → List Char) : Prop :=
  ∀ a b s t, Rest s → Rest t → print a ++ s = print b ++ t → a = b ∧ s = t

/-- A printer that marks its own end. -/
abbrev Anything (_ : List Char) : Prop := True

/-- A legible printer loses nothing. -/
theorem Legible.injective (h : Legible Rest print) (h_nil : Rest []) : Function.Injective print :=
  fun a b h_eq => (h a b [] [] h_nil h_nil (congrArg (· ++ []) h_eq)).1

/-- The values of a type are printed through another one. -/
theorem Legible.comp (h : Legible Rest print) {f : β → α} (h_f : Function.Injective f) :
    Legible Rest (fun b => print (f b)) := by
  intro a b s t h_s h_t h_eq
  obtain ⟨h_same, rfl⟩ := h (f a) (f b) s t h_s h_t h_eq
  exact ⟨h_f h_same, rfl⟩

/-- The same text stands before each value. -/
theorem Legible.behind (h : Legible Rest print) (before : List Char) :
    Legible Rest (fun a => before ++ print a) := by
  intro a b s t h_s h_t h_eq
  rw [List.append_assoc, List.append_assoc, List.append_cancel_left_eq] at h_eq
  exact h a b s t h_s h_t h_eq

/-- The same text stands behind each value. -/
theorem Legible.before (h : Legible Rest print) (behind : List Char)
    (h_rest : ∀ s, Rest' s → Rest (behind ++ s)) : Legible Rest' (fun a => print a ++ behind) := by
  intro a b s t h_s h_t h_eq
  rw [List.append_assoc, List.append_assoc] at h_eq
  obtain ⟨rfl, h_behind⟩ := h a b _ _ (h_rest s h_s) (h_rest t h_t) h_eq
  exact ⟨rfl, List.append_cancel_left h_behind⟩

/-- Two values, one behind the other. -/
theorem Legible.pair {print' : β → List Char} (h : Legible Rest print)
    (h' : Legible Rest' print') (h_rest : ∀ b s, Rest' s → Rest (print' b ++ s)) :
    Legible Rest' (fun value : α × β => print value.1 ++ print' value.2) := by
  rintro ⟨a, a'⟩ ⟨b, b'⟩ s t h_s h_t h_eq
  rw [List.append_assoc, List.append_assoc] at h_eq
  obtain ⟨rfl, h_behind⟩ := h a b _ _ (h_rest a' s h_s) (h_rest b' t h_t) h_eq
  obtain ⟨rfl, rfl⟩ := h' a' b' s t h_s h_t h_behind
  exact ⟨rfl, rfl⟩

/-- The text does not begin with this character, and is not empty. -/
def Opens (close : Char) (text : List Char) : Prop := ∃ c cs, text = c :: cs ∧ c ≠ close

theorem Opens.append_ne {close : Char} {text : List Char} (h : Opens close text)
    (s t : List Char) : text ++ s ≠ close :: t := by
  obtain ⟨c, cs, rfl, h_ne⟩ := h
  exact fun h_eq => h_ne (List.cons.inj h_eq).1

/-- Values without a separator, up to a character with which none begins. -/
theorem Legible.many (h : Legible Anything print) {close : Char}
    (h_open : ∀ a, Opens close (print a)) :
    Legible Anything (fun items : List α => items.flatMap print ++ [close]) := by
  intro items items' s t h_s h_t h_eq
  induction items generalizing items' with
  | nil =>
    cases items' with
    | nil => exact ⟨rfl, (List.cons.inj h_eq).2⟩
    | cons b items' =>
      simp only [List.flatMap_cons, List.append_assoc] at h_eq
      exact absurd h_eq.symm ((h_open b).append_ne _ _)
  | cons a items ih =>
    simp only [List.flatMap_cons, List.append_assoc] at h_eq ih
    cases items' with
    | nil => exact absurd h_eq ((h_open a).append_ne _ _)
    | cons b items' =>
      simp only [List.flatMap_cons, List.append_assoc] at h_eq
      obtain ⟨rfl, h_items⟩ := h a b _ _ trivial trivial h_eq
      obtain ⟨rfl, rfl⟩ := ih items' h_items
      exact ⟨rfl, rfl⟩

/-- What stands behind the first item of a list. -/
def afterItem (sep : List Char) (close : Char) (print : α → List Char) (s : List Char) :
    List α → List Char
  | [] => close :: s
  | items => sep ++ (sep.intercalate (items.map print) ++ [close] ++ s)

theorem intercalate_cons (sep : List Char) (close : Char) (a : α) (items : List α)
    (s : List Char) :
    sep.intercalate ((a :: items).map print) ++ [close] ++ s =
      print a ++ afterItem sep close print s items := by
  cases items with
  | nil => simp [afterItem]
  | cons b items => simp [afterItem]

/-- A list with a separator that does not begin as the end does. -/
theorem Legible.list {comma close : Char} {gap : List Char} (h : Legible Rest print)
    (h_open : ∀ a, Opens close (print a)) (h_ne : comma ≠ close)
    (h_comma : ∀ s, Rest (comma :: s)) (h_close : ∀ s, Rest (close :: s)) :
    Legible Anything (fun items : List α =>
      (comma :: gap).intercalate (items.map print) ++ [close]) := by
  have h_rest : ∀ items s, Rest (afterItem (comma :: gap) close print s items) := by
    intro items s
    cases items with
    | nil => exact h_close s
    | cons b items => exact h_comma _
  intro items items' s t h_s h_t h_eq
  induction items generalizing items' with
  | nil =>
    cases items' with
    | nil => exact ⟨rfl, (List.cons.inj h_eq).2⟩
    | cons b items' =>
      refine absurd ?_ ((h_open b).append_ne (afterItem (comma :: gap) close print t items') s)
      rw [← intercalate_cons]
      exact h_eq.symm
  | cons a items ih =>
    replace h_eq := (intercalate_cons (comma :: gap) close a items s).symm.trans h_eq
    cases items' with
    | nil => exact absurd h_eq ((h_open a).append_ne _ _)
    | cons b items' =>
      replace h_eq := h_eq.trans (intercalate_cons (comma :: gap) close b items' t)
      obtain ⟨rfl, h_after⟩ := h a b _ _ (h_rest items s) (h_rest items' t) h_eq
      -- both lists end here, or both go on
      cases items with
      | nil =>
        cases items' with
        | nil => exact ⟨rfl, (List.cons.inj h_after).2⟩
        | cons _ _ => exact absurd (List.cons.inj h_after).1.symm h_ne
      | cons _ _ =>
        cases items' with
        | nil => exact absurd (List.cons.inj h_after).1 h_ne
        | cons b' items' =>
          obtain ⟨h_items, rfl⟩ := ih (b' :: items') (List.append_cancel_left h_after)
          exact ⟨congrArg _ h_items, rfl⟩

/-- The rests that do not go on with a character of a word. -/
def Apart (inWord : Char → Bool) (s : List Char) : Prop := ∀ c ∈ s.head?, inWord c = false

/-- A word ends in front of the first character that is not in words. -/
theorem legible_word {inWord : Char → Bool} (h_word : ∀ a, ∀ c ∈ print a, inWord c = true)
    (h_injective : Function.Injective print) : Legible (Apart inWord) print := by
  have h_take : ∀ a s, Apart inWord s → (print a ++ s).takeWhile inWord = print a := by
    intro a s h_s
    rw [List.takeWhile_append_of_pos (h_word a)]
    cases s with
    | nil => simp
    | cons c s => simp [h_s c rfl]
  intro a b s t h_s h_t h_eq
  have h_same : print a = print b := by rw [← h_take a s h_s, ← h_take b t h_t, h_eq]
  rw [h_same] at h_eq
  exact ⟨h_injective h_same, List.append_cancel_left h_eq⟩

/-! ### Numbers -/

/-- The characters of an integer. -/
def inInteger (c : Char) : Bool := c.isDigit || c = '-'

theorem repr_ne_neg (m n : ℕ) : m.repr ≠ "-" ++ n.repr := by
  intro h
  have h_mem : '-' ∈ Nat.toDigits 10 m := by
    have h_chars := congrArg String.toList h
    simp only [Nat.toList_repr, String.toList_append] at h_chars
    rw [h_chars]
    exact List.mem_append_left _ (by decide)
  exact absurd (Nat.isDigit_of_mem_toDigits (by decide) (by decide) h_mem) (by decide)

theorem natRepr_injective {m n : ℕ} (h : m.repr = n.repr) : m = n := by
  have h_digits : Nat.toDigits 10 m = Nat.toDigits 10 n := by
    rw [← Nat.toList_repr, ← Nat.toList_repr, h]
  rw [← Nat.ofDigitChars_toDigits (b := 10) (n := m) (by decide) (by decide), h_digits,
    Nat.ofDigitChars_toDigits (by decide) (by decide)]

/-- Integers are printed in different ways. -/
theorem intToString_injective : Function.Injective (fun value : ℤ => (toString value).toList) := by
  intro a b h
  have h_repr : a.repr = b.repr := String.toList_injective h
  rw [Int.repr_eq_if, Int.repr_eq_if] at h_repr
  split at h_repr <;> split at h_repr
  · have := natRepr_injective h_repr
    omega
  · exact absurd h_repr (repr_ne_neg _ _)
  · exact absurd h_repr.symm (repr_ne_neg _ _)
  · have := natRepr_injective (String.append_right_inj "-" |>.mp h_repr)
    omega

theorem mem_intToString {value : ℤ} {c : Char} (h : c ∈ (toString value).toList) :
    inInteger c = true := by
  have h_digit : ∀ n : ℕ, c ∈ n.repr.toList → inInteger c = true := fun n h_mem => by
    rw [Nat.toList_repr] at h_mem
    rw [inInteger, Nat.isDigit_of_mem_toDigits (by decide) (by decide) h_mem, Bool.true_or]
  rw [Int.toString_eq_repr, Int.repr_eq_if] at h
  split at h
  · exact h_digit _ h
  · rw [String.toList_append] at h
    rcases List.mem_append.mp h with h_sign | h_mem
    · obtain rfl := List.mem_singleton.mp h_sign
      decide
    · exact h_digit _ h_mem

/-- An integer ends where no digit follows. -/
theorem legible_integer :
    Legible (Apart inInteger) (fun value : ℤ => (toString value).toList) :=
  legible_word (fun _ _ h => mem_intToString h) intToString_injective

end Framework
