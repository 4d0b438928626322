import ControlPlane.Framework.Legible
import ControlPlane.Model.Cleanup

/-!
# An archive can be read back

The text that `archive_logs` stores is printed by `json.dumps`, which escapes all but printable
ASCII. No two characters have escapes of which one begins as the other does (`unescape` reads them
back), so that a string ends at its first bare quote, an array at its first bare bracket and a
number at the comma or the brace behind it. Hence the text of an archive determines its log group,
its streams and all of their events, in their order (`archive_injective`).
-/

namespace ControlPlane.Cleanup

open Framework

namespace Dumps

/-! ### Escapes -/

/-- The value of a hexadecimal digit, as `\uXXXX` has them. -/
def hexValue (c : Char) : ℕ :=
  if c.isDigit then c.toNat - '0'.toNat else c.toNat - 'a'.toNat + 10

theorem hexValue_digitChar {n : ℕ} (h : n < 16) : hexValue (Nat.digitChar n) = n := by
  have h_all : ∀ n < 16, hexValue (Nat.digitChar n) = n := by decide
  exact h_all n h

/-- The escape of a character behind its backslash, and what follows it. -/
def unescapeBehind : List Char → Option (Char × List Char)
  | '"' :: rest => some ('"', rest)
  | '\\' :: rest => some ('\\', rest)
  | 'n' :: rest => some ('\n', rest)
  | 'r' :: rest => some ('\r', rest)
  | 't' :: rest => some ('\t', rest)
  | 'f' :: rest => some ('\x0c', rest)
  | 'b' :: rest => some ('\x08', rest)
  | 'u' :: a :: b :: c :: d :: rest =>
    let high := ((hexValue a * 16 + hexValue b) * 16 + hexValue c) * 16 + hexValue d
    if 0xd800 ≤ high ∧ high < 0xdc00 then
      -- the first half of a pair
      match rest with
      | '\\' :: 'u' :: a :: b :: c :: d :: rest =>
        let low := ((hexValue a * 16 + hexValue b) * 16 + hexValue c) * 16 + hexValue d
        some (Char.ofNat (0x10000 + (high - 0xd800) * 0x400 + (low - 0xdc00)), rest)
      | _ => none
    else some (Char.ofNat high, rest)
  | _ => none

/-- The first character of the inside of a string, and what follows it. -/
def unescape : List Char → Option (Char × List Char)
  | [] => none
  | c :: rest => if c = '\\' then unescapeBehind rest else some (c, rest)

/-- The characters of `\uXXXX`. -/
theorem toList_unicode (code : ℕ) :
    (unicode code).toList = ['\\', 'u', Nat.digitChar (code / 4096 % 16),
      Nat.digitChar (code / 256 % 16), Nat.digitChar (code / 16 % 16),
      Nat.digitChar (code / 1 % 16)] := by
  simp only [unicode, String.toList_append, String.toList_ofList, List.map]
  rfl

/-- Four digits give the code back. -/
theorem hexValue_code {code : ℕ} (h : code < 0x10000) :
    ((hexValue (Nat.digitChar (code / 4096 % 16)) * 16 +
      hexValue (Nat.digitChar (code / 256 % 16))) * 16 +
      hexValue (Nat.digitChar (code / 16 % 16))) * 16 +
      hexValue (Nat.digitChar (code / 1 % 16)) = code := by
  simp only [hexValue_digitChar (Nat.mod_lt _ (by decide : 0 < 16))]
  omega

/-- No character has a code that is half of a pair. -/
theorem toNat_cases (c : Char) : c.toNat < 0xd800 ∨ (0xdfff < c.toNat ∧ c.toNat < 0x110000) :=
  c.valid

/-- A character stands for itself, or a backslash and its escape do. -/
theorem escape_cases (c : Char) :
    ((escape c).toList = [c] ∧ c ≠ '"' ∧ c ≠ '\\') ∨
    ∃ behind, (escape c).toList = '\\' :: behind ∧
      ∀ s, unescapeBehind (behind ++ s) = some (c, s) := by
  unfold escape
  -- one case for each way in which a character is printed
  split
  next h => exact .inr ⟨['"'], rfl, fun s => by rw [h]; rfl⟩
  next h_quote =>
  split
  next h => exact .inr ⟨['\\'], rfl, fun s => by rw [h]; rfl⟩
  next h_slash =>
  split
  next h => exact .inr ⟨['n'], rfl, fun s => by rw [h]; rfl⟩
  split
  next h => exact .inr ⟨['r'], rfl, fun s => by rw [h]; rfl⟩
  split
  next h => exact .inr ⟨['t'], rfl, fun s => by rw [h]; rfl⟩
  split
  next h => exact .inr ⟨['f'], rfl, fun s => by rw [h]; rfl⟩
  split
  next h => exact .inr ⟨['b'], rfl, fun s => by rw [h]; rfl⟩
  split
  next => exact .inl ⟨String.toList_singleton c, h_quote, h_slash⟩
  split
  next h_plane =>
    refine .inr ⟨_, toList_unicode c.toNat, fun s => ?_⟩
    have h_high : ¬ (0xd800 ≤ c.toNat ∧ c.toNat < 0xdc00) := by
      have := toNat_cases c
      omega
    simp only [List.cons_append, List.nil_append, unescapeBehind, hexValue_code h_plane]
    rw [if_neg h_high, Char.ofNat_toNat]
  next h_plane =>
    have h_code := toNat_cases c
    have h_high : 0xd800 + (c.toNat - 0x10000) / 0x400 < 0x10000 := by omega
    have h_low : 0xdc00 + (c.toNat - 0x10000) % 0x400 < 0x10000 := by omega
    have h_text (high low : ℕ) : (unicode high ++ unicode low).toList =
        '\\' :: ((unicode high).toList.tail ++ (unicode low).toList) := by
      rw [String.toList_append, toList_unicode high]
      rfl
    refine .inr ⟨_, h_text _ _, fun s => ?_⟩
    rw [toList_unicode, toList_unicode]
    simp only [List.tail_cons, List.cons_append, List.nil_append, unescapeBehind,
      hexValue_code h_high, hexValue_code h_low]
    rw [if_pos (by omega)]
    have h_same : 0x10000 + (0xd800 + (c.toNat - 0x10000) / 0x400 - 0xd800) * 0x400 +
        (0xdc00 + (c.toNat - 0x10000) % 0x400 - 0xdc00) = c.toNat := by omega
    rw [h_same, Char.ofNat_toNat]

/-- The escape of a character is read back. -/
theorem unescape_escape (c : Char) (s : List Char) :
    unescape ((escape c).toList ++ s) = some (c, s) := by
  rcases escape_cases c with ⟨h_text, -, h_ne⟩ | ⟨behind, h_text, h_behind⟩
  · rw [h_text]
    exact if_neg h_ne
  · rw [h_text]
    exact h_behind s

theorem legible_escape : Legible Anything (fun c => (escape c).toList) := by
  intro c d s t _ _ h_eq
  have h_read := (unescape_escape c s).symm.trans
    ((congrArg unescape h_eq).trans (unescape_escape d t))
  obtain ⟨rfl, rfl⟩ := Prod.mk.inj (Option.some.inj h_read)
  exact ⟨rfl, rfl⟩

/-- Only the end of a string is a bare quote. -/
theorem opens_escape (c : Char) : Opens '"' (escape c).toList := by
  rcases escape_cases c with ⟨h_text, h_ne, -⟩ | ⟨behind, h_text, -⟩
  · exact ⟨c, [], h_text, h_ne⟩
  · exact ⟨'\\', behind, h_text, by decide⟩

/-! ### Strings, arrays and objects -/

theorem toList_string (s : String) : (string s).toList =
    ['"'] ++ (s.toList.flatMap (fun c => (escape c).toList) ++ ['"']) := by
  simp only [string, String.toList_append, String.toList_join, List.flatMap_map, List.append_assoc]
  rfl

/-- A string ends at its first bare quote. -/
theorem legible_string : Legible Anything (fun s => (string s).toList) := by
  have h_chars := (legible_escape.many opens_escape).behind ['"']
  intro a b s t h_s h_t h_eq
  simp only [toList_string] at h_eq
  exact h_chars.comp (fun _ _ h => String.toList_injective h) a b s t h_s h_t h_eq

/-- An array of items that begin with a brace. -/
theorem legible_array {α : Type} {item : α → String}
    (h : Legible Anything (fun a => (item a).toList)) (h_open : ∀ a, Opens ']' (item a).toList) :
    Legible Anything (fun items : List α => (array (items.map item)).toList) := by
  have h_list : Legible Anything (fun items : List α =>
      [',', ' '].intercalate (items.map fun a => (item a).toList) ++ [']']) :=
    h.list h_open (by decide) (fun _ => trivial) fun _ => trivial
  have h_items := h_list.behind ['[']
  intro a b s t h_s h_t h_eq
  refine h_items a b s t h_s h_t ?_
  simpa [array, Function.comp_def] using h_eq

theorem opens_object (members : List (String × String)) : Opens ']' (object members).toList :=
  ⟨'\x7b', _, by rw [object, String.append_assoc, String.toList_append]; rfl, by decide⟩

end Dumps

/-! ### Archives -/

/-- An event as its three members. -/
theorem legible_event : Legible Anything (fun event : Event => event.dumps.toList) := by
  have h_time : Legible Anything (fun time : ℤ => (toString time).toList ++ ['\x7d']) :=
    legible_integer.before _ fun _ _ c h_c => by
      obtain rfl := Option.some.inj h_c
      decide
  have h_message := Dumps.legible_string.pair
    (h_time.behind ([',', ' '] ++ (Dumps.string "timestamp").toList ++ [':', ' '])) fun _ _ _ =>
      trivial
  have h_event := (legible_integer.pair (h_message.behind
    ([',', ' '] ++ (Dumps.string "message").toList ++ [':', ' '])) fun _ _ _ c h_c => by
      obtain rfl := Option.some.inj h_c
      decide).behind (['\x7b'] ++ (Dumps.string "ingestionTime").toList ++ [':', ' '])
  have h_fields : Function.Injective
      fun event : Event => (event.ingestionTime, event.message, event.timestamp) := by
    rintro ⟨_, _, _⟩ ⟨_, _, _⟩ h
    obtain ⟨⟨⟩, ⟨⟩, ⟨⟩⟩ := h
    rfl
  intro a b s t h_s h_t h_eq
  refine h_event.comp h_fields a b s t h_s h_t ?_
  simpa [Event.dumps, Dumps.object] using h_eq

theorem legible_events : Legible Anything (fun events => (dumpsEvents events).toList) :=
  Dumps.legible_array legible_event fun _ => Dumps.opens_object _

/-- A stream as its events and its name. -/
def Captured.dumps (entry : Captured) : String :=
  Dumps.object [("events", dumpsEvents entry.events), ("stream", Dumps.string entry.stream)]

theorem legible_captured : Legible Anything (fun entry : Captured => entry.dumps.toList) := by
  have h_name : Legible Anything (fun name => (Dumps.string name).toList ++ ['\x7d']) :=
    Dumps.legible_string.before _ fun _ _ => trivial
  have h_entry := (legible_events.pair (h_name.behind
    ([',', ' '] ++ (Dumps.string "stream").toList ++ [':', ' '])) fun _ _ _ => trivial).behind
      (['\x7b'] ++ (Dumps.string "events").toList ++ [':', ' '])
  have h_fields : Function.Injective fun entry : Captured => (entry.events, entry.stream) := by
    rintro ⟨_, _⟩ ⟨_, _⟩ h
    obtain ⟨⟨⟩, ⟨⟩⟩ := h
    rfl
  intro a b s t h_s h_t h_eq
  refine h_entry.comp h_fields a b s t h_s h_t ?_
  simpa [Captured.dumps, Dumps.object] using h_eq

theorem archive_eq (group : String) (captured : List Captured) : archive group captured =
    Dumps.object [("group", Dumps.string group),
      ("streams", Dumps.array (captured.map Captured.dumps))] := rfl

/-- **The text of an archive tells what was archived**: its log group, and every stream with every
event, in their order. -/
theorem archive_injective {group group' : String} {captured captured' : List Captured}
    (h : archive group captured = archive group' captured') :
    group = group' ∧ captured = captured' := by
  have h_streams : Legible Anything (fun captured : List Captured =>
      (Dumps.array (captured.map Captured.dumps)).toList ++ ['\x7d']) :=
    (Dumps.legible_array legible_captured fun _ => Dumps.opens_object _).before _ fun _ _ => trivial
  have h_archive := (Dumps.legible_string.pair (h_streams.behind
    ([',', ' '] ++ (Dumps.string "streams").toList ++ [':', ' '])) fun _ _ _ => trivial).behind
      (['\x7b'] ++ (Dumps.string "group").toList ++ [':', ' '])
  have h_chars := congrArg String.toList h
  have h_same : (group, captured) = (group', captured') :=
    h_archive.injective trivial (by simpa [archive_eq, Dumps.object] using h_chars)
  exact Prod.mk.inj h_same

end ControlPlane.Cleanup
