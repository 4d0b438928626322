import ControlPlane.Model.Bootstrap

/-!
# Connection strings

What `bootstrap` relies on of the conninfo functions, `Conninfo.Lawful`: they print losslessly, they
change the given parameters only, and what they print depends on nothing else once all of these were
there.

The functions `plain` do so on the texts of this repository, in which nothing is quoted: a
parameter is a word `keyword=value`, the parameters that a string has are printed in the order of
libpq, and new ones behind them.
-/

namespace ControlPlane.Bootstrap

/-- `info | parameters` -/
def Info.update (info : Info) (parameters : List (String × String)) : Info := fun keyword =>
  (parameters.lookup keyword).or (info keyword)

/-- What is relied on of the conninfo functions: the empty string has no parameter; a string that is
made reads back as the old parameters updated by the new ones; and where no parameter is new, what
is made depends on the updated parameters only. -/
structure Conninfo.Lawful (conn : Conninfo) : Prop where
  parse_empty : conn.conninfoToDict "" = some fun _ => none
  lossless {base text : String} {parameters : List (String × String)}
    (h : conn.makeConninfo base parameters = some text) :
    ∃ info, conn.conninfoToDict base = some info ∧
      conn.conninfoToDict text = some (info.update parameters)
  deterministic {base base' : String} {info info' : Info}
    {parameters parameters' : List (String × String)}
    (h : conn.conninfoToDict base = some info) (h' : conn.conninfoToDict base' = some info')
    (h_old : ∀ entry ∈ parameters, (info entry.1).isSome)
    (h_old' : ∀ entry ∈ parameters', (info' entry.1).isSome)
    (h_same : info.update parameters = info'.update parameters') :
    conn.makeConninfo base parameters = conn.makeConninfo base' parameters'

/-! ### Words -/

namespace Plain

/-- The keywords in the order of libpq, as far as they occur here. -/
def keywords : List String :=
  ["service", "servicefile", "user", "password", "dbname", "host", "options", "sslmode",
    "sslrootcert"]

/-- No quotes are needed. -/
def isPlain (text : String) : Bool :=
  text ≠ "" && text.toList.all fun c => c.isAlphanum || "-_./:".toList.contains c

/-- A keyword of libpq with a plain value. -/
def valid (entry : String × String) : Bool := keywords.contains entry.1 && isPlain entry.2

/-- `keyword=value` -/
def word (entry : String × String) : List Char := entry.1.toList ++ '=' :: entry.2.toList

/-- Reads a word back, split at its first `=`. -/
def readWord (word : List Char) : Option (String × String) :=
  match word.dropWhile (· ≠ '=') with
  | _ :: value => some (String.ofList (word.takeWhile (· ≠ '=')), String.ofList value)
  | [] => none

/-- The words, with a blank between any two. -/
def print (entries : List (String × String)) : String :=
  String.ofList ([' '].intercalate (entries.map word))

/-- Reads a printed text back, word by word. -/
def read (text : String) : Option (List (String × String)) :=
  if text = "" then some [] else (text.toList.splitOn ' ').mapM readWord

/-- The value of each keyword that is there. -/
def lookup (entries : List (String × String)) : Info := fun keyword => entries.lookup keyword

/-- `conninfo_to_dict`, on plain texts. -/
def parse (text : String) : Option Info := do
  let entries ← read text
  if entries.all valid then some (lookup entries) else none

/-- The parameters that a string has, and the new ones. -/
def updated (info : Info) (parameters : List (String × String)) : List (String × String) :=
  (keywords.filterMap fun keyword =>
    (info keyword).map fun value => (keyword, (parameters.lookup keyword).getD value)) ++
    parameters.filter fun entry => info entry.1 = none

/-- `make_conninfo`, on plain texts. -/
def make (base : String) (parameters : List (String × String)) : Option String := do
  let info ← parse base
  if (updated info parameters).all valid then some (print (updated info parameters)) else none

/-- No keyword has a blank or `=` in it, the two characters that separate. -/
theorem keyword_chars : ∀ keyword ∈ keywords, ∀ c ∈ keyword.toList, c ≠ '=' ∧ c ≠ ' ' := by
  have h_all : (keywords.all fun keyword => keyword.toList.all fun c => c ≠ '=' && c ≠ ' ') =
      true := by decide
  intro keyword h_keyword c h_c
  have h_chars := List.all_eq_true.mp (List.all_eq_true.mp h_all keyword h_keyword) c h_c
  rwa [Bool.and_eq_true, decide_eq_true_eq, decide_eq_true_eq] at h_chars

/-- A word is read back as it was. -/
theorem readWord_word {entry : String × String} (h : valid entry = true) :
    readWord (word entry) = some entry := by
  have h_key : ∀ c ∈ entry.1.toList, (c ≠ '=' : Bool) = true := fun c h_c => by
    have h_keyword := List.contains_iff_mem.mp ((Bool.and_eq_true _ _).mp h).1
    exact decide_eq_true (keyword_chars entry.1 h_keyword c h_c).1
  -- the first `=` of the word is the one between the two, since the keyword has none
  have h_drop : (word entry).dropWhile (· ≠ '=') = '=' :: entry.2.toList := by
    rw [word, List.dropWhile_append_of_pos h_key]
    rfl
  have h_take : (word entry).takeWhile (· ≠ '=') = entry.1.toList := by
    rw [word, List.takeWhile_append_of_pos h_key]
    simp
  rw [readWord, h_drop, h_take]
  simp

/-- A word has no blank in it, so the blanks of a text stand between words. -/
theorem space_notMem {entry : String × String} (h : valid entry = true) : ' ' ∉ word entry := by
  obtain ⟨h_key, h_value⟩ := (Bool.and_eq_true _ _).mp h
  intro h_mem
  rcases List.mem_append.mp h_mem with h_mem | h_mem
  · exact (keyword_chars entry.1 (List.contains_iff_mem.mp h_key) ' ' h_mem).2 rfl
  · rcases List.mem_cons.mp h_mem with h_mem | h_mem
    · cases h_mem
    · have h_all := List.all_eq_true.mp ((Bool.and_eq_true _ _).mp h_value).2 ' ' h_mem
      revert h_all
      decide

/-- What is printed is read back. -/
theorem read_print {entries : List (String × String)} (h : entries.all valid = true) :
    read (print entries) = some entries := by
  have h_valid := List.all_eq_true.mp h
  cases entries with
  | nil => rfl
  | cons entry rest =>
    -- a printed word is never the empty text, which `read` takes for no words
    have h_ne : print (entry :: rest) ≠ "" := by
      intro h_eq
      have h_chars := congrArg String.toList h_eq
      rw [print, String.toList_ofList] at h_chars
      cases rest <;> simp [word] at h_chars
    -- no word has a blank, so splitting undoes the intercalation
    have h_words : (print (entry :: rest)).toList.splitOn ' ' = (entry :: rest).map word := by
      rw [print, String.toList_ofList]
      refine List.splitOn_intercalate ' ' (fun l h_l => ?_) (by simp)
      obtain ⟨other, h_other, rfl⟩ := List.mem_map.mp h_l
      exact space_notMem (h_valid other h_other)
    rw [read, if_neg h_ne, h_words, List.mapM_map]
    -- by induction on the words
    generalize entry :: rest = entries at h_valid
    induction entries with
    | nil => rfl
    | cons entry rest ih =>
      obtain ⟨h_entry, h_rest⟩ := List.forall_mem_cons.mp h_valid
      rw [List.mapM_cons, Function.comp_apply, readWord_word h_entry, ih h_rest]
      rfl

/-- What is printed parses to the parameters printed. -/
theorem parse_print {entries : List (String × String)} (h : entries.all valid = true) :
    parse (print entries) = some (lookup entries) := by
  rw [parse, read_print h]
  exact if_pos h

/-! ### The two functions -/

/-- Looking up a keyword in the table of a function on keys gives the value of the function. -/
theorem lookup_filterMap {f : Info} {keys : List String} {keyword : String} :
    (keys.filterMap fun key => (f key).map (key, ·)).lookup keyword =
      if keyword ∈ keys then f keyword else none := by
  induction keys with
  | nil => rfl
  | cons key keys ih =>
    -- a key without a value leaves no entry, so it is passed over like another key
    by_cases h_eq : keyword = key
    · subst h_eq
      cases h_value : f keyword with
      | none => simp [h_value, ih]
      | some value => simp [h_value]
    · have h_beq : (keyword == key) = false := by simpa using h_eq
      cases h_value : f key with
      | none => simp [h_value, ih, h_eq]
      | some value => simp [h_value, ih, h_eq, List.lookup_cons, h_beq]

/-- The new parameters hold no keyword that was there. -/
theorem lookup_filter {info : Info} {parameters : List (String × String)} {keyword : String} :
    (parameters.filter fun entry => info entry.1 = none).lookup keyword =
      if info keyword = none then parameters.lookup keyword else none := by
  induction parameters with
  | nil => simp
  | cons entry parameters ih =>
    obtain ⟨key, value⟩ := entry
    by_cases h_eq : keyword = key
    · subst h_eq
      by_cases h_none : info keyword = none
      · simp [h_none]
      · simp [h_none, ih]
    · have h_beq : (keyword == key) = false := by simpa using h_eq
      by_cases h_none : info key = none
      · simp [h_none, ih, List.lookup_cons, h_beq]
      · simp [h_none, ih, List.lookup_cons, h_beq]

/-- A parameter of a string that parses is plain. -/
theorem valid_of_parse {text : String} {info : Info} (h : parse text = some info)
    {keyword value : String} (h_value : info keyword = some value) :
    valid (keyword, value) = true := by
  obtain ⟨entries, -, h⟩ := Option.bind_eq_some_iff.mp h
  obtain ⟨h_all, h⟩ := Option.ite_none_right_eq_some.mp h
  obtain rfl := Option.some.inj h
  obtain ⟨before, after, rfl, -⟩ := List.lookup_eq_some_iff.mp h_value
  exact List.all_eq_true.mp h_all (keyword, value) (by simp)

/-- A parameter of a string that parses is one of libpq. -/
theorem mem_keywords {text : String} {info : Info} (h : parse text = some info) {keyword : String}
    (h_some : info keyword ≠ none) : keyword ∈ keywords := by
  obtain ⟨value, h_value⟩ := Option.ne_none_iff_exists'.mp h_some
  exact List.contains_iff_mem.mp ((Bool.and_eq_true _ _).mp (valid_of_parse h h_value)).1

/-- With plain parameters, what is printed is plain again. -/
theorem valid_updated {text : String} {info : Info} {parameters : List (String × String)}
    (h : parse text = some info) (h_parameters : ∀ entry ∈ parameters, valid entry = true) :
    (updated info parameters).all valid = true := by
  refine List.all_eq_true.mpr fun entry h_entry => ?_
  rcases List.mem_append.mp h_entry with h_entry | h_entry
  · obtain ⟨keyword, -, h_map⟩ := List.mem_filterMap.mp h_entry
    obtain ⟨value, h_value, rfl⟩ := Option.map_eq_some_iff.mp h_map
    cases h_lookup : parameters.lookup keyword with
    | none => exact valid_of_parse h h_value
    | some new =>
      obtain ⟨before, after, rfl, -⟩ := List.lookup_eq_some_iff.mp h_lookup
      exact h_parameters (keyword, new) (by simp)
  · exact h_parameters entry (List.mem_filter.mp h_entry).1

/-- The list that is printed holds the old parameters updated by the new ones. -/
theorem lookup_updated {info : Info} {parameters : List (String × String)}
    (h : ∀ keyword, info keyword ≠ none → keyword ∈ keywords) :
    lookup (updated info parameters) = info.update parameters := by
  funext keyword
  have h_first :=
    @lookup_filterMap (fun key => (info key).map ((parameters.lookup key).getD ·)) keywords keyword
  simp only [Option.map_map, Function.comp_def] at h_first
  -- a keyword is in the first part if it was there, and in the second if it was not
  rw [lookup, updated, List.lookup_append, h_first, lookup_filter, Info.update]
  cases h_info : info keyword with
  | none => simp
  | some value =>
    rw [if_pos (h keyword (by simp [h_info]))]
    cases parameters.lookup keyword <;> simp

/-- Where no parameter is new, the list printed is a function of the updated parameters. -/
theorem updated_eq {info : Info} {parameters : List (String × String)}
    (h : ∀ entry ∈ parameters, (info entry.1).isSome) :
    updated info parameters =
      keywords.filterMap fun keyword => (info.update parameters keyword).map (keyword, ·) := by
  -- nothing is appended
  have h_new : (parameters.filter fun entry => info entry.1 = none) = [] := by
    refine List.filter_eq_nil_iff.mpr fun entry h_entry => ?_
    simpa using Option.isSome_iff_ne_none.mp (h entry h_entry)
  rw [updated, h_new, List.append_nil]
  refine congrArg (List.filterMap · keywords) (funext fun keyword => ?_)
  cases h_info : info keyword with
  | none =>
    -- a keyword that was not there is not among the parameters
    have h_lookup : parameters.lookup keyword = none := by
      refine List.lookup_eq_none_iff.mpr fun entry h_entry => ?_
      have h_some := h entry h_entry
      simp only [bne_iff_ne, ne_eq]
      rintro rfl
      simp [h_info] at h_some
    simp [Info.update, h_lookup, h_info]
  | some value => cases h_lookup : parameters.lookup keyword <;>
    simp [Info.update, h_lookup, h_info]

end Plain

/-- The conninfo functions on plain texts. -/
def plain : Conninfo where
  conninfoToDict := Plain.parse
  makeConninfo := Plain.make
  str
    | .string text => some text
    | _ => none

/-- The plain functions meet all that is relied on. -/
theorem plain_lawful : plain.Lawful where
  parse_empty := rfl
  lossless {base text parameters} h := by
    obtain ⟨info, h_info, h⟩ := Option.bind_eq_some_iff.mp h
    obtain ⟨h_valid, h⟩ := Option.ite_none_right_eq_some.mp h
    obtain rfl := Option.some.inj h
    have h_keywords : ∀ keyword, info keyword ≠ none → keyword ∈ Plain.keywords :=
      fun _ => Plain.mem_keywords h_info
    exact ⟨info, h_info, (Plain.parse_print h_valid).trans
      (congrArg some (Plain.lookup_updated h_keywords))⟩
  deterministic {base base' info info' parameters parameters'} h h' h_old h_old' h_same := by
    have h_updated : Plain.updated info parameters = Plain.updated info' parameters' := by
      -- both lists are the same function of the same parameters
      rw [Plain.updated_eq h_old, Plain.updated_eq h_old', h_same]
    show Plain.make base parameters = Plain.make base' parameters'
    have h_base : Plain.parse base = some info := h
    have h_base' : Plain.parse base' = some info' := h'
    rw [Plain.make, Plain.make, h_base, h_base']
    simp only [Option.bind_eq_bind, Option.bind_some, h_updated]

/-- On plain parameters `make_conninfo` succeeds. -/
theorem plain_prints {base : String} {info : Info} {parameters : List (String × String)}
    (h : plain.conninfoToDict base = some info)
    (h_parameters : ∀ entry ∈ parameters, Plain.valid entry = true) :
    (plain.makeConninfo base parameters).isSome := by
  have h_base : Plain.parse base = some info := h
  show (Plain.make base parameters).isSome
  rw [Plain.make, h_base]
  simp only [Option.bind_eq_bind, Option.bind_some,
    if_pos (Plain.valid_updated h_base h_parameters),
    Option.isSome_some]

end ControlPlane.Bootstrap
