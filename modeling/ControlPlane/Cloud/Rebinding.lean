import ControlPlane.Cloud.Conninfo
import ControlPlane.Framework.Fallible

/-!
# The documents of the roles

What `bootstrap` writes (`Sound`), and what rebinding makes of it: a document with at most other
hosts (`Rebinds`), which rebinding to the same hosts leaves as it is (`Settled`).
-/

namespace ControlPlane.Bootstrap

open Framework

section Documents

variable (conn : Conninfo) (arns : Arns) (hosts : Database → String)

/-- What a connection string has that `bootstrap` made. -/
def Complete (info : Info) : Prop :=
  ∀ keyword ∈ ["password", "host", "sslmode", "sslrootcert"], (info keyword).isSome

/-- A text is not empty, and as a connection string it has the user of its field and is complete. -/
def SoundText (key : Role) (field text : String) : Prop :=
  text ≠ "" ∧ (isDsn field = true → ∃ info, conn.conninfoToDict text = some info ∧
    authorized key field info = true ∧ Complete info)

/-- An entry that is such a text. -/
def SoundEntry (key : Role) (entry : String × Json String) : Prop :=
  ∃ text, entry.2 = .string text ∧ SoundText conn key entry.1 text

/-- A document of the role, as `bootstrap` writes them. -/
def Sound (key : Role) (document : Document) : Prop :=
  document.map Prod.fst = runtimeKeys key ∧ ∀ entry ∈ document, SoundEntry conn key entry

/-- The database that the connection string in a field is for. -/
def fieldDatabase : String → Option Database
  | "CONTROL_DSN" => some .control
  | "REMOTE_DSN" => some .downstream
  | _ => none

/-- A connection string to a host, with TLS, that says otherwise what another one says. -/
structure Bound (host : String) (info info' : Info) : Prop where
  host : info' "host" = some host
  mode : info' "sslmode" = some "verify-full"
  root : info' "sslrootcert" = some "/app/certs/rds-global-bundle.pem"
  kept : ∀ keyword, keyword ∉ ["host", "sslmode", "sslrootcert"] → info' keyword = info keyword

/-- The same field, but for the host and the TLS parameters of a connection string. -/
def Rebinds (entry entry' : String × Json String) : Prop :=
  entry'.1 = entry.1 ∧ match fieldDatabase entry.1 with
  | some database => ∃ text text' info info', entry.2 = .string text ∧ entry'.2 = .string text' ∧
      conn.conninfoToDict text = some info ∧ conn.conninfoToDict text' = some info' ∧
      Bound (hosts database) info info'
  | none => entry'.2 = entry.2

/-- A connection string that rebinding leaves as it is. -/
def Settled (entry : String × Json String) : Prop :=
  isDsn entry.1 = true → ∃ text info, entry.2 = .string text ∧
    conn.conninfoToDict text = some info ∧
    conn.makeConninfo text (binding (hosts (databaseOf info))) = some text

end Documents

section Conninfo

variable {conn : Conninfo} {hosts : Database → String} {key : Role}

/-- Rebinding keeps a connection string complete. -/
theorem complete_update {info : Info} {host : String} (h : Complete info) :
    Complete (info.update (binding host)) := by
  intro keyword h_keyword
  rw [Info.update, Option.isSome_or, h keyword h_keyword, Bool.or_true]

/-- A complete connection string has all parameters that are rebound. -/
theorem binding_old {info : Info} {host : String} (h : Complete info) :
    ∀ entry ∈ binding host, (info entry.1).isSome := by
  have h_host := h "host" (by decide)
  have h_mode := h "sslmode" (by decide)
  have h_root := h "sslrootcert" (by decide)
  simp [binding, h_host, h_mode, h_root]

/-- Rebinding twice is rebinding once. -/
theorem update_update (info : Info) (host : String) :
    (info.update (binding host)).update (binding host) = info.update (binding host) := by
  funext keyword
  simp only [Info.update]
  cases (binding host).lookup keyword <;> rfl

/-- Rebinding gives the host and the certificate, and leaves the rest. -/
theorem bound_update (info : Info) (host : String) :
    Bound host info (info.update (binding host)) where
  host := rfl
  mode := rfl
  root := rfl
  kept keyword h_keyword := by
    have h_lookup : (binding host).lookup keyword = none := by
      refine List.lookup_eq_none_iff.mpr fun entry h_entry => ?_
      have h_name : entry.1 ∈ ["host", "sslmode", "sslrootcert"] :=
        List.mem_map_of_mem (f := Prod.fst) h_entry
      exact bne_iff_ne.mpr fun h_eq => h_keyword (h_eq ▸ h_name)
    rw [Info.update, h_lookup, Option.none_or]

/-- Only connection strings have a database. -/
theorem fieldDatabase_eq_none {field : String} (h : isDsn field = false) :
    fieldDatabase field = none := by
  unfold fieldDatabase
  split
  · exact absurd h (by decide)
  · exact absurd h (by decide)
  · rfl

/-- The user of a connection string tells its database. -/
theorem fieldDatabase_authorized {field : String} {info : Info}
    (h : authorized key field info = true) : fieldDatabase field = some (databaseOf info) := by
  simp only [authorized, Bool.and_eq_true, decide_eq_true_eq] at h
  obtain ⟨⟨h_some, h_user⟩, -⟩ := h
  obtain ⟨user, h_expected⟩ := Option.isSome_iff_exists.mp h_some
  rw [h_expected] at h_user
  rw [databaseOf, h_user]
  -- each field has one user, who belongs to one database
  unfold expectedUser at h_expected
  split at h_expected <;> cases h_expected <;> decide

/-- **A string that was rebound stays as it is** when it is rebound to the same host. -/
theorem makeConninfo_again (h_conn : conn.Lawful) {text text' host : String} {info : Info}
    (h_info : conn.conninfoToDict text = some info) (h_complete : Complete info)
    (h : conn.makeConninfo text (binding host) = some text') :
    conn.conninfoToDict text' = some (info.update (binding host)) ∧
      conn.makeConninfo text' (binding host) = some text' := by
  obtain ⟨_, h_base, h_text'⟩ := h_conn.lossless h
  obtain rfl := Option.some.inj (h_info.symm.trans h_base)
  refine ⟨h_text', ?_⟩
  rw [← h]
  -- both calls overwrite the same parameters of strings that have them
  refine h_conn.deterministic h_text' h_info ?_ (binding_old h_complete) ?_
  · exact binding_old (complete_update h_complete)
  · exact update_update info host

/-- A complete connection string is not the empty text. -/
theorem ne_empty (h_conn : conn.Lawful) {text : String} {info : Info}
    (h : conn.conninfoToDict text = some info) (h_complete : Complete info) : text ≠ "" := by
  rintro rfl
  rw [h_conn.parse_empty] at h
  obtain rfl := Option.some.inj h
  exact absurd (h_complete "host" (by decide)) (by simp)

/-- What rebinding makes of a field. -/
theorem revisedField_spec (h_conn : conn.Lawful) {entry entry' : String × Json String}
    (h_sound : SoundEntry conn key entry) (h : revisedField conn hosts key entry = some entry') :
    SoundEntry conn key entry' ∧ Rebinds conn hosts entry entry' ∧ Settled conn hosts entry' := by
  obtain ⟨field, _⟩ := entry
  obtain ⟨text, rfl, h_text⟩ := h_sound
  cases h_dsn : isDsn field with
  | false =>
    have h_entry : (field, Json.string text) = entry' := by simpa [revisedField, h_dsn] using h
    subst h_entry
    refine ⟨⟨text, rfl, h_text⟩, ⟨rfl, ?_⟩, fun h_settled => ?_⟩
    · rw [fieldDatabase_eq_none h_dsn]
    · exact absurd h_settled (by simp [h_dsn])
  | true =>
    obtain ⟨info, h_info, h_authorized, h_complete⟩ := h_text.2 h_dsn
    have h_map : (rebound conn hosts key field text).map (fun text => (field, Json.string text)) =
        some entry' := by simpa [revisedField, h_dsn] using h
    obtain ⟨text', h_rebound, rfl⟩ := Option.map_eq_some_iff.mp h_map
    -- the user of the string decides on the host
    have h_make : conn.makeConninfo text (binding (hosts (databaseOf info))) = some text' := by
      simpa [rebound, h_info, h_authorized] using h_rebound
    obtain ⟨h_info', h_again⟩ := makeConninfo_again h_conn h_info h_complete h_make
    have h_complete' : Complete (info.update (binding (hosts (databaseOf info)))) :=
      complete_update h_complete
    refine ⟨⟨text', rfl, ne_empty h_conn h_info' h_complete', fun _ => ?_⟩, ⟨rfl, ?_⟩, fun _ => ?_⟩
    · exact ⟨_, h_info', h_authorized, h_complete'⟩
    · rw [fieldDatabase_authorized h_authorized]
      exact ⟨text, text', info, _, rfl, rfl, h_info, h_info', bound_update info _⟩
    · exact ⟨text', _, rfl, h_info', h_again⟩

/-- A settled field is left as it is. -/
theorem revisedField_settled {entry : String × Json String} (h_sound : SoundEntry conn key entry)
    (h : Settled conn hosts entry) : revisedField conn hosts key entry = some entry := by
  obtain ⟨field, _⟩ := entry
  obtain ⟨text, rfl, h_text⟩ := h_sound
  cases h_dsn : isDsn field with
  | false => simp [revisedField, h_dsn]
  | true =>
    obtain ⟨info, h_info, h_authorized, -⟩ := h_text.2 h_dsn
    obtain ⟨_, info', ⟨⟩, h_info', h_make⟩ := h h_dsn
    obtain rfl := Option.some.inj (h_info.symm.trans h_info')
    simp [revisedField, h_dsn, rebound, h_info, h_authorized, h_make]

/-- A sound field can be revised where its parameters can be printed. -/
theorem revisedField_isSome {entry : String × Json String} (h_sound : SoundEntry conn key entry)
    (h : ∀ base info database, conn.conninfoToDict base = some info →
      (conn.makeConninfo base (binding (hosts database))).isSome) :
    ∃ entry', revisedField conn hosts key entry = some entry' := by
  obtain ⟨field, _⟩ := entry
  obtain ⟨text, rfl, h_text⟩ := h_sound
  cases h_dsn : isDsn field with
  | false => exact ⟨(field, .string text), by simp [revisedField, h_dsn]⟩
  | true =>
    obtain ⟨info, h_info, h_authorized, -⟩ := h_text.2 h_dsn
    obtain ⟨text', h_make⟩ := Option.isSome_iff_exists.mp
      (h text info (databaseOf info) h_info)
    exact ⟨(field, .string text'), by simp [revisedField, h_dsn, rebound, h_info, h_authorized,
      h_make]⟩

/-- What rebinding makes of a document. -/
theorem revised_spec (h_conn : conn.Lawful) {document document' : Document}
    (h_sound : Sound conn key document) (h : revised conn hosts key document = some document') :
    Sound conn key document' ∧ List.Forall₂ (Rebinds conn hosts) document document' ∧
      ∀ entry ∈ document', Settled conn hosts entry := by
  have h_fields := forall₂_of_mapM h
  obtain ⟨h_keys, h_entries⟩ := h_sound
  rw [Sound, ← h_keys]
  clear h h_keys
  -- one field after the other; the keys stay those of the document
  induction h_fields with
  | nil => exact ⟨⟨rfl, nofun⟩, .nil, nofun⟩
  | cons h_field _ ih =>
    obtain ⟨h_entry, h_rest⟩ := List.forall_mem_cons.mp h_entries
    obtain ⟨h_new, h_rebinds, h_settled⟩ := revisedField_spec h_conn h_entry h_field
    obtain ⟨⟨h_keys, h_sound⟩, h_all, h_done⟩ := ih h_rest
    refine ⟨⟨?_, List.forall_mem_cons.mpr ⟨h_new, h_sound⟩⟩, .cons h_rebinds h_all, ?_⟩
    · rw [List.map_cons, List.map_cons, h_rebinds.1, h_keys]
    · exact List.forall_mem_cons.mpr ⟨h_settled, h_done⟩

/-- A settled document is left as it is. -/
theorem revised_settled {document : Document} (h_sound : Sound conn key document)
    (h : ∀ entry ∈ document, Settled conn hosts entry) :
    revised conn hosts key document = some document :=
  mapM_self fun entry h_entry => revisedField_settled (h_sound.2 entry h_entry) (h entry h_entry)

/-- A field that is no connection string is left as it is. -/
theorem lookup_rebinds {document document' : Document} {field : String}
    (h : List.Forall₂ (Rebinds conn hosts) document document')
    (h_field : fieldDatabase field = none) :
    document'.lookup field = document.lookup field := by
  induction h with
  | nil => rfl
  | @cons entry entry' _ _ h_entry _ ih =>
    obtain ⟨h_name, h_value⟩ := h_entry
    rw [← Prod.eta entry, ← Prod.eta entry', List.lookup_cons, List.lookup_cons, h_name, ih]
    by_cases h_eq : field = entry.1
    -- a field without a database keeps its value
    · subst h_eq
      rw [h_field] at h_value
      rw [h_value]
    · have h_beq : (field == entry.1) = false := by simpa using h_eq
      rw [h_beq]

/-- A sound document has contents. -/
theorem contents_sound {document : Document} (h : Sound conn key document) :
    contents (.object document) = some document := by
  cases document with
  | nil => cases key <;> cases h.1
  | cons entry entries => rfl

/-- A sound document meets the contract of its role. -/
theorem contract_sound {document : Document} (h : Sound conn key document) :
    contract key document = true := by
  have h_text : document.all (isText ·.2) = true := by
    refine List.all_eq_true.mpr fun entry h_entry => ?_
    obtain ⟨text, h_value, h_ne, -⟩ := h.2 entry h_entry
    rw [h_value]
    exact decide_eq_true h_ne
  rw [contract, h.1, h_text]
  cases key <;> decide

/-- The roles that share a token. -/
def executors : List Role := [.worker, .remote]

/-- The document of an executor has a token. -/
theorem token_sound {document : Document} (h : Sound conn key document) (h_key : key ∈ executors) :
    ∃ text, text ≠ "" ∧ document.lookup "EXECUTOR_TOKEN" = some (.string text) := by
  have h_mem : "EXECUTOR_TOKEN" ∈ document.map Prod.fst := by
    rw [h.1]
    revert h_key
    cases key <;> decide
  obtain ⟨value, h_value⟩ : ∃ value, document.lookup "EXECUTOR_TOKEN" = some value := by
    refine Option.ne_none_iff_exists'.mp fun h_none => ?_
    obtain ⟨entry, h_entry, h_name⟩ := List.mem_map.mp h_mem
    simpa [h_name] using List.lookup_eq_none_iff.mp h_none entry h_entry
  -- the entry is one of the document, whose entries are texts
  obtain ⟨before, after, h_document, -⟩ := List.lookup_eq_some_iff.mp h_value
  obtain ⟨text, rfl, h_ne, -⟩ := h.2 ("EXECUTOR_TOKEN", value) (by simp [h_document])
  exact ⟨text, h_ne, h_value⟩

end Conninfo

end ControlPlane.Bootstrap
