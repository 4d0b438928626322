import ControlPlane.Cloud.Rebinding

/-!
# One attempt

The rule of a run of `bootstrap` up to its documents: `Secured` says that whatever Secrets Manager
answers, and wherever the run is cut short, `Safe` holds of the vault, and that the run raises only
because a call failed or a master secret or a parameter is not as it should be, `Reliable` being the
contrary. The documents that the loop over the roles finds or puts there are those of their roles,
and share the token of the executors (`Loading`).
-/

namespace ControlPlane.Bootstrap

open Framework
open Framework.Dialogue hiding call

/-! ### The vault -/

/-- Secrets Manager: what the secrets decode to, and all that was put there. -/
structure Vault where
  secrets : String → Option (Json String)
  puts : List (String × Document)

/-- A document is put as the current version of a secret. -/
def Vault.put (s : Vault) (secretId : String) (document : Document) : Vault where
  secrets := Function.update s.secrets secretId (some (.object document))
  puts := s.puts ++ [(secretId, document)]

/-- What a call may answer and leave behind. Of the secrets of others, and of the databases, nothing
is known; a call that fails may have had its effect. -/
def Serves (arns : Arns) (s : Vault) : (q : Question) → Replies Question.Reply q → Vault → Prop
  | .getSecretValue secretId, some found, s' =>
    s' = s ∧ ∀ key, secretId = arns.arn key → found = s.secrets secretId
  | .putSecretValue secretId document, some _, s' => s' = s.put secretId document
  | .putSecretValue secretId document, none, s' => s' = s ∨ s' = s.put secretId document
  | _, _, s' => s' = s

/-- The only call that changes the vault. -/
def Question.writes : Question → Bool
  | .putSecretValue _ _ => true
  | _ => false

/-- The secrets that the roles have before any run. -/
def Empty (arns : Arns) (s : Vault) : Prop := ∀ key, s.secrets (arns.arn key) = none

/-! ### One attempt -/

/-- A run of `bootstrap`, and the vault before it. -/
structure Attempt where
  conn : Conninfo
  lawful : conn.Lawful
  arns : Arns
  inputs : Inputs
  serves : Service Vault Question (Replies Question.Reply)
  truthful {s s' : Vault} {q : Question} {reply : Replies Question.Reply q}
    (h : serves s q reply s') : Serves arns s q reply s'
  before : Vault
  /-- The texts that the conninfo functions can print. -/
  printable : String → Prop

/-- The secrets of the executors that are there have this token. -/
def Shares (arns : Arns) (token : Json String) (s : Vault) : Prop :=
  ∀ key ∈ executors, ∀ document, s.secrets (arns.arn key) = some (.object document) →
    document.lookup "EXECUTOR_TOKEN" = some token

/-- Every secret that a role has decodes to a document that is sound for the role, and the executors
share one token. -/
structure Consistent (conn : Conninfo) (arns : Arns) (s : Vault) : Prop where
  sound (key : Role) (value : Json String) (h : s.secrets (arns.arn key) = some value) :
    ∃ document, value = .object document ∧ Sound conn key document
  shares : ∃ token, Shares arns token s

/-- The parameters that `bootstrap` prints. -/
def parameterNames : List String := ["host", "dbname", "user", "password", "sslmode", "sslrootcert"]

/-- The values among them that are constants. -/
def constants : List String :=
  ["verify-full", rootCertificate, "control_api", "control_worker", "synthetic_remote",
    "control_audit", "remote_audit", "control_observer"]

namespace Attempt

variable (a : Attempt)

/-- A master secret as RDS writes it. -/
def Master (master : Document) : Prop :=
  ∃ username password, master.lookup "username" = some username ∧
    master.lookup "password" = some password ∧
    ∀ text, a.conn.str username = some text ∨ a.conn.str password = some text → a.printable text

/-- No call fails, the master secrets are as they should be, and the parameters can be printed. -/
structure Reliable : Prop where
  answers (s : Vault) (q : Question) (s' : Vault) : ¬ a.serves s q none s'
  tokens (s : Vault) (token : Token) (s' : Vault) (h : a.serves s .tokenUrlsafe (some token) s') :
    a.printable token.1
  masters (s : Vault) (database : Database) (found : Option (Json String)) (s' : Vault)
    (h : a.serves s (.getSecretValue (a.inputs.masters database)) (some found) s') :
    ∃ value master, found = some value ∧ contents value = some master ∧ a.Master master
  hosts (database : Database) : a.printable (a.inputs.hosts database)
  databaseName : a.printable a.inputs.databaseName
  constants : ∀ text ∈ constants, a.printable text
  prints (base : String) (info : Info) (parameters : List (String × String))
    (h : a.conn.conninfoToDict base = some info)
    (h_printable : ∀ entry ∈ parameters, entry.1 ∈ parameterNames ∧ a.printable entry.2) :
    (a.conn.makeConninfo base parameters).isSome

/-- What holds wherever the run stops. -/
structure Safe (s : Vault) : Prop where
  consistent : Consistent a.conn a.arns s
  kept (key : Role) (document : Document)
    (h : a.before.secrets (a.arns.arn key) = some (.object document)) :
    ∃ document', s.secrets (a.arns.arn key) = some (.object document') ∧
      (document' = document ∨
        List.Forall₂ (Rebinds a.conn a.inputs.hosts) document document')
  frozen (h : ∀ key, ∃ document, a.before.secrets (a.arns.arn key) = some (.object document) ∧
    ∀ entry ∈ document, Settled a.conn a.inputs.hosts entry) : s = a.before

/-- The rule of this attempt. -/
abbrev Secured {α : Type} (Post : α → Vault → Prop) (x : Script α) (s : Vault) : Prop :=
  x.Survives a.serves Post (fun s => a.Safe s ∧ ¬ a.Reliable) a.Safe s

variable {a} {α : Type} {s s' : Vault} {Post : α → Vault → Prop}

/-- A call that writes nothing leaves the vault as it was, answered or not. -/
theorem unchanged {q : Question} {reply : Replies Question.Reply q} (h_q : q.writes = false)
    (h : a.serves s q reply s') : s' = s := by
  have h_serves := a.truthful h
  -- only `put_secret_value` may change the vault
  cases q with
  | putSecretValue => cases h_q
  | getSecretValue secretId =>
    cases reply with
    | none => exact h_serves
    | some found => exact h_serves.1
  | _ => cases reply <;> exact h_serves

/-- A call that writes nothing. -/
theorem secured_call {q : Question} {f : q.Reply → Script α} (h_q : q.writes = false)
    (h : a.Safe s) (h_next : ∀ reply, a.serves s q (some reply) s → a.Secured Post (f reply) s) :
    a.Secured Post (call q >>= f) s := by
  refine survives_call h (fun s' h_fails => ?_) fun reply s' h_serves => ?_
  · obtain rfl := unchanged h_q h_fails
    exact ⟨h, fun h_reliable => h_reliable.answers _ q _ h_fails⟩
  · obtain rfl := unchanged h_q h_serves
    exact h_next reply h_serves

/-- A last call that writes nothing. It raises only by failing, which is not reliable. -/
theorem secured_lastCall {q : Question} {Post : q.Reply → Vault → Prop} (h_q : q.writes = false)
    (h : a.Safe s) (h_post : ∀ reply, Post reply s) : a.Secured Post (call q) s := by
  refine survives_lastCall (q := q) h (fun s' h_fails => ?_) fun reply s' h_serves => ?_
  · obtain rfl := unchanged h_q h_fails
    exact ⟨h, fun h_reliable => h_reliable.answers _ q _ h_fails⟩
  · obtain rfl := unchanged h_q h_serves
    exact h_post reply

/-- What `read_secret` finds for a role is the secret that the vault has. -/
theorem readSecret_spec (h : a.Safe s) (key : Role) :
    a.Secured (fun found s' => s' = s ∧ found.map Json.object = s.secrets (a.arns.arn key))
      (readSecret (a.arns.arn key)) s := by
  refine secured_call rfl h fun reply h_reply => ?_
  have h_found : reply = s.secrets (a.arns.arn key) := (a.truthful h_reply).2 key rfl
  cases reply with
  | none => exact ⟨rfl, h_found⟩
  | some value =>
    -- the vault is consistent, so what the secret decodes to is an object of strings
    obtain ⟨document, rfl, h_sound⟩ := h.consistent.sound key value h_found.symm
    refine survives_ofOption (fun h_none => ?_) fun result h_result => ?_
    · rw [contents_sound h_sound] at h_none
      cases h_none
    · rw [contents_sound h_sound] at h_result
      obtain rfl := Option.some.inj h_result
      exact ⟨rfl, h_found⟩

/-! ### The documents of a first run -/

/-- What the connection string of an owner says. -/
def Owner (info : Info) : Prop :=
  (∀ keyword ∈ ["host", "sslmode", "sslrootcert"], (info keyword).isSome) ∧
    ∀ keyword ∈ ["service", "servicefile", "options"], info keyword = none

/-- A connection string of an owner. -/
def Owns (text : String) : Prop := ∃ info, a.conn.conninfoToDict text = some info ∧ Owner info

/-- The parameters of an owner's connection string name the host and the certificate, and nothing
that would redirect it. -/
theorem owner_parameters (username password : Option String) (host name : String) :
    Owner (Info.update (fun _ => none)
      ([("host", some host), ("dbname", some name), ("user", username), ("password", password),
        ("sslmode", some "verify-full"), ("sslrootcert", some rootCertificate)].filterMap
          fun entry => entry.2.map (entry.1, ·))) := by
  cases username <;> cases password <;> simp [Owner, Info.update, List.lookup_cons]

/-- When all is reliable, a master secret is read as RDS writes it. -/
theorem readSecret_master (h : a.Safe s) (database : Database) :
    a.Secured (fun found s' => s' = s ∧
      (a.Reliable → ∃ master, found = some master ∧ a.Master master))
      (readSecret (a.inputs.masters database)) s := by
  refine secured_call rfl h fun reply h_reply => ?_
  cases reply with
  | none =>
    refine ⟨rfl, fun h_reliable => ?_⟩
    obtain ⟨_, _, h_found, -⟩ := h_reliable.masters s database none s h_reply
    cases h_found
  | some value =>
    have h_master : a.Reliable → ∃ master, contents value = some master ∧ a.Master master :=
      fun h_reliable => by
        obtain ⟨_, master, ⟨⟩, h_master⟩ := h_reliable.masters s database _ s h_reply
        exact ⟨master, h_master⟩
    -- a master secret that is no object is the only way to raise here
    refine survives_ofOption (fun h_none => ⟨h, fun h_reliable => ?_⟩) fun result h_result => ?_
    · obtain ⟨master, h_some, -⟩ := h_master h_reliable
      cases h_none.symm.trans h_some
    · refine ⟨rfl, fun h_reliable => ?_⟩
      obtain ⟨master, h_some, h_fields⟩ := h_master h_reliable
      obtain rfl := Option.some.inj (h_result.symm.trans h_some)
      exact ⟨result, rfl, h_fields⟩

/-- Every parameter of an owner's connection string can be printed. -/
theorem printable_owner (h : a.Reliable) {database : Database} {username password : Json String}
    (h_master : ∀ text, a.conn.str username = some text ∨ a.conn.str password = some text →
      a.printable text) :
    ∀ entry ∈ ownerParameters a.conn a.inputs database username password,
      entry.1 ∈ parameterNames ∧ a.printable entry.2 := by
  intro entry h_entry
  obtain ⟨parameter, h_parameter, h_entry⟩ := List.mem_filterMap.mp h_entry
  obtain ⟨text, h_text, rfl⟩ := Option.map_eq_some_iff.mp h_entry
  refine ⟨List.mem_map_of_mem (f := Prod.fst) h_parameter, ?_⟩
  simp only [List.mem_cons, List.not_mem_nil, or_false] at h_parameter
  rcases h_parameter with rfl | rfl | rfl | rfl | rfl | rfl
  · exact Option.some.inj h_text ▸ h.hosts database
  · exact Option.some.inj h_text ▸ h.databaseName
  · exact h_master text (.inl h_text)
  · exact h_master text (.inr h_text)
  · exact Option.some.inj h_text ▸ h.constants "verify-full" (by decide)
  · exact Option.some.inj h_text ▸ h.constants rootCertificate (by decide)

/-- So can the parameters that every rebinding sets. -/
theorem printable_binding (h : a.Reliable) (database : Database) :
    ∀ entry ∈ binding (a.inputs.hosts database), entry.1 ∈ parameterNames ∧
      a.printable entry.2 := by
  have h_mode := h.constants "verify-full" (by decide)
  have h_root := h.constants rootCertificate (by decide)
  simp [binding, parameterNames, h.hosts database, h_mode, h_root]

/-- `owner_dsn` returns a connection string of an owner. -/
theorem ownerDsn_spec (h : a.Safe s) (database : Database) :
    a.Secured (fun text s' => s' = s ∧ a.Owns text) (ownerDsn a.conn a.inputs database) s := by
  refine (readSecret_master h database).bind ?_
  rintro found s ⟨rfl, h_found⟩
  refine survives_ofOption (fun h_none => ⟨h, fun h_reliable => ?_⟩) fun master h_master => ?_
  · obtain ⟨_, h_some, -⟩ := h_found h_reliable
    cases h_none.symm.trans h_some
  subst h_master
  have h_master : a.Reliable → a.Master master := fun h_reliable => by
    obtain ⟨_, ⟨⟩, h_master⟩ := h_found h_reliable
    exact h_master
  refine survives_ofOption (fun h_none => ⟨h, fun h_reliable => ?_⟩) fun username h_username => ?_
  · obtain ⟨_, _, h_some, -⟩ := h_master h_reliable
    cases h_none.symm.trans h_some
  refine survives_ofOption (fun h_none => ⟨h, fun h_reliable => ?_⟩) fun password h_password => ?_
  · obtain ⟨_, _, -, h_some, -⟩ := h_master h_reliable
    cases h_none.symm.trans h_some
  -- the empty string parses, so `make_conninfo` fails only on what cannot be printed
  cases h_make : a.conn.makeConninfo ""
      (ownerParameters a.conn a.inputs database username password) with
  | none =>
    refine ⟨h, fun h_reliable => ?_⟩
    obtain ⟨_, _, h_user, h_word, h_printable⟩ := h_master h_reliable
    obtain rfl := Option.some.inj (h_username.symm.trans h_user)
    obtain rfl := Option.some.inj (h_password.symm.trans h_word)
    have h_some := h_reliable.prints "" _
      (ownerParameters a.conn a.inputs database username password) a.lawful.parse_empty
      (printable_owner h_reliable h_printable)
    exact absurd h_some (by simp [h_make])
  | some text =>
    obtain ⟨info, h_empty, h_info⟩ := a.lawful.lossless h_make
    obtain rfl := Option.some.inj (a.lawful.parse_empty.symm.trans h_empty)
    exact ⟨rfl, _, h_info, owner_parameters _ _ _ _⟩

/-! ### The first versions -/

/-- The login printed from an owner's connection string is sound for any field with this user. -/
theorem login_sound {dsns : Database → String} {database : Database} {key : Role}
    {field username text : String} {password : Token} (h_owns : a.Owns (dsns database))
    (h_user : expectedUser key field = some username)
    (h : login a.conn dsns database username password = some text) :
    SoundText a.conn key field text := by
  obtain ⟨info, h_info, h_some, h_none⟩ := h_owns
  obtain ⟨_, h_base, h_text⟩ := a.lawful.lossless h
  obtain rfl := Option.some.inj (h_info.symm.trans h_base)
  simp only [List.forall_mem_cons] at h_some h_none
  obtain ⟨h_host, h_mode, h_root, -⟩ := h_some
  obtain ⟨h_service, h_file, h_options, -⟩ := h_none
  -- user and password are replaced, the binding to host and certificate stays
  have h_complete : Complete (info.update [("user", username), ("password", password.1)]) := by
    simp [Complete, Info.update, List.lookup_cons, h_host, h_mode, h_root]
  refine ⟨ne_empty a.lawful h_text h_complete, fun _ => ⟨_, h_text, ?_, h_complete⟩⟩
  simp [authorized, h_user, Info.update, List.lookup_cons, h_service, h_file, h_options]

/-- A login with the right user, behind which the program goes on. -/
theorem secured_login {dsns : Database → String} {database : Database} {username : String}
    {password : Token} {f : String → Script α} (h : a.Safe s)
    (h_owns : ∀ database, a.Owns (dsns database))
    (h_user : username ∈ constants) (h_password : a.Reliable → a.printable password.1)
    (h_next : ∀ text, (∀ key field, expectedUser key field = some username →
      SoundText a.conn key field text) → a.Secured Post (f text) s) :
    a.Secured Post (ofOption (login a.conn dsns database username password) >>= f) s := by
  refine survives_ofOption (fun h_none => ⟨h, fun h_reliable => ?_⟩) fun text h_text => ?_
  · obtain ⟨info, h_info, -⟩ := h_owns database
    refine Option.isSome_iff_ne_none.mp (h_reliable.prints _ info _ h_info ?_) h_none
    simp [parameterNames, h_reliable.constants username h_user, h_password h_reliable]
  · exact h_next text fun key field h_user => login_sound (h_owns database) h_user h_text

/-- A printed object is not the empty text. -/
theorem dumps_ne_empty (entries : List (String × String)) : dumps entries ≠ "" := by
  intro h_eq
  have h_chars := congrArg String.toList h_eq
  simp [dumps] at h_chars

/-- The tokens of the API are a text that is not empty. -/
theorem apiTokens_spec (h : a.Safe s) (names : List String) (entries : List (String × String)) :
    a.Secured (fun text s' => s' = s ∧ text ≠ "") (apiTokens entries names) s := by
  induction names generalizing entries with
  | nil => exact ⟨rfl, dumps_ne_empty entries⟩
  | cons name names ih => exact secured_call rfl h fun token _ => ih _

/-- A new token, behind which the program goes on. -/
theorem secured_token {f : Token → Script α} (h : a.Safe s)
    (h_next : ∀ token, (a.Reliable → a.printable token.1) → a.Secured Post (f token) s) :
    a.Secured Post (call .tokenUrlsafe >>= f) s :=
  secured_call rfl h fun token h_token =>
    h_next token fun h_reliable => h_reliable.tokens s token s h_token

/-- The passwords can be printed. -/
structure Passed (a : Attempt) (passwords : Passwords) : Prop where
  api : a.printable passwords.api.1
  worker : a.printable passwords.worker.1
  remote : a.printable passwords.remote.1
  audit : a.printable passwords.audit.1
  remoteAudit : a.printable passwords.remoteAudit.1
  observer : a.printable passwords.observer.1

/-- All passwords are new tokens. -/
theorem passwords_spec (h : a.Safe s) :
    a.Secured (fun result s' => s' = s ∧ (a.Reliable → Passed a result)) passwords s := by
  refine secured_token h fun api h_api => ?_
  refine secured_token h fun worker h_worker => ?_
  refine secured_token h fun remote h_remote => ?_
  refine secured_token h fun audit h_audit => ?_
  refine secured_token h fun remoteAudit h_remoteAudit => ?_
  refine secured_token h fun observer h_observer => ?_
  exact ⟨rfl, fun h_reliable => ⟨h_api h_reliable, h_worker h_reliable, h_remote h_reliable,
    h_audit h_reliable, h_remoteAudit h_reliable, h_observer h_reliable⟩⟩

/-- The first documents are sound for their roles, and those of the executors hold the shared
token. -/
theorem initial_spec (h : a.Safe s) {dsns : Database → String} {passwords : Passwords}
    {token : String}
    (h_owns : ∀ database, a.Owns (dsns database)) (h_passwords : a.Reliable → Passed a passwords)
    (h_token : token ≠ "") :
    a.Secured (fun result s' => s' = s ∧ result.executor = .string token ∧
        ∀ key, Sound a.conn key (result.document key))
      (initial a.conn dsns passwords (.string token)) s := by
  refine secured_login h h_owns (by decide) (h_passwords · |>.api) fun api h_api => ?_
  refine (apiTokens_spec h roles []).bind ?_
  rintro tokens s ⟨rfl, h_tokens⟩
  refine secured_login h h_owns (by decide) (h_passwords · |>.worker) fun worker h_worker => ?_
  refine secured_login h h_owns (by decide) (h_passwords · |>.remote) fun remote h_remote => ?_
  refine secured_call rfl h fun injector _ => ?_
  refine secured_login h h_owns (by decide) (h_passwords · |>.audit) fun audit h_audit => ?_
  refine secured_login h h_owns (by decide) (h_passwords · |>.remoteAudit)
    fun remoteAudit h_remoteAudit => ?_
  refine secured_login h h_owns (by decide) (h_passwords · |>.observer)
    fun observer h_observer => ?_
  -- a field that is no connection string is sound if it is not empty
  have h_other : ∀ key field text, text ≠ "" → isDsn field = false →
      SoundText a.conn key field text :=
    fun key field text h_ne h_field => ⟨h_ne, fun h_dsn => absurd h_dsn (by simp [h_field])⟩
  have h_shared : ∀ key, SoundText a.conn key "EXECUTOR_TOKEN" token := fun key =>
    h_other key "EXECUTOR_TOKEN" token h_token (by decide)
  refine ⟨rfl, rfl, fun key => ?_⟩
  -- one case for each role, one sound text for each of its fields
  cases key with
  | api =>
    refine ⟨rfl, List.forall_mem_cons.mpr ⟨⟨api, rfl, h_api .api _ rfl⟩, ?_⟩⟩
    exact List.forall_mem_singleton.mpr
      ⟨tokens, rfl, h_other .api "API_TOKENS" tokens h_tokens (by decide)⟩
  | worker =>
    refine ⟨rfl, List.forall_mem_cons.mpr ⟨⟨worker, rfl, h_worker .worker _ rfl⟩, ?_⟩⟩
    exact List.forall_mem_singleton.mpr ⟨token, rfl, h_shared .worker⟩
  | remote =>
    refine ⟨rfl, List.forall_mem_cons.mpr ⟨⟨remote, rfl, h_remote .remote _ rfl⟩, ?_⟩⟩
    refine List.forall_mem_cons.mpr ⟨⟨token, rfl, h_shared .remote⟩, ?_⟩
    exact List.forall_mem_singleton.mpr
      ⟨injector.1, rfl, h_other .remote "INJECTOR_TOKEN" injector.1 injector.2 (by decide)⟩
  | verifier =>
    refine ⟨rfl, List.forall_mem_cons.mpr ⟨⟨audit, rfl, h_audit .verifier _ rfl⟩, ?_⟩⟩
    exact List.forall_mem_singleton.mpr ⟨remoteAudit, rfl, h_remoteAudit .verifier _ rfl⟩
  | observer =>
    exact ⟨rfl, List.forall_mem_singleton.mpr ⟨observer, rfl, h_observer .observer _ rfl⟩⟩

/-! ### The shared token -/

/-- The token that survives is that of every executor that has a secret. -/
theorem surviving_spec (h : a.Safe s) {token : String} (h_token : token ≠ "") {keys : List Role}
    (h_keys : ∀ key ∈ keys, key ∈ executors) :
    a.Secured (fun result s' => s' = s ∧ (∃ text, text ≠ "" ∧ result = .string text) ∧
        ∀ key ∈ keys, ∀ document, s.secrets (a.arns.arn key) = some (.object document) →
          document.lookup "EXECUTOR_TOKEN" = some result)
      (surviving a.arns (.string token) keys) s := by
  induction keys with
  | nil => exact ⟨rfl, ⟨token, h_token, rfl⟩, nofun⟩
  | cons key keys ih =>
    obtain ⟨h_key, h_rest⟩ := List.forall_mem_cons.mp h_keys
    refine (readSecret_spec h key).bind ?_
    rintro found s ⟨rfl, h_found⟩
    cases found with
    -- no secret of this role: the next one decides
    | none =>
      refine (ih h_rest).imp ?_ (fun _ h => h) fun _ h => h
      rintro result s' ⟨rfl, h_text, h_shared⟩
      refine ⟨rfl, h_text, List.forall_mem_cons.mpr ⟨fun document h_document => ?_, h_shared⟩⟩
      rw [h_document] at h_found
      cases h_found
    | some document =>
      -- the token of this document is that of all executors
      obtain ⟨other, ⟨⟩, h_sound⟩ := h.consistent.sound key (.object document) h_found.symm
      obtain ⟨text, h_ne, h_lookup⟩ := token_sound h_sound h_key
      obtain ⟨shared, h_shares⟩ := h.consistent.shares
      have h_shared := h_shares key h_key document h_found.symm
      obtain rfl := Option.some.inj (h_lookup.symm.trans h_shared)
      show a.Secured _ (ofOption (document.lookup "EXECUTOR_TOKEN")) s
      rw [h_lookup]
      exact ⟨rfl, ⟨text, h_ne, rfl⟩, fun key h_key => h_shares key (h_keys key h_key)⟩

/-! ### `documents` -/

/-- What the loop over the roles keeps. -/
structure Loading (a : Attempt) (executor : Json String) (made : List Role) (documents : Documents)
    (s : Vault) : Prop where
  safe : a.Safe s
  shares : Shares a.arns executor s
  adds (key : Role) (value : Json String) (h : a.before.secrets (a.arns.arn key) = some value) :
    s.secrets (a.arns.arn key) = some value
  names : documents.map Prod.fst = made
  stored : ∀ entry ∈ documents, s.secrets (a.arns.arn entry.1) = some (.object entry.2)

/-- Putting the secret of one role leaves those of the others. -/
theorem secrets_put (s : Vault) (key : Role) (document : Document) (other : Role) :
    (s.put (a.arns.arn key) document).secrets (a.arns.arn other) =
      if other = key then some (.object document) else s.secrets (a.arns.arn other) := by
  by_cases h_eq : other = key
  · subst h_eq
    simp [Vault.put]
  · have h_ne : a.arns.arn other ≠ a.arns.arn key := fun h => h_eq (a.arns.injective h)
    simp [Vault.put, h_eq, h_ne]

/-- The first document of the receiver has the shared token already. -/
theorem set_shared {first : Initial} :
    (first.document .remote).set "EXECUTOR_TOKEN" first.executor = first.document .remote := rfl

/-- The document made for an absent secret is the first one of the role: the token copied from the
worker is the same. -/
theorem missing_eq {first : Initial} {documents : Documents} (key : Role)
    (h : ∀ worker, documents.lookup .worker = some worker →
      worker.lookup "EXECUTOR_TOKEN" = some first.executor) :
    missing first documents key = some (first.document key) := by
  cases h_worker : documents.lookup .worker with
  | none => cases key <;> simp [missing, h_worker]
  | some worker => cases key <;> simp [missing, h_worker, h worker h_worker, set_shared]

/-- A document that is put there for an absent one. -/
theorem Loading.put {executor : Json String} {made : List Role} {documents : Documents} {key : Role}
    {document : Document} (h : Loading a executor made documents s)
    (h_absent : s.secrets (a.arns.arn key) = none) (h_sound : Sound a.conn key document)
    (h_token : key ∈ executors → document.lookup "EXECUTOR_TOKEN" = some executor) :
    Loading a executor (made ++ [key]) (documents ++ [(key, document)])
      (s.put (a.arns.arn key) document) := by
  -- it was absent before the run too, since the loop only adds
  have h_before : a.before.secrets (a.arns.arn key) = none := by
    by_contra h_some
    obtain ⟨value, h_value⟩ := Option.ne_none_iff_exists'.mp h_some
    cases h_absent.symm.trans (h.adds key value h_value)
  have h_shares : Shares a.arns executor (s.put (a.arns.arn key) document) := by
    intro other h_other stored h_stored
    rw [secrets_put] at h_stored
    split at h_stored
    next h_eq =>
      obtain rfl : document = stored := by simpa using h_stored
      exact h_token (h_eq ▸ h_other)
    next => exact h.shares other h_other stored h_stored
  have h_other : ∀ other, other ≠ key →
      (s.put (a.arns.arn key) document).secrets (a.arns.arn other) =
      s.secrets (a.arns.arn other) := fun other h_ne => by rw [secrets_put, if_neg h_ne]
  -- the new document is sound, the others stand as before
  refine ⟨⟨⟨fun other value h_value => ?_, executor, h_shares⟩, ?_, ?_⟩, h_shares, ?_, ?_, ?_⟩
  · rw [secrets_put] at h_value
    split at h_value
    next h_eq =>
      obtain rfl := Option.some.inj h_value
      exact ⟨document, rfl, h_eq ▸ h_sound⟩
    next => exact h.safe.consistent.sound other value h_value
  · intro other stored h_stored
    have h_ne : other ≠ key := by
      rintro rfl
      cases h_before.symm.trans h_stored
    rw [h_other other h_ne]
    exact h.safe.kept other stored h_stored
  · intro h_all
    obtain ⟨stored, h_stored, -⟩ := h_all key
    cases h_before.symm.trans h_stored
  · intro other value h_value
    have h_ne : other ≠ key := by
      rintro rfl
      cases h_before.symm.trans h_value
    rw [h_other other h_ne]
    exact h.adds other value h_value
  · rw [List.map_append, h.names]
    rfl
  · intro entry h_entry
    rcases List.mem_append.mp h_entry with h_entry | h_entry
    · have h_stored := h.stored entry h_entry
      have h_ne : entry.1 ≠ key := fun h_eq => by
        rw [h_eq, h_absent] at h_stored
        cases h_stored
      rw [h_other entry.1 h_ne]
      exact h_stored
    · obtain rfl := List.mem_singleton.mp h_entry
      rw [secrets_put, if_pos rfl]

/-- The document of the worker, once loaded, has the shared token. -/
theorem Loading.worker {executor : Json String} {made : List Role} {documents : Documents}
    (h : Loading a executor made documents s) {worker : Document}
    (h_worker : documents.lookup .worker = some worker) :
    worker.lookup "EXECUTOR_TOKEN" = some executor := by
  obtain ⟨before, after, rfl, -⟩ := List.lookup_eq_some_iff.mp h_worker
  exact h.shares .worker (by decide) worker (h.stored (.worker, worker) (by simp))

/-- One turn of the loop over the roles. -/
theorem loadOne_spec {first : Initial} {made : List Role} {documents : Documents} {key : Role}
    (h_first : ∀ key, Sound a.conn key (first.document key))
    (h : Loading a first.executor made documents s) :
    a.Secured (Loading a first.executor (made ++ [key]))
      (loadOne a.arns first documents key) s := by
  refine (readSecret_spec h.safe key).bind ?_
  rintro found s ⟨rfl, h_found⟩
  cases found with
  -- found: the document is kept as it is
  | some document =>
    refine survives_pure ⟨h.safe, h.shares, h.adds, ?_, fun entry h_entry => ?_⟩
    · rw [List.map_append, h.names]
      rfl
    · rcases List.mem_append.mp h_entry with h_entry | h_entry
      · exact h.stored entry h_entry
      · obtain rfl := List.mem_singleton.mp h_entry
        exact h_found.symm
  | none =>
    -- absent: the first document is put; a failed put may have had its effect
    have h_missing : missing first documents key = some (first.document key) :=
      missing_eq key fun _ => h.worker
    have h_put := h.put h_found.symm (h_first key) fun h_key => by
      cases key <;> first | rfl | exact absurd h_key (by decide)
    refine survives_ofOption (fun h_none => ?_) fun document h_document => ?_
    · cases h_missing.symm.trans h_none
    obtain rfl := Option.some.inj (h_missing.symm.trans h_document)
    refine survives_call h.safe (fun s' h_fails => ?_) fun reply s' h_serves => ?_
    · refine ⟨?_, fun h_reliable => h_reliable.answers _ _ _ h_fails⟩
      rcases a.truthful h_fails with rfl | rfl
      · exact h.safe
      · exact h_put.safe
    · obtain rfl : s' = _ := a.truthful h_serves
      exact h_put

/-- The whole loop over the roles. -/
theorem load_spec {first : Initial} (h : a.Safe s)
    (h_adds : ∀ key value, a.before.secrets (a.arns.arn key) = some value →
      s.secrets (a.arns.arn key) = some value)
    (h_first : ∀ key, Sound a.conn key (first.document key))
    (h_shares : Shares a.arns first.executor s) :
    a.Secured (Loading a first.executor a.inputs.order)
      (fold (loadOne a.arns first) a.inputs.order []) s := by
  refine survives_fold (I := Loading a first.executor) ⟨h, h_shares, h_adds, rfl, nofun⟩ ?_
  intro made key rest documents s _ h_made
  exact loadOne_spec h_first h_made

/-- What the documents are behind that loop. -/
structure Loaded (a : Attempt) (documents : Documents) : Prop where
  nodup : (documents.map Prod.fst).Nodup
  complete : ∀ key, key ∈ documents.map Prod.fst
  origin : ∀ entry ∈ documents, ∀ document,
    a.before.secrets (a.arns.arn entry.1) = some (.object document) → entry.2 = document

/-- When every role was loaded, each has one document, the old one if there was one. -/
theorem Loading.loaded {executor : Json String} {documents : Documents}
    (h : Loading a executor a.inputs.order documents s) : Loaded a documents where
  nodup := h.names ▸ a.inputs.nodup
  complete key := h.names ▸ a.inputs.complete key
  origin entry h_entry document h_before := by
    have h_same := (h.stored entry h_entry).symm.trans (h.adds entry.1 _ h_before)
    simpa using h_same

/-- A role that is listed has a document. -/
theorem exists_lookup {documents : Documents} {key : Role} (h : key ∈ documents.map Prod.fst) :
    ∃ document, documents.lookup key = some document ∧ (key, document) ∈ documents := by
  obtain ⟨document, h_lookup⟩ : ∃ document, documents.lookup key = some document := by
    refine Option.ne_none_iff_exists'.mp fun h_none => ?_
    obtain ⟨entry, h_entry, rfl⟩ := List.mem_map.mp h
    simpa using List.lookup_eq_none_iff.mp h_none entry h_entry
  obtain ⟨before, after, rfl, -⟩ := List.lookup_eq_some_iff.mp h_lookup
  exact ⟨document, h_lookup, by simp⟩

/-- The executors share a token, so that this is never refused. -/
theorem sharesToken_eq {text : String} {documents : Documents}
    (h : Loading a (.string text) a.inputs.order documents s) :
    sharesToken documents = some true := by
  obtain ⟨remote, h_remote, h_mem⟩ := exists_lookup (h.loaded.complete .remote)
  obtain ⟨worker, h_worker, h_mem'⟩ := exists_lookup (h.loaded.complete .worker)
  have h_theirs := h.shares .remote (by decide) remote (h.stored _ h_mem)
  have h_ours := h.shares .worker (by decide) worker (h.stored _ h_mem')
  simp [sharesToken, h_remote, h_worker, h_theirs, h_ours, Json.same_string]

end Attempt
end ControlPlane.Bootstrap
