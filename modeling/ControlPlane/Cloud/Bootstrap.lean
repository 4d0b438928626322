import ControlPlane.Cloud.Attempt
import Mathlib.Data.List.Forall2

/-!
# Bootstrap converges

Runs of `bootstrap` one after another, each with its own hosts and order of the roles and each cut
short anywhere, leave a vault in which every document is one of its role and the worker and the
remote share a token (`Reached.consistent`). `bootstrap_survives` is the rule of one run. Wherever
it stops, a document that was there has at most other hosts, and where nothing was left to do,
nothing was done. At a normal end all documents are there and name the hosts of this run
(`Converged`), which the next run leaves as they are.
-/

namespace ControlPlane.Bootstrap

open Framework
open Framework.Dialogue hiding call

namespace Attempt

variable {a : Attempt} {s s' : Vault}

/-! ### Rebinding -/

/-- What one turn makes of a document. -/
def Revised (a : Attempt) (s : Vault) (old new : Role × Document) : Prop :=
  new.1 = old.1 ∧ s.secrets (a.arns.arn old.1) = some (.object new.2) ∧ Sound a.conn old.1 new.2 ∧
    List.Forall₂ (Rebinds a.conn a.inputs.hosts) old.2 new.2 ∧
    ∀ entry ∈ new.2, Settled a.conn a.inputs.hosts entry

/-- What the loop over the documents keeps. -/
structure Revising (a : Attempt) (executor : Json String) (documents made result : Documents)
    (s : Vault) : Prop where
  safe : a.Safe s
  shares : Shares a.arns executor s
  rest (later : Documents) (h : documents = made ++ later) :
    ∀ entry ∈ later, s.secrets (a.arns.arn entry.1) = some (.object entry.2)
  done : List.Forall₂ (Revised a s) made result

/-- One turn, whether or not it puts a version there. -/
theorem Revising.advance {executor : Json String} {documents made later result : Documents}
    {old : Role × Document} {document : Document} (h : Revising a executor documents made result s)
    (h_loaded : Loaded a documents) (h_documents : documents = made ++ old :: later)
    (h_sound : Sound a.conn old.1 document)
    (h_rebinds : List.Forall₂ (Rebinds a.conn a.inputs.hosts) old.2 document)
    (h_settled : ∀ entry ∈ document, Settled a.conn a.inputs.hosts entry)
    (h_this : s'.secrets (a.arns.arn old.1) = some (.object document))
    (h_other : ∀ key, key ≠ old.1 → s'.secrets (a.arns.arn key) = s.secrets (a.arns.arn key))
    (h_frozen : (∀ key, ∃ document, a.before.secrets (a.arns.arn key) = some (.object document) ∧
      ∀ entry ∈ document, Settled a.conn a.inputs.hosts entry) → s' = a.before) :
    Revising a executor documents (made ++ [old]) (result ++ [(old.1, document)]) s' := by
  have h_old := h.rest _ h_documents old List.mem_cons_self
  have h_names := h_loaded.nodup
  rw [h_documents, List.map_append, List.map_cons, List.nodup_append] at h_names
  obtain ⟨-, h_later, h_made⟩ := h_names
  -- the token is no connection string, so the revision has left it
  have h_shares : Shares a.arns executor s' := by
    intro key h_key stored h_stored
    by_cases h_eq : key = old.1
    · subst h_eq
      obtain rfl : document = stored := by simpa using h_this.symm.trans h_stored
      rw [lookup_rebinds h_rebinds (by decide)]
      exact h.shares old.1 h_key old.2 h_old
    · rw [h_other key h_eq] at h_stored
      exact h.shares key h_key stored h_stored
  refine ⟨⟨⟨fun key value h_value => ?_, executor, h_shares⟩, ?_, h_frozen⟩, h_shares, ?_, ?_⟩
  · by_cases h_eq : key = old.1
    · subst h_eq
      obtain rfl := Option.some.inj (h_this.symm.trans h_value)
      exact ⟨document, rfl, h_sound⟩
    · rw [h_other key h_eq] at h_value
      exact h.safe.consistent.sound key value h_value
  · intro key first h_first
    by_cases h_eq : key = old.1
    · subst h_eq
      obtain rfl := h_loaded.origin old (by simp [h_documents]) first h_first
      exact ⟨document, h_this, .inr h_rebinds⟩
    · rw [h_other key h_eq]
      exact h.safe.kept key first h_first
  · intro rest h_rest entry h_entry
    rw [h_documents, List.append_assoc, List.append_cancel_left_eq] at h_rest
    obtain rfl := List.tail_eq_of_cons_eq h_rest
    -- no role is listed twice, so the later documents are still there
    have h_ne : entry.1 ≠ old.1 := fun h_eq =>
      (List.nodup_cons.mp h_later).1 (h_eq ▸ List.mem_map_of_mem h_entry)
    rw [h_other entry.1 h_ne]
    exact h.rest _ h_documents entry (List.mem_cons_of_mem old h_entry)
  · refine List.rel_append ?_ (.cons ⟨rfl, h_this, h_sound, h_rebinds, h_settled⟩ .nil)
    have h_ne : ∀ entry ∈ made, entry.1 ≠ old.1 := fun entry h_entry =>
      h_made entry.1 (List.mem_map_of_mem h_entry) old.1 List.mem_cons_self
    refine ((List.forall₂_and_left _ _).mpr ⟨h_ne, h.done⟩).imp ?_
    rintro entry new ⟨h_ne, h_name, h_stored, h_new⟩
    exact ⟨h_name, (h_other entry.1 h_ne).trans h_stored, h_new⟩

/-- One turn of the loop that rebinds. -/
theorem reviseOne_spec {executor : Json String} {documents made later result : Documents}
    {old : Role × Document} (h_loaded : Loaded a documents)
    (h_documents : documents = made ++ old :: later)
    (h : Revising a executor documents made result s) :
    a.Secured (Revising a executor documents (made ++ [old]))
      (reviseOne a.conn a.arns a.inputs.hosts result old) s := by
  have h_old := h.rest _ h_documents old List.mem_cons_self
  obtain ⟨_, ⟨⟩, h_sound⟩ := h.safe.consistent.sound old.1 (.object old.2) h_old
  have h_contract := contract_sound h_sound
  refine survives_check (fun h_false => absurd (h_contract.symm.trans h_false) nofun) fun _ => ?_
  refine survives_ofOption (fun h_none => ⟨h.safe, fun h_reliable => ?_⟩)
    fun document h_document => ?_
  · obtain ⟨document, h_some⟩ := exists_mapM fun entry h_entry => revisedField_isSome
      (h_sound.2 entry h_entry) fun base info database h_info =>
        h_reliable.prints base info _ h_info (printable_binding h_reliable database)
    cases h_none.symm.trans h_some
  obtain ⟨h_new, h_rebinds, h_settled⟩ := revised_spec a.lawful h_sound h_document
  -- where nothing was left to do, the document is settled
  have h_same : (∀ key, ∃ document, a.before.secrets (a.arns.arn key) = some (.object document) ∧
      ∀ entry ∈ document, Settled a.conn a.inputs.hosts entry) → document = old.2 := fun h_all => by
    obtain ⟨first, h_first, h_done⟩ := h_all old.1
    obtain rfl := h_loaded.origin old (by simp [h_documents]) first h_first
    exact Option.some.inj (h_document.symm.trans (revised_settled h_sound h_done))
  by_cases h_eq : document = old.2
  · subst h_eq
    have h_store : store a.arns old.1 old.2 old.2 = pure () := if_pos rfl
    rw [h_store]
    exact h.advance h_loaded h_documents h_new h_rebinds h_settled h_old (fun _ _ => rfl)
      h.safe.frozen
  · have h_store : store a.arns old.1 old.2 document =
        call (.putSecretValue (a.arns.arn old.1) document) := if_neg h_eq
    have h_this : (s.put (a.arns.arn old.1) document).secrets (a.arns.arn old.1) =
        some (.object document) := by rw [secrets_put, if_pos rfl]
    have h_put := h.advance h_loaded h_documents h_new h_rebinds h_settled h_this
      (fun key h_ne => by rw [secrets_put, if_neg h_ne]) fun h_all => absurd (h_same h_all) h_eq
    rw [h_store]
    refine survives_call h.safe (fun s' h_fails => ?_) fun reply s' h_serves => ?_
    · refine ⟨?_, fun h_reliable => h_reliable.answers _ _ _ h_fails⟩
      rcases a.truthful h_fails with rfl | rfl
      · exact h.safe
      · exact h_put.safe
    · obtain rfl : s' = _ := a.truthful h_serves
      exact h_put

/-- What a normal end leaves. -/
structure Converged (a : Attempt) (s : Vault) : Prop where
  safe : a.Safe s
  documents (key : Role) : ∃ document, s.secrets (a.arns.arn key) = some (.object document) ∧
    Sound a.conn key document ∧ (∀ entry ∈ document, Settled a.conn a.inputs.hosts entry) ∧
    ∀ first, a.before.secrets (a.arns.arn key) = some (.object first) →
      List.Forall₂ (Rebinds a.conn a.inputs.hosts) first document

/-- The whole loop: every document is the one of its role, rebound to the host of now. -/
theorem revise_spec {executor : Json String} {documents : Documents}
    (h : Loading a executor a.inputs.order documents s) :
    a.Secured (fun result s' => Converged a s' ∧ ∀ entry ∈ result, Sound a.conn entry.1 entry.2)
      (fold (reviseOne a.conn a.arns a.inputs.hosts) documents []) s := by
  have h_fold : a.Secured (Revising a executor documents documents)
      (fold (reviseOne a.conn a.arns a.inputs.hosts) documents []) s := by
    refine survives_fold (I := Revising a executor documents) ⟨h.safe, h.shares, ?_, .nil⟩ ?_
    · rintro later rfl entry h_entry
      exact h.stored entry h_entry
    · intro made old later result s h_documents h_made
      exact reviseOne_spec h.loaded h_documents h_made
  refine h_fold.imp (fun result s h_done => ⟨⟨h_done.safe, fun key => ?_⟩, ?_⟩)
    (fun _ h => h) fun _ h => h
  · obtain ⟨document, -, h_mem⟩ := exists_lookup (h.loaded.complete key)
    obtain ⟨new, -, -, h_stored, h_sound, h_rebinds, h_settled⟩ :=
      exists_of_forall₂ h_done.done h_mem
    refine ⟨new.2, h_stored, h_sound, h_settled, fun first h_first => ?_⟩
    obtain rfl := h.loaded.origin (key, document) h_mem first h_first
    exact h_rebinds
  · intro entry h_entry
    obtain ⟨old, -, h_name, -, h_sound, -⟩ := exists_of_forall₂ h_done.done.flip h_entry
    exact h_name ▸ h_sound

/-! ### The logins -/

/-- The grants for a field change no secret. -/
theorem grantField_spec (h : a.Safe s) {dsn host : String} {key : Role}
    {entry : String × Json String}
    (h_sound : SoundEntry a.conn key entry) :
    a.Secured (fun _ s' => s' = s) (grantField a.conn dsn host entry) s := by
  obtain ⟨field, _⟩ := entry
  obtain ⟨text, rfl, h_text⟩ := h_sound
  cases h_dsn : isDsn field with
  | false =>
    have h_skip : grantField a.conn dsn host (field, .string text) = pure () := by
      simp [grantField, h_dsn]
    rw [h_skip]
    rfl
  | true =>
    obtain ⟨info, h_info, h_authorized, h_complete⟩ := h_text.2 h_dsn
    obtain ⟨user, h_user⟩ : ∃ user, info "user" = some user := by
      simp only [authorized, Bool.and_eq_true, Option.isSome_iff_exists, decide_eq_true_eq]
        at h_authorized
      obtain ⟨⟨⟨user, h_user⟩, h_same⟩, -⟩ := h_authorized
      exact ⟨user, h_same.trans h_user⟩
    obtain ⟨password, h_password⟩ := Option.isSome_iff_exists.mp (h_complete "password" (by decide))
    obtain ⟨named, h_named⟩ := Option.isSome_iff_exists.mp (h_complete "host" (by decide))
    have h_grant : grantField a.conn dsn host (field, .string text) =
        ofOption (some info) >>= grantLogin dsn host := by
      simp [grantField, h_dsn, h_info]
    rw [h_grant]
    show a.Secured _ (grantLogin dsn host info) s
    rw [grantLogin, h_named, h_user, h_password]
    show a.Secured _ (if named = host then call (.role dsn user password) else pure ()) s
    split
    · exact secured_lastCall (q := .role dsn user password) rfl h fun _ => rfl
    · rfl

/-- Setting up a role changes no secret. -/
theorem ensureRole_spec (h : a.Safe s) (dsn name : String) :
    a.Secured (fun _ s' => s' = s) (ensureRole dsn name) s := by
  refine secured_call rfl h fun found _ => ?_
  cases found with
  | true => rfl
  | false =>
    refine secured_call rfl h fun token _ => ?_
    exact secured_lastCall (q := .role dsn name token.1) rfl h fun _ => rfl

/-- Closing the logins changes no secret. -/
theorem closeLogins_spec (h : a.Safe s) (dsn : String) (database : Database) :
    a.Secured (fun _ s' => s' = s) (closeLogins dsn database) s := by
  cases database with
  | control =>
    refine secured_call rfl h fun _ _ => ?_
    exact secured_lastCall (q := .nologin dsn "synthetic_remote") rfl h fun _ => rfl
  | downstream => exact secured_lastCall (q := .nologin dsn "control_app") rfl h fun _ => rfl

/-- Provisioning a database changes no secret. -/
theorem provision_spec (h : a.Safe s) {documents : Documents} (dsns : Database → String)
    (h_documents : ∀ entry ∈ documents, Sound a.conn entry.1 entry.2) (database : Database) :
    a.Secured (fun _ s' => s' = s) (provision a.conn a.inputs.hosts documents dsns database) s := by
  refine secured_call rfl h fun _ _ => ?_
  have h_roles : a.Secured (fun _ s' => s' = s)
      (each (ensureRole (dsns database)) ["control_app", "synthetic_remote"]) s := by
    refine survives_each (I := fun s' => s' = s) rfl ?_
    rintro name - _ rfl
    exact ensureRole_spec h (dsns database) name
  refine h_roles.bind ?_
  rintro - s rfl
  have h_fields : a.Secured (fun _ s' => s' = s) (each (fun entry : Role × Document =>
      each (grantField a.conn (dsns database) (a.inputs.hosts database)) entry.2) documents) s := by
    refine survives_each (I := fun s' => s' = s) rfl ?_
    rintro document h_document s rfl
    refine survives_each (I := fun s' => s' = s) rfl ?_
    rintro entry h_entry _ rfl
    exact grantField_spec h ((h_documents document h_document).2 entry h_entry)
  refine h_fields.bind ?_
  rintro - _ rfl
  refine secured_call rfl h fun _ _ => ?_
  refine secured_call rfl h fun _ _ => ?_
  exact closeLogins_spec h (dsns database) database

/-! ### The whole run -/

/-- A consistent vault is safe before the run. -/
theorem safe_before (h : Consistent a.conn a.arns a.before) : a.Safe a.before where
  consistent := h
  kept _ document h_document := ⟨document, h_document, .inl rfl⟩
  frozen _ := rfl

/-- **One attempt**, from a vault that earlier ones left. -/
theorem bootstrap_survives (h : Consistent a.conn a.arns a.before) :
    a.Secured (fun _ => Converged a) (bootstrap a.conn a.arns a.inputs) a.before := by
  have h_safe := safe_before h
  refine (ownerDsn_spec h_safe .control).bind ?_
  rintro control _ ⟨rfl, h_control⟩
  refine (ownerDsn_spec h_safe .downstream).bind ?_
  rintro downstream _ ⟨rfl, h_downstream⟩
  have h_owns : ∀ database, a.Owns (both control downstream database) := fun database => by
    cases database with
    | control => exact h_control
    | downstream => exact h_downstream
  refine (passwords_spec h_safe).bind ?_
  rintro passwords _ ⟨rfl, h_passwords⟩
  -- the token that is drawn is used where neither executor has one yet
  refine secured_call rfl h_safe fun token _ => ?_
  refine (surviving_spec h_safe token.2 fun _ h_key => h_key).bind ?_
  rintro _ _ ⟨rfl, ⟨text, h_text, rfl⟩, h_shares⟩
  refine (initial_spec h_safe h_owns h_passwords h_text).bind ?_
  rintro first _ ⟨rfl, h_executor, h_first⟩
  have h_load : a.Secured (Loading a (.string text) a.inputs.order) _ a.before :=
    h_executor ▸ load_spec h_safe (fun _ _ h_value => h_value) h_first (h_executor ▸ h_shares)
  refine h_load.bind fun documents s h_documents => ?_
  rw [sharesToken_eq h_documents]
  refine (revise_spec h_documents).bind ?_
  rintro result s ⟨h_converged, h_result⟩
  -- nothing from here on writes a secret
  have h_provision : a.Secured (fun _ s' => s' = s)
      (each (provision a.conn a.inputs.hosts result (both control downstream))
        [.control, .downstream]) s := by
    refine survives_each (I := fun s' => s' = s) rfl ?_
    rintro database - _ rfl
    exact provision_spec h_converged.safe (both control downstream) h_result database
  refine h_provision.bind ?_
  rintro - _ rfl
  exact secured_lastCall (q := .grants control downstream) rfl h_converged.safe fun _ => h_converged

end Attempt

/-! ### One run after another -/

/-- The vaults that any number of runs leave, each with its own inputs and cut short anywhere. -/
def Reached (conn : Conninfo) (arns : Arns) : Vault → Prop :=
  Left (Serves arns) (Empty arns) fun x => ∃ inputs, x = bootstrap conn arns inputs

variable {conn : Conninfo} {arns : Arns} {s s' : Vault}

/-- Every vault that is reached is consistent. -/
theorem Reached.consistent (h_conn : conn.Lawful) (h : Reached conn arns s) :
    Consistent conn arns s := by
  refine Left.invariant (fun s h_empty => ?_) ?_ h
  · refine ⟨fun key value h_value => ?_, .null, fun key _ document h_document => ?_⟩
    · cases (h_empty key).symm.trans h_value
    · cases (h_empty key).symm.trans h_document
  · rintro _ ⟨inputs, rfl⟩ s h_consistent
    have h_run := Attempt.bootstrap_survives
      (a := ⟨conn, h_conn, arns, inputs, Serves arns, id, s, fun _ => True⟩)
      h_consistent
    exact h_run.imp (fun _ _ h => h.safe.consistent) (fun _ h => h.1.consistent)
      fun _ h => h.consistent

/-- **Bootstrap converges after any crash.** -/
theorem bootstrap_converges (h_conn : conn.Lawful) (h_reached : Reached conn arns s)
    (inputs : Inputs)
    (h_run : (bootstrap conn arns inputs).Runs (Serves arns) (.returned ()) s' s) :
    (∃ token worker remote, s'.secrets (arns.arn .worker) = some (.object worker) ∧
      s'.secrets (arns.arn .remote) = some (.object remote) ∧
      worker.lookup "EXECUTOR_TOKEN" = some token ∧ remote.lookup "EXECUTOR_TOKEN" = some token) ∧
    (∀ key, ∃ document, s'.secrets (arns.arn key) = some (.object document) ∧
      document.map Prod.fst = runtimeKeys key) ∧
    (∀ key value, s.secrets (arns.arn key) = some value → ∃ document document',
      value = .object document ∧ s'.secrets (arns.arn key) = some (.object document') ∧
      List.Forall₂ (Rebinds conn inputs.hosts) document document') ∧
    ∀ again end_ s'', again.hosts = inputs.hosts →
      (bootstrap conn arns again).Runs (Serves arns) end_ s'' s' → s'' = s' := by
  have h_consistent := h_reached.consistent h_conn
  -- the attempt starts from what earlier attempts have left, wherever they were cut
  have h_converged := (Attempt.bootstrap_survives
    (a := ⟨conn, h_conn, arns, inputs, Serves arns, id, s, fun _ => True⟩) h_consistent).runs h_run
  obtain ⟨h_safe, h_documents⟩ := h_converged.1 () rfl
  refine ⟨?_, fun key => ?_, fun key value h_value => ?_, fun again end_ s'' h_hosts h_again => ?_⟩
  · obtain ⟨worker, h_worker, -⟩ := h_documents .worker
    obtain ⟨remote, h_remote, -⟩ := h_documents .remote
    obtain ⟨token, h_shares⟩ := h_safe.consistent.shares
    exact ⟨token, worker, remote, h_worker, h_remote, h_shares .worker (by decide) worker h_worker,
      h_shares .remote (by decide) remote h_remote⟩
  · obtain ⟨document, h_document, h_sound, -⟩ := h_documents key
    exact ⟨document, h_document, h_sound.1⟩
  · obtain ⟨document, rfl, -⟩ := h_consistent.sound key value h_value
    obtain ⟨document', h_document', -, -, h_rebinds⟩ := h_documents key
    exact ⟨document, document', rfl, h_document', h_rebinds document h_value⟩
  · -- all documents are settled for these hosts
    have h_runs := (Attempt.bootstrap_survives
      (a := ⟨conn, h_conn, arns, again, Serves arns, id, s', fun _ => True⟩) h_safe.consistent).runs
        h_again
    have h_settled : ∀ key, ∃ document, s'.secrets (arns.arn key) = some (.object document) ∧
        ∀ entry ∈ document, Settled conn again.hosts entry := fun key => by
      obtain ⟨document, h_document, -, h_settled, -⟩ := h_documents key
      exact ⟨document, h_document, h_hosts ▸ h_settled⟩
    cases end_ with
    | returned result => exact (h_runs.1 result rfl).safe.frozen h_settled
    | raised => exact (h_runs.2.1 rfl).1.frozen h_settled
    | cut => exact (h_runs.2.2 rfl).frozen h_settled

/-- **No earlier run stands in the way**: where no call fails, and the master secrets and the
parameters are as they should be, a run that is not cut short returns. -/
theorem bootstrap_returns (a : Attempt) (h_reached : Reached a.conn a.arns a.before)
    (h_reliable : a.Reliable) {end_ : Outcome Unit}
    (h_run : (bootstrap a.conn a.arns a.inputs).Runs a.serves end_ s' a.before)
    (h_end : end_ ≠ .cut) :
    end_ = .returned () := by
  have h_runs := (a.bootstrap_survives (h_reached.consistent a.lawful)).runs h_run
  cases end_ with
  | returned => rfl
  | raised => exact absurd h_reliable (h_runs.2.1 rfl).2
  | cut => exact absurd rfl h_end

/-- So does its run against a server that always answers. -/
theorem serve_returns (a : Attempt) (h_reached : Reached a.conn a.arns a.before)
    (h_reliable : a.Reliable)
    {server : Vault → (q : Question) → Option (Replies Question.Reply q × Vault)}
    (h_server : ∀ s q reply s', server s q = some (reply, s') → a.serves s q reply s')
    (h_total : ∀ s q, server s q ≠ none) :
    (bootstrap a.conn a.arns a.inputs).Runs (Serves a.arns) (.returned ())
      ((bootstrap a.conn a.arns a.inputs).serve server a.before).2 a.before := by
  have h_end := bootstrap_returns a h_reached h_reliable (runs_serve h_server _ a.before)
    (serve_ne_cut h_total _ _)
  have h_serves : ∀ s q reply s', server s q = some (reply, s') → Serves a.arns s q reply s' :=
    fun s q reply s' h => a.truthful (h_server s q reply s' h)
  have h_run := runs_serve h_serves (bootstrap a.conn a.arns a.inputs) a.before
  rwa [h_end] at h_run

/-! ### A crash, and another run -/

/-- The one token that is drawn. -/
def token : Token := ⟨"token", by decide⟩

/-- The secrets are named by their roles. -/
def named : Arns where
  arn
    | .api => "api"
    | .worker => "worker"
    | .remote => "remote"
    | .verifier => "verifier"
    | .observer => "observer"
  injective key other h := by
    cases key <;> cases other <;> first | rfl | exact absurd h (by decide)

/-- A vault and databases that never fail. -/
def answer (s : Vault) : (q : Question) → Replies Question.Reply q × Vault
  | .getSecretValue secretId =>
    if secretId = "master" then
      (some (some (.object [("username", .string "owner"), ("password", .string "secret")])), s)
    else (some (s.secrets secretId), s)
  | .putSecretValue secretId document => (some (), s.put secretId document)
  | .tokenUrlsafe => (some token, s)
  | .roleExists _ _ => (some true, s)
  | .connect _ | .role _ _ _ | .migrate _ | .nologin _ _ | .grants _ _ => (some (), s)

/-- These answers are those of a Secrets Manager. -/
theorem serves_answer (s : Vault) (q : Question) :
    Serves named s q (answer s q).1 (answer s q).2 := by
  cases q with
  | getSecretValue secretId =>
    rw [answer]
    split
    next h_master =>
      refine ⟨rfl, fun key h_key => absurd (h_master.symm.trans h_key) ?_⟩
      cases key <;> decide
    next => exact ⟨rfl, fun _ _ => rfl⟩
  | _ => exact rfl

/-- The inputs of a run, with the order of the roles and the host of the control database. -/
def inputs (order : List Role) (nodup : order.Nodup) (complete : ∀ key, key ∈ order)
    (host : String) :
    Inputs where
  order
  nodup
  complete
  masters _ := "master"
  hosts := both host "remote.test"
  databaseName := "control"

/-- The first run. -/
def before : Inputs :=
  inputs [.api, .worker, .remote, .verifier, .observer] (by decide)
    (fun key => by cases key <;> decide)
    "control.test"

/-- The run behind the restoration: another host, and another order of the roles. -/
def after : Inputs :=
  inputs [.observer, .verifier, .remote, .worker, .api] (by decide)
    (fun key => by cases key <;> decide)
    "restored.test"

/-- The run that is cut short when it has stored two documents. -/
theorem exists_crashed : ∃ s, Reached plain named s := by
  have h_server : ∀ s q reply s', (if s.puts.length < 2 then some (answer s q) else none) =
      some (reply, s') → Serves named s q reply s' := by
    intro s q reply s' h
    obtain ⟨-, h⟩ := Option.ite_none_right_eq_some.mp h
    obtain ⟨rfl, rfl⟩ := Prod.mk.inj (Option.some.inj h)
    exact serves_answer s q
  exact ⟨_, .run (.start (s := ⟨fun _ => none, []⟩) fun _ => rfl) ⟨before, rfl⟩
    (runs_serve h_server _ _)⟩

/-- The next run, with another host and in another order. -/
def next (s : Vault) : Attempt where
  conn := plain
  lawful := plain_lawful
  arns := named
  inputs := after
  serves s q reply s' := (reply, s') = answer s q
  truthful {s s' q reply} h := by
    obtain ⟨rfl, rfl⟩ := Prod.mk.inj h
    exact serves_answer s q
  before := s
  printable text := Plain.isPlain text = true

/-- The second run is reliable. -/
theorem reliable_next (s : Vault) : (next s).Reliable where
  answers s q s' h := by
    have h_reply : none = (answer s q).1 := congrArg Prod.fst h
    cases q with
    | getSecretValue secretId =>
      rw [answer] at h_reply
      split at h_reply <;> cases h_reply
    | _ => cases h_reply
  tokens s token s' h := by
    obtain ⟨h_token, -⟩ := Prod.mk.inj h
    obtain rfl := Option.some.inj h_token
    show Plain.isPlain "token" = true
    decide
  masters s database found s' h := by
    obtain ⟨h_found, -⟩ := Prod.mk.inj h
    obtain rfl := Option.some.inj h_found
    refine ⟨_, _, rfl, rfl, .string "owner", .string "secret", rfl, rfl, ?_⟩
    have h_plain : Plain.isPlain "owner" = true ∧ Plain.isPlain "secret" = true := by decide
    rintro text (h_text | h_text)
    · exact Option.some.inj h_text ▸ h_plain.1
    · exact Option.some.inj h_text ▸ h_plain.2
  hosts database := by
    show Plain.isPlain (both "restored.test" "remote.test" database) = true
    cases database <;> decide
  databaseName := by
    show Plain.isPlain "control" = true
    decide
  constants := by
    show ∀ text ∈ constants, Plain.isPlain text = true
    decide
  -- plain parameters need no quotes, so they print as they are
  prints base info parameters h h_printable := by
    refine plain_prints h fun entry h_entry => ?_
    obtain ⟨h_name, h_plain⟩ := h_printable entry h_entry
    refine (Bool.and_eq_true _ _).mpr ⟨?_, h_plain⟩
    have h_names : ∀ name ∈ parameterNames, Plain.keywords.contains name = true := by decide
    exact h_names entry.1 h_name

/-- So a first run is cut short, and the next one comes to its end with one token for both
executors. -/
theorem exists_recovered : ∃ s s', Reached plain named s ∧
    (bootstrap plain named after).Runs (Serves named) (.returned ()) s' s ∧
    ∃ token worker remote, s'.secrets "worker" = some (.object worker) ∧
      s'.secrets "remote" = some (.object remote) ∧
      worker.lookup "EXECUTOR_TOKEN" = some token ∧
        remote.lookup "EXECUTOR_TOKEN" = some token := by
  obtain ⟨s, h_reached⟩ := exists_crashed
  have h_server : ∀ s' q reply s'', some (answer s' q) = some (reply, s'') →
      (next s).serves s' q reply s'' := fun _ _ _ _ h => (Option.some.inj h).symm
  have h_run := serve_returns (next s) h_reached (reliable_next s) h_server
    fun _ _ => Option.some_ne_none _
  exact ⟨s, _, h_reached, h_run, (bootstrap_converges plain_lawful h_reached after h_run).1⟩

end ControlPlane.Bootstrap
