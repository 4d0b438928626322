import ControlPlane.Cloud.Evidence
import ControlPlane.Model.Retained

/-!
# A source is replaced only on proof

What is behind the request to delete the source (`SourceGrounds`), behind the request to restore it
(`RestoreGrounds`) and behind a result (`Accepted`), as stages of the history; all three begin with
what was seen and recorded before anything was changed (`Prepared`). A run makes at most these two
requests, in this order, whatever is answered (`retained_onProof`).
-/

namespace ControlPlane.Retained

open Framework Registry
open Rehearsal (Backup Covers Database Harmless Manifest Observed OnlyReceipts Recoverable
  RestoreRequest)
open Dialogue (Guarded each poll guarded_call guarded_lastCall guarded_check guarded_lastCheck
  guarded_ofOption guarded_pure guarded_each guarded_poll)
open Native (verifyReconciliation)

variable {m : Manifest} {baseline : ℤ} {s : Survey} {fingerprint : String}

/-! ### The stages -/

/-- A stretch of calls that the rehearsal could make. -/
def Shared (Stage : Rehearsal.History → Prop) (stretch : History) : Prop :=
  ∃ asked, stretch = ofRehearsal.history asked ∧ Stage asked

/-- The question was answered so. -/
def Told (q : Question) (reply : q.Reply) (stretch : History) : Prop := stretch = [⟨q, some reply⟩]

/-- The exchange of a question and its answer is told. -/
theorem told {q : Question} {reply : q.Reply} : Told q reply [⟨q, some reply⟩] := rfl

/-- The checkpoint was written, stored, and read back from both places. -/
def Durable (document : Checkpoint) (stretch : History) : Prop :=
  stretch = [⟨.shared .now, some document.at_⟩, ⟨.writeCheckpoint document, some (some document)⟩,
    ⟨.putCheckpoint document, some ()⟩,
    ⟨.getCheckpoint document.phase (digest document), some (some document)⟩]

/-- All three resources are in the registry that was written. -/
def Enlisted (m : Manifest) (s : Survey) (stretch : Rehearsal.History) : Prop :=
  ∃ document merged, stretch = [⟨.getRegistry, some document⟩,
      ⟨.putRegistry (values merged) document.etag, some ()⟩] ∧
    [Rehearsal.databaseRow s.source, Rehearsal.databaseRow s.remote,
      Rehearsal.backupRow m s.source s.before].foldlM registerRow (keyed document.rows) =
        some merged

/-- A standalone source whose active window has the baseline, and another receipts database. -/
def Surveyed (m : Manifest) (baseline : ℤ) (s : Survey) (asked : Rehearsal.History) : Prop :=
  s.source.replicated = false ∧ s.source.resource ≠ s.remote.resource ∧
    Passes [Observed m.control s.source, Covers m s.source "active" baseline s.before.metadata,
      Observed m.remote s.remote] asked

/-- There is enough time, the key stays, a snapshot is kept long enough, and all resources are in
the registry and the evidence in a durable checkpoint. -/
def Secured (m : Manifest) (baseline : ℤ) (s : Survey) (fingerprint : String) (stretch : History) :
    Prop :=
  ∃ now snapshots at_, headroom ≤ m.cleanupAt - now ∧
    (∃ snapshot ∈ snapshots, Rehearsal.usable m s.source baseline snapshot = true) ∧
    Passes [Told (.shared .now) now, Told (.describeKey s.source.key) ⟨"Enabled", false⟩,
      Told (.shared (.describeSnapshots m.control)) snapshots, Shared (Enlisted m s),
      Durable ⟨"before-source-deletion", at_, s.evidence baseline fingerprint, .beforeDeletion⟩]
        stretch

/-- What was seen and recorded before anything was changed; the verification between the two finds
one intent with one effect. -/
def Prepared (m : Manifest) (baseline : ℤ) (s : Survey) (fingerprint : String)
    (history : History) : Prop :=
  ∃ surveyed good secured,
    history = surveyed ++ [⟨.shared (.task false { name := .verify }), some good⟩] ++ secured ∧
    Shared (Surveyed m baseline s) surveyed ∧
    verifyReconciliation false .null good = some fingerprint ∧
    Secured m baseline s fingerprint secured

/-- The same physical instance still had the same backup with the baseline in its window, its
protection was lifted, and the window was seen last. -/
def Confirmed (m : Manifest) (baseline : ℤ) (s : Survey) (asked : Rehearsal.History) : Prop :=
  ∃ later covered latest current row, asked = later ++ covered ∧
    latest.resource = s.source.resource ∧ current.arn = s.backupArn ∧
    row.resource = s.source.resource ∧ row.deletionProtection = false ∧
    Passes [Observed m.control latest, Covers m latest "active" baseline current,
      Rehearsal.Told (.modifyDbInstance m.control .protectionOff) (), Observed m.control row]
        later ∧
    Recoverable m row baseline covered

/-- What is behind the request to delete the source. -/
def SourceGrounds (m : Manifest) (baseline : ℤ) (before : History) : Prop :=
  ∃ s fingerprint prepared confirmed, before = prepared ++ confirmed ∧
    Prepared m baseline s fingerprint prepared ∧ Shared (Confirmed m baseline s) confirmed

/-- The source was asked to be deleted and is gone, its backup is retained with the baseline in its
window, the receipts database is the same, and this is in a durable checkpoint. -/
def Retention (m : Manifest) (baseline : ℤ) (s : Survey) (fingerprint : String)
    (later : History) : Prop :=
  ∃ retained remote at_, retained.arn = s.backupArn ∧ remote.resource = s.remote.resource ∧
    Passes [Told (.shared (.deleteDbInstance m.control false)) (),
      Told (.shared (.describeDbInstance m.control)) .notFound,
      Shared (Covers m s.source "retained" baseline retained), Shared (Observed m.remote remote),
      Durable ⟨"retained-backup-observed", at_, s.evidence baseline fingerprint,
        .retained retained⟩] later

/-- What is behind the request to restore; just before it the receipts database was the only one
left, and the key enabled. -/
def RestoreGrounds (m : Manifest) (baseline : ℤ) (request : RestoreRequest) (before : History) :
    Prop :=
  ∃ s fingerprint prepared later rows date parameterGroup,
    before = prepared ++ later ++ [⟨.shared .describeDbInstances, some rows⟩,
      ⟨.describeKey s.source.key, some ⟨"Enabled", date⟩⟩] ∧
    Prepared m baseline s fingerprint prepared ∧
    request = Rehearsal.restoreRequest m s.source baseline parameterGroup ∧
    Retention m baseline s fingerprint later ∧ OnlyReceipts m rows

/-- The receipts database was the same, the restored one was verified with the fingerprint and
refused to resume, and this is in a durable checkpoint. -/
def Reverified (m : Manifest) (s : Survey) (baseline : ℤ) (fingerprint : String)
    (restored : Database) (attempt : ℕ) (stretch : History) : Prop :=
  ∃ remote blocked at_, remote.resource = s.remote.resource ∧
    (verifyReconciliation true (.string fingerprint) blocked).isSome ∧
    Passes [Shared (Observed m.remote remote),
      Told (.shared (.task true (Rehearsal.verification restored 2))) blocked,
      Durable ⟨"restored-reconciliation-" ++ toString attempt ++ "-verified", at_,
        s.evidence baseline fingerprint, .reconciled restored blocked attempt⟩] stretch

/-- What is behind a result: a restored database of its own with the key of the source, which was
verified twice, and everything is in durable checkpoints. -/
def Accepted (m : Manifest) (baseline : ℤ) (result : Result) (history : History) : Prop :=
  ∃ s fingerprint prepared retention later parameterGroup restored at_ at_',
    history = prepared ++ retention ++ later ∧ Prepared m baseline s fingerprint prepared ∧
    Retention m baseline s fingerprint retention ∧
    result.baseline = baseline ∧ result.fingerprint = fingerprint ∧
    restored.resource ≠ s.source.resource ∧ restored.resource ≠ s.remote.resource ∧
    restored.key = s.source.key ∧
    Passes [Told (.shared (.restoreDbInstance (Rehearsal.restoreRequest m s.source baseline
        parameterGroup))) result.requestId, Shared (Observed m.target restored),
      Durable ⟨"restored-instance-available", at_, s.evidence baseline fingerprint,
        .available restored result.requestId⟩,
      Reverified m s baseline fingerprint restored 1,
      Reverified m s baseline fingerprint restored 2,
      Durable ⟨"restored-fail-closed-verified", at_', s.evidence baseline fingerprint,
        .passed result⟩] later

/-- The calls that cannot be undone. -/
def Question.Destructive : Question → Prop
  | shared q => q.Destructive
  | _ => False

/-- The call of the exchange, if it cannot be undone. -/
def requested (exchange : Exchange) : Option Rehearsal.Question :=
  match exchange.1 with
  | .shared (.deleteDbInstance identifier deleteAutomatedBackups) =>
    some (.deleteDbInstance identifier deleteAutomatedBackups)
  | .shared (.restoreDbInstance request) => some (.restoreDbInstance request)
  | _ => none

/-- The requests of a history that cannot be undone, the first one first. -/
def requests (history : History) : List Rehearsal.Question := history.filterMap requested

/-- A request that cannot be undone has its grounds in the history so far. -/
def Permitted (m : Manifest) (approved : Bool) (baseline : ℤ) (before : History) : Question → Prop
  | .shared (.deleteDbInstance identifier deleteAutomatedBackups) =>
    approved = true ∧ requests before = [] ∧ identifier = m.control ∧
      deleteAutomatedBackups = false ∧ SourceGrounds m baseline before
  | .shared (.restoreDbInstance request) =>
    requests before = [.deleteDbInstance m.control false] ∧ RestoreGrounds m baseline request before
  | _ => True

/-! ### Programs that destroy nothing -/

/-- The requests of two stretches. -/
theorem requests_append (before stretch : History) :
    requests (before ++ stretch) = requests before ++ requests stretch :=
  List.filterMap_append

/-- A question that destroys nothing is no such request. -/
theorem requested_of_not_destructive {q : Question} (h : ¬ q.Destructive)
    (answer : Option q.Reply) : requested ⟨q, answer⟩ = none := by
  cases q with
  | shared q =>
    cases q with
    | deleteDbInstance _ _ | restoreDbInstance _ => exact absurd trivial h
    | _ => rfl
  | _ => rfl

/-- What cannot destroy anything is always permitted. -/
theorem permitted_quiet {approved : Bool} (before : History) (q : Question)
    (h : ¬ q.Destructive) : Permitted m approved baseline before q := by
  cases q with
  | shared q =>
    cases q with
    | deleteDbInstance _ _ | restoreDbInstance _ => exact absurd trivial h
    | _ => trivial
  | _ => trivial

/-- A program that destroys and restores nothing, with what it adds. -/
abbrev Quiet {α : Type} (Post : α → History → Prop) (x : Controller α) : Prop :=
  x.Guarded (fun _ q => ¬ q.Destructive)
    (fun result stretch => Post result stretch ∧ requests stretch = []) (fun _ => True) []

/-- A program without destructive questions makes no such request. -/
theorem quiet {α : Type} {Post : α → History → Prop} {x : Controller α}
    (h : x.Guarded (fun _ q => ¬ q.Destructive) Post (fun _ => True) []) : Quiet Post x := by
  refine (h.keeps (I := fun stretch => requests stretch = []) rfl ?_).imp (fun _ _ h => h)
    (fun _ _ h => h) fun _ _ => trivial
  intro stretch q answer h_q h_none
  rw [requests_append, h_none]
  simp [requests, requested_of_not_destructive h_q answer]

/-- A stretch of shared calls destroys nothing where they do not in the rehearsal. -/
theorem shared_quiet {α : Type} {Post : α → Rehearsal.History → Prop} {x : Rehearsal.Controller α}
    (h : Harmless Post x) : Quiet (fun result => Shared (Post result)) (shared x) := by
  refine quiet (h.lift.imp ?_ (fun _ _ h => h) fun _ _ => trivial)
  rintro _ _ ⟨_, q, -, rfl, h_q⟩
  exact h_q

/-- Shared stages, read among the exchanges of this program. -/
theorem Shared.passes {stages : List (Rehearsal.History → Prop)} {stretch : History}
    (h : Shared (Passes stages) stretch) : Passes (stages.map Shared) stretch := by
  obtain ⟨asked, rfl, h_passes⟩ := h
  exact h_passes.map ofRehearsal.exchange

/-- A shared question is told. -/
theorem shared_told (q : Rehearsal.Question) (reply : q.Reply) :
    Shared (Rehearsal.Told q reply) = Told (.shared q) reply := by
  funext stretch
  refine propext ⟨?_, fun h => ⟨[⟨q, some reply⟩], h, Rehearsal.told⟩⟩
  rintro ⟨_, rfl, rfl⟩
  rfl

/-- A checkpoint that returns is durable, and nothing is requested. -/
theorem checkpoint_quiet (phase : String) (evidence : Evidence) (addition : Addition) :
    Quiet (fun _ stretch => ∃ at_, Durable ⟨phase, at_, evidence, addition⟩ stretch)
      (checkpoint phase evidence addition) := by
  refine quiet (guarded_call id trivial fun at_ => ?_)
  refine guarded_call id trivial fun written => ?_
  refine guarded_check trivial fun h_written => ?_
  refine guarded_call id trivial fun _ => ?_
  refine guarded_call id trivial fun read => ?_
  refine guarded_lastCheck trivial fun h_read => ?_
  rw [of_decide_eq_true h_written, of_decide_eq_true h_read]
  exact ⟨at_, rfl⟩

/-! ### The stretches of shared calls -/

section Stretches

open Rehearsal (backup_adds database_observed drained_adds describe_adds
  instances_adds tags_adds unprotected_adds available_adds retainOneDay_adds)

/-- Only the receipts database is left. -/
theorem onlyReceipts_adds : Harmless (fun _ stretch => ∃ rows,
    Rehearsal.Told .describeDbInstances rows stretch ∧ OnlyReceipts m rows)
    (Rehearsal.instances [m.remote]) := by
  refine (instances_adds [m.remote]).imp (fun _ _ h => h) ?_ fun _ h => h
  rintro _ stretch ⟨rows, h_told, h_only, h_some⟩
  refine ⟨rows, h_told, ?_, fun row h_row => List.mem_singleton.mp (h_only row h_row)⟩
  obtain ⟨row, h_row, -⟩ := h_some m.remote (List.mem_singleton_self _)
  exact List.ne_nil_of_mem h_row

/-- The control database was observed, and its active backup covers the baseline. -/
theorem waitWindow_adds : Harmless (fun found => Passes [Observed m.control found.1,
    Covers m found.1 "active" baseline found.2.metadata]) (waitWindow m baseline) := by
  refine guarded_poll (I := fun _ => True) trivial (fun _ _ => trivial) fun history _ => ?_
  refine guarded_call id trivial fun _ => ?_
  refine (database_observed m.control).andThen (fun _ _ h => h) (fun _ _ => trivial) ?_
  intro source described h_source
  refine (backup_adds source "active" baseline).andThen (fun _ _ h => h) (fun _ _ => trivial) ?_
  intro window covered h_covers
  refine guarded_pure ?_
  cases window with
  | none => trivial
  | some window =>
    exact ((passes_one h_source).behind _).concat (h_covers window rfl)

/-- What the survey has seen. -/
theorem survey_adds : Harmless (Surveyed m baseline) (survey m baseline) := by
  refine guarded_call id trivial fun _ => ?_
  refine drained_adds.andThen (fun _ _ h => h) (fun _ _ => trivial) fun _ _ _ => ?_
  refine (instances_adds _).andThen (fun _ _ h => h) (fun _ _ => trivial) fun _ _ _ => ?_
  refine waitWindow_adds.andThen (fun _ _ h => h) (fun _ _ => trivial) ?_
  rintro ⟨source, before⟩ waited h_waited
  refine (database_observed m.remote).andThen (fun _ _ h => h) (fun _ _ => trivial) ?_
  intro remote described h_remote
  refine guarded_check trivial fun h_single => ?_
  refine guarded_check trivial fun h_distinct => ?_
  rw [Bool.not_eq_true'] at h_single
  exact guarded_pure ⟨h_single, of_decide_eq_true h_distinct, (h_waited.behind _).concat h_remote⟩

/-- Both databases and the backup are in the registry. -/
theorem enlist_adds : Harmless (fun _ => Passes [Enlisted m s]) (enlist m s) := by
  refine guarded_call id trivial fun _ => ?_
  refine (tags_adds s.backupArn).andThen (fun _ _ h => h) (fun _ _ => trivial) fun _ _ _ => ?_
  refine guarded_call id trivial fun document => ?_
  refine guarded_check trivial fun _ => ?_
  refine guarded_ofOption trivial fun merged h_merged => ?_
  refine guarded_lastCall (q := Rehearsal.Question.putRegistry _ _) id trivial fun _ => ?_
  rw [List.append_assoc]
  exact (passes_one ⟨document, merged, rfl, h_merged⟩).behind _

/-- The protection is taken off the same physical source, whose active backup covers the
baseline. -/
theorem unprotect_adds : Harmless (fun row stretch => ∃ latest current,
    latest.resource = s.source.resource ∧ current.arn = s.backupArn ∧
    row.resource = s.source.resource ∧ row.deletionProtection = false ∧
    Passes [Observed m.control latest, Covers m latest "active" baseline current,
      Rehearsal.Told (.modifyDbInstance m.control .protectionOff) (), Observed m.control row]
      stretch)
    (unprotect m s baseline) := by
  refine guarded_call id trivial fun _ => ?_
  refine drained_adds.andThen (fun _ _ h => h) (fun _ _ => trivial) fun _ _ _ => ?_
  -- the two databases are all that is listed
  refine (instances_adds _).andThen (fun _ _ h => h) (fun _ _ => trivial) fun _ _ _ => ?_
  refine (database_observed m.control).andThen (fun _ _ h => h) (fun _ _ => trivial) ?_
  intro latest described h_latest
  refine (backup_adds latest "active" baseline).andThen (fun _ _ h => h) (fun _ _ => trivial) ?_
  intro found covered h_covers
  -- the source and its backup are still those of the survey
  refine guarded_check trivial fun h_same => ?_
  rw [Bool.and_eq_true, decide_eq_true_eq, Option.any_eq_true] at h_same
  obtain ⟨h_resource, window, rfl, h_arn⟩ := h_same
  refine (tags_adds s.backupArn).andThen (fun _ _ h => h) (fun _ _ => trivial) fun _ tagged _ => ?_
  refine guarded_call id trivial fun _ => ?_
  refine (unprotected_adds m.control s.source.resource 20).after (fun _ _ h => h) ?_
    fun _ _ => trivial
  rintro row polled ⟨h_row, h_unprotected, h_polled⟩
  refine ⟨latest, window.metadata, h_resource, of_decide_eq_true h_arn, h_row, h_unprotected, ?_⟩
  exact (((((passes_one h_latest).behind _).concat (h_covers window rfl)).extend tagged).concat
    Rehearsal.told).append h_polled

/-- All of this is confirmed once more. -/
theorem confirm_adds : Harmless (fun _ => Confirmed m baseline s) (confirm m s baseline) := by
  refine unprotect_adds.andThen (fun _ _ h => h) (fun _ _ => trivial) ?_
  rintro row first ⟨latest, current, h_latest, h_current, h_row, h_unprotected, h_first⟩
  refine guarded_call id trivial fun _ => ?_
  refine drained_adds.andThen (fun _ _ h => h) (fun _ _ => trivial) fun _ drained _ => ?_
  refine (tags_adds s.backupArn).andThen (fun _ _ h => h) (fun _ _ => trivial) fun _ tagged _ => ?_
  -- the backup is looked at once more behind the change
  refine (backup_adds row "active" baseline).andThen (fun _ _ h => h) (fun _ _ => trivial) ?_
  intro found covered h_covers
  refine guarded_lastCheck trivial fun h_some => ?_
  obtain ⟨window, h_window⟩ := Option.isSome_iff_exists.mp h_some
  refine ⟨first ++ [_] ++ drained ++ tagged, covered, latest, current, row, rfl, h_latest,
    h_current, h_row, h_unprotected, ?_, window.metadata, h_covers window h_window⟩
  exact ((h_first.extend _).extend drained).extend tagged

/-- In the end the database was not found. -/
theorem deleted_adds (name : String) (turns : ℕ) : Harmless (fun _ =>
    Passes [Rehearsal.Told (.describeDbInstance name) .notFound])
    (poll (Rehearsal.tryDeleted m name) turns) := by
  refine guarded_poll (I := fun _ => True) trivial (fun _ _ => trivial) fun history _ => ?_
  refine guarded_call id trivial fun _ => ?_
  refine guarded_call id trivial fun described => ?_
  -- a turn ends the wait only where the database is not found
  split
  next => exact guarded_pure trivial
  next =>
    refine (instances_adds _).andThen (fun _ _ h => h) (fun _ _ => trivial) fun _ listed _ => ?_
    exact guarded_pure (((passes_one Rehearsal.told).behind _).extend listed)

/-- The same backup is retained, and the receipts database is still the same. -/
theorem awaitRetained_adds : Harmless (fun retained stretch => ∃ remote,
    retained.arn = s.backupArn ∧ remote.resource = s.remote.resource ∧
    Passes [Covers m s.source "retained" baseline retained, Observed m.remote remote] stretch)
    (awaitRetained m s baseline) := by
  -- the turns, of which the last has found the backup retained
  have h_poll : Harmless (fun retained => Passes [Covers m s.source "retained" baseline
      retained.metadata]) (poll (tryRetained m s baseline) 40) := by
    refine guarded_poll (I := fun _ => True) trivial (fun _ _ => trivial) fun history _ => ?_
    refine guarded_call id trivial fun _ => ?_
    refine (backup_adds _ _ _).after (fun _ _ h => h) ?_ fun _ _ => trivial
    intro found covered h_covers
    cases found with
    | none => trivial
    | some window => exact (passes_one (h_covers window rfl)).behind _
  refine h_poll.andThen (fun _ _ h => h) (fun _ _ => trivial) fun retained polled h_polled => ?_
  refine guarded_check trivial fun h_arn => ?_
  refine (tags_adds s.backupArn).andThen (fun _ _ h => h) (fun _ _ => trivial) fun _ tagged _ => ?_
  refine (database_observed m.remote).andThen (fun _ _ h => h) (fun _ _ => trivial) ?_
  intro remote described h_remote
  refine guarded_check trivial fun h_resource => ?_
  exact guarded_pure ⟨remote, of_decide_eq_true h_arn, of_decide_eq_true h_resource,
    (h_polled.extend tagged).concat h_remote⟩

/-- The restored database is a new one, under the key of the source. -/
theorem awaitRestored_adds : Harmless (fun restored stretch =>
    restored.resource ≠ s.source.resource ∧ restored.resource ≠ s.remote.resource ∧
    restored.key = s.source.key ∧ Passes [Observed m.target restored] stretch)
    (awaitRestored m s) := by
  refine (available_adds 90).andThen (fun _ _ h => h) (fun _ _ => trivial) fun row _ _ => ?_
  refine guarded_check trivial fun _ => ?_
  refine (retainOneDay_adds row).andThen (fun _ _ h => h) (fun _ _ => trivial) fun _ _ _ => ?_
  refine (database_observed m.target).andThen (fun _ _ h => h) (fun _ _ => trivial) ?_
  intro restored described h_restored
  refine guarded_check trivial fun h_own => ?_
  simp only [Bool.and_eq_true, decide_eq_true_eq] at h_own
  exact guarded_pure ⟨h_own.1.1, h_own.1.2, h_own.2, (passes_one h_restored).behind _⟩

/-- The restored database was compared while it is blocked. -/
theorem verifyBlocked_adds (restored : Database) : Harmless (fun blocked stretch => ∃ remote,
    remote.resource = s.remote.resource ∧ Passes [Observed m.remote remote,
      Rehearsal.Told (.task true (Rehearsal.verification restored 2)) blocked] stretch)
    (verifyBlocked m s restored) := by
  refine (database_observed m.remote).andThen (fun _ _ h => h) (fun _ _ => trivial) ?_
  intro remote described h_remote
  refine guarded_check trivial fun h_resource => ?_
  refine guarded_lastCall (q := Rehearsal.Question.task _ _) id trivial fun blocked => ?_
  exact ⟨remote, of_decide_eq_true h_resource, (passes_one h_remote).concat Rehearsal.told⟩

end Stretches

/-! ### The whole of `execute` -/

/-- A quiet program, behind which the rule goes on from the same requests. -/
theorem Quiet.andThen {α β : Type} {M : α → History → Prop} {Post : β → History → Prop}
    {x : Controller α} {f : α → Controller β} (h_x : Quiet M x)
    {Allowed : History → Question → Prop} {history : History}
    (h_allowed : ∀ before q, ¬ q.Destructive → Allowed before q)
    (h_next : ∀ result stretch, M result stretch → requests stretch = [] →
      (f result).Guarded Allowed Post (fun _ => True) (history ++ stretch)) :
    (x >>= f).Guarded Allowed Post (fun _ => True) history := by
  refine Dialogue.Guarded.andThen h_x (fun _ _ h => h_allowed _ _ h) (fun _ _ => trivial) ?_
  exact fun result stretch h => h_next result stretch h.1 h.2

/-- The preparation secures the source and requests nothing. -/
theorem prepareDeletion_quiet : Quiet (fun _ => Secured m baseline s fingerprint)
    (prepareDeletion m s baseline fingerprint) := by
  refine quiet (guarded_call id trivial fun now => ?_)
  refine guarded_check trivial fun h_now => ?_
  refine guarded_call id trivial fun key => ?_
  refine guarded_check trivial fun h_key => ?_
  obtain ⟨state, date⟩ := key
  rw [Bool.and_eq_true, decide_eq_true_eq, Bool.not_eq_true'] at h_key
  obtain ⟨rfl, rfl⟩ : state = "Enabled" ∧ date = false := h_key
  refine guarded_call id trivial fun snapshots => ?_
  refine guarded_check trivial fun h_snapshots => ?_
  refine (shared_quiet enlist_adds).andThen (fun _ _ h => h) fun _ enlisted h_enlisted _ => ?_
  refine (checkpoint_quiet _ _ _).after (fun _ _ h => h) ?_ fun _ _ => trivial
  rintro _ written ⟨⟨at_, h_written⟩, -⟩
  refine ⟨now, snapshots, at_, of_decide_eq_true h_now, List.any_eq_true.mp h_snapshots, ?_⟩
  exact ((((passes_one told).concat told).concat told).append h_enlisted.passes).concat h_written

/-- So does each verification of the restored database. -/
theorem verifyRestored_quiet (restored : Database) (attempt : ℕ) :
    Quiet (fun _ => Reverified m s baseline fingerprint restored attempt)
      (verifyRestored m s (s.evidence baseline fingerprint) restored attempt) := by
  refine quiet ((shared_quiet (verifyBlocked_adds restored)).andThen (fun _ _ h => h) ?_)
  rintro blocked observed ⟨asked, rfl, remote, h_resource, h_passes⟩ -
  have h_shared := Shared.passes ⟨asked, rfl, h_passes⟩
  simp only [List.map_cons, List.map_nil, shared_told] at h_shared
  refine guarded_ofOption trivial fun _ h_verified => ?_
  refine (checkpoint_quiet _ _ _).after (fun _ _ h => h) ?_ fun _ _ => trivial
  rintro _ written ⟨⟨at_, h_written⟩, -⟩
  exact ⟨remote, blocked, at_, h_resource, Option.isSome_iff_exists.mpr ⟨_, h_verified⟩,
    h_shared.concat h_written⟩

section Recover

variable {prepared : History}

/-- The source is deleted once, behind its preparation, and is not found in the end. -/
theorem deleteSource_guarded (h_prepared : Prepared m baseline s fingerprint prepared)
    (h_none : requests prepared = []) :
    (deleteSource m s baseline).Guarded (Permitted m true baseline)
      (fun _ history => ∃ deleting, history = prepared ++ deleting ∧
        requests deleting = [.deleteDbInstance m.control false] ∧
        Passes [Told (.shared (.deleteDbInstance m.control false)) (),
          Told (.shared (.describeDbInstance m.control)) .notFound] deleting)
      (fun _ => True) prepared := by
  refine (shared_quiet confirm_adds).andThen permitted_quiet ?_
  intro _ confirmed h_confirmed h_confirmed_none
  -- the deletion, behind `prepared` and what has just been confirmed
  refine guarded_call ⟨rfl, ?_, rfl, rfl, s, fingerprint, prepared, confirmed, rfl, h_prepared,
    h_confirmed⟩ trivial fun _ => ?_
  · rw [requests_append, h_none, h_confirmed_none, List.append_nil]
  refine (shared_quiet (deleted_adds m.control 90)).after (fun _ _ => permitted_quiet _ _) ?_
    fun _ _ => trivial
  rintro _ deleted ⟨h_deleted, h_deleted_none⟩
  have h_gone := h_deleted.passes
  simp only [List.map_cons, List.map_nil, shared_told] at h_gone
  refine ⟨confirmed ++ [_] ++ deleted, by simp [List.append_assoc], ?_,
    ((passes_one told).behind confirmed).append h_gone⟩
  -- it is the only request in this stretch that cannot be undone
  rw [requests_append, requests_append, h_confirmed_none, h_deleted_none]
  rfl

/-- The restoration is requested once, behind the retained backup. -/
theorem restore_guarded {later : History} (h_prepared : Prepared m baseline s fingerprint prepared)
    (h_retention : Retention m baseline s fingerprint later)
    (h_requests : requests (prepared ++ later) = [.deleteDbInstance m.control false]) :
    (restore m s baseline).Guarded (Permitted m true baseline)
      (fun requestId history => ∃ restoring parameterGroup,
        history = prepared ++ later ++ restoring ∧
        requests restoring =
          [.restoreDbInstance (Rehearsal.restoreRequest m s.source baseline parameterGroup)] ∧
        Passes [Told (.shared (.restoreDbInstance (Rehearsal.restoreRequest m s.source baseline
          parameterGroup))) requestId] restoring)
      (fun _ => True) (prepared ++ later) := by
  -- the gate, and then only the receipts are listed
  have h_listed : Harmless (fun _ stretch => ∃ rows, stretch =
      [⟨.gate, some ()⟩, ⟨.describeDbInstances, some rows⟩] ∧ OnlyReceipts m rows) (do
        Rehearsal.call .gate
        Rehearsal.instances [m.remote]) := by
    refine guarded_call id trivial fun _ => ?_
    refine onlyReceipts_adds.after (fun _ _ h => h) ?_ fun _ _ => trivial
    rintro _ _ ⟨rows, rfl, h_only⟩
    exact ⟨rows, rfl, h_only⟩
  refine (shared_quiet h_listed).andThen permitted_quiet ?_
  rintro _ _ ⟨_, rfl, rows, rfl, h_only⟩ h_listed_none
  refine guarded_call (permitted_quiet _ _ id) trivial fun key => ?_
  refine guarded_check trivial fun h_key => ?_
  obtain ⟨state, date⟩ := key
  -- the key must not be on its way out
  obtain rfl : state = "Enabled" := of_decide_eq_true h_key
  refine guarded_ofOption trivial fun parameterGroup _ => ?_
  obtain ⟨retained, remote, at_, h_retained, h_remote, h_passes⟩ := h_retention
  refine guarded_lastCall (q := Question.shared (.restoreDbInstance _)) ?_ trivial
    fun requestId => ?_
  · refine ⟨?_, s, fingerprint, prepared, later ++ [⟨.shared .gate, some ()⟩], rows, date,
      parameterGroup, ?_, h_prepared, rfl, ⟨retained, remote, at_, h_retained, h_remote,
        h_passes.extend _⟩, h_only⟩
    -- one deletion so far, and no restore
    · rw [requests_append, requests_append, h_requests, h_listed_none]
      rfl
    · simp only [List.append_assoc]
      rfl
  · refine ⟨_ ++ [_] ++ [_], parameterGroup, by simp only [List.append_assoc]; rfl, ?_,
      (passes_one told).behind _⟩
    rw [requests_append, requests_append, h_listed_none]
    rfl

/-- The wait for the retained backup, with its checkpoint. -/
theorem retention_of_passes {deleting awaited written : History} {retained : Backup} {at_ : ℤ}
    (h_deleting : Passes [Told (.shared (.deleteDbInstance m.control false)) (),
      Told (.shared (.describeDbInstance m.control)) .notFound] deleting)
    (h_awaited : Shared (fun asked => ∃ remote, retained.arn = s.backupArn ∧
      remote.resource = s.remote.resource ∧ Passes [Covers m s.source "retained" baseline retained,
        Observed m.remote remote] asked) awaited)
    (h_written : Durable ⟨"retained-backup-observed", at_, s.evidence baseline fingerprint,
      .retained retained⟩ written) :
    Retention m baseline s fingerprint (deleting ++ awaited ++ written) := by
  obtain ⟨asked, rfl, remote, h_arn, h_resource, h_passes⟩ := h_awaited
  have h_shared := Shared.passes ⟨asked, rfl, h_passes⟩
  exact ⟨retained, remote, at_, h_arn, h_resource, (h_deleting.append h_shared).concat h_written⟩

/-- What comes behind the preparation: one deletion, one restoration, two verifications. -/
theorem recover_guarded (h_prepared : Prepared m baseline s fingerprint prepared)
    (h_none : requests prepared = []) :
    (recover m s (s.evidence baseline fingerprint)).Guarded (Permitted m true baseline)
      (Accepted m baseline) (fun _ => True) prepared := by
  refine (deleteSource_guarded h_prepared h_none).bind ?_
  rintro _ _ ⟨deleting, rfl, h_requests, h_deleting⟩
  refine (shared_quiet awaitRetained_adds).andThen permitted_quiet ?_
  intro retained awaited h_awaited h_awaited_none
  refine (checkpoint_quiet _ _ _).andThen permitted_quiet ?_
  rintro _ written ⟨at_, h_written⟩ h_written_none
  -- the deletion, the wait for the retained backup, and the checkpoint
  have h_retention := retention_of_passes h_deleting h_awaited h_written
  have h_deleted : requests (prepared ++ (deleting ++ awaited ++ written)) =
      [.deleteDbInstance m.control false] := by
    simp only [requests_append, h_none, h_requests, h_awaited_none, h_written_none]
    rfl
  rw [show prepared ++ deleting ++ awaited ++ written =
    prepared ++ (deleting ++ awaited ++ written) by simp only [List.append_assoc]]
  refine (restore_guarded h_prepared h_retention h_deleted).bind ?_
  rintro requestId _ ⟨restoring, parameterGroup, rfl, -, h_restoring⟩
  refine (shared_quiet awaitRestored_adds).andThen permitted_quiet ?_
  rintro restored _ ⟨asked, rfl, h_source, h_remote, h_key, h_passes⟩ -
  have h_restored := Shared.passes ⟨asked, rfl, h_passes⟩
  refine (checkpoint_quiet _ _ _).andThen permitted_quiet ?_
  rintro _ available ⟨at_', h_available⟩ -
  -- the two verifications, one behind the other
  have h_each : Quiet (fun _ => Passes ([1, 2].map
      (Reverified m s baseline fingerprint restored)))
      (each (verifyRestored m s (s.evidence baseline fingerprint) restored) [1, 2]) := by
    refine quiet (guarded_each
      (I := fun made => Passes (made.map (Reverified m s baseline fingerprint restored)))
      trivial ?_)
    intro made attempt rest history _ h_made
    refine (verifyRestored_quiet restored attempt).after (fun _ _ h => h) ?_ fun _ _ => trivial
    rintro _ verified ⟨h_verified, -⟩
    rw [List.map_append]
    exact h_made.concat h_verified
  refine h_each.andThen permitted_quiet fun _ verified h_verified _ => ?_
  refine (checkpoint_quiet _ _ _).andThen permitted_quiet ?_
  rintro _ last ⟨at_'', h_last⟩ -
  refine guarded_pure ⟨s, fingerprint, prepared, deleting ++ awaited ++ written,
    restoring ++ ofRehearsal.history asked ++ available ++ verified ++ last, parameterGroup,
    restored, at_', at_'', ?_, h_prepared, h_retention, rfl, rfl, h_source, h_remote, h_key, ?_⟩
  -- all stretches in their order
  · simp only [List.append_assoc]
  · have h_all := (((h_restoring.append h_restored).concat h_available).append h_verified).concat
      h_last
    simpa [List.append_assoc] using h_all

end Recover

variable (m baseline) in
/-- The rule of the whole of `execute`. -/
theorem execute_guarded (approved : Bool) :
    (execute m approved baseline).Guarded (Permitted m approved baseline) (Accepted m baseline)
      (fun _ => True) [] := by
  refine guarded_check trivial fun h_approved => ?_
  subst h_approved
  refine (shared_quiet survey_adds).andThen permitted_quiet ?_
  intro s surveyed h_survey h_survey_none
  refine guarded_call (permitted_quiet _ _ id) trivial fun good => ?_
  refine guarded_ofOption trivial fun fingerprint h_good => ?_
  refine prepareDeletion_quiet.andThen permitted_quiet ?_
  intro _ secured h_secured h_secured_none
  refine recover_guarded ⟨surveyed, good, secured, rfl, h_survey, h_good, h_secured⟩ ?_
  simp only [requests_append, h_survey_none, h_secured_none]
  rfl

/-- What holds of a run of `execute` that has come to this history, and of how it ended. -/
structure OnProof (m : Manifest) (approved : Bool) (baseline : ℤ)
    (run : Dialogue.Outcome Result × History) : Prop where
  permitted : ∀ before q answer, before ++ [⟨q, answer⟩] <+: run.2 →
    Permitted m approved baseline before q
  /-- at most one deletion, and then at most one restore -/
  twice : ∃ request, requests run.2 <+: [.deleteDbInstance m.control false,
    .restoreDbInstance request]
  returned : ∀ result, run.1 = .returned result → Accepted m baseline result run.2

/-- Where each request is permitted, there are at most the two. -/
theorem requests_prefix {approved : Bool} {history : History}
    (h : ∀ before q answer, before ++ [⟨q, answer⟩] <+: history →
      Permitted m approved baseline before q) :
    ∃ request, requests history <+: [.deleteDbInstance m.control false,
      .restoreDbInstance request] := by
  induction history using List.reverseRecOn with
  | nil => exact ⟨⟨"", "", 0, "", [], "", ""⟩, List.nil_prefix⟩
  | append_singleton before exchange ih =>
    obtain ⟨q, answer⟩ := exchange
    obtain ⟨request, h_before⟩ := ih fun earlier q answer h_earlier =>
      h earlier q answer (h_earlier.trans (List.prefix_append _ _))
    have h_last := h before q answer List.prefix_rfl
    rw [requests_append]
    -- a request that can be undone changes nothing here
    by_cases h_q : q.Destructive
    · rcases q with q | _ | _ | _ | _
      · cases q with
        | deleteDbInstance identifier deleteAutomatedBackups =>
          obtain ⟨-, h_none, rfl, rfl, -⟩ := h_last
          -- nothing was requested before the deletion
          rw [h_none]
          exact ⟨request, [.restoreDbInstance request], rfl⟩
        | restoreDbInstance request =>
          -- and the deletion alone before the restore
          rw [h_last.1]
          exact ⟨request, List.prefix_rfl⟩
        | _ => exact h_q.elim
      all_goals exact h_q.elim
    · have h_none : requests [⟨q, answer⟩] = [] := by
        simp [requests, requested_of_not_destructive h_q answer]
      rw [h_none, List.append_nil]
      exact ⟨request, h_before⟩

/-- **A source is replaced only on proof**, whatever the providers and the tasks answer. -/
theorem retained_onProof (m : Manifest) (approved : Bool) (baseline : ℤ) (env : Environment) :
    OnProof m approved baseline ((execute m approved baseline).outcome env []) := by
  obtain ⟨-, h_allowed, h_returned, -⟩ :=
    (execute_guarded m baseline approved).outcome env (Prod.eta _).symm
  have h_permitted : ∀ before q answer,
      before ++ [⟨q, answer⟩] <+: ((execute m approved baseline).outcome env []).2 →
        Permitted m approved baseline before q :=
    fun before q answer h => h_allowed before _ List.nil_prefix h
  exact ⟨h_permitted, requests_prefix h_permitted, h_returned⟩

end ControlPlane.Retained
