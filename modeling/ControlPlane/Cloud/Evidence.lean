import ControlPlane.Cloud.Quiescence
import ControlPlane.Framework.Stages

/-!
# The evidence of a rehearsal

What is behind each destructive request of `execute`, as stages of the history (`SourceGrounds`,
`TargetGrounds`, `RestoreGrounds`), and behind the status of a run that passed (`Accepted`).

Then what each part of `execute` adds to a history, whatever is answered. All but `delete_owned`
and `restore` are harmless, so a history counts its deletions by these two alone.
-/

namespace ControlPlane.Rehearsal

open Framework Registry
open Dialogue (Guarded each poll guarded_call guarded_lastCall guarded_check guarded_lastCheck
  guarded_ofOption guarded_pure guarded_each guarded_poll)
open Native (verifyReceipts verifyResult)

variable {m : Manifest}

/-! ### The evidence -/

/-- The question was answered so. -/
def Told (q : Question) (reply : q.Reply) (stretch : History) : Prop := stretch = [⟨q, some reply⟩]

/-- The exchange of a question and its answer is told. -/
theorem told {q : Question} {reply : q.Reply} : Told q reply [⟨q, some reply⟩] := rfl

/-- The registry was read, and has the row. -/
def ReadBack (row : Entry) (stretch : History) : Prop :=
  ∃ document, Told .getRegistry document stretch ∧ document.rows.any row.same = true

/-- The point is in the active window of the database. -/
def Recoverable (m : Manifest) (db : Database) (point : ℤ) (stretch : History) : Prop :=
  ∃ row, Covers m db "active" point row stretch

/-- A writer ran, and the point was selected, in this state of the source, for the observation
that it reports. -/
def Recorded (m : Manifest) (name : Native.TaskName) (result : Json String) (point : ℤ)
    (source : Database) (stretch : History) : Prop :=
  ∃ text moment row, result.member "recovery_point" = some text ∧
    Passes [Told (.task false { name }) result, Told (.fromisoformat text) (.aware moment),
      Selected m moment point source row] stretch

/-- The recovery operations were rolled back on the source, a point was selected behind each
writer, and the verifier found five intents, five effects and the fingerprint that the second
writer reports. -/
def Compared (m : Manifest) (point1 point2 : ℤ) (source : Database) (fingerprint : String)
    (history : History) : Prop :=
  ∃ preflight first second initial earlier, rolledBack preflight = true ∧ point1 < point2 ∧
    safe initial = true ∧ second.member "remote_ledger_sha256" = some (.string fingerprint) ∧
    initial.member "remote_ledger_sha256" = some (.string fingerprint) ∧
    Passes [Told (.task false preflightCall) preflight, Recorded m .baseline first point1 earlier,
      Recorded m .control second point2 source, Told (.task false { name := .verify }) initial]
        history

/-- What is behind the request to delete the source: the comparison, and then the owner secret in
the registry, the intent in a durable checkpoint, and the same physical instance without its
protection, both points in whose window were seen last. -/
def SourceGrounds (m : Manifest) (before : History) : Prop :=
  ∃ point1 point2 source fingerprint compared later secret current row at_,
    before = compared ++ later ∧ Compared m point1 point2 source fingerprint compared ∧
    current.masterUserSecret = some secret ∧ current.resource = source.resource ∧
    row.resource = source.resource ∧ row.deletionProtection = false ∧
    Passes [Observed m.control current, ReadBack (managedSecret secret current.resource),
      Durable ⟨"delete-intent-" ++ current.resource, at_, .deleteIntent current true⟩,
      Observed m.control row, Recoverable m row point1, Recoverable m row point2] later

/-- What is behind the request to delete the restored database: the comparison of the source, and
the closed one of this database, with the same fingerprint and in a durable checkpoint. -/
def TargetGrounds (m : Manifest) (before : History) : Prop :=
  ∃ point1 point2 source fingerprint compared later restored blocked independent row at_,
    before = compared ++ later ∧ Compared m point1 point2 source fingerprint compared ∧
    verifyResult 3 5 false (.string fingerprint) independent = true ∧
    row.resource = restored.resource ∧ row.deletionProtection = false ∧
    Passes [Observed m.target restored, Told (.task true (verification restored 2)) independent,
      Durable ⟨"application-behind-independently-blocked", at_, .blocked blocked independent⟩,
      Observed m.target row] later

/-- The databases of the region are exactly the receipts database. -/
def OnlyReceipts (m : Manifest) (rows : List Database) : Prop :=
  rows ≠ [] ∧ ∀ row ∈ rows, row.identifier = m.remote

/-- What is just behind the request to restore: only the receipts database is left, and the point
is in the retained window of the control database. -/
def RestoreGrounds (m : Manifest) (request : RestoreRequest) (before : History) : Prop :=
  ∃ source rows row remote tags earlier covered described, before = earlier ++
      [⟨.describeDbInstances, some rows⟩] ++ covered ++ [⟨.listTags row.arn, some tags⟩] ++
      described ++ [⟨.describeKey source.key, some "Enabled"⟩] ∧
    OnlyReceipts m rows ∧ request.source = source.resource ∧
    Covers m source "retained" request.restoreTime row covered ∧ Observed m.remote remote described

/-- The database that the exchange asks to delete. -/
def deleted (exchange : Exchange) : Option String :=
  match exchange.1 with
  | .deleteDbInstance identifier _ => some identifier
  | _ => none

/-- The databases that were asked to be deleted, the first one first. -/
def deletions (history : History) : List String := history.filterMap deleted

/-- A destructive request has its grounds in the history so far. -/
def Permitted (m : Manifest) (before : History) : Question → Prop
  | .deleteDbInstance identifier deleteAutomatedBackups =>
    deletions before = [] ∧ identifier = m.control ∧ deleteAutomatedBackups = false ∧
        SourceGrounds m before ∨
      deletions before = [m.control] ∧ identifier = m.target ∧ TargetGrounds m before
  | .restoreDbInstance request => request.target = m.target ∧ RestoreGrounds m request before
  | _ => True

/-- What is behind the status of a run that passed: the matching database was resumed and compared
with six intents and six effects, the receipts database is still the one of the beginning, and
all this is in a durable checkpoint. -/
def Accepted (m : Manifest) (passed : Passed) (history : History) : Prop :=
  ∃ remote matching sourceDatabase ledger remote' at_, remote'.resource = remote.resource ∧
    resumedStage passed.resumed = true ∧
    passed.resumed.member "remote_ledger_sha256" = some ledger ∧
    verifyResult 6 6 true ledger passed.final = true ∧
    Passes [Observed m.remote remote, Observed m.target matching,
      Told (.task true (binding matching sourceDatabase passed.point2 "matching")) passed.resumed,
      Told (.task true (verification matching 0)) passed.final, Observed m.remote remote',
      Durable ⟨"application-recovery-independently-accepted", at_,
        .accepted passed.point1 passed.point2 passed.blocked passed.resumed passed.final⟩] history

/-- What the second writer reports as the fingerprint of the ledger is never `null`. -/
def WriterReports (history : History) : Prop :=
  ∀ result, (⟨.task false { name := .control }, some result⟩ : Exchange) ∈ history →
    result.member "remote_ledger_sha256" ≠ some .null

/-! ### Programs that destroy nothing -/

/-- The deletions of two stretches are those of the first, then those of the second. -/
theorem deletions_append (before stretch : History) :
    deletions (before ++ stretch) = deletions before ++ deletions stretch :=
  List.filterMap_append

/-- A question that destroys nothing deletes no database, however it is answered. -/
theorem deleted_of_not_destructive {q : Question} (h : ¬ q.Destructive)
    (answer : Option q.Reply) : deleted ⟨q, answer⟩ = none := by
  cases q with
  | deleteDbInstance _ _ => exact absurd trivial h
  | _ => rfl

/-- A harmless program adds no deletion. -/
theorem Harmless.spares {α : Type} {Post : α → History → Prop} {x : Controller α}
    (h : Harmless Post x) : x.Guarded (fun _ q => ¬ q.Destructive)
      (fun result stretch => Post result stretch ∧ deletions stretch = []) (fun _ => True) [] := by
  -- the invariant is that the stretch so far deletes nothing; only a destructive question can break
  -- it
  refine (h.keeps (I := fun stretch => deletions stretch = []) rfl ?_).imp (fun _ _ h => h)
    (fun _ _ h => h) fun _ _ => trivial
  intro stretch q answer h_q h_none
  rw [deletions_append, h_none]
  simp [deletions, deleted_of_not_destructive h_q answer]

/-- A question that destroys nothing needs no grounds. -/
theorem permitted_of_not_destructive {q : Question} (h : ¬ q.Destructive) (before : History) :
    Permitted m before q := by
  cases q with
  | deleteDbInstance _ _ | restoreDbInstance _ => exact absurd trivial h
  | _ => trivial

/-- `require_headroom` destroys nothing. -/
theorem requireHeadroom_adds (seconds : ℤ) :
    Harmless (fun _ _ => True) (requireHeadroom m seconds) := by
  refine guarded_call id trivial fun _ => ?_
  refine guarded_call id trivial fun now => ?_
  exact guarded_lastCheck trivial fun _ => trivial

/-- The databases that `instances` accepts have exactly the names it was called with. -/
theorem instances_adds (names : List String) :
    Harmless (fun _ stretch => ∃ rows, Told .describeDbInstances rows stretch ∧
      (∀ row ∈ rows, row.identifier ∈ names) ∧ ∀ name ∈ names, ∃ row ∈ rows, row.identifier = name)
      (instances names) := by
  refine guarded_call id trivial fun rows => ?_
  refine guarded_lastCheck trivial fun h_rows => ?_
  -- the two halves of the set comparison give the two inclusions
  rw [Bool.and_eq_true, Bool.and_eq_true, List.all_eq_true, List.all_eq_true] at h_rows
  refine ⟨rows, rfl, fun row h_row => List.contains_iff_mem.mp (h_rows.1.2 row h_row),
    fun name h_name => ?_⟩
  exact List.mem_map.mp (List.contains_iff_mem.mp (h_rows.2 name h_name))

/-- `tags` adds one exchange: the tags of the resource were asked for and answered. -/
theorem tags_adds (arn : String) :
    Harmless (fun _ stretch => ∃ tags, Told (.listTags arn) tags stretch) (tags m arn) := by
  refine guarded_call id trivial fun tags => ?_
  exact guarded_lastCheck trivial fun _ => ⟨tags, rfl⟩

/-- `claim_execution` destroys nothing. -/
theorem claimExecution_adds : Harmless (fun _ _ => True) (claimExecution m) := by
  refine guarded_call id trivial fun _ => ?_
  refine guarded_call id trivial fun read => ?_
  refine guarded_check trivial fun _ => ?_
  exact (checkpoint_adds _ _).after (fun _ _ h => h) (fun _ _ _ => trivial) fun _ _ => trivial

/-- `register` destroys nothing. -/
theorem register_adds (source remote : Database) (backup : Window) :
    Harmless (fun _ _ => True) (register m source remote backup) := by
  refine guarded_call id trivial fun response => ?_
  refine guarded_check trivial fun _ => ?_
  refine guarded_ofOption trivial fun merged _ => ?_
  exact guarded_lastCall (q := Question.putRegistry _ _) id trivial fun _ => trivial

/-- The database that is found was observed in that state. -/
theorem database_observed (identifier : String) :
    Harmless (fun db => Observed identifier db) (database identifier) :=
  (database_adds identifier).imp (fun _ _ h => h) (fun _ _ h => h.1) fun _ h => h

/-! ### The beginning -/

/-- Before anything is written, the receipts database was observed, and the recovery operations were
rolled back on the source. -/
theorem prepare_adds :
    Harmless (fun remote stretch => ∃ preflight, rolledBack preflight = true ∧
      Passes [Observed m.remote remote, Told (.task false preflightCall) preflight] stretch)
      (prepare m) := by
  -- only the receipts database and the preflight task are evidence, the other stages are passed
  -- over
  refine (requireHeadroom_adds 9000).andThen (fun _ _ h => h) (fun _ _ => trivial) fun _ _ _ => ?_
  refine claimExecution_adds.andThen (fun _ _ h => h) (fun _ _ => trivial) fun _ _ _ => ?_
  refine drained_adds.andThen (fun _ _ h => h) (fun _ _ => trivial) fun _ _ _ => ?_
  refine (instances_adds _).andThen (fun _ _ h => h) (fun _ _ => trivial) fun _ _ _ => ?_
  refine (database_observed m.control).andThen (fun _ _ h => h) (fun _ _ => trivial)
    fun source _ _ => ?_
  refine (database_observed m.remote).andThen (fun _ _ h => h) (fun _ _ => trivial) ?_
  intro remote described h_remote
  refine guarded_check trivial fun _ => ?_
  refine guarded_call id trivial fun _ => ?_
  refine guarded_call id trivial fun preflight => ?_
  refine guarded_check trivial fun h_rolledBack => ?_
  refine (checkpoint_adds _ _).andThen (fun _ _ h => h) (fun _ _ => trivial) fun _ written _ => ?_
  exact guarded_pure ⟨preflight, h_rolledBack,
    ((((passes_one h_remote).behind _).extend _).concat told).extend written⟩

/-- What the two writers leave behind. -/
def Written (m : Manifest) (baseline : Baseline) (history : History) : Prop :=
  baseline.point1 < baseline.point2 ∧ ∃ earlier,
    Passes [Recorded m .baseline baseline.first baseline.point1 earlier,
      Recorded m .control baseline.second baseline.point2 baseline.source] history

/-- The two writers leave a point behind each of them, the second one later. -/
theorem write_adds : Harmless (Written m) (write m) := by
  -- each writer reports the instant that its point is selected for
  refine guarded_call id trivial fun first => ?_
  refine guarded_ofOption trivial fun text1 h_text1 => ?_
  refine guarded_call id trivial fun firstObserved => ?_
  refine guarded_check trivial fun _ => ?_
  refine (selectQuiescentPoint_adds firstObserved "behind").andThen (fun _ _ h => h)
    (fun _ _ => trivial) ?_
  rintro ⟨point1, earlier, window1⟩ _ ⟨moment1, turns1, turn1, rfl, rfl, h_selected1⟩
  refine guarded_call id trivial fun second => ?_
  refine guarded_ofOption trivial fun text2 h_text2 => ?_
  refine guarded_call id trivial fun secondObserved => ?_
  refine (selectQuiescentPoint_adds secondObserved "matching").andThen (fun _ _ h => h)
    (fun _ _ => trivial) ?_
  rintro ⟨point2, source, window⟩ _ ⟨moment2, turns2, turn2, rfl, rfl, h_selected2⟩
  refine guarded_check trivial fun h_later => ?_
  refine (backup_adds source "active" point1).andThen (fun _ _ h => h) (fun _ _ => trivial) ?_
  intro _ covered _
  refine guarded_check trivial fun _ => ?_
  rw [Bool.and_eq_true, decide_eq_true_eq] at h_later
  -- the exchanges of the first writer, regrouped as one stage
  have h_first : Recorded m .baseline first point1 earlier
      ([⟨.task false { name := .baseline }, some first⟩] ++
        [⟨.fromisoformat text1, some (.aware moment1)⟩] ++ (turns1 ++ turn1)) :=
    ⟨text1, moment1, _, h_text1, ((passes_one told).concat told).append
      ((passes_one h_selected1).behind turns1)⟩
  have h_second : Recorded m .control second point2 source
      ([⟨.task false { name := .control }, some second⟩] ++
        [⟨.fromisoformat text2, some (.aware moment2)⟩] ++ (turns2 ++ turn2)) :=
    ⟨text2, moment2, _, h_text2, ((passes_one told).concat told).append
      ((passes_one h_selected2).behind turns2)⟩
  refine guarded_pure ⟨h_later.1, earlier, ?_⟩
  simpa [List.append_assoc] using ((passes_one h_first).concat h_second).extend covered

/-- The verifier ran on the source and found it safe, with the fingerprint that the second writer
reports. -/
theorem verifySource_adds (second : Json String) :
    Harmless (fun verified stretch => Told (.task false { name := .verify }) verified.1 stretch ∧
      safe verified.1 = true ∧ ∃ expected, second.member "remote_ledger_sha256" = some expected ∧
        verifyReceipts expected verified.1 = some verified.2) (verifySource second) := by
  refine guarded_call id trivial fun initial => ?_
  refine guarded_check trivial fun h_safe => ?_
  refine guarded_ofOption trivial fun expected h_expected => ?_
  refine guarded_ofOption trivial fun fingerprint h_fingerprint => ?_
  exact guarded_pure ⟨told, h_safe, expected, h_expected, h_fingerprint⟩

/-- The fingerprint accepted is the one of the result, and an expected one other than `null` is the
same. -/
theorem verifyReceipts_fingerprint {expected result : Json String} {fingerprint : String}
    (h : verifyReceipts expected result = some fingerprint) :
    result.member "remote_ledger_sha256" = some (.string fingerprint) ∧
      (expected = .null ∨ expected = .string fingerprint) := by
  unfold verifyReceipts at h
  split at h
  next text h_text =>
    split at h
    next h_test =>
      obtain rfl := Option.some.inj h
      rw [Bool.and_eq_true, Bool.or_eq_true, decide_eq_true_eq, decide_eq_true_eq] at h_test
      exact ⟨h_text, h_test.2⟩
    next => cases h
  next => cases h

/-- The preparation of the deletion destroys nothing. -/
theorem prepareDeletion_adds (remote : Database) (baseline : Baseline) (initial : Json String) :
    Harmless (fun _ _ => True) (prepareDeletion m remote baseline initial) := by
  refine (requireHeadroom_adds 6900).andThen (fun _ _ h => h) (fun _ _ => trivial) fun _ _ _ => ?_
  refine guarded_call id trivial fun state => ?_
  refine guarded_check trivial fun _ => ?_
  refine guarded_check trivial fun _ => ?_
  refine guarded_call id trivial fun snapshots => ?_
  refine guarded_check trivial fun _ => ?_
  refine guarded_call id trivial fun _ => ?_
  refine (tags_adds _).andThen (fun _ _ h => h) (fun _ _ => trivial) fun _ _ _ => ?_
  refine (register_adds _ _ _).andThen (fun _ _ h => h) (fun _ _ => trivial) fun _ _ _ => ?_
  refine (checkpoint_adds _ _).andThen (fun _ _ h => h) (fun _ _ => trivial) fun _ _ _ => ?_
  refine (database_adds m.control).andThen (fun _ _ h => h) (fun _ _ => trivial)
    fun current _ _ => ?_
  refine guarded_check trivial fun _ => ?_
  refine (backup_adds _ _ _).andThen (fun _ _ h => h) (fun _ _ => trivial) fun _ _ _ => ?_
  refine guarded_check trivial fun _ => ?_
  refine (backup_adds _ _ _).andThen (fun _ _ h => h) (fun _ _ => trivial) fun _ _ _ => ?_
  exact guarded_lastCheck trivial fun _ => trivial

/-! ### The deletion of one database -/

/-- The owner secret is in the registry that was read; only the restore target may have none. -/
def Remembered (m : Manifest) (db : Database) (stretch : History) : Prop :=
  db.identifier = m.target ∨ ∃ secret, db.masterUserSecret = some secret ∧
    Passes [ReadBack (managedSecret secret db.resource)] stretch

/-- What must be recoverable, as stages. -/
def windows (m : Manifest) (row : Database) (points : Option (ℤ × ℤ)) : List (History → Prop) :=
  (points.elim [] fun (point1, point2) => [point1, point2]).map (Recoverable m row)

/-- What is behind the request of `delete_owned`. -/
def OwnedGrounds (m : Manifest) (db : Database) (points : Option (ℤ × ℤ)) (before : History) :
    Prop :=
  ∃ current row at_, current.identifier = db.identifier ∧ current.resource = db.resource ∧
    row.resource = db.resource ∧ row.deletionProtection = false ∧
    Passes ([Observed db.identifier current, Remembered m current,
      Durable ⟨"delete-intent-" ++ current.resource, at_, .deleteIntent current points.isSome⟩,
      Observed db.identifier row] ++ windows m row points) before

/-- Once a secret is remembered, the registry was read back with it. -/
theorem rememberSecret_adds (secret resource : String) :
    Harmless (fun _ => Passes [ReadBack (managedSecret secret resource)])
      (rememberSecret secret resource) := by
  refine guarded_call id trivial fun response => ?_
  refine guarded_check trivial fun _ => ?_
  refine guarded_call id trivial fun _ => ?_
  refine guarded_call id trivial fun verified => ?_
  refine guarded_lastCheck trivial fun h_verified => ?_
  exact (passes_one ⟨verified, told, h_verified⟩).behind _

/-- The owner secret of any database but the target is read back from the registry. -/
theorem remember_adds (db : Database) : Harmless (fun _ => Remembered m db) (remember m db) := by
  unfold remember
  split
  next =>
    -- the target keeps its owner secret out of the registry
    exact guarded_lastCheck trivial fun h_target => .inl (of_decide_eq_true h_target)
  next secret h_secret =>
    refine (rememberSecret_adds secret db.resource).imp (fun _ _ h => h) ?_ fun _ h => h
    exact fun _ stretch h => .inr ⟨secret, (Option.filter_eq_some_iff.mp h_secret).1, h⟩

/-- A row that is no longer protected was observed so, and is the same physical instance. -/
theorem unprotected_adds (name resource : String) (turns : ℕ) :
    Harmless (fun row stretch => row.resource = resource ∧ row.deletionProtection = false ∧
      Passes [Observed name row] stretch) (poll (tryUnprotected name resource) turns) := by
  -- the rows of earlier turns are forgotten: only the last one is returned
  refine guarded_poll (I := fun _ => True) trivial (fun _ _ => trivial) fun history _ => ?_
  refine guarded_call id trivial fun _ => ?_
  refine (describe_adds name).andThen (fun _ _ h => h) (fun _ _ => trivial)
    fun row described h_row => ?_
  refine guarded_check trivial fun h_resource => ?_
  split
  next h_test =>
    rw [Bool.and_eq_true, Bool.not_eq_true'] at h_test
    exact guarded_pure ⟨of_decide_eq_true h_resource, h_test.2, (passes_one h_row).behind _⟩
  next => exact guarded_pure trivial

/-- Every point that is checked lies in the active window of the row. -/
theorem checkPoints_adds (row : Database) (points : Option (ℤ × ℤ)) :
    Harmless (fun _ => Passes (windows m row points)) (checkPoints m row points) := by
  cases points with
  | none => exact guarded_pure trivial
  | some points =>
    obtain ⟨point1, point2⟩ := points
    -- the points checked so far are behind, in their order
    refine guarded_each (I := fun made => Passes (made.map (Recoverable m row))) trivial ?_
    intro made point rest history _ h_made
    refine (backup_adds row "active" point).andThen (fun _ _ h => h) (fun _ _ => trivial) ?_
    intro found covered h_covers
    refine guarded_ofOption trivial fun window h_window => ?_
    refine (tags_adds _).after (fun _ _ h => h) (fun _ tagged _ => ?_) fun _ _ => trivial
    rw [List.map_append]
    exact (h_made.concat ⟨_, h_covers window h_window⟩).extend tagged

/-- Waiting until the database is gone deletes nothing more. -/
theorem deleted_adds (name : String) (turns : ℕ) :
    Harmless (fun _ _ => True) (poll (tryDeleted m name) turns) := by
  refine guarded_poll (I := fun _ => True) trivial (fun _ _ => trivial) fun history _ => ?_
  refine guarded_call id trivial fun _ => ?_
  refine guarded_call id trivial fun described => ?_
  split
  next => exact guarded_pure trivial
  next =>
    refine (instances_adds _).andThen (fun _ _ h => h) (fun _ _ => trivial) fun _ _ _ => ?_
    exact guarded_pure trivial

/-- An accepted database has the identifier that was asked for. -/
theorem identifier_of_accepted {identifier : String} {db : Database}
    (h : accepted identifier db = true) : db.identifier = identifier := by
  simp only [accepted, Bool.and_eq_true, decide_eq_true_eq, and_assoc] at h
  exact h.1

/-- `delete_owned` asks for one deletion, of the database it was given, with its grounds behind
it. -/
theorem deleteOwned_adds (db : Database) (points : Option (ℤ × ℤ)) :
    (deleteOwned m db points).Guarded
      (fun before q => q.Destructive → q = .deleteDbInstance db.identifier points.isNone ∧
        deletions before = [] ∧ OwnedGrounds m db points before)
      (fun _ stretch => deletions stretch = [db.identifier]) (fun _ => True) [] := by
  -- every question but the deletion itself is not destructive
  have h_no : ∀ (stretch : History) (q : Question), ¬ q.Destructive → q.Destructive →
      q = .deleteDbInstance db.identifier points.isNone ∧ deletions stretch = [] ∧
        OwnedGrounds m db points stretch := fun _ _ h h_q => absurd h_q h
  refine guarded_check trivial fun _ => ?_
  refine guarded_call (h_no _ _ id) trivial fun _ => ?_
  refine drained_adds.spares.andThen (fun _ _ => h_no _ _) (fun _ _ => trivial) ?_
  rintro _ drained ⟨-, h_drained⟩
  refine (tags_adds db.arn).spares.andThen (fun _ _ => h_no _ _) (fun _ _ => trivial) ?_
  rintro _ tagged ⟨-, h_tagged⟩
  refine (database_adds db.identifier).spares.andThen (fun _ _ => h_no _ _) (fun _ _ => trivial) ?_
  rintro current described ⟨⟨h_current, h_accepted⟩, h_described⟩
  refine guarded_check trivial fun h_resource => ?_
  refine (remember_adds current).spares.andThen (fun _ _ => h_no _ _) (fun _ _ => trivial) ?_
  rintro _ remembered ⟨h_secret, h_remembered⟩
  refine (checkpoint_adds _ _).spares.andThen (fun _ _ => h_no _ _) (fun _ _ => trivial) ?_
  rintro _ written ⟨⟨at_, h_intent⟩, h_written⟩
  refine guarded_call (h_no _ _ id) trivial fun _ => ?_
  refine (unprotected_adds _ _ 30).spares.andThen (fun _ _ => h_no _ _) (fun _ _ => trivial) ?_
  rintro row polled ⟨⟨h_same, h_unprotected, h_row⟩, h_polled⟩
  refine drained_adds.spares.andThen (fun _ _ => h_no _ _) (fun _ _ => trivial) ?_
  rintro _ again ⟨-, h_again⟩
  refine (checkPoints_adds row points).spares.andThen (fun _ _ => h_no _ _) (fun _ _ => trivial) ?_
  rintro _ covered ⟨h_windows, h_covered⟩
  refine guarded_call (fun _ => ⟨rfl, ?_, current, row, at_, ?_, ?_, h_same, h_unprotected, ?_⟩)
    trivial fun _ => ?_
  -- nothing was deleted before the request
  · simp only [deletions_append, h_drained, h_tagged, h_described, h_remembered, h_written,
      h_polled, h_again, h_covered]
    rfl
  · exact identifier_of_accepted h_accepted
  · exact of_decide_eq_true h_resource
  -- the stages stand in the order in which `delete_owned` takes them
  · exact (((((((passes_one h_current).behind _).concat h_secret).concat h_intent).extend _).append
      h_row).extend again).append h_windows
  -- after the request only the wait is left
  · refine (deleted_adds db.identifier 90).spares.after (fun _ _ => h_no _ _) ?_ fun _ _ => trivial
    rintro _ later ⟨-, h_later⟩
    simp only [deletions_append, h_drained, h_tagged, h_described, h_remembered, h_written,
      h_polled, h_again, h_covered, h_later]
    rfl

/-! ### The restoration of the source -/

/-- The grounds of a restoration are those of its last stretch, whatever came before. -/
theorem RestoreGrounds.behind {request : RestoreRequest} {before : History}
    (h : RestoreGrounds m request before) (history : History) :
    RestoreGrounds m request (history ++ before) := by
  obtain ⟨source, rows, row, remote, tags, earlier, covered, described, rfl, h_grounds⟩ := h
  exact ⟨source, rows, row, remote, tags, history ++ earlier, covered, described,
    by simp [List.append_assoc], h_grounds⟩

/-- The checks before the restoration leave its grounds, whatever the parameter group is. -/
theorem checkRestore_adds (source remote : Database) (point : ℤ) :
    Harmless (fun _ stretch => ∀ parameterGroup,
      RestoreGrounds m (restoreRequest m source point parameterGroup) stretch)
      (checkRestore m source remote point) := by
  refine (requireHeadroom_adds 1500).andThen (fun _ _ h => h) (fun _ _ => trivial)
    fun _ headroom _ => ?_
  refine drained_adds.andThen (fun _ _ h => h) (fun _ _ => trivial) fun _ drained _ => ?_
  refine (instances_adds [m.remote]).andThen (fun _ _ h => h) (fun _ _ => trivial) ?_
  rintro _ _ ⟨rows, rfl, h_only, h_some⟩
  refine (backup_adds source "retained" point).andThen (fun _ _ h => h) (fun _ _ => trivial) ?_
  intro found covered h_covers
  refine guarded_ofOption trivial fun window h_window => ?_
  refine (tags_adds window.metadata.arn).andThen (fun _ _ h => h) (fun _ _ => trivial) ?_
  rintro _ _ ⟨tags, rfl⟩
  refine (database_adds m.remote).andThen (fun _ _ h => h) (fun _ _ => trivial) ?_
  rintro remote' described ⟨h_remote, -⟩
  refine guarded_check trivial fun _ => ?_
  refine guarded_call id trivial fun state => ?_
  refine guarded_lastCheck trivial fun h_enabled => ?_
  obtain rfl := of_decide_eq_true h_enabled
  -- headroom and drained are what came before, the rest stands just behind the request
  refine fun _ => ⟨source, rows, window.metadata, remote', tags, headroom ++ drained, covered,
    described, rfl, ⟨?_, ?_⟩, rfl, h_covers window h_window, h_remote⟩
  · obtain ⟨row, h_row, -⟩ := h_some m.remote (List.mem_singleton_self _)
    exact List.ne_nil_of_mem h_row
  · exact fun row h_row => List.mem_singleton.mp (h_only row h_row)

/-- Waiting until the database is available destroys nothing. -/
theorem available_adds (turns : ℕ) : Harmless (fun _ _ => True) (poll (tryAvailable m) turns) := by
  refine guarded_poll (I := fun _ => True) trivial (fun _ _ => trivial) fun history _ => ?_
  refine guarded_call id trivial fun _ => ?_
  refine (instances_adds _).andThen (fun _ _ h => h) (fun _ _ => trivial) fun _ _ _ => ?_
  refine (describe_adds m.target).andThen (fun _ _ h => h) (fun _ _ => trivial) fun row _ _ => ?_
  split <;> exact guarded_pure trivial

/-- Setting the retention to one day destroys nothing. -/
theorem retainOneDay_adds (row : Database) : Harmless (fun _ _ => True) (retainOneDay m row) := by
  unfold retainOneDay
  split
  next => exact guarded_pure trivial
  next =>
    refine guarded_call id trivial fun _ => ?_
    refine guarded_poll (I := fun _ => True) trivial (fun _ _ => trivial) fun history _ => ?_
    refine guarded_call id trivial fun _ => ?_
    refine (describe_adds m.target).andThen (fun _ _ h => h) (fun _ _ => trivial) fun row _ _ => ?_
    split <;> exact guarded_pure trivial

/-- The restored database that is returned has the name of the target and was observed. -/
theorem awaitRestored_adds (source remote : Database) (point : ℤ) (label requestId : String) :
    Harmless (fun restored stretch => restored.identifier = m.target ∧
      Passes [Observed m.target restored] stretch)
      (awaitRestored m source remote point label requestId) := by
  refine (available_adds 100).andThen (fun _ _ h => h) (fun _ _ => trivial) fun row _ _ => ?_
  refine guarded_check trivial fun _ => ?_
  refine (retainOneDay_adds row).andThen (fun _ _ h => h) (fun _ _ => trivial) fun _ _ _ => ?_
  refine (database_adds m.target).andThen (fun _ _ h => h) (fun _ _ => trivial) ?_
  rintro restored described ⟨h_restored, h_accepted⟩
  refine guarded_check trivial fun _ => ?_
  refine (remember_adds restored).andThen (fun _ _ h => h) (fun _ _ => trivial)
    fun _ remembered _ => ?_
  refine (checkpoint_adds _ _).andThen (fun _ _ h => h) (fun _ _ => trivial) fun _ written _ => ?_
  exact guarded_pure ⟨identifier_of_accepted h_accepted,
    (((passes_one h_restored).behind _).extend remembered).extend written⟩

/-- `restore` asks for one restoration, with its grounds behind it, and deletes nothing. -/
theorem restore_adds (source remote : Database) (point : ℤ) (label : String) :
    (restore m source remote point label).Guarded
      (fun before q => q.Destructive → ∃ request, q = .restoreDbInstance request ∧
        request.target = m.target ∧ RestoreGrounds m request before)
      (fun restored stretch => (restored.identifier = m.target ∧
        Passes [Observed m.target restored] stretch) ∧ deletions stretch = [])
      (fun _ => True) [] := by
  refine (checkRestore_adds source remote point).spares.andThen (fun _ _ h h_q => absurd h_q h)
    (fun _ _ => trivial) ?_
  rintro _ checked ⟨h_grounds, h_checked⟩
  refine guarded_ofOption trivial fun parameterGroup _ => ?_
  -- the only destructive question of `restore`
  refine guarded_call (fun _ => ⟨_, rfl, rfl, h_grounds parameterGroup⟩) trivial fun requestId => ?_
  refine (awaitRestored_adds source remote point label requestId).spares.after
    (fun _ _ h h_q => absurd h_q h) ?_ fun _ _ => trivial
  rintro restored awaited ⟨⟨h_target, h_restored⟩, h_awaited⟩
  refine ⟨⟨h_target, h_restored.behind _⟩, ?_⟩
  simp only [deletions_append, h_checked, h_awaited]
  rfl

/-- Waiting until both points are retained destroys nothing. -/
theorem retained_adds (baseline : Baseline) (turns : ℕ) :
    Harmless (fun _ _ => True) (poll (tryRetained m baseline) turns) := by
  refine guarded_poll (I := fun _ => True) trivial (fun _ _ => trivial) fun history _ => ?_
  refine guarded_call id trivial fun _ => ?_
  refine (backup_adds _ _ _).andThen (fun _ _ h => h) (fun _ _ => trivial) fun window1 _ _ => ?_
  split
  next => exact guarded_pure trivial
  next =>
    refine (backup_adds _ _ _).andThen (fun _ _ h => h) (fun _ _ => trivial) fun window2 _ _ => ?_
    refine guarded_pure ?_
    cases window2 <;> trivial

/-! ### The tasks on the restored databases -/

/-- The database behind was compared on its own, and the result is in a durable checkpoint. -/
theorem blockBehind_adds (restored : Database) (baseline : Baseline) (fingerprint : String) :
    Harmless (fun blocked stretch => ∃ independent at_,
      verifyResult 3 5 false (.string fingerprint) independent = true ∧
      Passes [Told (.task true (verification restored 2)) independent,
        Durable ⟨"application-behind-independently-blocked", at_, .blocked blocked independent⟩]
          stretch)
      (blockBehind m restored baseline fingerprint) := by
  refine guarded_ofOption trivial fun sourceDatabase _ => ?_
  refine guarded_call id trivial fun blocked => ?_
  refine guarded_check trivial fun _ => ?_
  refine guarded_call id trivial fun independent => ?_
  refine guarded_check trivial fun h_independent => ?_
  refine (checkpoint_adds _ _).andThen (fun _ _ h => h) (fun _ _ => trivial) ?_
  rintro _ written ⟨at_, h_written⟩
  refine (requireHeadroom_adds 3600).andThen (fun _ _ h => h) (fun _ _ => trivial)
    fun _ headroom _ => ?_
  -- the task that blocked the database comes before its independent verification
  exact guarded_pure ⟨independent, at_, h_independent,
    (((passes_one told).behind _).concat h_written).extend headroom⟩

/-- The matching database was resumed and compared, and the receipts database is still the same. -/
theorem resumeMatching_adds (remote matching : Database) (baseline : Baseline)
    (blocked : Json String) :
    Harmless (fun passed stretch => ∃ sourceDatabase ledger remote' at_,
      remote'.resource = remote.resource ∧ resumedStage passed.resumed = true ∧
      passed.resumed.member "remote_ledger_sha256" = some ledger ∧
      verifyResult 6 6 true ledger passed.final = true ∧
      Passes [
        Told (.task true (binding matching sourceDatabase passed.point2 "matching")) passed.resumed,
        Told (.task true (verification matching 0)) passed.final, Observed m.remote remote',
        Durable ⟨"application-recovery-independently-accepted", at_, .accepted passed.point1
          passed.point2 passed.blocked passed.resumed passed.final⟩] stretch)
      (resumeMatching m remote matching baseline blocked) := by
  refine guarded_ofOption trivial fun sourceDatabase _ => ?_
  refine guarded_call id trivial fun resumed => ?_
  refine guarded_check trivial fun h_stage => ?_
  refine guarded_call id trivial fun final => ?_
  refine guarded_ofOption trivial fun ledger h_ledger => ?_
  refine guarded_check trivial fun h_final => ?_
  refine (database_adds m.remote).andThen (fun _ _ h => h) (fun _ _ => trivial) ?_
  rintro remote' described ⟨h_remote, -⟩
  refine guarded_check trivial fun h_resource => ?_
  refine (checkpoint_adds _ _).andThen (fun _ _ h => h) (fun _ _ => trivial) ?_
  rintro _ written ⟨at_, h_written⟩
  exact guarded_pure ⟨sourceDatabase, ledger, remote', at_, of_decide_eq_true h_resource, h_stage,
    h_ledger, h_final, (((passes_one told).concat told).concat h_remote).concat h_written⟩

end ControlPlane.Rehearsal
