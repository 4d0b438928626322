import ControlPlane.Cloud.Evidence

/-!
# Destructive steps happen only on proof

`execute` asks for a deletion at most twice, of the control database and of the restore target,
and each of these requests has its grounds in the history (`Permitted`). So do the requests to
restore. The receipts database is spared, and the status of a run that passed is returned only
behind the open comparison (`execute_onProof`).

The comparison of the source is with the fingerprint that the second writer reports, if it is one:
`verify_receipts` compares a `null` there with nothing. So the theorem is about the histories in
which that writer reports something else (`WriterReports`), and `execute_unreported` is a run with
`null`.
-/

namespace ControlPlane.Rehearsal

open Framework Registry
open Dialogue (Asks each guarded_check poll steady value)
open Native (is counts isCount verifyReceipts verifyResult)

variable {m : Manifest}

/-! ### The whole of `execute` -/

/-- Only destructive questions have to be permitted. -/
theorem permitted_of_destructive {before : History} {q : Question}
    (h : q.Destructive → Permitted m before q) : Permitted m before q := by
  by_cases h_q : q.Destructive
  · exact h h_q
  · exact permitted_of_not_destructive h_q before

/-- What holds of the reports of a history holds of its beginning. -/
theorem WriterReports.left {before later : History} (h : WriterReports (before ++ later)) :
    WriterReports before :=
  fun result h_mem => h result (List.mem_append_left later h_mem)

section Recorded

variable {name : Native.TaskName} {result : Json String} {point : ℤ} {source : Database}
  {stretch : History}

/-- A recorded result was answered by its task. -/
theorem Recorded.mem (h : Recorded m name result point source stretch) :
    (⟨.task false { name }, some result⟩ : Exchange) ∈ stretch := by
  obtain ⟨text, moment, row, -, h_passes⟩ := h
  obtain ⟨_, h_within, rfl⟩ := h_passes.exists_infix (List.mem_cons_self)
  exact h_within.subset (List.mem_singleton_self _)

/-- The source of a record is the control database. -/
theorem Recorded.identifier (h : Recorded m name result point source stretch) :
    source.identifier = m.control := by
  obtain ⟨text, moment, row, -, h_passes⟩ := h
  obtain ⟨turn, -, h_selected⟩ := h_passes.tail.tail.exists_infix (List.mem_cons_self)
  obtain ⟨_, _, _, _, _, -, -, -, h_accepted, -⟩ := h_selected.calls
  exact identifier_of_accepted h_accepted

end Recorded

/-- So is the source that the writers leave behind. -/
theorem Written.identifier {baseline : Baseline} {history : History}
    (h : Written m baseline history) :
    baseline.source.identifier = m.control := by
  obtain ⟨-, earlier, h_passes⟩ := h
  obtain ⟨stretch, -, h_second⟩ := h_passes.tail.exists_infix (List.mem_cons_self)
  exact h_second.identifier

/-- Where the writer reports a fingerprint, the verifier has found the same one. -/
theorem Written.compared {baseline : Baseline} {preflight initial expected : Json String}
    {fingerprint : String} {prepared written verified : History}
    (h : Written m baseline written) (h_rolledBack : rolledBack preflight = true)
    (h_prepared : Passes [Told (.task false preflightCall) preflight] prepared)
    (h_verified : Told (.task false { name := .verify }) initial verified)
    (h_safe : safe initial = true)
    (h_expected : baseline.second.member "remote_ledger_sha256" = some expected)
    (h_fingerprint : verifyReceipts expected initial = some fingerprint)
    (h_reports : WriterReports (prepared ++ written ++ verified)) :
    Compared m baseline.point1 baseline.point2 baseline.source fingerprint
      (prepared ++ written ++ verified) := by
  obtain ⟨h_later, earlier, h_passes⟩ := h
  obtain ⟨h_initial, h_same⟩ := verifyReceipts_fingerprint h_fingerprint
  obtain ⟨stretch, h_within, h_second⟩ := h_passes.tail.exists_infix (List.mem_cons_self)
  have h_told : (⟨.task false { name := .control }, some baseline.second⟩ : Exchange) ∈
      prepared ++ written ++ verified :=
    List.mem_append_left _ (List.mem_append_right _ (h_within.subset h_second.mem))
  have h_null : expected ≠ .null := fun h_null => h_reports _ h_told (h_null ▸ h_expected)
  obtain rfl := h_same.resolve_left h_null
  exact ⟨preflight, baseline.first, baseline.second, initial, earlier, h_rolledBack, h_later,
    h_safe,
    h_expected, h_initial, (h_prepared.append h_passes).concat h_verified⟩

/-- Two names of a run differ where their endings do. -/
theorem tag_append_ne {kind kind' : String} (h : kind ≠ kind') : m.tag ++ kind ≠ m.tag ++ kind' :=
  fun h_same => h ((String.append_right_inj m.tag).mp h_same)

/-- The control database is not the restore target. -/
theorem control_ne_target : m.control ≠ m.target := tag_append_ne (by decide)

/-- The comparison and the grounds of `delete_owned` are the grounds of the first deletion. -/
theorem sourceGrounds_of_owned {point1 point2 : ℤ} {source : Database} {fingerprint : String}
    {compared before : History} (ready : History)
    (h_compared : Compared m point1 point2 source fingerprint compared)
    (h_control : source.identifier = m.control)
    (h : OwnedGrounds m source (some (point1, point2)) before) :
    SourceGrounds m (compared ++ (ready ++ before)) := by
  obtain ⟨current, row, at_, h_identifier, h_resource, h_row, h_unprotected, h_passes⟩ := h
  rw [h_control] at h_identifier h_passes
  have h_remembered (stretch : History) (h : Remembered m current stretch) :
      ∃ secret, current.masterUserSecret = some secret ∧
        Passes [ReadBack (managedSecret secret current.resource)] stretch :=
    h.resolve_left fun h_target => control_ne_target (h_identifier.symm.trans h_target)
  obtain ⟨stretch, -, h_stage⟩ := h_passes.tail.exists_infix (List.mem_cons_self)
  obtain ⟨secret, h_secret, -⟩ := h_remembered stretch h_stage
  refine ⟨point1, point2, source, fingerprint, compared, ready ++ before, secret, current, row, at_,
    rfl, h_compared, h_secret, h_resource, h_row, h_unprotected, ?_⟩
  refine (h_passes.expand [_] [ReadBack _] fun stretch h_stretch => ?_).behind ready
  obtain ⟨secret', h_secret', h_read⟩ := h_remembered stretch h_stretch
  obtain rfl := Option.some.inj (h_secret.symm.trans h_secret')
  exact h_read

/-- With the blocked database between them, they are those of the second one. -/
theorem targetGrounds_of_owned {point1 point2 : ℤ} {source restored : Database}
    {fingerprint : String}
    {independent blocked : Json String} {at_ : ℤ} {compared restoring blocking before : History}
    (ready : History) (h_compared : Compared m point1 point2 source fingerprint compared)
    (h_restored : Passes [Observed m.target restored] restoring)
    (h_independent : verifyResult 3 5 false (.string fingerprint) independent = true)
    (h_blocked : Passes [Told (.task true (verification restored 2)) independent,
      Durable ⟨"application-behind-independently-blocked", at_, .blocked blocked independent⟩]
        blocking)
    (h_target : restored.identifier = m.target) (h : OwnedGrounds m restored none before) :
    TargetGrounds m (compared ++ (ready ++ restoring ++ blocking ++ before)) := by
  obtain ⟨current, row, at_', -, -, h_row, h_unprotected, h_passes⟩ := h
  rw [h_target] at h_passes
  exact ⟨point1, point2, source, fingerprint, compared, _, restored, blocked, independent, row, at_,
    rfl, h_compared, h_independent, h_row, h_unprotected,
    ((h_restored.behind ready).append h_blocked).append h_passes.tail.tail.tail⟩

/-- A request of `delete_owned` or `restore` somewhere in the run. -/
theorem permitted_of_restore {q : Question} {history before : History}
    (h : q.Destructive → ∃ request, q = .restoreDbInstance request ∧ request.target = m.target ∧
      RestoreGrounds m request before) : Permitted m (history ++ before) q := by
  refine permitted_of_destructive fun h_q => ?_
  obtain ⟨request, rfl, h_target, h_grounds⟩ := h h_q
  exact ⟨h_target, h_grounds.behind history⟩

/-- The rule of the whole of `execute`. -/
theorem execute_guarded (approved : Bool) :
    (execute m approved).Guarded (fun before q => WriterReports before → Permitted m before q)
      (fun passed history => Accepted m passed history ∧ deletions history = [m.control, m.target])
      (fun _ => True) [] := by
  have h_no : ∀ (before : History) (q : Question), ¬ q.Destructive → WriterReports before →
      Permitted m before q := fun before q h _ => permitted_of_not_destructive h before
  refine guarded_check trivial fun _ => ?_
  refine prepare_adds.spares.andThen (fun _ _ => h_no _ _) (fun _ _ => trivial) ?_
  rintro remote prepared ⟨⟨preflight, h_rolledBack, h_prepared⟩, h_none₁⟩
  refine write_adds.spares.andThen (fun _ _ => h_no _ _) (fun _ _ => trivial) ?_
  rintro baseline written ⟨h_written, h_none₂⟩
  refine (verifySource_adds baseline.second).spares.andThen (fun _ _ => h_no _ _)
    (fun _ _ => trivial) ?_
  rintro ⟨initial, fingerprint⟩ verified
    ⟨⟨h_verified, h_safe, expected, h_expected, h_fingerprint⟩, h_none₃⟩
  have h_compared := h_written.compared h_rolledBack h_prepared.tail h_verified h_safe h_expected
    h_fingerprint
  refine (prepareDeletion_adds remote baseline initial).spares.andThen (fun _ _ => h_no _ _)
    (fun _ _ => trivial) ?_
  rintro _ ready ⟨-, h_none₄⟩
  -- the first deletion, that of the source
  refine (deleteOwned_adds baseline.source _).andThen ?_ (fun _ _ => trivial) ?_
  · intro before q h h_reports
    refine permitted_of_destructive fun h_q => ?_
    obtain ⟨rfl, h_first, h_owned⟩ := h h_q
    refine .inl ⟨?_, h_written.identifier, rfl, ?_⟩
    · simp only [deletions_append, h_none₁, h_none₂, h_none₃, h_none₄, h_first]
      rfl
    · have h_source := sourceGrounds_of_owned ready (h_compared h_reports.left.left)
        h_written.identifier h_owned
      simpa [List.append_assoc] using h_source
  intro _ deleting h_deleting
  refine (retained_adds baseline 40).spares.andThen (fun _ _ => h_no _ _) (fun _ _ => trivial) ?_
  rintro _ waiting ⟨-, h_none₅⟩
  refine (restore_adds baseline.source remote baseline.point1 "behind").andThen
    (fun _ _ h _ => permitted_of_restore h) (fun _ _ => trivial) ?_
  rintro restored restoring ⟨⟨h_target, h_restored⟩, h_none₆⟩
  refine (blockBehind_adds restored baseline fingerprint).spares.andThen (fun _ _ => h_no _ _)
    (fun _ _ => trivial) ?_
  rintro blocked blocking ⟨⟨independent, at_, h_independent, h_blocked⟩, h_none₇⟩
  -- the second one, that of the copy that was found behind
  refine (deleteOwned_adds restored none).andThen ?_ (fun _ _ => trivial) ?_
  · intro before q h h_reports
    refine permitted_of_destructive fun h_q => ?_
    obtain ⟨rfl, h_first, h_owned⟩ := h h_q
    refine .inr ⟨?_, h_target, ?_⟩
    · simp only [deletions_append, h_none₁, h_none₂, h_none₃, h_none₄, h_none₅, h_none₆, h_none₇,
        h_deleting, h_first, h_written.identifier]
      rfl
    · have h_grounds := targetGrounds_of_owned (ready ++ deleting ++ waiting)
        (h_compared h_reports.left.left.left.left.left.left) h_restored h_independent h_blocked
        h_target h_owned
      simpa [List.append_assoc] using h_grounds
  intro _ deleting' h_deleting'
  refine (restore_adds baseline.source remote baseline.point2 "matching").andThen
    (fun _ _ h _ => permitted_of_restore h) (fun _ _ => trivial) ?_
  rintro matching restoring' ⟨⟨-, h_matching⟩, h_none₈⟩
  refine guarded_check trivial fun _ => ?_
  refine (resumeMatching_adds remote matching baseline blocked).spares.after
    (fun _ _ => h_no _ _) ?_
    fun _ _ => trivial
  -- the rest only asks and writes, so there are two deletions in all
  rintro passed resuming
    ⟨⟨sourceDatabase, ledger, remote', at_', h_remote, h_stage, h_ledger, h_final,
    h_resuming⟩, h_none₉⟩
  refine ⟨⟨remote, matching, sourceDatabase, ledger, remote', at_', h_remote, h_stage, h_ledger,
    h_final, ?_⟩, ?_⟩
  · have h_beginning : Passes [Observed m.remote remote] prepared := h_prepared.left
    have h_passes := (((h_beginning.extend (written ++ verified ++ ready ++ deleting ++ waiting ++
      restoring ++ blocking ++ deleting')).append h_matching).append h_resuming)
    simpa [List.append_assoc] using h_passes
  · simp only [deletions_append, h_none₁, h_none₂, h_none₃, h_none₄, h_none₅, h_none₆, h_none₇,
      h_none₈, h_none₉, h_deleting, h_deleting', h_written.identifier, h_target]
    rfl

/-- What holds of a run of `execute` that has come to this history, and of how it ended. -/
structure OnProof (m : Manifest) (end_ : Dialogue.Outcome Passed) (history : History) : Prop where
  permitted : ∀ before q answer, before ++ [⟨q, answer⟩] <+: history → Permitted m before q
  twice : deletions history <+: [m.control, m.target]
  spared : m.remote ∉ deletions history ∧ ∀ request answer,
    (⟨.restoreDbInstance request, answer⟩ : Exchange) ∈ history → request.target ≠ m.remote
  returned : ∀ passed, end_ = .returned passed →
    Accepted m passed history ∧ deletions history = [m.control, m.target]

/-- Where each deletion is permitted, there are at most the two. -/
theorem deletions_prefix {history : History}
    (h : ∀ before q answer, before ++ [⟨q, answer⟩] <+: history → Permitted m before q) :
    deletions history <+: [m.control, m.target] := by
  induction history using List.reverseRecOn with
  | nil => exact List.nil_prefix
  | append_singleton before exchange ih =>
    obtain ⟨q, answer⟩ := exchange
    have h_before := ih fun earlier q answer h_earlier =>
      h earlier q answer (h_earlier.trans (List.prefix_append _ _))
    have h_last := h before q answer List.prefix_rfl
    rw [deletions_append]
    by_cases h_q : q.Destructive
    -- a permitted deletion is the next one of the two
    · cases q with
      | deleteDbInstance identifier deleteAutomatedBackups =>
        rcases h_last with ⟨h_none, rfl, -⟩ | ⟨h_one, rfl, -⟩
        · rw [h_none]
          exact ⟨[m.target], rfl⟩
        · rw [h_one]
          exact List.prefix_rfl
      | restoreDbInstance request =>
        rw [show deletions [⟨.restoreDbInstance request, answer⟩] = [] from rfl, List.append_nil]
        exact h_before
      | _ => exact h_q.elim
    · have h_none : deletions [⟨q, answer⟩] = [] := by
        simp [deletions, deleted_of_not_destructive h_q answer]
      rw [h_none, List.append_nil]
      exact h_before

/-- **Destructive steps happen only on proof**, whatever the providers and the tasks answer, in a
run in which the second writer does not report `null` as the fingerprint. -/
theorem execute_onProof (m : Manifest) (approved : Bool) (env : Environment)
    (h_reports : WriterReports ((execute m approved).outcome env []).2) :
    OnProof m ((execute m approved).outcome env []).1 ((execute m approved).outcome env []).2 := by
  obtain ⟨-, h_permitted, h_returned, -⟩ :=
    (execute_guarded (m := m) approved).outcome env (Prod.eta _).symm
  have h_all : ∀ before q answer,
      before ++ [⟨q, answer⟩] <+: ((execute m approved).outcome env []).2 →
        Permitted m before q := by
    intro before q answer h_before
    obtain ⟨later, h_later⟩ := h_before
    refine h_permitted before ⟨q, answer⟩ List.nil_prefix ⟨later, h_later⟩ ?_
    rw [← h_later, List.append_assoc] at h_reports
    exact h_reports.left
  have h_twice := deletions_prefix h_all
  refine ⟨h_all, h_twice, ⟨fun h_remote => ?_, fun request answer h_mem => ?_⟩, h_returned⟩
  · rcases List.mem_pair.mp (h_twice.subset h_remote) with h_control | h_target
    · exact tag_append_ne (by decide) h_control
    · exact tag_append_ne (by decide) h_target
  · obtain ⟨before, later, h_history⟩ := List.append_of_mem h_mem
    obtain ⟨h_target, -⟩ := h_all before _ answer ⟨later, by rw [h_history]; simp⟩
    rw [h_target]
    exact tag_append_ne (by decide)

/-! ### A writer that reports `null` -/

namespace Trial

/-- The manifest of a run. -/
def manifest : Manifest where
  run := "rehearsal"
  account := "123456789012"
  commit := String.ofList (List.replicate 40 'a')
  image := "123456789012.dkr.ecr.us-east-2.amazonaws.com/csa-native-rehearsal@sha256:" ++
    String.ofList (List.replicate 64 'a')
  cleanupAt := 10800 * second

/-- The fingerprint of its ledger. -/
def fingerprint : String := String.ofList (List.replicate 64 'a')

/-- The key of its backups. -/
def key : String := "arn:aws:kms:us-east-2:123456789012:key/backup"

/-- One of the two databases. -/
def database (identifier resource : String) : Database where
  identifier := identifier
  resource := resource
  arn := "arn:aws:rds:us-east-2:123456789012:db:" ++ identifier
  status := "available"
  instanceClass := "db.t4g.micro"
  multiAZ := false
  publiclyAccessible := false
  storageEncrypted := true
  engine := "postgres"
  engineVersion := "17.11"
  allocatedStorage := 20
  backupRetentionPeriod := some 1
  dbName := some "csaacceptance"
  key := key
  masterUserSecret := some "owner"
  latestRestorableTime := .aware (100 * second)
  deletionProtection := false
  address := "database.test"
  subnetGroup := "private"
  securityGroups := ["database"]
  parameterGroups := ["postgres17"]
  maxAllocatedStorage := none
  replicated := false

/-- The control database. -/
def control : Database := database manifest.control "db-CONTROL"

/-- The receipts database. -/
def remote : Database := database manifest.remote "db-REMOTE"

/-- The automated backup of the control database. -/
def backup : Backup where
  resource := "db-CONTROL"
  identifier := manifest.control
  instanceArn := "arn:aws:rds:us-east-2:" ++ manifest.account ++ ":db:" ++ manifest.control
  arn := "arn:aws:rds:us-east-2:" ++ manifest.account ++ ":auto-backup:" ++ "ab-1"
  region := "us-east-2"
  engine := "postgres"
  engineVersion := "17.11"
  allocatedStorage := 20
  backupRetentionPeriod := some 1
  encrypted := true
  key := key
  status := "active"
  earliest := .aware 0
  latest := .aware (100 * second)

/-- What a task reports, the second writer with this ledger. -/
def report (ledger : Json String) : Native.TaskName → Json String
  | .bootstrap => .object []
  | .receipt => .object [("stage", .string "source_preflight_passed"),
    ("recovery_operations_rolled_back", .bool true), ("write_denials", .integer 2)]
  | .baseline => .object [("recovery_point", .string "1970-01-01T00:00:01Z"),
    ("terminated_worker", .bool true), ("comparison", .object [("remote_effects", .integer 3)])]
  | .control => .object [("recovery_point", .string "1970-01-01T00:00:11Z"),
    ("remote_ledger_sha256", ledger), ("comparison", .object [("remote_effects", .integer 5)])]
  | .verify => .object [("safe_to_resume", .bool true), ("local_intents", .integer 5),
    ("remote_effects", .integer 5), ("write_denials", .integer 2),
    ("remote_ledger_sha256", .string fingerprint)]

/-- The answers up to the first request to delete, which is answered with an error. -/
def answers (ledger : Json String) : (q : Question) → Option q.Reply
  | .now => some 0
  | .fromisoformat text =>
    some (.aware (if text = .string "1970-01-01T00:00:01Z" then second else 11 * second))
  | .listTasks _ => some false
  | .describeDbInstance identifier =>
    some (.found [if identifier = manifest.control then control else remote])
  | .describeDbInstances => some [control, remote]
  | .describeAutomatedBackups _ => some ⟨[backup], "request"⟩
  | .describeSnapshots _ => some [⟨"available", control.resource, true, key, 0⟩]
  | .describeKey _ => some "Enabled"
  | .restoreDbInstance _ => some "request"
  | .listTags _ => some [("AcceptanceRun", manifest.run)]
  | .getRegistry => some ⟨[managedSecret "owner" control.resource], 100, "etag"⟩
  | .writeCheckpoint checkpoint => some (some checkpoint)
  -- the document that was stored under this digest
  | .getCheckpoint _ checkpoint => some (some checkpoint.document)
  | .getClaim => some (some manifest)
  | .task _ call => some (report ledger call.name)
  | .deleteDbInstance _ _ => none
  | .gate | .addTag _ _ | .modifyDbInstance _ _ | .putRegistry _ _ | .putCheckpoint _
  | .putClaim _ => some ()

variable (ledger : Json String)

/-- The run of `execute` in which the second writer reports this ledger. -/
def run : Dialogue.Outcome Passed × History :=
  (execute manifest true).outcome (steady (answers ledger)) []

/-- What `backup` returns for a point in the window. -/
def window : Window := ⟨backup, 0, 100 * second, "request"⟩

/-- What the two writers leave behind. -/
def baseline : Baseline where
  first := report ledger .baseline
  second := report ledger .control
  point1 := 3 * second
  point2 := 13 * second
  source := control
  backup := window

/-! #### The reports -/

/-- The preflight has rolled back. -/
theorem rolledBack_report : rolledBack (report ledger .receipt) = true := by
  simp only [report]
  decide

/-- The first writer has terminated its worker, with three effects, and reports a point. -/
theorem baseline_report : is (report ledger .baseline) "terminated_worker" true = true ∧
    ((report ledger .baseline).member "comparison").any (counts · "remote_effects" 3) = true ∧
    (report ledger .baseline).member "recovery_point" = some (.string "1970-01-01T00:00:01Z") := by
  simp only [report]
  decide

/-- The second writer has five effects, and reports the ledger as its fingerprint. -/
theorem control_report :
    ((report ledger .control).member "comparison").any (counts · "remote_effects" 5) = true ∧
    (report ledger .control).member "recovery_point" = some (.string "1970-01-01T00:00:11Z") ∧
    (report ledger .control).member "remote_ledger_sha256" = some ledger := by
  have h_comparison : (report ledger .control).member "comparison" =
      some (.object [("remote_effects", .integer 5)]) := rfl
  refine ⟨?_, rfl, rfl⟩
  rw [h_comparison]
  decide

/-- The verifier finds it safe. -/
theorem safe_report : safe (report ledger .verify) = true := by
  have h_safe : (report ledger .verify).member "safe_to_resume" = some (.bool true) := rfl
  have h_intents : (report ledger .verify).member "local_intents" = some (.integer 5) := rfl
  have h_effects : (report ledger .verify).member "remote_effects" = some (.integer 5) := rfl
  rw [safe, is, counts, counts, h_safe, h_intents, h_effects]
  decide

/-- A text of 64 hexadecimal digits is a digest. -/
theorem isSha256_ofList {text : List Char} (h_length : text.length = 64)
    (h_all : (text.all fun c => ('a' ≤ c && c ≤ 'f') || ('0' ≤ c && c ≤ '9')) = true) :
    Native.isSha256 (String.ofList text) = true := by
  rw [Native.isSha256, String.length_ofList, String.toList_ofList, h_length, h_all]
  rfl

/-- So is the fingerprint. -/
theorem isSha256_fingerprint : Native.isSha256 fingerprint = true := by
  refine isSha256_ofList List.length_replicate (List.all_eq_true.mpr fun c h_c => ?_)
  obtain rfl := List.eq_of_mem_replicate h_c
  decide

/-- The verifier accepts both a `null` fingerprint and the right one. -/
theorem verifyReceipts_report {ledger : Json String}
    (h : ledger = .null ∨ ledger = .string fingerprint) :
    verifyReceipts ledger (report ledger .verify) = some fingerprint := by
  have h_ledger : (report ledger .verify).member "remote_ledger_sha256" =
      some (.string fingerprint) := rfl
  have h_denials : (report ledger .verify).member "write_denials" = some (.integer 2) := rfl
  simp [verifyReceipts, h_ledger, isCount, h_denials, isSha256_fingerprint, h]

/-! #### The values of the parts -/

/-- With these answers every checkpoint is durable. -/
theorem value_checkpoint (phase : String) (payload : Payload) :
    (checkpoint phase payload).value (answers ledger) = some () := by
  simp [checkpoint, answers, digest]

/-- There is headroom until the deadline of the run. -/
theorem value_headroom {seconds : ℤ} (h : seconds ≤ 10800) :
    (requireHeadroom manifest seconds).value (answers ledger) = some () := by
  have h_now : seconds * second ≤ manifest.cleanupAt := by
    simp only [manifest, second]
    omega
  simp [requireHeadroom, answers, h_now]

/-- The cluster is drained. -/
theorem value_drained : drained.value (answers ledger) = some () := by
  simp [drained, answers]

/-- The tags are those of the run. -/
theorem value_tags (arn : String) : (tags manifest arn).value (answers ledger) = some () := by
  simp [tags, answers]

/-- The control database is found. -/
theorem value_control :
    (Rehearsal.database manifest.control).value (answers ledger) = some control := by
  simp [Rehearsal.database, describe, answers, accepted, control, database]

/-- The receipts database is not the control database. -/
theorem remote_ne_control : manifest.remote ≠ manifest.control := tag_append_ne (by decide)

/-- The receipts database is found too. -/
theorem value_remote :
    (Rehearsal.database manifest.remote).value (answers ledger) = some remote := by
  simp [Rehearsal.database, describe, answers, accepted, remote_ne_control, remote, database]

/-- The backup is pinned. -/
theorem pinned_backup : pinned manifest control "active" backup = true := by
  have h_arn : isAutoBackup manifest.account backup.arn = true := by
    have h_split : backup.arn.toList =
        ("arn:aws:rds:us-east-2:" ++ manifest.account ++ ":auto-backup:").toList ++ "ab-1".toList :=
      String.toList_append
    have h_name : ("ab-1".toList.all fun c => c.isAlphanum || c = '-') = true := by decide
    simp only [isAutoBackup, h_split, ← String.length_toList, List.drop_left, h_name]
    decide
  simp only [pinned, h_arn]
  simp [backup, control, database]

/-- Every point in the window is covered by it. -/
theorem value_backup (point : ℤ) (h : 0 ≤ point) (h_point : point < 100 * second) :
    (Rehearsal.backup manifest control "active" point).value (answers ledger) =
      some (some window) := by
  have h_window : Rehearsal.window control "active" point backup "request" =
      pure (some window) := by
    simp only [Rehearsal.window, backup, windowEnd, control, database, ↓reduceIte,
      Dialogue.ofOption, min_self]
    show (if _ then _ else _) = _
    simp [h, h_point, window, backup]
  have h_status : backup.status = "active" := rfl
  simp [Rehearsal.backup, answers, pinned_backup, h_status, h_window]

/-- The first point is. -/
theorem value_point1 :
    (Rehearsal.backup manifest control "active" (baseline ledger).point1).value (answers ledger) =
      some (some window) := by
  refine value_backup ledger _ ?_ ?_ <;> simp only [baseline, second] <;> omega

/-- The second point is. -/
theorem value_point2 :
    (Rehearsal.backup manifest control "active" (baseline ledger).point2).value (answers ledger) =
      some (some window) := by
  refine value_backup ledger _ ?_ ?_ <;> simp only [baseline, second] <;> omega

/-- The first turn selects the point two seconds after an observation in a whole second. -/
theorem value_select (moment : ℤ) (h : 0 ≤ moment) (h_moment : moment < 20 * second)
    (h_whole : wholeSecond moment = moment) (label : String) :
    (selectQuiescentPoint manifest (.aware moment) label).value (answers ledger) =
      some (moment + 2 * second, control, window) := by
  have h_point : max (moment + 2 * second) (wholeSecond 0 + second) = moment + 2 * second := by
    unfold wholeSecond second at *
    omega
  have h_backup := value_backup ledger (moment + 2 * second) (by unfold second; omega)
    (by unfold second at *; omega)
  have h_start : windowStart [backup] = .aware 0 := rfl
  have h_try : (tryQuiescentPoint manifest (.aware moment) (moment + 2 * second) label).value
      (answers ledger) = some (some (moment + 2 * second, control, window)) := by
    simp only [tryQuiescentPoint, Dialogue.value_bind, value_drained, value_control]
    simp [answers, h_start, tryPoint, h_point, h_backup, value_checkpoint]
  simp [selectQuiescentPoint, h_whole, h_try]

/-- The preparation returns the receipts database. -/
theorem value_prepare : (prepare manifest).value (answers ledger) = some remote := by
  have h_instances :
      (instances [manifest.control, manifest.remote]).value (answers ledger) = some () := by
    simp [instances, answers, control, remote, database]
  have h_claim : (claimExecution manifest).value (answers ledger) = some () := by
    simp [claimExecution, answers, value_checkpoint]
  have h_secrets : ((control.masterUserSecret.filter (· ≠ "")).isSome &&
      (remote.masterUserSecret.filter (· ≠ "")).isSome) = true := by decide
  have h_headroom : (9000 : ℤ) ≤ 10800 := by decide
  simp only [prepare, Dialogue.value_bind, Dialogue.value_check, value_headroom ledger h_headroom,
    h_claim, value_drained, h_instances, value_control, value_remote, h_secrets, value_checkpoint,
    Option.bind_some]
  simp [task, answers, preflightCall, rolledBack_report]

/-- The writers return their baseline. -/
theorem value_write : (write manifest).value (answers ledger) = some (baseline ledger) := by
  have h_first := value_select ledger second (by decide) (by decide) (by decide) "behind"
  have h_second := value_select ledger (11 * second) (by decide) (by decide) (by decide)
    "matching"
  have h_later : second + 2 * second < 11 * second + 2 * second := by decide
  have h_backup := value_point1 ledger
  have h_point : (baseline ledger).point1 = second + 2 * second := by
    simp only [baseline, second]
    decide
  rw [h_point] at h_backup
  simp [write, task, answers, baseline_report, control_report, h_first, h_second, h_backup, h_later]
  rfl

/-- The verifier returns the fingerprint. -/
theorem value_verifySource {ledger : Json String}
    (h : ledger = .null ∨ ledger = .string fingerprint) :
    (verifySource (baseline ledger).second).value (answers ledger) =
      some (report ledger .verify, fingerprint) := by
  simp [verifySource, task, answers, safe_report, baseline, control_report, verifyReceipts_report h]

/-- A row under a new key is put into the registry. -/
theorem registerRow_of_none {merged : Registry.Rows} {row : Entry}
    (h : merged.lookup (row.kind, row.id) = none) :
    registerRow merged row = some (put merged row) := by
  rw [registerRow, h]

/-- Another row of the registry does not make this one known. -/
theorem lookup_put_of_ne {merged : Registry.Rows} {row : Entry} {k : String × String}
    (h : merged.lookup k = none) (h_ne : k ≠ (row.kind, row.id)) :
    (put merged row).lookup k = none := by
  rw [put, Table.lookup_insert_of_ne _ _ h_ne, h]

/-- The databases are registered. -/
theorem value_register :
    (register manifest control remote window).value (answers ledger) = some () := by
  set stored := keyed [managedSecret "owner" control.resource] with h_stored
  have h_new (kind id : String) (h : kind ≠ "secret") : stored.lookup (kind, id) = none :=
    lookup_put_of_ne rfl fun h_same => h (Prod.mk.inj h_same).1
  have h_control : registerRow stored (databaseRow control) = _ :=
    registerRow_of_none (h_new "database" manifest.control (by decide))
  have h_remote : registerRow (put stored (databaseRow control)) (databaseRow remote) = _ :=
    registerRow_of_none (lookup_put_of_ne (h_new "database" manifest.remote (by decide))
      fun h_same => remote_ne_control (Prod.mk.inj h_same).2)
  have h_kind {id id' : String} : ("backup", id) ≠ ("database", id') := fun h_same =>
    absurd (Prod.mk.inj h_same).1 (by decide)
  have h_backup : registerRow (put (put stored (databaseRow control)) (databaseRow remote))
      (backupRow manifest control window) = _ :=
    registerRow_of_none (lookup_put_of_ne (lookup_put_of_ne
      (h_new "backup" "db-CONTROL" (by decide)) h_kind) h_kind)
  simp [register, answers, registryBudget, ← h_stored, h_control, h_remote, h_backup]

/-- The preparation of the deletion passes. -/
theorem value_prepareDeletion (initial : Json String) :
    (prepareDeletion manifest remote (baseline ledger) initial).value (answers ledger) =
      some () := by
  have h_usable : usable manifest control (baseline ledger).point1
      ⟨"available", control.resource, true, key, 0⟩ = true := by
    simp [usable, control, database, baseline, hour, second, manifest]
  have h_source : (baseline ledger).source = control := rfl
  have h_window : (baseline ledger).backup = window := rfl
  have h_single : control.replicated = false := rfl
  have h_headroom : (6900 : ℤ) ≤ 10800 := by decide
  simp [prepareDeletion, value_headroom ledger h_headroom, value_tags, value_checkpoint, answers,
    h_source, h_window, h_usable, value_register, value_point1, value_point2, value_control,
      h_single]

/-! #### The request -/

/-- `delete_owned` asks for the deletion of the control database. -/
theorem asks_deleteOwned :
    (deleteOwned manifest control (some ((baseline ledger).point1, (baseline ledger).point2))).Asks
      (answers ledger) (.deleteDbInstance manifest.control false) := by
  have h_remember : (remember manifest control).value (answers ledger) = some () := by
    have h_same : (managedSecret "owner" control.resource).same
        (managedSecret "owner" control.resource) = true := by decide
    rw [show remember manifest control = rememberSecret "owner" control.resource from rfl]
    simp [rememberSecret, answers, registryBudget, h_same]
  have h_poll : (poll (tryUnprotected manifest.control control.resource) 30).value
      (answers ledger) = some control := by
    have h_row : control.status = "available" ∧ control.deletionProtection = false := ⟨rfl, rfl⟩
    simp [tryUnprotected, describe, answers, h_row]
  have h_points : (checkPoints manifest control (some ((baseline ledger).point1,
      (baseline ledger).point2))).value (answers ledger) = some () := by
    simp [checkPoints, each, checkPoint, value_point1, value_point2, value_tags]
  -- the calls up to the deletion, each with its answer
  refine Dialogue.asks_check (by simp [control, database]) ?_
  refine Asks.behind rfl ?_
  refine Asks.bind (value_drained ledger) ?_
  refine Asks.bind (value_tags ledger _) ?_
  refine Asks.bind (value_control ledger) ?_
  refine Dialogue.asks_check (decide_eq_true rfl) ?_
  refine Asks.bind h_remember ?_
  refine Asks.bind (value_checkpoint ledger _ _) ?_
  refine Asks.behind rfl ?_
  refine Asks.bind h_poll ?_
  refine Asks.bind (value_drained ledger) ?_
  refine Asks.bind h_points ?_
  exact Dialogue.asks_call

/-- The request to delete the source is reached with the fingerprint and with `null`. -/
theorem asks_execute {ledger : Json String} (h : ledger = .null ∨ ledger = .string fingerprint) :
    (execute manifest true).Asks (answers ledger) (.deleteDbInstance manifest.control false) := by
  refine Dialogue.asks_check rfl ?_
  refine Asks.bind (value_prepare ledger) ?_
  refine Asks.bind (value_write ledger) ?_
  refine Asks.bind (value_verifySource h) ?_
  refine Asks.bind (value_prepareDeletion ledger _) ?_
  exact (asks_deleteOwned ledger).left _

/-- In the run the second writer reports the ledger. -/
theorem reported {ledger result : Json String}
    (h : (⟨.task false { name := .control }, some result⟩ : Exchange) ∈ (run ledger).2) :
    result.member "remote_ledger_sha256" = some ledger := by
  have h_none : ∀ exchange ∈ ([] : History), exchange.2 = answers ledger exchange.1 :=
    fun _ h => absurd h List.not_mem_nil
  have h_answer := Dialogue.outcome_steady (execute manifest true) h_none _ h
  obtain rfl : result = report ledger .control := Option.some.inj h_answer
  exact (control_report ledger).2.2

end Trial

/-- With `null` in place of the fingerprint, the deletion of the source is requested although
nothing was compared with the ledger. -/
theorem execute_unreported :
    ¬ OnProof Trial.manifest (Trial.run .null).1 (Trial.run .null).2 := by
  intro h
  obtain ⟨before, h_before⟩ := (Trial.asks_execute (.inl rfl)).outcome []
  rcases h.permitted before _ _ h_before with ⟨-, -, -, h_grounds⟩ | ⟨-, h_target, -⟩
  · obtain ⟨_, _, _, _, compared, later, _, _, _, _, rfl, h_compared, -⟩ := h_grounds
    obtain ⟨_, _, _, _, _, -, -, -, h_member, -, h_passes⟩ := h_compared
    obtain ⟨stretch, h_within, h_second⟩ := h_passes.tail.tail.exists_infix List.mem_cons_self
    have h_mem := List.mem_append_left later (h_within.subset h_second.mem)
    have h_null := Trial.reported (h_before.subset (List.mem_append_left _ h_mem))
    rw [h_member] at h_null
    cases Option.some.inj h_null
  · exact control_ne_target h_target

/-- With the fingerprint, the same request is on proof. -/
theorem execute_reported :
    OnProof Trial.manifest (Trial.run (.string Trial.fingerprint)).1
      (Trial.run (.string Trial.fingerprint)).2 := by
  refine execute_onProof Trial.manifest true (steady (Trial.answers _)) fun result h_mem => ?_
  rw [Trial.reported h_mem]
  rintro ⟨⟩

end ControlPlane.Rehearsal
