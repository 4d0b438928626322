import ControlPlane.Cloud.Dumps
import ControlPlane.Framework.Fallible
import Mathlib.Data.List.Forall2

/-!
# Logs are archived before they are deleted

Before `cleanup_pass` deletes a log group it has read all pages of all streams, stored them and
read the same bytes back (`Archived`). What it has read is all there is (`Complete`), if the log
service lists each stream once and repeats a forward token only at the end of a stream
(`Paging`). A group whose archive raises is not deleted, and is reported (`Handled`).
-/

namespace ControlPlane.Cleanup

open Framework
open Dialogue (Guarded guarded_call guarded_lastCall guarded_check guarded_each guarded_pure
  guarded_raise guarded_ends)

/-! ### What a log service promises -/

/-- The log groups while they are archived: the streams of a group, and the events of a stream in
their order. -/
structure Contents where
  streams : String → List String
  nodup : ∀ group, (streams group).Nodup
  events : String → String → List Event

/-- A stream that is read by its forward tokens, with the answers. -/
def readBy (group stream : String) : Option String → List Batch → History
  | _, [] => []
  | token, batch :: batches =>
    ⟨.getLogEvents group stream token, some batch⟩ ::
      readBy group stream (some batch.nextForwardToken) batches

/-- The last answer repeats the token that was asked with. -/
def Repeats : Option String → List Batch → Prop
  | _, [] => False
  | token, batch :: batches =>
    (batches = [] ∧ token = some batch.nextForwardToken) ∨
      Repeats (some batch.nextForwardToken) batches

/-- The service pages as documented: it lists each stream once, no token is empty, and a token is
repeated only at the end of a stream that was read from its head. -/
structure Paging (contents : Contents) (group : String) (stretch : History) : Prop where
  lists : ∀ pages, ⟨.describeLogStreams group, some pages⟩ ∈ stretch →
    pages.flatten.Perm (contents.streams group)
  tokens : ∀ stream token batch, ⟨.getLogEvents group stream token, some batch⟩ ∈ stretch →
    batch.nextForwardToken ≠ ""
  ends : ∀ stream batches, readBy group stream none batches <:+: stretch → Repeats none batches →
    batches.flatMap (·.events) = contents.events group stream

/-- Every stream of the group once, with all its events in their order. -/
structure Complete (contents : Contents) (group : String) (captured : List Captured) : Prop where
  streams : (captured.map (·.stream)).Perm (contents.streams group)
  events : ∀ entry ∈ captured, entry.events = contents.events group entry.stream

/-! ### What `archive_logs` has done -/

/-- The calls of `readPages`. -/
def pagesRead (group stream : String) : Option String → List Batch → History
  | _, [] => []
  | token, batch :: batches =>
    ⟨.getLogEvents group stream (token.filter (· ≠ "")), some batch⟩ ::
      pagesRead group stream (some batch.nextForwardToken) batches

/-- A stream was read until a token was repeated. -/
def ReadOut (group : String) (entry : Captured) (reading : History) : Prop :=
  ∃ batches, reading = pagesRead group entry.stream none batches ∧ Repeats none batches ∧
    entry.events = batches.flatMap (·.events)

/-- All listed streams were read out, and what was captured was read back. -/
def Archived (group : String) (captured : List Captured) (key : Digest String)
    (stretch : History) : Prop :=
  ∃ pages readings put, captured.map (·.stream) = pages.flatten ∧
    List.Forall₂ (ReadOut group) captured readings ∧ key = digest (archive group captured) ∧
    stretch = ⟨.describeLogStreams group, some pages⟩ :: readings.flatten ++
      [⟨.putObject key (archive group captured), some put⟩,
        ⟨.getObject key, some (archive group captured)⟩]

/-- Where no token is empty, `readPages` follows the forward tokens as they are. -/
theorem readBy_eq_pagesRead {group stream : String} {token : Option String} {batches : List Batch}
    (h_token : token ≠ some "")
    (h : ∀ asked batch,
      ⟨.getLogEvents group stream asked, some batch⟩ ∈ pagesRead group stream token batches →
        batch.nextForwardToken ≠ "") :
    readBy group stream token batches = pagesRead group stream token batches := by
  induction batches generalizing token with
  | nil => rfl
  | cons batch batches ih =>
    -- `readPages` asks without a token where the one it has is empty
    have h_filter : token.filter (· ≠ "") = token := by
      cases token with
      | none => rfl
      | some text => exact Option.filter_some_pos (by simpa using h_token)
    rw [readBy, pagesRead, h_filter]
    have h_next : batch.nextForwardToken ≠ "" := h _ batch List.mem_cons_self
    rw [ih (by simpa using h_next) fun asked batch h_mem => h asked batch
      (List.mem_cons_of_mem _ h_mem)]

variable {group : String} {captured : List Captured} {key : Digest String} {stretch : History}

/-- **What was archived is all there is.** -/
theorem Archived.complete {contents : Contents} (h : Archived group captured key stretch)
    (h_paging : Paging contents group stretch) : Complete contents group captured := by
  obtain ⟨pages, readings, put, h_streams, h_readings, -, h_stretch⟩ := h
  refine ⟨?_, fun entry h_entry => ?_⟩
  · rw [h_streams]
    exact h_paging.lists pages (h_stretch ▸ List.mem_cons_self)
  obtain ⟨_, h_mem, batches, rfl, h_repeats, h_events⟩ := exists_of_forall₂ h_readings h_entry
  -- the pages of the stream stand together in the stretch
  have h_within : pagesRead group entry.stream none batches <:+: stretch := by
    rw [h_stretch]
    exact ((List.infix_of_mem_flatten h_mem).trans (List.suffix_cons _ _).isInfix).trans
      (List.prefix_append _ _).isInfix
  -- they are a reading by forward tokens from the head, so the service promises all events
  have h_same : readBy group entry.stream none batches =
      pagesRead group entry.stream none batches :=
    readBy_eq_pagesRead (Option.some_ne_none "").symm fun asked batch h_batch =>
      h_paging.tokens entry.stream asked batch (h_within.subset h_batch)
  rw [h_events]
  exact h_paging.ends entry.stream batches (h_same ▸ h_within) h_repeats

/-! ### The run of `archive_logs` -/

/-- No question changes anything. -/
abbrev Reading (_ : History) (q : Question) : Prop :=
  ∀ mutation resource, q ≠ .mutate mutation resource

/-- The events returned are those of the pages read, up to a repeated token. -/
theorem readPages_adds (stream : String) (turns used : ℕ) (events : List Event)
    (token : Option String) :
    (readPages group stream turns used events token).Guarded Reading
      (fun result stretch => ∃ batches, stretch = pagesRead group stream token batches ∧
        Repeats token batches ∧ result.1 = events ++ batches.flatMap (·.events))
      (fun _ => True) [] := by
  -- on the turns that are left, for any events read so far
  induction turns generalizing used events token with
  | zero => exact guarded_raise trivial
  | succ turns ih =>
    refine guarded_call nofun trivial fun response => ?_
    refine guarded_check trivial fun _ => ?_
    split
    -- the token is repeated: this was the last page
    next h_token =>
      refine guarded_pure ⟨[response], rfl, .inl ⟨rfl, h_token⟩, ?_⟩
      simp
    next =>
      refine (ih _ _ _).after (fun _ _ h => h) ?_ fun _ _ => trivial
      rintro result _ ⟨batches, rfl, h_repeats, h_events⟩
      refine ⟨response :: batches, rfl, .inr h_repeats, ?_⟩
      simp [h_events]

/-- Every stream of the list is read out, one after the other. -/
theorem readStreams_adds (streams : List String) (used : ℕ) (captured : List Captured) :
    (readStreams group used captured streams).Guarded Reading
      (fun result stretch => ∃ entries readings, result = captured ++ entries ∧
        entries.map (·.stream) = streams ∧ List.Forall₂ (ReadOut group) entries readings ∧
        stretch = readings.flatten)
      (fun _ => True) [] := by
  induction streams generalizing used captured with
  | nil => exact guarded_pure ⟨[], [], (List.append_nil _).symm, rfl, .nil, rfl⟩
  | cons stream streams ih =>
    refine (readPages_adds stream 100 used [] none).andThen (fun _ _ h => h) (fun _ _ => trivial) ?_
    rintro ⟨events, used'⟩ reading ⟨batches, h_reading, h_repeats, h_events⟩
    refine (ih used' _).after (fun _ _ h => h) ?_ fun _ _ => trivial
    rintro _ _ ⟨entries, readings, rfl, rfl, h_readings, rfl⟩
    refine ⟨⟨stream, events⟩ :: entries, reading :: readings, by simp, rfl, ?_, rfl⟩
    exact .cons ⟨batches, h_reading, h_repeats, by simpa using h_events⟩ h_readings

/-- `store` returns the digest of a text that was put and read back. -/
theorem store_adds (raw : String) :
    (store raw).Guarded Reading (fun key stretch => key = digest raw ∧ ∃ put,
      stretch = [⟨.putObject key raw, some put⟩, ⟨.getObject key, some raw⟩])
      (fun _ => True) [] := by
  unfold store
  refine guarded_check trivial fun _ => ?_
  refine guarded_call nofun trivial fun put => ?_
  refine guarded_call nofun trivial fun body => ?_
  refine guarded_check trivial fun h_body => ?_
  have h_body : body = raw := of_decide_eq_true h_body
  exact guarded_pure ⟨rfl, put, by rw [h_body]; rfl⟩

/-- What `archive_logs` adds if it returns a digest. -/
theorem archiveLogs_adds (group : String) :
    (archiveLogs group).Guarded Reading
      (fun key stretch => ∃ captured, Archived group captured key stretch) (fun _ => True) [] := by
  unfold archiveLogs
  refine guarded_call nofun trivial fun pages => ?_
  refine guarded_check trivial fun _ => ?_
  refine (readStreams_adds pages.flatten 0 []).andThen (fun _ _ h => h) (fun _ _ => trivial) ?_
  intro captured read h_read
  -- the text of the archive is not to be computed
  generalize h_raw : archive group captured = raw
  refine (store_adds raw).after (fun _ _ h => h) ?_ fun _ _ => trivial
  rintro key stored ⟨h_key, put, rfl⟩
  obtain ⟨entries, readings, h_captured, h_streams, h_readings, rfl⟩ := h_read
  obtain rfl : captured = entries := h_captured
  subst h_raw
  exact ⟨captured, pages, readings, put, h_streams, h_readings, h_key, by simp⟩

/-! ### A row changes what it is about -/

/-- The kind of resource that the call changes. -/
def Mutation.kind : Mutation → Kind
  | stopTask _ => .task
  | unprotect | deleteDbInstance => .database
  | deleteDbSnapshot => .snapshot
  | deleteDbInstanceAutomatedBackup => .backup
  | deleteRepository => .repository
  | deleteSecret => .secret
  | deleteLogGroup => .logGroup
  | deleteVpcEndpoints => .endpoint
  | deleteNetworkInterface => .eni
  | disassociateRouteTable | deleteRouteTable => .routeTable
  | revoke _ _ | deleteSecurityGroup => .securityGroup
  | deleteSubnet => .subnet
  | deleteVpc => .vpc
  | deleteDbSubnetGroup => .dbSubnetGroup
  | deleteDbParameterGroup => .dbParameterGroup
  | deregisterTaskDefinition | deleteTaskDefinitions => .taskDefinition
  | deleteCluster => .cluster
  | deleteRolePolicy _ | deleteRole => .role
  | scheduleKeyDeletion => .key

/-- Only what is of this kind is changed. -/
abbrev Changes (kind : Kind) {α : Type} (x : Controller α) : Prop :=
  x.Guarded (fun _ q => ∀ mutation resource, q = .mutate mutation resource → mutation.kind = kind)
    (fun _ _ => True) (fun _ => True) []

section Changes

variable {kind : Kind} {α β : Type}

/-- A program without a question changes nothing. -/
theorem changes_pure (result : α) : Changes kind (pure result : Controller α) :=
  guarded_pure trivial

/-- Two programs one after the other, both of which change the kind only. -/
theorem Changes.bind {x : Controller α} {f : α → Controller β} (h_x : Changes kind x)
    (h_f : ∀ result, Changes kind (f result)) : Changes kind (x >>= f) :=
  h_x.andThen (fun _ _ h => h) (fun _ _ => trivial) fun result _ _ =>
    (h_f result).after (fun _ _ h => h) (fun _ _ _ => trivial) fun _ _ => trivial

/-- So do the two branches of a test. -/
theorem changes_ite {test : Prop} [Decidable test] {x y : Controller α} (h_x : Changes kind x)
    (h_y : Changes kind y) : Changes kind (if test then x else y) := by
  split
  · exact h_x
  · exact h_y

/-- A check changes nothing. -/
theorem changes_check (test : Bool) : Changes kind (Dialogue.check test : Controller Unit) :=
  Dialogue.guarded_lastCheck trivial fun _ => trivial

/-- One question, which changes the kind only. -/
theorem changes_call {q : Question}
    (h : ∀ mutation resource, q = .mutate mutation resource → mutation.kind = kind) :
    Changes kind (call q) := guarded_lastCall (q := q) h trivial fun _ => trivial

/-- The change of a resource of the kind. -/
theorem changes_mutate {mutation : Mutation} (h : mutation.kind = kind) (resource : String) :
    Changes kind (call (.mutate mutation resource)) := by
  refine changes_call ?_
  rintro _ _ ⟨⟩
  exact h

/-- `act`, with a change of the kind. -/
theorem changes_act {mutation : Mutation} (h : mutation.kind = kind) (row : Row) :
    Changes kind (act mutation row) := (changes_mutate h row.id).bind fun _ => changes_pure true

/-- `actFully`, with a change of the kind. -/
theorem changes_actFully {mutation : Mutation} (h : mutation.kind = kind) (row : Row) :
    Changes kind (actFully mutation row) :=
  (changes_mutate h row.id).bind fun complete =>
    (changes_check complete).bind fun _ => changes_pure true

/-- A loop, each turn of which changes the kind only. -/
theorem changes_each {body : α → Controller Unit} (h : ∀ item, Changes kind (body item))
    (items : List α) : Changes kind (Dialogue.each body items) := by
  induction items with
  | nil => exact changes_pure ()
  | cons item items ih => exact (h item).bind fun _ => ih

/-- `mutateEach`, with a change of the kind. -/
theorem changes_mutateEach (mutation : Mutation) (h : mutation.kind = kind)
    (resources : List String) : Changes kind (mutateEach mutation resources) :=
  changes_each (fun resource => (changes_mutate h resource).bind fun _ => changes_pure ()) resources

end Changes

variable {archiveLogGroup : Option (String → Controller (Digest String))} {kinds : List Kind}
  {row : Row}

/-- The handling of a row by its kind changes only that kind, as the archive does. -/
theorem handleKind_changes
    (h_archive : ∀ f ∈ archiveLogGroup, ∀ group, Changes row.kind (f group)) :
    Changes row.kind (handleKind archiveLogGroup kinds row) := by
  unfold handleKind
  -- each kind has its own calls, all of this kind
  cases h_kind : row.kind with
  | task => exact changes_pure false
  | database =>
    refine changes_ite (changes_pure false) (changes_ite (changes_act rfl row) ?_)
    exact changes_ite (changes_act rfl row) (changes_pure true)
  | snapshot => exact changes_ite (changes_act rfl row) (changes_pure false)
  | backup =>
    refine changes_ite ?_ (changes_pure false)
    exact (changes_check row.runTagVerified).bind fun _ => changes_act rfl row
  | repository => exact changes_act rfl row
  | secret => exact changes_ite (changes_act rfl row) (changes_pure false)
  | logGroup =>
    refine changes_ite (Changes.bind ?_ fun _ => changes_act rfl row) (changes_pure false)
    cases archiveLogGroup with
    | none => exact changes_pure ()
    | some f =>
      have h_f := h_archive f rfl row.id
      rw [h_kind] at h_f
      exact h_f.bind fun _ => changes_pure ()
  | endpoint => exact changes_actFully rfl row
  | eni => exact changes_ite (changes_act rfl row) (changes_pure false)
  | routeTable =>
    refine changes_ite (Changes.bind ?_ fun _ => ?_) (changes_pure false)
    · exact changes_mutateEach .disassociateRouteTable rfl _
    · exact changes_ite (changes_pure true) (changes_act rfl row)
  | securityGroup =>
    refine changes_ite (Changes.bind ?_ fun _ => Changes.bind ?_ fun _ => ?_) (changes_pure false)
    · exact changes_mutateEach (.revoke .ingress row.ingress) rfl _
    · exact changes_mutateEach (.revoke .egress row.egress) rfl _
    · exact changes_act rfl row
  | subnet => exact changes_ite (changes_act rfl row) (changes_pure false)
  | vpc => exact changes_ite (changes_act rfl row) (changes_pure false)
  | dbSubnetGroup => exact changes_ite (changes_act rfl row) (changes_pure false)
  | dbParameterGroup => exact changes_ite (changes_act rfl row) (changes_pure false)
  | taskDefinition =>
    refine changes_ite (changes_pure false) ?_
    exact changes_ite (changes_act rfl row) (changes_actFully rfl row)
  | cluster => exact changes_act rfl row
  | role =>
    refine Changes.bind (changes_call (q := Question.listRolePolicies row.id) nofun)
      fun policies => ?_
    refine Changes.bind (changes_each (fun policy => ?_) policies) fun _ => changes_act rfl row
    refine Changes.bind ?_ fun _ => changes_pure ()
    exact changes_mutate rfl row.id
  | key => exact changes_ite (changes_act rfl row) (changes_pure false)

/-- What is done for a row changes what is of its kind, if the archive changes nothing else. -/
theorem handleRow_changes (h_archive : ∀ f ∈ archiveLogGroup, ∀ group, Changes row.kind (f group)) :
    Changes row.kind (handleRow archiveLogGroup kinds row) := by
  unfold handleRow
  split
  next h_task =>
    rw [h_task]
    exact changes_act rfl row
  next => exact changes_ite (changes_pure false) (handleKind_changes h_archive)

/-! ### The pass -/

/-- The text tells the log group, its streams and their events: it is the archive of these and of
nothing else. -/
def Tells (text : String) (group : String) (captured : List Captured) : Prop :=
  ∀ group' captured', archive group' captured' = text ↔ group' = group ∧ captured' = captured

/-- No two archives are the same text. -/
theorem tells_archive (group : String) (captured : List Captured) :
    Tells (archive group captured) group captured := fun group' captured' =>
  ⟨fun h => archive_injective h, by rintro ⟨rfl, rfl⟩; rfl⟩

/-- The object that was read back under the digest tells all that the log service has. -/
def Saved (group : String) (key : Digest String) (stretch : History) : Prop :=
  ∃ captured text, Archived group captured key stretch ∧
    (⟨.getObject (digest text), some text⟩ : Exchange) ∈ stretch ∧ key = digest text ∧
    Tells text group captured ∧
    ∀ contents, Paging contents group stretch → Complete contents group captured

/-- What is archived is saved. -/
theorem Archived.saved (h : Archived group captured key stretch) : Saved group key stretch := by
  obtain ⟨pages, readings, put, h_streams, h_readings, h_key, h_stretch⟩ := id h
  refine ⟨captured, archive group captured, h, ?_, h_key, tells_archive group captured,
    fun contents => h.complete⟩
  rw [h_stretch, h_key]
  exact List.mem_append_right _ (List.mem_cons_of_mem _ List.mem_cons_self)

/-- A log group is deleted right behind its archive. -/
def Justified (before : History) (q : Question) : Prop :=
  ∀ group, q = .mutate .deleteLogGroup group → ∃ earlier stretch key,
    before = earlier ++ stretch ∧ Saved group key stretch

/-- What a row of a log group adds: it is passed over, or its archive raises and nothing is
changed, or it is deleted behind its archive, unless that call fails. -/
inductive LogRun (row : Row) : Option Bool → History → Prop
  | passed : LogRun row (some false) []
  | kept {stretch : History} (h_raised : (archiveLogs row.id).Ends .raised stretch)
    (h_unchanged : ∀ exchange ∈ stretch, Reading [] exchange.1) : LogRun row none stretch
  | archived {stretch : History} {key : Digest String} (answer : Option Bool)
    (h_returned : (archiveLogs row.id).Ends (.returned key) stretch)
    (h_saved : Saved row.id key stretch) :
    LogRun row (answer.map fun _ => true) (stretch ++ [⟨.mutate .deleteLogGroup row.id, answer⟩])

/-- The handling of a row: its result, which is none where it raised, and what it added. -/
abbrev RowRun : Type := Option Bool × History

/-- A row is handled as it should be, and reported. -/
def Handled (report : Report) (row : Row) (run : RowRun) : Prop :=
  (row.kind = .logGroup → LogRun row run.1 run.2) ∧ (run.1 = none → row.kind ∈ report.failedKinds)

/-- The archive stands right before the request, whatever came before. -/
theorem Justified.append {stretch : History} {q : Question} (h : Justified stretch q)
    (history : History) : Justified (history ++ stretch) q := by
  intro group h_q
  obtain ⟨earlier, archived, key, rfl, h_saved⟩ := h group h_q
  exact ⟨history ++ earlier, archived, key, (List.append_assoc _ _ _).symm, h_saved⟩

/-- Either `archive_logs` raises, or the logs are saved; and it changes nothing. -/
theorem archiveLogs_saves (group : String) :
    (archiveLogs group).Guarded Reading
      (fun key stretch => (archiveLogs group).Ends (.returned key) stretch ∧
        Saved group key stretch)
      (fun stretch => (archiveLogs group).Ends .raised stretch ∧
        ∀ exchange ∈ stretch, Reading [] exchange.1) [] := by
  -- the invariant is that no exchange so far is a change
  have h_unchanged := (archiveLogs_adds group).keeps
    (I := fun stretch => ∀ exchange ∈ stretch, Reading [] exchange.1) nofun
    fun _ q _ h_q h => List.forall_mem_append.mpr ⟨h, by simpa using h_q⟩
  refine (h_unchanged.and (guarded_ends _)).imp (fun _ _ h => h.1) ?_ fun _ h => ⟨h.2, h.1.2⟩
  rintro key stretch ⟨⟨⟨captured, h_archived⟩, -⟩, h_returned⟩
  exact ⟨h_returned, h_archived.saved⟩

/-- The log groups are deleted only behind their archive. -/
theorem deleteLogs_adds (row : Row) :
    (deleteLogs (some archiveLogs) row).Guarded Justified
      (fun result stretch => LogRun row (some result) stretch) (LogRun row none) [] := by
  have h_first : (archiveFirst row.id (some archiveLogs)).Guarded Justified
      (fun _ stretch => ∃ key, (archiveLogs row.id).Ends (.returned key) stretch ∧
        Saved row.id key stretch) (LogRun row none) [] := by
    refine (archiveLogs_saves row.id).andThen ?_ (fun _ h => .kept h.1 h.2) fun key stretch h => ?_
    · exact fun _ q h_q group h_delete => absurd h_delete (h_q _ _)
    · exact guarded_pure ⟨key, h⟩
  refine h_first.bind ?_
  rintro _ stretch ⟨key, h_returned, h_saved⟩
  -- the request, behind exactly the stretch of the archive
  refine guarded_call ?_ (.archived none h_returned h_saved) fun reply => ?_
  · rintro _ ⟨⟩
    exact ⟨[], stretch, key, rfl, h_saved⟩
  · exact guarded_pure (.archived (some reply) h_returned h_saved)

/-- What is done for one row. -/
theorem handleRow_adds (row : Row) :
    (handleRow (some archiveLogs) kinds row).Guarded Justified
      (fun result stretch => row.kind = .logGroup → LogRun row (some result) stretch)
      (fun stretch => row.kind = .logGroup → LogRun row none stretch) [] := by
  by_cases h_kind : row.kind = .logGroup
  · have h_handle : handleRow (some archiveLogs) kinds row = if Kind.task ∈ kinds then pure false
        else if without kinds [.database] then deleteLogs (some archiveLogs) row
        else pure false := by
      simp [handleRow, handleKind, h_kind]
    rw [h_handle]
    split
    · refine guarded_pure fun _ => ?_
      exact .passed
    split
    · exact (deleteLogs_adds row).imp (fun _ _ h => h) (fun _ _ h _ => h) fun _ h _ => h
    · refine guarded_pure fun _ => ?_
      exact .passed
  · refine (handleRow_changes ?_).imp ?_ (fun _ _ _ h => absurd h h_kind)
      fun _ _ h => absurd h h_kind
    · rintro _ ⟨⟩ group
      exact (archiveLogs_adds group).imp (fun _ _ h mutation resource h_q => absurd h_q (h _ _))
        (fun _ _ _ => trivial) fun _ h => h
    · exact fun _ q h_q group h_delete => absurd (h_q _ _ h_delete).symm h_kind

/-- What is done for all rows: each has its run, one after the other. -/
theorem handleRows_adds (rows : List Row) (report : Report) :
    (handleRows (some archiveLogs) kinds report rows).Guarded Justified
      (fun final stretch => report.failedKinds ⊆ final.failedKinds ∧ ∃ runs : List RowRun,
        stretch = (runs.map Prod.snd).flatten ∧ List.Forall₂ (Handled final) rows runs)
      (fun _ => False) [] := by
  induction rows generalizing report with
  | nil => exact guarded_pure ⟨List.Subset.refl _, [], rfl, .nil⟩
  | cons row rows ih =>
    refine (handleRow_adds row).caught.bind fun result stretch h_row => ?_
    refine (ih (report.add row result)).after (fun _ _ h => h.append stretch) ?_ fun _ h => h
    rintro final _ ⟨h_failed, runs, rfl, h_runs⟩
    have h_report : report.failedKinds ⊆ (report.add row result).failedKinds := by
      cases result with
      | none => exact List.subset_append_left _ _
      | some acted => cases acted <;> exact List.Subset.refl _
    refine ⟨List.Subset.trans h_report h_failed, (result, stretch) :: runs, rfl,
      .cons ⟨?_, ?_⟩ h_runs⟩
    · cases result with
      | none => exact h_row
      | some acted => exact h_row
    · rintro rfl
      exact h_failed (List.mem_append_right _ (List.mem_singleton_self _))

/-- What holds of a run of `cleanup_pass` that has come to this history, and of how it ended: no
exception leaves it, and it ends with a run of each row behind the one before. -/
structure LogsKept (rows : List Row) (end_ : Dialogue.Outcome Report) (history : History) :
    Prop where
  justified : ∀ before q answer, before ++ [⟨q, answer⟩] <+: history → Justified before q
  finishes : end_ ≠ .raised
  handled : ∀ report, end_ = .returned report → ∃ runs : List RowRun,
    history = (runs.map Prod.snd).flatten ∧ List.Forall₂ (Handled report) rows runs

/-- **Logs are complete in the archive before they are deleted**, whatever AWS answers. -/
theorem cleanupPass_logsKept (rows : List Row) (env : Environment) :
    LogsKept rows ((cleanupPass (some archiveLogs) rows).outcome env []).1
      ((cleanupPass (some archiveLogs) rows).outcome env []).2 := by
  have h_rule : (handleRows (some archiveLogs) (rows.map (·.kind)) {} rows).Guarded _ _ _ [] :=
    handleRows_adds rows {}
  obtain ⟨-, h_justified, h_returned, h_raised⟩ := h_rule.outcome env (Prod.eta _).symm
  refine ⟨fun before q answer h => h_justified before _ List.nil_prefix h, h_raised, ?_⟩
  exact fun report h_end => (h_returned report h_end).2

end ControlPlane.Cleanup
