import ControlPlane.Cloud.Guard
import ControlPlane.Framework.Stages
import ControlPlane.Model.Finalize

/-!
# Nothing is lost with the guard

The stages of a retirement, in their order: everything that the guard has stored is in the archive
(`Stored`), the guard is stopped, its bucket lists what was archived and nothing else, all of it is
deleted (`emptied`), and the bucket and the members of the guard are (`retired`).

Whatever is answered, each deletion has the stages before it behind it, and what is deleted of an
object was read in full, written to a file of the archive, read back from it, and entered in the
index with its digest (`finalize_archived`).
-/

namespace ControlPlane.Finalization

open Framework
open Arming (Manifest)
open Inventory (Inventoried)
open Registry (Entry)
open Dialogue (Guarded Turn each gather guarded_call guarded_check guarded_lastCheck guarded_each
  guarded_gather guarded_lastCall guarded_ofOption guarded_perform guarded_pure)

variable {sha256 : Bytes → String} {m : Manifest} {known : List Entry} {versions : List Version}

/-! ### The stages -/

/-- The question was answered so. -/
def Told (q : Question) (reply : q.Reply) (stretch : History) : Prop := stretch = [⟨q, some reply⟩]

/-- The exchange of a question and its answer is told. -/
theorem told (q : Question) (reply : q.Reply) : Told q reply [⟨q, some reply⟩] := rfl

/-- The inventory lists at most what is already on its way out: keys that are pending deletion,
secrets that are, and task definitions whose deletion is in progress and that nothing can run. -/
def Dormant (m : Manifest) (known : List Entry) (asked : Inventory.History) : Prop :=
  ∃ rows, Inventoried m.inventory known rows asked ∧
    ∀ kind id, Guard.Listed m.inventory (Inventory.owners known rows) asked kind id →
      Guard.Leaving m.inventory (Inventory.owners known rows) asked kind id

/-- The rows of a version and its number, after the exchanges. -/
def Filed (sha256 : Bytes → String) (item : Version × ℕ) (rows : List Archived)
    (stretch : History) : Prop :=
  (item.1.marker = true ∧ rows = [⟨item.1.key, item.1.id, true, none⟩]) ∨
    ∃ data : Bytes, item.1.size = some data.length ∧
      rows = [⟨item.1.key, item.1.id, false, some (item.2, sha256 data)⟩] ∧
      stretch = [⟨.getObject item.1.key item.1.id, some data⟩, ⟨.writeFile item.2 data, some ()⟩,
        ⟨.readFile item.2, some data⟩]

/-- Nothing of the run is active, and all versions that are listed are in the archive. -/
def Stored (sha256 : Bytes → String) (m : Manifest) (known : List Entry) (versions : List Version)
    (stretch : History) : Prop :=
  ∃ asked key tags pages, ∃ turns : List (Turn Question (Dialogue.Replies Question.Reply) Archived),
    stretch = ofInventory.history asked ++ [⟨.outputExists, some false⟩,
      ⟨.describeKey key, some m.account⟩, ⟨.listResourceTags key, some tags⟩,
      ⟨.listObjectVersions, some pages⟩, ⟨.makeOutput, some ()⟩] ++
      (turns.map Prod.snd).flatten ++ [⟨.writeIndex (turns.map Prod.fst).flatten, some ()⟩] ∧
    Dormant m known asked ∧ m.guardKey = some key ∧
    tags.reverse.lookup "AcceptanceGuard" = some m.run ∧ versions = pages.flatMap Page.all ∧
    List.Forall₂ (fun item turn => Filed sha256 item turn.1 turn.2) versions.zipIdx turns

/-- The schedule is gone, both functions are stopped, and the running ones have had their time. -/
def Stopped (stretch : History) : Prop :=
  stretch = [⟨.deleteSchedule, some ()⟩, ⟨.stopFunction .watchdog, some ()⟩,
    ⟨.stopFunction .checker, some ()⟩, ⟨.sleep, some ()⟩]

/-- The bucket lists the same versions. -/
def Unchanged (versions : List Version) (stretch : History) : Prop :=
  ∃ pages, stretch = [⟨.listObjectVersions, some pages⟩] ∧
    ∀ name, name ∈ (pages.flatMap Page.all).map Version.name ↔ name ∈ versions.map Version.name

/-- All versions are deleted. -/
def Deleted (versions : List Version) (stretch : History) : Prop :=
  ∃ requests : List (List (String × String)), requests.flatten = versions.map Version.name ∧
    stretch = requests.map fun objects => ⟨.deleteObjects objects, some []⟩

/-- A function is gone, and its log group. -/
def Without (member : Member) (stretch : History) : Prop :=
  stretch = [⟨.deleteFunction member, some ()⟩, ⟨.deleteLogGroup member, some ()⟩]

/-- The queue is gone. -/
def Unqueued (stretch : History) : Prop :=
  ∃ url, stretch = [⟨.getQueueUrl, some url⟩, ⟨.deleteQueue url, some ()⟩]

/-- A role of the guard of this run. -/
def Owned (m : Manifest) (role : String) (stretch : History) : Prop :=
  ∃ name, Told (.getRole (m.tag ++ "-" ++ name)) ⟨role, "/csa-native-guard/" ++ m.run ++ "/"⟩
    stretch

/-- A role in the path of the run is gone, and its policies. -/
def Unroled (m : Manifest) (name : String) (stretch : History) : Prop :=
  ∃ role policies, stretch =
    [⟨.getRole (m.tag ++ "-" ++ name), some ⟨role, "/csa-native-guard/" ++ m.run ++ "/"⟩⟩,
      ⟨.listRolePolicies role, some policies⟩] ++
      policies.flatten.map (fun policy => ⟨.deleteRolePolicy role policy, some ()⟩) ++
      [⟨.deleteRole role, some ()⟩]

section Stages

variable (sha256 m known versions)

/-- Archived, stopped, and unchanged since. -/
def quiet : List (History → Prop) := [Stored sha256 m known versions, Stopped, Unchanged versions]

/-- Then without versions and without its bucket. -/
def emptied : List (History → Prop) :=
  quiet sha256 m known versions ++ [Deleted versions, Told .deleteBucket ()]

/-- Then without functions, logs, queue, alarms and roles. -/
def retired : List (History → Prop) :=
  emptied sha256 m known versions ++ [Without .watchdog, Without .checker, Unqueued,
    Told .deleteAlarms (), Unroled m "watchdog", Unroled m "checker", Unroled m "schedule"]

end Stages

/-! ### What is behind a change -/

/-- What is behind a question that changes something. -/
def Grounds (sha256 : Bytes → String) (m : Manifest) (known : List Entry) (before : History) :
    Question → Prop
  | .deleteSchedule | .stopFunction _ => ∃ versions, Passes [Stored sha256 m known versions] before
  | .deleteObjects objects => ∃ versions, Passes (quiet sha256 m known versions) before ∧
    objects ⊆ versions.map Version.name
  | .abortMultipartUpload _ _ | .deleteBucket =>
    ∃ versions, Passes (quiet sha256 m known versions ++ [Deleted versions]) before
  | .deleteFunction _ | .deleteLogGroup _ | .deleteAlarms =>
    ∃ versions, Passes (emptied sha256 m known versions) before
  | .deleteQueue url =>
    ∃ versions, Passes (emptied sha256 m known versions ++ [Told .getQueueUrl url]) before
  | .deleteRolePolicy role _ | .deleteRole role =>
    ∃ versions, Passes (emptied sha256 m known versions ++ [Owned m role]) before
  | .scheduleKeyDeletion key => m.guardKey = some key ∧
    ∃ versions, Passes (retired sha256 m known versions) before
  | _ => True

/-- What there is of a deleted version in the archive. -/
def Kept (sha256 : Bytes → String) (name : String × String) (before : History) : Prop :=
  ∃ rows, (⟨.writeIndex rows, some ()⟩ : Exchange) ∈ before ∧
    (⟨name.1, name.2, true, none⟩ ∈ rows ∨
      ∃ number data, [⟨.getObject name.1 name.2, some data⟩, ⟨.writeFile number data, some ()⟩,
          ⟨.readFile number, some data⟩] <:+: before ∧
        ⟨name.1, name.2, false, some (number, sha256 data)⟩ ∈ rows)

/-- What holds of a run of `finalize`. -/
structure Retires (sha256 : Bytes → String) (m : Manifest) (known : List Entry)
    (run : Dialogue.Outcome ℤ × History) : Prop where
  grounds : ∀ before exchange, before ++ [exchange] <+: run.2 →
    Grounds sha256 m known before exchange.1
  kept : ∀ before objects answer, before ++ [⟨.deleteObjects objects, answer⟩] <+: run.2 →
    ∀ name ∈ objects, Kept sha256 name before
  returns : ∀ at_, run.1 = .returned at_ → ∃ versions key, m.guardKey = some key ∧
    Passes (retired sha256 m known versions ++
      [Told (.scheduleKeyDeletion key) (), Told .now at_]) run.2

/-- A version of the archive is kept. -/
theorem Stored.kept {stretch before : History} {name : String × String}
    (h : Stored sha256 m known versions stretch) (h_before : stretch <:+: before)
    (h_name : name ∈ versions.map Version.name) : Kept sha256 name before := by
  obtain ⟨_, _, _, _, turns, rfl, -, -, -, -, h_filed⟩ := h
  obtain ⟨version, h_version, rfl⟩ := List.mem_map.mp h_name
  obtain ⟨number, h_number⟩ := List.mem_iff_getElem?.mp h_version
  obtain ⟨⟨rows, stretch⟩, h_turn, h_rows, h_stretch⟩ :=
    Dialogue.exists_turn h_filed (List.mk_mem_zipIdx_iff_getElem?.mpr h_number)
  refine ⟨_, h_before.subset (List.mem_append_right _ List.mem_cons_self), ?_⟩
  rcases h_turn with ⟨-, rfl⟩ | ⟨data, -, rfl, rfl⟩
  · exact .inl (h_rows List.mem_cons_self)
  · refine .inr ⟨number, data, ?_, h_rows List.mem_cons_self⟩
    refine (h_stretch.trans ?_).trans h_before
    exact ((List.suffix_append _ _).isInfix).trans (List.prefix_append _ _).isInfix

/-! ### The archive -/

/-- Needs no grounds. -/
abbrev Reading (sha256 : Bytes → String) (m : Manifest) (known : List Entry) (q : Question) :
    Prop :=
  ∀ before, Grounds sha256 m known before q

/-- All versions of all pages are enumerated, in their order. -/
theorem enumerate_all (before : List Version) (pages : List Page) {history : History} :
    (enumerate before pages).Guarded (fun _ q => Reading sha256 m known q)
      (fun versions after => versions = before ++ pages.flatMap Page.all ∧ after = history)
      (fun _ => True) history := by
  induction pages generalizing before with
  | nil => exact guarded_pure ⟨by simp, rfl⟩
  | cons page pages ih =>
    refine guarded_check trivial fun _ => (ih (before ++ page.all)).imp (fun _ _ h => h) ?_
      fun _ h => h
    rintro _ _ ⟨rfl, rfl⟩
    exact ⟨by simp, rfl⟩

/-- A version that is archived is filed. -/
theorem archiveVersion_filed (item : Version × ℕ) :
    (archiveVersion sha256 item).Guarded (fun _ q => Reading sha256 m known q) (Filed sha256 item)
      (fun _ => True) [] := by
  rw [archiveVersion]
  split
  -- a delete marker has no bytes
  next h_marker => exact guarded_pure (.inl ⟨h_marker, rfl⟩)
  next =>
    refine guarded_call (fun _ => trivial) trivial fun data => ?_
    refine guarded_check trivial fun h_size => ?_
    refine guarded_call (fun _ => trivial) trivial fun _ => ?_
    refine guarded_call (fun _ => trivial) trivial fun back => ?_
    refine guarded_check trivial fun h_back => ?_
    -- what was read back is what was downloaded
    obtain rfl := of_decide_eq_true h_back
    exact guarded_pure (.inr ⟨_, of_decide_eq_true h_size, rfl, rfl⟩)

/-- What `archive` leaves behind. -/
theorem archive_stored : (archive sha256 m known).Guarded (fun _ q => Reading sha256 m known q)
    (Stored sha256 m known) (fun _ => True) [] := by
  refine guarded_check trivial fun _ => ?_
  refine (Inventory.collect_inventoried known).lift.andThen ?_ (fun _ _ => trivial) ?_
  · rintro _ _ ⟨_, _, -, rfl, -⟩
    exact fun _ => trivial
  rintro rows _ ⟨asked, rfl, h_rows⟩
  refine guarded_check trivial fun h_inactive => ?_
  have h_dormant : Dormant m known asked :=
    ⟨rows, h_rows, (Guard.reports_publicReport h_rows.exact).inactive h_inactive⟩
  refine guarded_call (fun _ => trivial) trivial fun exists_ => ?_
  refine guarded_check trivial fun h_new => ?_
  refine guarded_check trivial fun _ => guarded_ofOption trivial fun key h_key => ?_
  refine guarded_call (fun _ => trivial) trivial fun account => ?_
  refine guarded_call (fun _ => trivial) trivial fun tags => guarded_check trivial fun h_owned => ?_
  refine guarded_call (fun _ => trivial) trivial fun pages => ?_
  refine (enumerate_all [] pages).bind ?_
  rintro _ _ ⟨rfl, rfl⟩
  refine guarded_call (fun _ => trivial) trivial fun _ => ?_
  refine (guarded_gather (fun item _ => archiveVersion_filed item) (fun _ _ _ h => h)
    fun _ _ h => h).andThen (fun _ _ h => h) (fun _ _ => trivial) ?_
  -- one turn for each version, with its rows of the index
  rintro _ _ ⟨turns, rfl, rfl, h_turns⟩
  refine guarded_call (fun _ => trivial) trivial fun _ => guarded_pure ?_
  simp only [Bool.and_eq_true, decide_eq_true_eq] at h_owned
  obtain ⟨rfl, h_tags⟩ := h_owned
  obtain rfl : exists_ = false := by simpa using h_new
  exact ⟨asked, key, tags, pages, turns, by simp, h_dormant, h_key, h_tags, rfl, h_turns⟩

/-! ### The retirement -/

/-- The stages that a program adds, wherever it is run. -/
theorem passes_after {α : Type} {Allowed : History → Question → Prop} {before : History}
    {stages later : List (History → Prop)} {Allowed' : History → Question → Prop}
    {x : Controller α} (h_before : Passes stages before)
    (h : x.Guarded Allowed' (fun _ => Passes later) (fun _ => True) [])
    (h_allowed : ∀ stretch q, Allowed' stretch q → Allowed (before ++ stretch) q) :
    x.Guarded Allowed (fun _ => Passes (stages ++ later)) (fun _ => True) before :=
  h.after h_allowed (fun _ _ h_later => h_before.append h_later) fun _ _ => trivial

variable {before : History}

/-- The stop goes behind the archive, and the second listing behind the stop. -/
theorem quiesce_quiet (h : Passes [Stored sha256 m known versions] before) :
    (quiesce versions).Guarded (Grounds sha256 m known)
      (fun _ => Passes (quiet sha256 m known versions)) (fun _ => True) before := by
  -- its own stretch, from the empty history on
  have h_own : (quiesce versions).Guarded
      (fun _ q => q = .deleteSchedule ∨ (∃ member, q = .stopFunction member) ∨ q = .sleep ∨
        q = .listObjectVersions)
      (fun _ => Passes [Stopped, Unchanged versions]) (fun _ => True) [] := by
    refine guarded_call (.inl rfl) trivial fun _ => ?_
    refine guarded_call (.inr (.inl ⟨_, rfl⟩)) trivial fun _ => ?_
    refine guarded_call (.inr (.inl ⟨_, rfl⟩)) trivial fun _ => ?_
    refine guarded_call (.inr (.inr (.inl rfl))) trivial fun _ => ?_
    refine guarded_call (.inr (.inr (.inr rfl))) trivial fun pages => ?_
    refine guarded_lastCheck trivial fun h_same => ?_
    simp only [Bool.and_eq_true, List.all_eq_true, List.contains_iff_mem] at h_same
    have h_stopped : Passes [Stopped] [(⟨.deleteSchedule, some ()⟩ : Exchange),
        ⟨.stopFunction .watchdog, some ()⟩, ⟨.stopFunction .checker, some ()⟩, ⟨.sleep, some ()⟩] :=
      passes_one rfl
    exact h_stopped.concat ⟨pages, rfl, fun name => ⟨h_same.1 name, h_same.2 name⟩⟩
  refine passes_after h h_own ?_
  -- only the first two change something, and the archive is behind them
  rintro stretch _ (rfl | ⟨member, rfl⟩ | rfl | rfl)
  · exact ⟨versions, h.extend stretch⟩
  · exact ⟨versions, h.extend stretch⟩
  · trivial
  · trivial

/-- The versions go behind all of that, a thousand at a time. -/
theorem deleteVersions_deleted (h : Passes (quiet sha256 m known versions) before) :
    (each deleteVersions (slices 1000 (versions.map Version.name))).Guarded (Grounds sha256 m known)
      (fun _ => Passes (quiet sha256 m known versions ++ [Deleted versions])) (fun _ => True)
      before := by
  have h_slices := flatten_slices (by decide : 0 < 1000) (versions.map Version.name)
  -- the invariant is the list of the requests so far, each without an error
  have h_own : (each deleteVersions (slices 1000 (versions.map Version.name))).Guarded
      (fun _ q => ∃ objects ⊆ versions.map Version.name, q = .deleteObjects objects)
      (fun _ => Passes [Deleted versions]) (fun _ => True) [] := by
    refine (guarded_each (I := fun made stretch => stretch = made.map fun objects =>
      ⟨.deleteObjects objects, some []⟩) rfl ?_).imp (fun _ _ h => h) ?_ fun _ h => h
    · rintro made objects rest _ h_items rfl
      refine guarded_call ⟨objects, fun name h_name => ?_, rfl⟩ trivial fun errors => ?_
      -- a request takes its objects from the listed versions
      · rw [← h_slices, h_items, List.mem_flatten]
        exact ⟨objects, by simp, h_name⟩
      refine guarded_lastCheck trivial fun h_errors => ?_
      rw [of_decide_eq_true h_errors, List.map_append]
      rfl
    · rintro _ _ rfl
      exact passes_one ⟨_, h_slices, rfl⟩
  refine passes_after h h_own ?_
  rintro stretch _ ⟨objects, h_objects, rfl⟩
  exact ⟨versions, h.extend stretch, h_objects⟩

/-- Then the bucket goes. -/
theorem emptyBucket_emptied (h : Passes (quiet sha256 m known versions) before) :
    (emptyBucket versions).Guarded (Grounds sha256 m known)
      (fun _ => Passes (emptied sha256 m known versions)) (fun _ => True) before := by
  refine (deleteVersions_deleted h).bind fun _ before h_deleted => ?_
  refine guarded_call trivial trivial fun uploads => ?_
  -- the uploads that were left open
  refine (guarded_each (I := fun _ => Passes (quiet sha256 m known versions ++ [Deleted versions]))
    (h_deleted.extend _) fun _ _ _ _ _ h => ?_).bind fun _ before h_aborted => ?_
  · exact guarded_perform ⟨versions, h⟩ trivial fun _ => h.extend _
  · exact guarded_perform ⟨versions, h_aborted⟩ trivial fun _ => by
      simpa [emptied] using h_aborted.concat (told .deleteBucket ())

/-- The stages after the bucket is gone. -/
abbrev gone (sha256 : Bytes → String) (m : Manifest) (known : List Entry) (versions : List Version)
    (later : List (History → Prop)) : List (History → Prop) :=
  emptied sha256 m known versions ++ later

variable {later : List (History → Prop)}

/-- A function and its logs go behind the bucket. -/
theorem deleteMember_without (member : Member)
    (h : Passes (gone sha256 m known versions later) before) :
    (deleteMember member).Guarded (Grounds sha256 m known)
      (fun _ => Passes (gone sha256 m known versions (later ++ [Without member]))) (fun _ => True)
      before := by
  have h_own : (deleteMember member).Guarded
      (fun _ q => q = .deleteFunction member ∨ q = .deleteLogGroup member)
      (fun _ => Passes [Without member]) (fun _ => True) [] := by
    refine guarded_call (.inl rfl) trivial fun _ => ?_
    exact guarded_perform (.inr rfl) trivial fun _ => passes_one rfl
  rw [gone, ← List.append_assoc]
  refine passes_after h h_own ?_
  rintro stretch _ (rfl | rfl)
  · exact ⟨versions, h.left.extend stretch⟩
  · exact ⟨versions, h.left.extend stretch⟩

/-- So does a role. -/
theorem deleteRole_unroled (name : String)
    (h : Passes (gone sha256 m known versions later) before) :
    (deleteRole m name).Guarded (Grounds sha256 m known)
      (fun _ => Passes (gone sha256 m known versions (later ++ [Unroled m name]))) (fun _ => True)
      before := by
  have h_own : (deleteRole m name).Guarded
      (fun stretch q => Reading sha256 m known q ∨ ∃ role, Passes [Owned m role] stretch ∧
        (q = .deleteRole role ∨ ∃ policy, q = .deleteRolePolicy role policy))
      (fun _ => Passes [Unroled m name]) (fun _ => True) [] := by
    refine guarded_call (.inl fun _ => trivial) trivial fun role => ?_
    -- the path of the role is that of this guard
    refine guarded_check trivial fun h_path => ?_
    obtain ⟨role, path⟩ := role
    obtain rfl : path = _ := of_decide_eq_true h_path
    have h_owned : Passes [Owned m role] [(⟨.getRole (m.tag ++ "-" ++ name),
        some ⟨role, "/csa-native-guard/" ++ m.run ++ "/"⟩⟩ : Exchange)] := passes_one ⟨name, rfl⟩
    refine guarded_call (.inl fun _ => trivial) trivial fun policies => ?_
    refine (guarded_each (I := fun made stretch => stretch =
      [⟨.getRole (m.tag ++ "-" ++ name), some ⟨role, "/csa-native-guard/" ++ m.run ++ "/"⟩⟩,
        ⟨.listRolePolicies role, some policies⟩] ++
        made.map fun policy => ⟨.deleteRolePolicy role policy, some ()⟩) rfl ?_).bind ?_
    · rintro made policy rest _ - rfl
      have h_behind := h_owned.extend (⟨.listRolePolicies role, some policies⟩ ::
        made.map fun policy => ⟨.deleteRolePolicy role policy, some ()⟩)
      exact guarded_perform (.inr ⟨role, h_behind, .inr ⟨policy, rfl⟩⟩) trivial fun _ => by simp
    · rintro _ _ rfl
      have h_behind := h_owned.extend (⟨.listRolePolicies role, some policies⟩ ::
        policies.flatten.map fun policy => ⟨.deleteRolePolicy role policy, some ()⟩)
      exact guarded_perform (.inr ⟨role, h_behind, .inl rfl⟩) trivial fun _ =>
        passes_one ⟨role, policies, rfl⟩
  rw [gone, ← List.append_assoc]
  refine passes_after h h_own ?_
  -- each deletion is of the role whose path was checked
  rintro stretch _ (h_reading | ⟨role, h_owned, rfl | ⟨policy, rfl⟩⟩)
  · exact h_reading _
  · exact ⟨versions, h.left.append h_owned⟩
  · exact ⟨versions, h.left.append h_owned⟩

/-- The invariant of the loops over what is left of the guard. -/
theorem each_gone {α : Type} {items : List α} {body : α → Controller Unit}
    {Stage : α → History → Prop} (h : Passes (gone sha256 m known versions later) before)
    (h_body : ∀ item later before, Passes (gone sha256 m known versions later) before →
      (body item).Guarded (Grounds sha256 m known)
        (fun _ => Passes (gone sha256 m known versions (later ++ [Stage item]))) (fun _ => True)
        before) :
    (each body items).Guarded (Grounds sha256 m known)
      (fun _ => Passes (gone sha256 m known versions (later ++ items.map Stage))) (fun _ => True)
      before := by
  refine guarded_each
    (I := fun made => Passes (gone sha256 m known versions (later ++ made.map Stage)))
    (by simpa using h) fun made item rest history _ h_made => ?_
  -- one more stage behind those of the turns so far
  rw [List.map_append, ← List.append_assoc]
  exact h_body item _ history h_made

/-- All of the guard but its key goes, in this order. -/
theorem dismantle_retired (h : Passes (emptied sha256 m known versions) before) :
    (dismantle m).Guarded (Grounds sha256 m known)
      (fun _ => Passes (retired sha256 m known versions)) (fun _ => True) before := by
  have h_emptied : Passes (gone sha256 m known versions []) before := by rwa [gone, List.append_nil]
  refine (each_gone h_emptied fun member _ _ => deleteMember_without member).bind
    fun _ before h_members => ?_
  refine guarded_call trivial trivial fun url => ?_
  refine guarded_call ⟨versions, h_members.left.append (passes_one rfl)⟩ trivial fun _ => ?_
  refine guarded_call ⟨versions, (h_members.left.extend _).extend _⟩ trivial fun _ => ?_
  -- the members and the queue with the alarms are gone, the roles are next
  have h_alarms : Passes (gone sha256 m known versions ([Without .watchdog, Without .checker] ++
      [Unqueued, Told .deleteAlarms ()])) (before ++ [⟨.getQueueUrl, some url⟩] ++
        [⟨.deleteQueue url, some ()⟩] ++ [⟨.deleteAlarms, some ()⟩]) := by
    have h_queue : Passes [Unqueued] [(⟨.getQueueUrl, some url⟩ : Exchange),
        ⟨.deleteQueue url, some ()⟩] := passes_one ⟨url, rfl⟩
    simpa [gone] using (h_members.append h_queue).concat (told .deleteAlarms ())
  refine (each_gone h_alarms fun name _ _ => deleteRole_unroled name).imp (fun _ _ h => h) ?_
    fun _ h => h
  exact fun _ _ h => h

/-- The rule of the whole of `finalize`. -/
theorem finalize_grounds : (finalize sha256 m known).Guarded (Grounds sha256 m known)
    (fun at_ after => ∃ versions key, m.guardKey = some key ∧
      Passes (retired sha256 m known versions ++
        [Told (.scheduleKeyDeletion key) (), Told .now at_]) after) (fun _ => True) [] := by
  refine archive_stored.andThen (fun _ _ h => h _) (fun _ _ => trivial)
    fun versions stretch h_stored => ?_
  refine (quiesce_quiet (passes_one h_stored)).bind fun _ before h_quiet => ?_
  refine (emptyBucket_emptied h_quiet).bind fun _ before h_emptied => ?_
  refine (dismantle_retired h_emptied).bind fun _ before h_retired => ?_
  refine guarded_ofOption trivial fun key h_key => ?_
  refine guarded_call ⟨h_key, versions, h_retired⟩ trivial fun _ => ?_
  refine guarded_lastCall trivial trivial fun at_ => ⟨versions, key, h_key, ?_⟩
  have h_end := (h_retired.concat (told (.scheduleKeyDeletion key) ())).concat
    (told .now at_)
  rwa [List.append_assoc] at h_end

/-- **A guard is retired in order, and nothing it has stored is lost**, whatever is answered. -/
theorem finalize_archived (sha256 : Bytes → String) (m : Manifest) (known : List Entry)
    (env : Environment) : Retires sha256 m known ((finalize sha256 m known).outcome env []) := by
  obtain ⟨-, h_grounds, h_returned, -⟩ := finalize_grounds.outcome env (Prod.eta _).symm
  refine ⟨fun before exchange => h_grounds before exchange List.nil_prefix, ?_, h_returned⟩
  intro before objects answer h_before name h_name
  obtain ⟨versions, h_quiet, h_objects⟩ := h_grounds before _ List.nil_prefix h_before
  obtain ⟨stretch, h_infix, h_stored⟩ := h_quiet.exists_infix List.mem_cons_self
  exact h_stored.kept h_infix (h_objects h_name)

end ControlPlane.Finalization
