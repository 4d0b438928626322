import ControlPlane.Model.Release
import Mathlib.Data.List.Forall2
import Mathlib.Data.List.Induction

/-!
# A release resumes fail-closed

`resume` asks for a nonzero count of a service only behind the evidence of the same call: the
approved task revisions, a drained cluster, a verifier that exited with 0 and the drained cluster
again, and behind the services that come before it, each stable on its revision (`Ready`). If it
raises after such a request, `quiesce` has run (`Quiesced`).

What an approved task, an idle service and a task that has succeeded look like is said first
(`Approved`, `Idle`, `Succeeded`). The stretches of exchanges are named after that (`Validated`,
`Drained`, `Verified`, `Open`). Each function adds its stretch, whatever ECS answers, and
`resume_guarded` puts them together.
-/

namespace ControlPlane.Release

open Framework
open Dialogue (Guarded Replies each guarded_call guarded_lastCall guarded_check guarded_lastCheck
  guarded_ofOption guarded_each guarded_pure guarded_raise)

/-! ### The checks -/

/-- The service wants no task and has none. -/
structure Idle (state : ServiceState) : Prop where
  desired : state.desiredCount = 0
  running : state.runningCount = 0
  pending : state.pendingCount = 0

/-- `idle` checks exactly this. -/
theorem idle_iff {state : ServiceState} : idle state = true ↔ Idle state := by
  simp only [idle, Bool.and_eq_true, decide_eq_true_eq]
  exact ⟨fun ⟨⟨h_desired, h_running⟩, h_pending⟩ => ⟨h_desired, h_running, h_pending⟩,
    fun h => ⟨⟨h.desired, h.running⟩, h.pending⟩⟩

/-- The task that was launched has stopped, it was of the revision, and its one container has
exited with 0. -/
structure Succeeded (definition arn : String) (task : TaskState) : Prop where
  launched : task.taskArn = some arn
  stopped : task.lastStatus = some "STOPPED"
  definition : task.taskDefinitionArn = some definition
  exit : task.containers = [some 0]

/-- `succeeded` checks exactly this. -/
theorem succeeded_iff {definition arn : String} {task : TaskState} :
    succeeded definition arn task = true ↔ Succeeded definition arn task := by
  simp only [succeeded, Bool.and_eq_true, decide_eq_true_eq]
  exact ⟨fun ⟨⟨⟨h_launched, h_stopped⟩, h_definition⟩, h_exit⟩ =>
      ⟨h_launched, h_stopped, h_definition, h_exit⟩,
    fun h => ⟨⟨⟨h.launched, h.stopped⟩, h.definition⟩, h.exit⟩⟩

/-- The last variable of a list is the last one put into the dict. -/
theorem env_concat (environment : List (String × String)) (v : String × String) :
    env (environment ++ [v]) = (env environment).insert v.1 v.2 := List.foldl_concat ..

/-- The dict has the names of the list. -/
theorem mem_env_keys {environment : List (String × String)} {name : String} :
    name ∈ (env environment).keys ↔ name ∈ environment.map Prod.fst := by
  induction environment using List.reverseRecOn with
  | nil => exact iff_of_false List.not_mem_nil List.not_mem_nil
  | append_singleton environment v ih =>
    rw [env_concat, ← AList.mem_keys, AList.mem_insert, AList.mem_keys, ih, List.map_append,
      List.mem_append, or_comm]
    simp

/-- The check that no variable is there twice. -/
theorem env_length {environment : List (String × String)} :
    (env environment).keys.length = environment.length ↔
      (environment.map Prod.fst).Nodup := by
  have h_perm : (env environment).keys.Perm (environment.map Prod.fst).dedup :=
    (List.perm_ext_iff_of_nodup (AList.keys_nodup _) (List.nodup_dedup _)).mpr fun name => by
      rw [mem_env_keys, List.mem_dedup]
  have h_map : (environment.map Prod.fst).length = environment.length := List.length_map _
  rw [h_perm.length_eq, ← h_map]
  constructor
  · intro h_length
    exact ((List.dedup_sublist _).eq_of_length h_length) ▸ List.nodup_dedup _
  · intro h_nodup
    rw [h_nodup.dedup]

/-- Where no variable is there twice, the dict has the values of the list. -/
theorem env_lookup {environment : List (String × String)} {name value : String}
    (h_nodup : (environment.map Prod.fst).Nodup) :
    (env environment).lookup name = some value ↔ (name, value) ∈ environment := by
  induction environment using List.reverseRecOn with
  | nil => exact iff_of_false nofun List.not_mem_nil
  | append_singleton environment v ih =>
    obtain ⟨name', value'⟩ := v
    rw [List.map_append, List.nodup_append] at h_nodup
    rw [env_concat, Table.lookup_insert, List.mem_append, List.mem_singleton, Prod.mk.injEq]
    split
    next h_name =>
      -- the variable is not there before
      subst h_name
      have h_new : (name, value) ∉ environment := fun h_mem =>
        h_nodup.2.2 name (List.mem_map_of_mem h_mem) name (List.mem_singleton_self _) rfl
      simp [h_new, eq_comm]
    next h_name => simp [ih h_nodup.1, h_name]

/-- The task runs the image and the commit of the manifest as what it is named, and holds no
credential. -/
structure ApprovedContainer (m : Manifest) (name : String) (container : Container) : Prop where
  image : container.image = m.image
  commit : ("SOURCE_COMMIT", m.commit) ∈ container.environment
  command : container.command = ["python", "-m", "controlplane.cloud", name]
  entryPoint : container.entryPoint = []
  clean : ∀ v ∈ container.environment, v.1 ∉ forbidden
  secrets : container.secrets = []
  /-- No variable is there twice. -/
  nodup : (container.environment.map Prod.fst).Nodup

/-- `approvedContainer` checks exactly this. -/
theorem approvedContainer_iff {m : Manifest} {name : String} {container : Container} :
    approvedContainer m name container = true ↔ ApprovedContainer m name container := by
  simp only [approvedContainer, Bool.and_eq_true, decide_eq_true_eq, Bool.not_eq_true',
    List.any_eq_false, List.contains_iff_mem, List.isEmpty_iff, env_length, mem_env_keys]
  constructor
  · rintro ⟨⟨⟨⟨⟨⟨h_image, h_commit⟩, h_command⟩, h_entry⟩, h_clean⟩, h_secrets⟩, h_nodup⟩
    refine ⟨h_image, (env_lookup h_nodup).mp h_commit, h_command, h_entry, ?_, h_secrets, h_nodup⟩
    exact fun v h_v h_forbidden => h_clean v.1 h_forbidden (List.mem_map_of_mem h_v)
  · intro h
    refine ⟨⟨⟨⟨⟨⟨h.image, (env_lookup h.nodup).mpr h.commit⟩, h.command⟩, h.entryPoint⟩, ?_⟩,
      h.secrets⟩, h.nodup⟩
    rintro name h_forbidden h_mem
    obtain ⟨v, h_v, rfl⟩ := List.mem_map.mp h_mem
    exact h.clean v h_v h_forbidden

/-- The task has one container, which is approved, and was not deregistered. -/
def Approved (m : Manifest) (name : String) (task : TaskDefinition) : Prop :=
  ∃ container, task.containerDefinitions = [container] ∧ ApprovedContainer m name container ∧
    (task.status = none ∨ task.status = some "ACTIVE")

/-- `approved` checks exactly this. -/
theorem approved_iff {m : Manifest} {name : String} {task : TaskDefinition} :
    approved m name task = true ↔ Approved m name task := by
  unfold approved
  split
  next container h_containers =>
    have h_status : task.status.getD "ACTIVE" = "ACTIVE" ↔
        task.status = none ∨ task.status = some "ACTIVE" := by
      cases task.status with
      | none => simp
      | some status => simp
    simp [Approved, h_containers, approvedContainer_iff, h_status]
  next h_none =>
    refine iff_of_false nofun ?_
    rintro ⟨container, h_containers, -⟩
    exact h_none container h_containers

/-! ### The stretches -/

/-- The question asks for a count other than 0. -/
def Question.opens : Question → Prop
  | updateService _ _ desiredCount => desiredCount ≠ 0
  | _ => False

/-- Every task revision was described, and is approved. -/
def Validated (m : Manifest) : History → Prop :=
  List.Forall₂ (fun (entry : Sigma fun _ : String => String) exchange =>
    ∃ task : TaskDefinition, exchange = ⟨.describeTaskDefinition entry.2, some task⟩ ∧
      Approved m entry.1 task) m.tasks.entries

/-- All services were described, without a failure. -/
def Established (m : Manifest) (states : List ServiceState) (stretch : History) : Prop :=
  stretch = [⟨.describeServices m.serviceNames, some ⟨states, false⟩⟩] ∧
    states.length = m.services.entries.length

/-- No service has or wants a task, and no other task runs. -/
def Drained (m : Manifest) (stretch : History) : Prop :=
  ∃ states described pages, Established m states described ∧ (∀ state ∈ states, Idle state) ∧
    (∀ page ∈ pages, page = []) ∧ stretch = described ++ [⟨.listTasks, some pages⟩]

/-- A verifier of the exact revision was launched, and stopped with exit code 0. -/
def Verified (m : Manifest) (arn : String) (stretch : History) : Prop :=
  ∃ definition group task, m.task .verifier = some definition ∧
    m.groups.lookup Name.verifier.text = some group ∧ Succeeded definition arn task ∧
    stretch = [⟨.runTask definition m.subnets group, some ⟨[arn], false⟩⟩,
      ⟨.waitStopped arn, some ()⟩, ⟨.describeTasks arn, some ⟨[task], false⟩⟩]

/-- A service was opened, became stable and then had the requested revision. -/
def Open (m : Manifest) (name : Name) (stretch : History) : Prop :=
  ∃ service definition desiredCount states current described,
    m.service name = some service ∧ m.task name = some definition ∧
    m.desiredCount name = some desiredCount ∧ Established m states described ∧
    states.find? (·.serviceName = service) = some current ∧ current.taskDefinition = definition ∧
    stretch = ⟨.updateService service (some definition) desiredCount, some ()⟩ ::
      ⟨.waitStable [service], some ()⟩ :: described

/-- The history of a `resume` that has passed its checks and has opened these services. -/
def Ready (m : Manifest) (arn : String) (opened : List Name) (history : History) : Prop :=
  ∃ validated drained verified again stretches, Validated m validated ∧ Drained m drained ∧
    Verified m arn verified ∧ Drained m again ∧ List.Forall₂ (Open m) opened stretches ∧
    history = validated ++ drained ++ verified ++ again ++ stretches.flatten

/-- No service was asked to open. -/
def Quiet (history : History) : Prop := ∀ exchange ∈ history, ¬ exchange.1.opens

/-- A service was asked to shut down, and the call succeeded. -/
def Closes (m : Manifest) (name : Name) (stretch : History) : Prop :=
  ∃ service, m.service name = some service ∧ ⟨.updateService service none 0, some ()⟩ ∈ stretch

/-- `quiesce` has begun, with the API. -/
def Begun (m : Manifest) (stretch : History) : Prop :=
  ∃ service answer rest, m.service .api = some service ∧
    stretch = ⟨.updateService service none 0, answer⟩ :: rest

/-- Every update of the stretch succeeded. -/
def Updated (stretch : History) : Prop :=
  ∀ service definition count, (⟨.updateService service definition count, none⟩ : Exchange) ∉ stretch

/-- What `quiesce` adds, wherever it stops. -/
structure Quiesced (m : Manifest) (stretch : History) : Prop where
  begun : Begun m stretch
  quiet : Quiet stretch
  closes : Updated stretch → ∀ name ∈ expected, Closes m name stretch

/-! ### What each function adds -/

variable {m : Manifest}

/-- A program that asks for no service to be opened, with what it adds. -/
abbrev Harmless {α : Type} (Post : α → History → Prop) (x : Controller α) : Prop :=
  x.Guarded (fun _ q => ¬ q.opens) Post (fun _ => True) []

/-- `validate_tasks` passes only when every revision is approved. -/
theorem validateTasks_adds : Harmless (fun _ => Validated m) (validateTasks m) := by
  refine guarded_each (I := List.Forall₂ _) .nil ?_
  intro made entry rest history _ h_made
  refine guarded_call (fun h => h) trivial fun task => ?_
  refine guarded_lastCheck trivial fun h_approved => ?_
  exact List.rel_append h_made (.cons ⟨task, rfl, approved_iff.mp h_approved⟩ .nil)

/-- `services` returns the states of all services of the manifest. -/
theorem services_adds : Harmless (Established m) (services m) := by
  refine guarded_call (fun h => h) trivial fun result => ?_
  refine guarded_check trivial fun h_test => ?_
  obtain ⟨states, failures⟩ := result
  obtain ⟨h_failures, h_length⟩ : failures = false ∧ states.length = m.services.entries.length := by
    simpa using h_test
  subst h_failures
  exact guarded_pure ⟨rfl, h_length⟩

/-- `assert_drained` passes only on a drained cluster. -/
theorem assertDrained_adds : Harmless (fun _ => Drained m) (assertDrained m) := by
  refine services_adds.andThen (fun _ _ h => h) (fun _ _ => trivial)
    fun states described h_states => ?_
  refine guarded_check trivial fun h_idle => ?_
  refine guarded_call (fun h => h) trivial fun pages => ?_
  refine guarded_lastCheck trivial fun h_empty => ?_
  refine ⟨states, described, pages, h_states, fun state h_state => ?_, fun page h_page => ?_, rfl⟩
  · exact idle_iff.mp (List.all_eq_true.mp h_idle state h_state)
  · exact List.isEmpty_iff.mp (List.all_eq_true.mp h_empty page h_page)

/-- A wait that returns is one call; one that fails stops the task and raises. -/
theorem awaitStopped_adds (arn : String) :
    Harmless (fun _ stretch => stretch = [⟨.waitStopped arn, some ()⟩]) (awaitStopped arn) := by
  refine Guarded.rescue (M := fun _ => True) ?_ fun history _ => ?_
  · exact guarded_lastCall (q := Question.waitStopped arn) (fun h => h) trivial fun _ => rfl
  -- whatever the attempt to stop the task does, the failure is raised again
  · refine Guarded.bind (M := fun _ _ => True) ?_ fun _ _ _ => guarded_raise trivial
    refine Guarded.rescue (M := fun _ => True) ?_ fun _ _ => guarded_raise trivial
    exact guarded_lastCall (q := Question.stopTask arn) (fun h => h) trivial fun _ => trivial

/-- The proof returned is the task that was launched, which has succeeded. -/
theorem finish_adds (definition arn : String) :
    Harmless (fun proof stretch => proof = arn ∧ ∃ task, Succeeded definition arn task ∧
      stretch = [⟨.waitStopped arn, some ()⟩, ⟨.describeTasks arn, some ⟨[task], false⟩⟩])
      (finish definition arn) := by
  refine (awaitStopped_adds arn).andThen (fun _ _ h => h) (fun _ _ => trivial) ?_
  rintro _ _ rfl
  refine guarded_call (fun h => h) trivial fun response => ?_
  split
  next task =>
    refine guarded_check trivial fun h_succeeded => ?_
    exact guarded_pure ⟨rfl, task, succeeded_iff.mp h_succeeded, rfl⟩
  next => exact guarded_raise trivial

/-- `utility` returns the proof of a verifier that ran on the exact revision. -/
theorem utility_adds : Harmless (Verified m) (utility m .verifier) := by
  refine guarded_ofOption trivial fun definition h_definition => ?_
  refine guarded_ofOption trivial fun group h_group => ?_
  refine guarded_call (fun h => h) trivial fun result => ?_
  split
  next arn =>
    refine (finish_adds definition arn).after (fun _ _ h => h) ?_ fun _ _ => trivial
    rintro _ _ ⟨rfl, task, h_succeeded, rfl⟩
    exact ⟨definition, group, task, h_definition, h_group, h_succeeded, rfl⟩
  next tasks _ _ =>
    refine Guarded.bind (M := fun _ _ => True) ?_ fun _ _ _ => guarded_raise trivial
    refine guarded_each (I := fun _ _ => True) trivial fun _ arn _ _ _ _ => ?_
    exact guarded_lastCall (q := Question.stopTask arn) (fun h => h) trivial fun _ => trivial

/-! ### Opening -/

/-- A service is opened as the manifest says, and first of all. -/
def Opens (m : Manifest) (name : Name) (before : History) (q : Question) : Prop :=
  before = [] ∧ ∃ service definition desiredCount, m.service name = some service ∧
    m.task name = some definition ∧ m.desiredCount name = some desiredCount ∧
    q = .updateService service (some definition) desiredCount

/-- A service is opened by its first question, and is open when `openService` returns. -/
theorem openService_adds (name : Name) :
    (openService m name).Guarded (fun before q => q.opens → Opens m name before q)
      (fun _ => Open m name) (fun _ => True) [] := by
  refine guarded_ofOption trivial fun service h_service => ?_
  refine guarded_ofOption trivial fun definition h_definition => ?_
  refine guarded_ofOption trivial fun desiredCount h_count => ?_
  -- the request itself, before any other exchange
  refine guarded_call (fun _ => ?_) trivial fun _ => ?_
  · exact ⟨rfl, service, definition, desiredCount, h_service, h_definition, h_count, rfl⟩
  refine guarded_call (fun h => h.elim) trivial fun _ => ?_
  refine services_adds.andThen (fun _ q h h_opens => absurd h_opens h) (fun _ _ => trivial) ?_
  intro states described h_states
  refine guarded_ofOption trivial fun current h_current => ?_
  refine guarded_lastCheck trivial fun h_revision => ?_
  exact ⟨service, definition, desiredCount, states, current, described, h_service, h_definition,
    h_count, h_states, h_current, of_decide_eq_true h_revision, rfl⟩

/-- One more service is open. -/
theorem Ready.concat {arn : String} {opened : List Name} {name : Name} {history stretch : History}
    (h : Ready m arn opened history) (h_open : Open m name stretch) :
    Ready m arn (opened ++ [name]) (history ++ stretch) := by
  obtain ⟨validated, drained, verified, again, stretches, h₁, h₂, h₃, h₄, h_opened, rfl⟩ := h
  refine ⟨validated, drained, verified, again, stretches ++ [stretch], h₁, h₂, h₃, h₄,
    List.rel_append h_opened (.cons h_open .nil), ?_⟩
  simp [List.append_assoc]

/-! ### Closing -/

/-- What a harmless program adds opens nothing, wherever it stops. -/
theorem Harmless.quiet {α : Type} {Post : α → History → Prop} {x : Controller α}
    (h : Harmless Post x) : x.Guarded (fun _ q => ¬ q.opens)
      (fun result stretch => Post result stretch ∧ Quiet stretch) Quiet [] := by
  -- the invariant is that the stretch so far is quiet
  refine (h.keeps (I := Quiet) (fun _ h_none => absurd h_none List.not_mem_nil) ?_).imp
    (fun _ _ h => h) (fun _ _ h => h) fun _ h => h.2
  intro history q answer h_q h_quiet
  refine List.forall_mem_append.mpr ⟨h_quiet, ?_⟩
  rintro _ (_ | ⟨_, ⟨⟩⟩)
  exact h_q

/-- A name that is expected is a key of the table. -/
theorem keys_of_sameNames {keys : List String} {names : List Name} (h : sameNames keys names = true)
    {name : Name} (h_name : name ∈ names) : name.text ∈ keys := by
  have h_all := List.all_eq_true.mp ((Bool.and_eq_true _ _).mp h).2
  simpa using h_all name.text (List.mem_map_of_mem h_name)

/-- A value under every name. -/
theorem lookup_of_sameNames {ρ : Type} {t : Table String ρ} {names : List Name}
    (h : sameNames t.keys names = true) {name : Name} (h_name : name ∈ names) :
    ∃ value, t.lookup name.text = some value :=
  Option.isSome_iff_exists.mp (AList.lookup_isSome.mpr (keys_of_sameNames h h_name))

/-- A validated manifest names the expected services, with a natural number of replicas each. -/
theorem validateManifest_ok (h : validateManifest m = .ok ()) :
    sameNames m.services.keys expected = true ∧ sameNames m.replicas.keys expected = true ∧
      ∀ entry ∈ m.replicas.entries, isCount entry.2 = true := by
  unfold validateManifest at h
  split_ifs at h with _ _ h_services _ h_replicas _
  simp only [Bool.not_eq_true', Bool.not_eq_false, Bool.and_eq_true] at h_services
  refine ⟨h_services.1, h_services.2, fun entry h_entry => ?_⟩
  by_contra h_count
  exact h_replicas (List.any_eq_true.mpr ⟨entry, h_entry, by simpa using h_count⟩)

/-- Every expected service is in a validated manifest. -/
theorem service_of_validated (h : validateManifest m = .ok ()) {name : Name}
    (h_name : name ∈ expected) : ∃ service, m.service name = some service :=
  lookup_of_sameNames (validateManifest_ok h).1 h_name

/-- The turns of the loop in `quiesce` that were made. -/
structure Closed (m : Manifest) (made : List Name) (stretch : History) : Prop where
  begun : made ≠ [] → Begun m stretch
  fresh : made = [] → stretch = []
  quiet : Quiet stretch
  closes : ∀ name ∈ made, Closes m name stretch

/-- The order in which `quiesce` closes the services. -/
abbrev closing : List Name := [.api, .worker, .remote, .observer]

/-- What has begun has begun, whatever follows. -/
theorem Begun.append {stretch : History} (h : Begun m stretch) (rest : History) :
    Begun m (stretch ++ rest) := by
  obtain ⟨service, answer, later, h_service, rfl⟩ := h
  exact ⟨service, answer, later ++ rest, h_service, rfl⟩

/-- A service that was shut down was shut down, whatever follows. -/
theorem Closes.append {name : Name} {stretch : History} (h : Closes m name stretch)
    (rest : History) : Closes m name (stretch ++ rest) := by
  obtain ⟨service, h_service, h_mem⟩ := h
  exact ⟨service, h_service, List.mem_append_left rest h_mem⟩

/-- One more question that opens nothing. -/
theorem Quiet.concat {stretch : History} (h : Quiet stretch) {exchange : Exchange}
    (h_exchange : ¬ exchange.1.opens) : Quiet (stretch ++ [exchange]) :=
  List.forall_mem_append.mpr ⟨h, fun _ h_mem => List.mem_singleton.mp h_mem ▸ h_exchange⟩

section Turn

variable {made rest : List Name} {name : Name} {service : String} {stretch : History}

/-- The first turn closes the API. -/
theorem Closed.begins (h : Closed m made stretch) (h_split : closing = made ++ name :: rest)
    (h_service : m.service name = some service) (answer : Option Unit) :
    Begun m (stretch ++ [⟨.updateService service none 0, answer⟩]) := by
  cases made with
  | nil =>
    obtain ⟨rfl, -⟩ := List.cons.inj h_split
    rw [h.fresh rfl]
    exact ⟨service, answer, [], h_service, rfl⟩
  | cons first made => exact (h.begun (List.cons_ne_nil first made)).append _

/-- One more turn, whose call succeeded. -/
theorem Closed.concat (h : Closed m made stretch) (h_split : closing = made ++ name :: rest)
    (h_service : m.service name = some service) :
    Closed m (made ++ [name]) (stretch ++ [⟨.updateService service none 0, some ()⟩]) where
  begun _ := h.begins h_split h_service _
  fresh h_made := absurd h_made (List.concat_ne_nil _ _)
  quiet := h.quiet.concat fun h_opens => h_opens rfl
  closes := by
    refine List.forall_mem_append.mpr ⟨fun name h_name => (h.closes name h_name).append _, ?_⟩
    rintro _ h_mem
    obtain rfl := List.mem_singleton.mp h_mem
    exact ⟨service, h_service, List.mem_append_right stretch (List.mem_singleton_self _)⟩

/-- A turn in which the call failed is the end of `quiesce`. -/
theorem Closed.failed (h : Closed m made stretch) (h_split : closing = made ++ name :: rest)
    (h_service : m.service name = some service) :
    Quiesced m (stretch ++ [⟨.updateService service none 0, none⟩]) where
  begun := h.begins h_split h_service _
  quiet := h.quiet.concat fun h_opens => h_opens rfl
  closes h_updated := absurd (List.mem_append_right stretch (List.mem_singleton_self _))
    (h_updated service none 0)

/-- After the loop `quiesce` may stop anywhere. -/
theorem Closed.quiesced {later : History} (h : Closed m closing stretch) (h_later : Quiet later) :
    Quiesced m (stretch ++ later) where
  begun := (h.begun (List.cons_ne_nil _ _)).append later
  quiet := List.forall_mem_append.mpr ⟨h.quiet, h_later⟩
  closes _ name h_name := by
    have h_closing : ∀ name ∈ expected, name ∈ closing := by decide
    exact (h.closes name (h_closing name h_name)).append later

end Turn

/-- `quiesce` shuts all services down, the API first, and opens none, wherever it stops. -/
theorem quiesce_adds (h_valid : validateManifest m = .ok ()) :
    (quiesce m).Guarded (fun _ q => ¬ q.opens) (fun _ => Quiesced m) (Quiesced m) [] := by
  -- by the turns of the loop that were made; a turn that fails ends `quiesce`
  have h_loop : (each (close m) closing).Guarded (fun _ q => ¬ q.opens)
      (fun _ => Closed m closing) (Quiesced m) [] := by
    refine guarded_each ⟨fun h => absurd rfl h, fun _ => rfl, nofun, nofun⟩ ?_
    intro made name rest history h_split h_made
    have h_expected : ∀ name ∈ closing, name ∈ expected := by decide
    obtain ⟨service, h_service⟩ := service_of_validated h_valid
      (h_expected name (by simp [h_split]))
    unfold close
    rw [h_service]
    exact guarded_lastCall (q := Question.updateService service none 0) (fun h => h rfl)
      (h_made.failed h_split h_service) fun _ => h_made.concat h_split h_service
  refine h_loop.bind fun _ stretch h_closed => ?_
  -- behind the loop only questions that open nothing are left
  have h_wait (answer : Option Unit) : Quiet [⟨.waitStable m.serviceNames, answer⟩] := by
    rintro _ (_ | ⟨_, ⟨⟩⟩) h
    exact h
  refine guarded_call (fun h => h) (h_closed.quiesced (h_wait none)) fun _ => ?_
  refine assertDrained_adds.quiet.after (fun _ _ h => h) ?_ ?_
  · rintro _ later ⟨-, h_later⟩
    rw [List.append_assoc]
    exact h_closed.quiesced (List.forall_mem_append.mpr ⟨h_wait _, h_later⟩)
  · intro later h_later
    rw [List.append_assoc]
    exact h_closed.quiesced (List.forall_mem_append.mpr ⟨h_wait _, h_later⟩)

/-! ### The whole of `resume` -/

/-- A service is asked to open only as the manifest says, and only when the release is ready for
it: all services that come before it in the order are open. -/
def Permitted (m : Manifest) (before : History) (q : Question) : Prop :=
  q.opens → ∃ arn earlier name later service definition desiredCount,
    order = earlier ++ name :: later ∧ m.service name = some service ∧
    m.task name = some definition ∧ m.desiredCount name = some desiredCount ∧
    q = .updateService service (some definition) desiredCount ∧ Ready m arn earlier before

/-- Where `resume` raises, either no service was asked to open or `quiesce` has run. -/
def Ended (m : Manifest) (history : History) : Prop :=
  Quiet history ∨ ∃ before stretch, history = before ++ stretch ∧ Quiesced m stretch

/-- Services are opened in their order, each behind those that come before it. -/
theorem openAll_guarded {arn : String} {history : History} (h_ready : Ready m arn [] history) :
    (each (openService m) order).Guarded (Permitted m) (fun _ => Ready m arn order) (fun _ => True)
      history := by
  refine guarded_each (I := Ready m arn) h_ready ?_
  intro made name rest history h_split h_made
  refine (openService_adds name).after ?_ (fun _ stretch h_open => h_made.concat h_open)
    fun _ _ => trivial
  intro stretch q h_opens h_q
  obtain ⟨rfl, service, definition, desiredCount, h_service, h_definition, h_count, rfl⟩ :=
    h_opens h_q
  rw [List.append_nil]
  exact ⟨arn, made, name, rest, service, definition, desiredCount, h_split, h_service, h_definition,
    h_count, rfl, h_made⟩

/-- The rule of the whole of `resume`. -/
theorem resume_guarded (h_valid : validateManifest m = .ok ()) :
    (resume m).Guarded (Permitted m) (fun arn => Ready m arn order) (Ended m) [] := by
  refine validateTasks_adds.quiet.andThen (fun _ _ h h_opens => absurd h_opens h)
    (fun _ h => .inl h) ?_
  rintro _ validated ⟨h_validated, h_quiet₁⟩
  refine assertDrained_adds.quiet.andThen (fun _ _ h h_opens => absurd h_opens h)
    (fun _ h => .inl (List.forall_mem_append.mpr ⟨h_quiet₁, h⟩)) ?_
  rintro _ drained ⟨h_drained, h_quiet₂⟩
  -- each check leaves a quiet history, so raising there is harmless
  replace h_quiet₂ := List.forall_mem_append.mpr ⟨h_quiet₁, h_quiet₂⟩
  refine utility_adds.quiet.andThen (fun _ _ h h_opens => absurd h_opens h)
    (fun _ h => .inl (List.forall_mem_append.mpr ⟨h_quiet₂, h⟩)) ?_
  rintro arn verified ⟨h_verified, h_quiet₃⟩
  replace h_quiet₃ := List.forall_mem_append.mpr ⟨h_quiet₂, h_quiet₃⟩
  refine assertDrained_adds.quiet.andThen (fun _ _ h h_opens => absurd h_opens h)
    (fun _ h => .inl (List.forall_mem_append.mpr ⟨h_quiet₃, h⟩)) ?_
  rintro _ again ⟨h_again, -⟩
  -- the evidence, in the order in which it was gathered
  have h_ready : Ready m arn [] ([] ++ validated ++ drained ++ verified ++ again) :=
    ⟨validated, drained, verified, again, [], h_validated, h_drained, h_verified, h_again, .nil,
      by simp⟩
  refine Guarded.bind (M := fun _ => Ready m arn order) ?_ fun _ _ h => guarded_pure h
  refine (openAll_guarded h_ready).rescue fun history _ => ?_
  -- the handler of the loop: what comes behind it is a run of `quiesce`
  exact (quiesce_adds h_valid).andThen (fun _ _ h h_opens => absurd h_opens h)
    (fun stretch h => .inr ⟨history, stretch, rfl, h⟩)
    fun _ stretch h => guarded_raise (.inr ⟨history, stretch, rfl, h⟩)

/-! ### The counts that were requested -/

/-- The count that the exchange requests for the service, if it does. -/
def requested (service : String) (exchange : Exchange) : Option ℤ :=
  match exchange.1 with
  | .updateService other _ desiredCount => if other = service then some desiredCount else none
  | _ => none

/-- The last desired count requested for the service. -/
def lastRequested (service : String) (history : History) : Option ℤ :=
  (history.filterMap (requested service)).getLast?

/-- In a quiet stretch only 0 is requested, so a service that was shut down there is last asked for
0. -/
theorem lastRequested_of_closed {service : String} {before stretch : History}
    (h_quiet : Quiet stretch) (h_closed : ⟨.updateService service none 0, some ()⟩ ∈ stretch) :
    lastRequested service (before ++ stretch) = some 0 := by
  -- every count requested there is 0
  have h_zero : ∀ n ∈ stretch.filterMap (requested service), n = 0 := by
    intro n h_n
    obtain ⟨⟨q, answer⟩, h_mem, h_requested⟩ := List.mem_filterMap.mp h_n
    cases q with
    | updateService other definition desiredCount =>
      obtain ⟨-, h_count⟩ := Option.ite_none_right_eq_some.mp h_requested
      obtain rfl := Option.some.inj h_count
      exact not_not.mp (h_quiet _ h_mem)
    | describeTaskDefinition _ | describeServices _ | listTasks | waitStable _ | runTask _ _ _
    | stopTask _ | waitStopped _ | describeTasks _ => cases h_requested
  -- and there is one, the shut-down itself
  have h_mem : (0 : ℤ) ∈ stretch.filterMap (requested service) :=
    List.mem_filterMap.mpr ⟨_, h_closed, if_pos rfl⟩
  unfold lastRequested
  rw [List.filterMap_append, List.getLast?_append_of_ne_nil _ (List.ne_nil_of_mem h_mem)]
  obtain ⟨n, h_last⟩ := Option.isSome_iff_exists.mp
    (List.getLast?_isSome.mpr (List.ne_nil_of_mem h_mem))
  rw [h_last, h_zero n (List.mem_of_getLast? h_last)]

/-- What holds of a run of `resume` that has come to this history, and of how it ended. -/
structure FailsClosed (m : Manifest) (end_ : Dialogue.Outcome String) (history : History) :
    Prop where
  permitted : ∀ before q answer, before ++ [⟨q, answer⟩] <+: history → Permitted m before q
  returned : ∀ arn, end_ = .returned arn → Ready m arn order history
  raised : end_ = .raised → (∃ exchange ∈ history, exchange.1.opens) →
    ∃ before stretch, history = before ++ stretch ∧ Quiesced m stretch ∧ (Updated stretch →
      ∀ name ∈ expected, ∃ service, m.service name = some service ∧
        lastRequested service history = some 0)

/-- **Resumption fails closed**, whatever ECS answers. -/
theorem resume_failsClosed (release : Instance) (env : Environment) :
    FailsClosed release.m ((resume release.m).outcome env []).1
      ((resume release.m).outcome env []).2 := by
  obtain ⟨-, h_permitted, h_returned, h_raised⟩ :=
    (resume_guarded release.validated).outcome env (Prod.eta _).symm
  refine ⟨fun before q answer h => h_permitted before _ List.nil_prefix h, h_returned, ?_⟩
  rintro h_end ⟨exchange, h_mem, h_opens⟩
  -- a service was asked to open, so only the second case is left
  rcases h_raised h_end with h_quiet | ⟨before, stretch, h_history, h_quiesced⟩
  · exact absurd h_opens (h_quiet exchange h_mem)
  refine ⟨before, stretch, h_history, h_quiesced, fun h_updated name h_name => ?_⟩
  obtain ⟨service, h_service, h_closed⟩ := h_quiesced.closes h_updated name h_name
  rw [h_history]
  exact ⟨service, h_service, lastRequested_of_closed h_quiesced.quiet h_closed⟩

end ControlPlane.Release
