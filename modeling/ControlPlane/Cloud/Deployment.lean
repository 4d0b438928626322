import ControlPlane.Cloud.Resume
import ControlPlane.Framework.Embed
import ControlPlane.Framework.Fallible
import ControlPlane.Model.Deployment
import Mathlib.Data.List.Induction

/-!
# Release commands leave an account

Whatever ECS answers to the commands of the operators, a migration is launched only behind the
approved task revisions and all services shut, with the drained cluster (`Shut`), and a command
that is recorded as completed has made all its steps (`Whole`). A service is open after the last
command only under a command that was completed with a verifier of its own, unless a command was
cut short or ECS refused to update a service (`Accountable.serves`).

What a command adds is put together from the stretches of `Cloud.Resume`.
-/

namespace ControlPlane.Release

open Framework
open Dialogue (Guarded Only Outcome each guarded_call guarded_lastCall guarded_each guarded_ofOption
  guarded_pure only_call only_check only_each only_ofOption only_pure only_raise)

/-! ### The stretches of a command -/

/-- The cluster was shut: every service was asked to in turn, all were stable, and it
was drained. -/
def Shut (m : Manifest) (stretch : History) : Prop :=
  ∃ closed drained, List.Forall₂ (fun name exchange => ∃ service, m.service name = some service ∧
      exchange = ⟨.updateService service none 0, some ()⟩) closing closed ∧ Drained m drained ∧
    stretch = closed ++ [⟨.waitStable m.serviceNames, some ()⟩] ++ drained

/-- The utility was launched, and stopped with exit code 0. -/
def Ran (m : Manifest) (name : Name) (arn : String) (stretch : History) : Prop :=
  ∃ definition group task, m.task name = some definition ∧
    m.groups.lookup name.text = some group ∧ Succeeded definition arn task ∧
    stretch = [⟨.runTask definition m.subnets group, some ⟨[arn], false⟩⟩,
      ⟨.waitStopped arn, some ()⟩, ⟨.describeTasks arn, some ⟨[task], false⟩⟩]

/-- What comes before the migration. -/
def Opening (m : Manifest) (action : Action) (stretch : History) : Prop :=
  ∃ validated closed, Validated m validated ∧
    (if action.closes then Shut m closed else closed = []) ∧ stretch = validated ++ closed

/-- What comes before the last step of the command. -/
def Prior (m : Manifest) (action : Action) (stretch : History) : Prop :=
  ∃ opening migrated, Opening m action opening ∧
    (if action = .deploy then ∃ arn, Ran m .migration arn migrated else migrated = []) ∧
    stretch = opening ++ migrated

/-- The last step of the command, with the proof that it returns. -/
def Proves (m : Manifest) (action : Action) (proof : Option String) (stretch : History) : Prop :=
  match action with
  | .deploy | .resume | .rollback => ∃ arn, proof = some arn ∧ Ready m arn order stretch
  | .verify => ∃ arn drained verified, proof = some arn ∧ Drained m drained ∧
      Verified m arn verified ∧ stretch = drained ++ verified
  | .quiesce => proof = none ∧ stretch = []

/-- All that a command does which is not refused. -/
def Whole (m : Manifest) (action : Action) (proof : Option String) (stretch : History) : Prop :=
  ∃ prior proved, Prior m action prior ∧ Proves m action proof proved ∧ stretch = prior ++ proved

variable {m : Manifest} {action : Action}

/-! ### What the steps add -/

/-- `utility` adds the run of one task of the release. -/
theorem utility_ran (name : Name) : Harmless (Ran m name) (utility m name) := by
  refine guarded_ofOption trivial fun definition h_definition => ?_
  refine guarded_ofOption trivial fun group h_group => ?_
  refine guarded_call (fun h => h) trivial fun result => ?_
  split
  -- one task was launched: it is waited for
  next arn =>
    refine (finish_adds definition arn).after (fun _ _ h => h) ?_ fun _ _ => trivial
    rintro _ _ ⟨rfl, task, h_succeeded, rfl⟩
    exact ⟨definition, group, task, h_definition, h_group, h_succeeded, rfl⟩
  -- none, or several: whatever was launched is stopped, and the utility raises
  next tasks _ _ =>
    refine Guarded.bind (M := fun _ _ => True) ?_ fun _ _ _ => Dialogue.guarded_raise trivial
    refine guarded_each (I := fun _ _ => True) trivial fun _ arn _ _ _ _ => ?_
    exact guarded_lastCall (q := Question.stopTask arn) (fun h => h) trivial fun _ => trivial

/-- A `quiesce` that returns has shut the cluster. -/
theorem quiesce_shuts : Harmless (fun _ => Shut m) (quiesce m) := by
  -- the loop over the services, in the order of their closing
  have h_loop : Harmless (fun _ closed => List.Forall₂ (fun name exchange => ∃ service,
      m.service name = some service ∧ exchange = ⟨.updateService service none 0, some ()⟩)
      closing closed) (each (close m) closing) := by
    refine guarded_each (I := List.Forall₂ _) .nil ?_
    intro made name rest history _ h_made
    refine guarded_ofOption trivial fun service h_service => ?_
    refine guarded_lastCall (q := Question.updateService service none 0) (fun h => h rfl) trivial ?_
    exact fun _ => List.rel_append h_made (.cons ⟨service, h_service, rfl⟩ .nil)
  refine h_loop.andThen (fun _ _ h => h) (fun _ _ => trivial) fun _ closed h_closed => ?_
  refine guarded_call (fun h => h) trivial fun _ => ?_
  refine assertDrained_adds.after (fun _ _ h => h) ?_ fun _ _ => trivial
  intro _ drained h_drained
  exact ⟨closed, drained, h_closed, h_drained, rfl⟩

/-- Behind a shut cluster every service was last asked to have no task. -/
theorem Shut.closes {stretch : History} (h : Shut m stretch) :
    Quiet stretch ∧ ∀ name ∈ expected, Closes m name stretch := by
  obtain ⟨closed, _, h_closed, ⟨states, _, pages, ⟨rfl, -⟩, -, -, rfl⟩, rfl⟩ := h
  refine ⟨?_, fun name h_name => ?_⟩
  · intro exchange h_mem h_opens
    rcases List.mem_append.mp h_mem with h_mem | h_mem
    · rcases List.mem_append.mp h_mem with h_mem | h_mem
      · obtain ⟨name, -, service, -, rfl⟩ := exists_of_forall₂ h_closed.flip h_mem
        exact h_opens rfl
      · obtain rfl := List.mem_singleton.mp h_mem
        exact h_opens
    · rcases List.mem_append.mp h_mem with h_mem | h_mem
      all_goals obtain rfl := List.mem_singleton.mp h_mem; exact h_opens
  · have h_closing : ∀ name ∈ expected, name ∈ closing := by decide
    obtain ⟨exchange, h_mem, service, h_service, rfl⟩ :=
      exists_of_forall₂ h_closed (h_closing name h_name)
    refine ⟨service, h_service, ?_⟩
    exact List.mem_append_left _ (List.mem_append_left _ h_mem)

/-! ### The launches -/

/-- The question launches this task definition. -/
def Question.launches (definition : String) : Question → Prop
  | runTask launched _ _ => launched = definition
  | _ => False

variable {definition : String}

/-- `assert_drained` launches nothing. -/
theorem only_assertDrained : Only (fun q => ¬ q.launches definition) (assertDrained m) := by
  have h_services : Only (fun q => ¬ q.launches definition) (services m) := by
    refine Only.bind (only_call fun h => h) fun _ => ?_
    exact Only.bind (only_check _) fun _ => only_pure _
  refine h_services.bind fun _ => ?_
  refine Only.bind (only_check _) fun _ => ?_
  exact Only.bind (only_call fun h => h) fun _ => only_check _

/-- `validate_tasks` launches nothing. -/
theorem only_validateTasks : Only (fun q => ¬ q.launches definition) (validateTasks m) :=
  only_each fun _ _ => Only.bind (only_call fun h => h) fun _ => only_check _

/-- `quiesce` launches nothing. -/
theorem only_quiesce : Only (fun q => ¬ q.launches definition) (quiesce m) := by
  refine Only.bind (only_each fun _ _ => ?_) fun _ => ?_
  · exact Only.bind (only_ofOption _) fun _ => only_call (q := Question.updateService _ none 0) id
  · exact Only.bind (only_call fun h => h) fun _ => only_assertDrained

/-- A utility launches its own task, first of all, and no other. -/
theorem utility_launches (definition : String) (name : Name) :
    (utility m name).Guarded
      (fun before q => q.launches definition → m.task name = some definition ∧ before = [])
      (fun _ _ => True) (fun _ => True) [] := by
  have h_stop (arn : String) : Only (fun q : Question => ¬ q.launches definition)
      (call (.stopTask arn)) := only_call (q := Question.stopTask arn) id
  refine guarded_ofOption trivial fun launched h_launched => ?_
  refine guarded_ofOption trivial fun group _ => ?_
  refine guarded_call (fun h => ⟨h ▸ h_launched, rfl⟩) trivial fun result => ?_
  -- behind the launch nothing is launched any more
  refine Only.behind (P := fun q => ¬ q.launches definition) ?_
    fun _ _ h h_launches => absurd h_launches h
  split
  · refine Only.bind ?_ fun _ => Only.bind (only_call fun h => h) fun response => ?_
    · refine Only.rescue (only_call (q := Question.waitStopped _) id) ?_
      exact Only.bind (Only.rescue (h_stop _) only_raise) fun _ => only_raise
    · split
      · exact Only.bind (only_check _) fun _ => only_pure _
      · exact only_raise
  · exact Only.bind (only_each fun arn _ => h_stop arn) fun _ => only_raise

/-- `utility` launches its own task only. -/
theorem only_utility {name : Name} (h : m.task name ≠ some definition) :
    Only (fun q => ¬ q.launches definition) (utility m name) :=
  (utility_launches definition name).imp (fun _ _ h_q h_launches => h (h_q h_launches).1)
    (fun _ _ h => h) fun _ h => h

/-- `resume` launches the verifier only. -/
theorem only_resume (h : m.task .verifier ≠ some definition) :
    Only (fun q => ¬ q.launches definition) (resume m) := by
  refine Only.bind only_validateTasks fun _ => ?_
  refine Only.bind only_assertDrained fun _ => ?_
  refine Only.bind (only_utility h) fun _ => ?_
  refine Only.bind only_assertDrained fun _ => ?_
  refine Only.bind (Only.rescue (only_each fun name _ => ?_) ?_) fun _ => only_pure _
  -- the turn of one service
  · refine Only.bind (only_ofOption _) fun service => ?_
    refine Only.bind (only_ofOption _) fun revision => ?_
    refine Only.bind (only_ofOption _) fun desiredCount => ?_
    refine Only.bind (only_call fun h => h) fun _ => ?_
    refine Only.bind (only_call fun h => h) fun _ => ?_
    refine Only.bind (Only.bind (only_call fun h => h) fun _ => ?_) fun _ => ?_
    · exact Only.bind (only_check _) fun _ => only_pure _
    · exact Only.bind (only_ofOption _) fun _ => only_check _
  · exact Only.bind only_quiesce fun _ => only_raise

/-! ### The rule of a command -/

/-- `args.action in ('deploy', 'resume', 'rollback')` -/
def Action.resumes (action : Action) : Prop :=
  action = deploy ∨ action = resume ∨ action = rollback

/-- A service is asked to open behind all steps that come before the resumption, and as this
permits. -/
def Admitted (m : Manifest) (action : Action) (before : History) (q : Question) : Prop :=
  q.opens → action.resumes ∧ ∃ prior later, before = prior ++ later ∧ Prior m action prior ∧
    Permitted m later q

/-- This task is launched by a deployment alone, behind a shut cluster. -/
def Migrates (m : Manifest) (action : Action) (definition : String) (before : History)
    (q : Question) : Prop :=
  q.launches definition → action = .deploy ∧ Opening m action before

/-- The services are shut down first where the command closes them. -/
theorem closeFirst_adds :
    Harmless (fun _ closed => if action.closes then Shut m closed else closed = [])
      (closeFirst m action) := by
  unfold closeFirst
  cases action.closes with
  | true => exact quiesce_shuts
  | false => exact guarded_pure rfl

/-- The migration runs next where the command is `deploy`. -/
theorem migrateNext_adds :
    Harmless (fun _ migrated =>
      if action = .deploy then ∃ arn, Ran m .migration arn migrated else migrated = [])
      (migrateNext m action) := by
  unfold migrateNext
  split
  · refine (utility_ran .migration).andThen (fun _ _ h => h) (fun _ _ => trivial) ?_
    exact fun arn migrated h_ran => guarded_pure ⟨arn, h_ran⟩
  · exact guarded_pure rfl

/-- An end is one behind any quiet history. -/
theorem Ended.behind {prior later : History} (h_quiet : Quiet prior) (h : Ended m later) :
    Ended m (prior ++ later) := by
  rcases h with h_later | ⟨before, stretch, rfl, h_quiesced⟩
  · exact .inl (List.forall_mem_append.mpr ⟨h_quiet, h_later⟩)
  · exact .inr ⟨prior ++ before, stretch, (List.append_assoc _ _ _).symm, h_quiesced⟩

/-- The last stage of a command opens services only if the command resumes. -/
theorem prove_guarded (h_valid : validateManifest m = .ok ()) :
    (prove m action).Guarded (fun later q => q.opens → action.resumes ∧ Permitted m later q)
      (Proves m action) (Ended m) [] := by
  have h_resume (h_action : action.resumes) : (do
      let proof ← resume m
      pure (some proof) : Controller (Option String)).Guarded
        (fun later q => q.opens → action.resumes ∧ Permitted m later q)
        (fun proof stretch => ∃ arn, proof = some arn ∧ Ready m arn order stretch) (Ended m) [] :=
    (resume_guarded h_valid).andThen (fun _ _ h _ => ⟨h_action, h⟩) (fun _ h => h)
      fun arn _ h_ready => guarded_pure ⟨arn, rfl, h_ready⟩
  cases action with
  | deploy => exact h_resume (.inl rfl)
  | resume => exact h_resume (.inr (.inl rfl))
  | rollback => exact h_resume (.inr (.inr rfl))
  | quiesce => exact guarded_pure ⟨rfl, rfl⟩
  | verify =>
    refine assertDrained_adds.quiet.andThen (fun _ _ h h_opens => absurd h_opens h)
      (fun _ h => .inl h) ?_
    rintro _ drained ⟨h_drained, h_quiet⟩
    refine utility_adds.quiet.andThen (fun _ _ h h_opens => absurd h_opens h)
      (fun _ h => .inl (List.forall_mem_append.mpr ⟨h_quiet, h⟩)) ?_
    rintro arn verified ⟨h_verified, -⟩
    exact guarded_pure ⟨arn, drained, verified, rfl, h_drained, h_verified, rfl⟩

/-- The rule of a whole command on a valid manifest. -/
theorem act_guarded (h_valid : validateManifest m = .ok ()) :
    (act m action).Guarded (Admitted m action) (Whole m action) (Ended m) [] := by
  refine validateTasks_adds.quiet.andThen (fun _ _ h h_opens => absurd h_opens h)
    (fun _ h => .inl h) ?_
  rintro _ validated ⟨h_validated, h_quiet₁⟩
  refine closeFirst_adds.quiet.andThen (fun _ _ h h_opens => absurd h_opens h)
    (fun _ h => .inl (List.forall_mem_append.mpr ⟨h_quiet₁, h⟩)) ?_
  rintro _ closed ⟨h_closed, h_quiet₂⟩
  replace h_quiet₂ := List.forall_mem_append.mpr ⟨h_quiet₁, h_quiet₂⟩
  refine migrateNext_adds.quiet.andThen (fun _ _ h h_opens => absurd h_opens h)
    (fun _ h => .inl (List.forall_mem_append.mpr ⟨h_quiet₂, h⟩)) ?_
  rintro _ migrated ⟨h_migrated, h_quiet₃⟩
  replace h_quiet₃ := List.forall_mem_append.mpr ⟨h_quiet₂, h_quiet₃⟩
  have h_prior : Prior m action ([] ++ validated ++ closed ++ migrated) :=
    ⟨validated ++ closed, migrated, ⟨validated, closed, h_validated, h_closed, rfl⟩, h_migrated,
      rfl⟩
  -- the steps so far are quiet: only the last one may open a service
  refine (prove_guarded h_valid).after (fun later q h h_opens => ?_)
    (fun proof proved h_proved => ⟨_, proved, h_prior, h_proved, rfl⟩)
    (fun later h => h.behind h_quiet₃)
  exact ⟨(h h_opens).1, _, later, rfl, h_prior, (h h_opens).2⟩

/-- The migration is launched by `deploy` only, behind its stages. -/
theorem act_migrates (h_other : m.task .verifier ≠ some definition) :
    (act m action).Guarded (Migrates m action definition) (fun _ _ => True) (fun _ => True) [] := by
  have h_validate : Only (fun q => ¬ q.launches definition) (validateTasks m) := only_validateTasks
  refine (h_validate.and validateTasks_adds).andThen (fun _ _ h h_launches => absurd h_launches h.1)
    (fun _ _ => trivial) ?_
  rintro _ validated ⟨-, h_validated⟩
  have h_close : Only (fun q => ¬ q.launches definition) (closeFirst m action) := by
    unfold closeFirst
    split
    · exact only_quiesce
    · exact only_pure ()
  refine (h_close.and closeFirst_adds).andThen (fun _ _ h h_launches => absurd h_launches h.1)
    (fun _ _ => trivial) ?_
  rintro _ closed ⟨-, h_closed⟩
  -- what is behind the migration
  have h_opening : Opening m action ([] ++ validated ++ closed) :=
    ⟨validated, closed, h_validated, h_closed, rfl⟩
  have h_migrate : (migrateNext m action).Guarded
      (fun before q => q.launches definition → action = .deploy ∧ before = []) (fun _ _ => True)
      (fun _ => True) [] := by
    unfold migrateNext
    split
    next h_deploy =>
      refine (utility_launches definition .migration).andThen (fun _ _ h h_launches => ?_)
        (fun _ _ => trivial) fun _ _ _ => guarded_pure trivial
      exact ⟨h_deploy, (h h_launches).2⟩
    next => exact guarded_pure trivial
  refine h_migrate.andThen (fun before q h h_launches => ?_) (fun _ _ => trivial) fun _ _ _ => ?_
  · obtain ⟨h_deploy, rfl⟩ := h h_launches
    rw [List.append_nil]
    exact ⟨h_deploy, h_opening⟩
  -- the verifier has another task definition
  have h_prove : Only (fun q => ¬ q.launches definition) (prove m action) := by
    cases action with
    | deploy | resume | rollback => exact Only.bind (only_resume h_other) fun _ => only_pure _
    | quiesce => exact only_pure _
    | verify =>
      exact Only.bind only_assertDrained fun _ => Only.bind (only_utility h_other) fun _ =>
        only_pure _
  exact Only.behind h_prove fun _ _ h h_launches => absurd h_launches h

/-! ### One command -/

variable {command : Command} {episode : Episode}

/-- The record agrees with what was done. -/
def Recorded (command : Command) (record : Record) (stretch : History) : Prop :=
  (∃ m proof, command.manifest = some m ∧ record = completed command.action m proof ∧
    Whole m command.action proof stretch) ∨
  (record.completed = false ∧ (Quiet stretch ∨ ∃ m, command.manifest = some m ∧ Ended m stretch))

/-- The command has a manifest of which this holds. -/
def OnManifest (command : Command) (P : Manifest → Prop) : Prop :=
  ∃ m, command.manifest = some m ∧ P m

/-- The rule of a whole run: whatever happens is in its record. -/
theorem main_guarded (command : Command) :
    (main command).Guarded
      (fun before q => OnManifest command (Admitted · command.action before q))
      (Recorded command) (fun _ => False) [] := by
  obtain ⟨action, manifest⟩ := command
  unfold main
  cases manifest with
  | none => exact guarded_pure (.inr ⟨rfl, .inl nofun⟩)
  | some m =>
    cases h_valid : validateManifest m with
    | error refusal => simp only [h_valid]; exact guarded_pure (.inr ⟨rfl, .inl nofun⟩)
    | ok _ =>
      simp only [h_valid]
      -- a step that raises is recorded as failed, behind what it has done
      refine Guarded.rescue (M := Ended m) ?_ fun history h_ended => ?_
      · refine (act_guarded h_valid).andThen (fun _ _ h => ⟨m, rfl, h⟩) (fun _ h => h) ?_
        exact fun proof stretch h_whole => guarded_pure (.inl ⟨m, proof, rfl, rfl, h_whole⟩)
      · exact guarded_pure (.inr ⟨rfl, .inr ⟨m, rfl, h_ended⟩⟩)

/-- So it is with the launch of the migration. -/
theorem main_migrates (command : Command) {m : Manifest} (h_manifest : command.manifest = some m)
    (h_other : m.task .verifier ≠ some definition) :
    (main command).Guarded (Migrates m command.action definition) (fun _ _ => True)
      (fun _ => True) [] := by
  unfold main
  rw [h_manifest]
  cases h_valid : validateManifest m with
  | error refusal => simp only [h_valid]; exact guarded_pure trivial
  | ok _ =>
    simp only [h_valid]
    refine Guarded.rescue (M := fun _ => True) ?_ fun _ _ => guarded_pure trivial
    exact (act_migrates h_other).andThen (fun _ _ h => h) (fun _ _ => trivial)
      fun _ _ _ => guarded_pure trivial

/-- An episode is a run of its command, from some history on. -/
theorem exists_run {env : Environment} {commands : List Command} {history : History}
    (h : episode ∈ operate env commands history) :
    ∃ before, (main episode.command).outcome env before =
      (episode.end_, before ++ episode.stretch) := by
  induction commands generalizing history with
  | nil => exact absurd h List.not_mem_nil
  | cons command commands ih =>
    rcases List.mem_cons.mp h with rfl | h_later
    -- its stretch is what it adds to the history
    · refine ⟨history, ?_⟩
      obtain ⟨stretch, h_stretch⟩ := Dialogue.prefix_outcome (main command) env history
      rw [Prod.ext_iff]
      refine ⟨rfl, ?_⟩
      rw [← h_stretch, List.drop_left]
    · exact ih h_later

/-- What a rule says of an episode. -/
theorem rule_of_run {Allowed : History → Question → Prop} {Post : Record → History → Prop}
    {Raise : History → Prop} {env : Environment} {before : History}
    (h : (main episode.command).Guarded Allowed Post Raise [])
    (h_run : (main episode.command).outcome env before =
      (episode.end_, before ++ episode.stretch)) :
    (∀ earlier exchange, earlier ++ [exchange] <+: episode.stretch → Allowed earlier exchange.1) ∧
      (∀ record, episode.end_ = .returned record → Post record episode.stretch) ∧
      (episode.end_ = .raised → Raise episode.stretch) := by
  -- the rule is shown from the empty history, and the command runs behind others
  have h_after : (main episode.command).Guarded
      (fun history q => ∃ earlier, history = before ++ earlier ∧ Allowed earlier q)
      (fun record history => ∃ stretch, history = before ++ stretch ∧ Post record stretch)
      (fun history => ∃ stretch, history = before ++ stretch ∧ Raise stretch) before :=
    h.after (fun stretch _ h => ⟨stretch, rfl, h⟩) (fun _ stretch h => ⟨stretch, rfl, h⟩)
      fun stretch h => ⟨stretch, rfl, h⟩
  obtain ⟨-, h_allowed, h_post, h_raise⟩ := h_after.outcome env h_run
  refine ⟨fun earlier exchange h_earlier => ?_, fun record h_end => ?_, fun h_end => ?_⟩
  · obtain ⟨earlier', h_same, h_q⟩ := h_allowed (before ++ earlier) exchange
      (List.prefix_append _ _) (by
        rw [List.append_assoc]
        exact (List.prefix_append_right_inj before).mpr h_earlier)
    rwa [List.append_cancel_left h_same]
  · obtain ⟨stretch, h_same, h_holds⟩ := h_post record h_end
    rwa [List.append_cancel_left h_same]
  · obtain ⟨stretch, h_same, h_holds⟩ := h_raise h_end
    rwa [List.append_cancel_left h_same]

/-! ### What is open in the end -/

variable {service : String} {n : ℤ}

/-- The later request for a service counts. -/
theorem lastRequested_append (before after : History) :
    lastRequested service (before ++ after) =
      (lastRequested service after).or (lastRequested service before) := by
  unfold lastRequested
  rw [List.filterMap_append, List.getLast?_append]

/-- A count that is not 0 was requested by opening the service. -/
theorem exists_opens {stretch : History} (h : lastRequested service stretch = some n)
    (h_open : n ≠ 0) : ∃ definition answer,
      ⟨.updateService service definition n, answer⟩ ∈ stretch := by
  obtain ⟨⟨q, answer⟩, h_mem, h_requested⟩ := List.mem_filterMap.mp (List.mem_of_getLast? h)
  cases q with
  | updateService other definition desiredCount =>
    obtain ⟨h_same, h_count⟩ := Option.ite_none_right_eq_some.mp h_requested
    obtain rfl := h_same
    obtain rfl := Option.some.inj h_count
    exact ⟨definition, answer, h_mem⟩
  | describeTaskDefinition _ | describeServices _ | listTasks | waitStable _ | runTask _ _ _
  | stopTask _ | waitStopped _ | describeTasks _ => cases h_requested

/-- The episode that has asked last for a count of the service. -/
theorem exists_last {episodes : List Episode}
    (h : lastRequested service (episodes.map Episode.stretch).flatten = some n) :
    ∃ pre episode post, episodes = pre ++ episode :: post ∧
      lastRequested service episode.stretch = some n ∧
      ∀ later ∈ post, lastRequested service later.stretch = none := by
  induction episodes using List.reverseRecOn with
  | nil => cases h
  | append_singleton episodes episode ih =>
    rw [List.map_append, List.flatten_append, lastRequested_append] at h
    simp only [List.map_cons, List.map_nil, List.flatten_cons, List.flatten_nil,
      List.append_nil] at h
    -- either the last episode has asked, or one before it
    cases h_last : lastRequested service episode.stretch with
    | some count =>
      rw [h_last, Option.some_or] at h
      obtain rfl := Option.some.inj h
      exact ⟨episodes, episode, [], rfl, h_last, nofun⟩
    | none =>
      rw [h_last, Option.none_or] at h
      obtain ⟨pre, last, post, rfl, h_count, h_post⟩ := ih h
      refine ⟨pre, last, post ++ [episode], by simp, h_count, fun later h_later => ?_⟩
      rcases List.mem_append.mp h_later with h_mem | h_mem
      · exact h_post later h_mem
      · rwa [List.mem_singleton.mp h_mem]

/-- The episode was cut short, or in it ECS refused to update a service. -/
def Disturbed (episode : Episode) : Prop :=
  episode.end_ = .cut ∨ ¬ Updated episode.stretch

/-- The command was completed, and has opened the services behind its proof. -/
def Serving (episode : Episode) : Prop :=
  ∃ m proof, episode.command.manifest = some m ∧ episode.command.action.resumes ∧
    episode.end_ = .returned (completed episode.command.action m proof) ∧
    Whole m episode.command.action proof episode.stretch

/-- If all updates succeeded, so did the later ones. -/
theorem Updated.suffix {before stretch : History} (h : Updated (before ++ stretch)) :
    Updated stretch :=
  fun service definition count h_mem => h service definition count (List.mem_append_right _ h_mem)

/-- An opened service is one that the manifest names. -/
theorem exists_name {before : History} {definition : Option String}
    (h : Admitted m action before (.updateService service definition n)) (h_open : n ≠ 0) :
    action.resumes ∧ ∃ name ∈ expected, m.service name = some service := by
  obtain ⟨h_action, prior, later, -, -, h_permitted⟩ := h h_open
  obtain ⟨_, earlier, name, rest, service', _, _, h_order, h_service, -, -, h_q, -⟩ :=
    h_permitted h_open
  obtain ⟨rfl, -⟩ := Question.updateService.inj h_q
  have h_expected : ∀ name ∈ order, name ∈ expected := by decide
  exact ⟨h_action, name, h_expected name (by rw [h_order]; simp), h_service⟩

/-- An episode that leaves a service open. -/
theorem serving_or_disturbed {env : Environment} {before : History}
    (h_run : (main episode.command).outcome env before =
      (episode.end_, before ++ episode.stretch))
    (h : lastRequested service episode.stretch = some n) (h_open : n ≠ 0) :
    Serving episode ∨ Disturbed episode := by
  obtain ⟨h_admitted, h_recorded, h_raised⟩ := rule_of_run (main_guarded episode.command) h_run
  obtain ⟨definition, answer, h_mem⟩ := exists_opens h h_open
  obtain ⟨earlier, later, h_split⟩ := List.append_of_mem h_mem
  have h_before : earlier ++ [⟨.updateService service definition n, answer⟩] <+: episode.stretch :=
    ⟨later, by rw [h_split, List.append_assoc, List.singleton_append]⟩
  obtain ⟨m, h_manifest, h_q⟩ := h_admitted earlier _ h_before
  obtain ⟨h_resumes, name, h_name, h_service⟩ := exists_name h_q h_open
  -- it has opened a service, so that its action resumes
  cases h_end : episode.end_ with
  | cut => exact .inr (.inl h_end)
  | raised => exact (h_raised h_end).elim
  | returned record =>
    rcases h_recorded record h_end with ⟨m', proof, h_manifest', rfl, h_whole⟩ | ⟨-, h_ended⟩
    · exact .inl ⟨m', proof, h_manifest', h_resumes, h_end, h_whole⟩
    refine .inr (.inr fun h_updated => ?_)
    rcases h_ended with h_quiet | ⟨m', h_manifest', h_quiet | ⟨opened, stretch, h_stretch,
      h_quiesced⟩⟩
    · exact h_quiet _ h_mem h_open
    · exact h_quiet _ h_mem h_open
    -- the services that were opened have been closed again
    obtain rfl := Option.some.inj (h_manifest.symm.trans h_manifest')
    rw [h_stretch] at h_updated h
    obtain ⟨service', h_service', h_closed⟩ := h_quiesced.closes h_updated.suffix name h_name
    obtain rfl := Option.some.inj (h_service.symm.trans h_service')
    rw [lastRequested_of_closed h_quiesced.quiet h_closed] at h
    exact h_open (Option.some.inj h).symm

/-! ### Every run of commands -/

/-- What holds of the episodes of any run of commands. -/
structure Accountable (episodes : List Episode) : Prop where
  /-- A migration is launched by a deployment, when the last count asked of every service is 0. -/
  migrates : ∀ pre episode post m definition, episodes = pre ++ episode :: post →
    episode.command.manifest = some m → m.task .migration = some definition →
    m.task .verifier ≠ some definition → ∀ before exchange,
      before ++ [exchange] <+: episode.stretch → exchange.1.launches definition →
      episode.command.action = .deploy ∧ Opening m .deploy before ∧ ∀ name ∈ expected,
        ∃ service, m.service name = some service ∧
          lastRequested service ((pre.map Episode.stretch).flatten ++ before) = some 0
  /-- A service is opened behind all steps that come before. -/
  opens : ∀ episode ∈ episodes, ∀ before exchange, before ++ [exchange] <+: episode.stretch →
    OnManifest episode.command (Admitted · episode.command.action before exchange.1)
  /-- No command raises, and its record agrees with what was done. -/
  records : ∀ episode ∈ episodes, episode.end_ ≠ .raised ∧ ∀ record,
    episode.end_ = .returned record → Recorded episode.command record episode.stretch
  /-- What is open was opened by the last command that has asked for it, which was completed. -/
  serves : ∀ service n, lastRequested service (episodes.map Episode.stretch).flatten = some n →
    n ≠ 0 → ∃ pre episode post, episodes = pre ++ episode :: post ∧
      (∀ later ∈ post, lastRequested service later.stretch = none) ∧
      (Serving episode ∨ Disturbed episode)

/-- Behind an opening that ended, each service was last asked for 0. -/
theorem lastRequested_of_opening {before opening : History} {name : Name}
    (h : Opening m .deploy opening) (h_name : name ∈ expected) :
    ∃ service, m.service name = some service ∧
      lastRequested service (before ++ opening) = some 0 := by
  obtain ⟨validated, closed, -, h_shut, rfl⟩ := h
  replace h_shut : Shut m closed := h_shut
  obtain ⟨h_quiet, h_closes⟩ := h_shut.closes
  obtain ⟨service, h_service, h_mem⟩ := h_closes name h_name
  refine ⟨service, h_service, ?_⟩
  rw [← List.append_assoc]
  -- nothing opens the service behind the request that closed it
  exact lastRequested_of_closed h_quiet h_mem

/-- **Release commands leave an account**, whatever ECS answers. -/
theorem operate_accountable (env : Environment) (commands : List Command) (history : History) :
    Accountable (operate env commands history) := by
  refine ⟨?_, fun episode h_mem before exchange h_before => ?_, fun episode h_mem => ?_, ?_⟩
  · rintro pre episode post m definition h_split h_manifest h_migration h_other before exchange
      h_before h_launches
    obtain ⟨start, h_run⟩ := exists_run (h_split ▸ by simp : episode ∈ operate env commands history)
    obtain ⟨h_migrates, -⟩ := rule_of_run (main_migrates _ h_manifest h_other) h_run
    obtain ⟨h_deploy, h_opening⟩ := h_migrates before exchange h_before h_launches
    rw [h_deploy] at h_opening
    exact ⟨h_deploy, h_opening, fun name h_name => lastRequested_of_opening h_opening h_name⟩
  · obtain ⟨start, h_run⟩ := exists_run h_mem
    exact (rule_of_run (main_guarded episode.command) h_run).1 before exchange h_before
  · obtain ⟨start, h_run⟩ := exists_run h_mem
    obtain ⟨-, h_recorded, h_raised⟩ := rule_of_run (main_guarded episode.command) h_run
    exact ⟨h_raised, h_recorded⟩
  · intro service n h_last h_open
    obtain ⟨pre, episode, post, h_split, h_count, h_post⟩ := exists_last h_last
    obtain ⟨start, h_run⟩ := exists_run (h_split ▸ by simp : episode ∈ operate env commands history)
    exact ⟨pre, episode, post, h_split, h_post, serving_or_disturbed h_run h_count h_open⟩

end ControlPlane.Release
