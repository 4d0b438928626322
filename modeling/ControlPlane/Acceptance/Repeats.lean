import ControlPlane.Acceptance.Evidence
import Mathlib.Algebra.Order.BigOperators.Group.List
import Mathlib.Algebra.Order.Group.Nat

/-!
# Fresh evidence

`evidence_fresh_iff` says in which runs of the three workflows the results of distinct calls
of `task` come from distinct ECS tasks: an application recovery never repeats a call, while a
run of the SQL fixture does with its sixth call, the replay of the receipt, and a retained
recovery on its own with its third, the second verification of the restored database.

The account of `Evidence` is followed through each workflow, whose calls are a prefix of a
fixed list: `applicationCalls` has no call twice, `fixtureCalls` and `retainedCalls` do.
-/

namespace ControlPlane.Native

open Framework
open Dialogue (Ensures)

variable {m : Manifest}

/-! ### The calls of the workflows -/

section Workflows

variable {ok : List Call → Prop}

/-- The calls of `RetainedRecovery.execute`. -/
def retainedCalls (restored : Database) : List Call :=
  [{ name := .verify }, verification restored 2, verification restored 2]

/-- One more verification of the restored database. -/
theorem verifyRestored_evidence {calls : List Call} {history : History} {restored : Database}
    {fingerprint attempt : String} (h : Evidence m calls history) (h_ok : ok calls)
    (h_next : ok (calls ++ [verification restored 2])) :
    (verifyRestored m restored fingerprint attempt).Ensures
      (fun _ => Evidence m (calls ++ [verification restored 2])) (Stops m ok) history := by
  refine ask_then rfl h h_ok fun _ _ h => task_then h h_ok fun blocked _ h => ?_
  refine ofOption_then h h_next fun _ => ask_then rfl h h_next fun _ _ h => ?_
  exact h

/-- The calls of the retained recovery. -/
theorem executeRetained_calls {calls : List Call} {history : History} {baseline : Instant}
    (h : Evidence m calls history)
    (h_ok : ∀ restored made, made <+: retainedCalls restored → ok (calls ++ made)) :
    (executeRetained m baseline).Ensures (fun _ => Stops m ok) (Stops m ok) history := by
  have h₀ : ok calls := by simpa using h_ok ⟨"", ""⟩ [] List.nil_prefix
  have h₁ : ok (calls ++ [{ name := .verify }]) := h_ok ⟨"", ""⟩ _ ⟨_, rfl⟩
  refine ask_then rfl h h₀ fun _ _ h => task_then h h₀ fun good _ h => ?_
  refine ofOption_then h h₁ fun fingerprint => ask_then rfl h h₁ fun restored _ h => ?_
  have h₂ : ok (calls ++ [{ name := .verify }] ++ [verification restored 2]) := by
    simpa using h_ok restored [{ name := .verify }, verification restored 2] ⟨[_], rfl⟩
  have h₃ : ok (calls ++ [{ name := .verify }] ++ [verification restored 2] ++
      [verification restored 2]) := by
    simpa [retainedCalls] using h_ok restored _ (List.prefix_refl _)
  refine (verifyRestored_evidence h h₁ h₂).bind fun _ _ h => ?_
  refine (verifyRestored_evidence h h₂ h₃).bind fun _ _ h => ?_
  exact ask_then rfl h h₃ fun _ _ h => h.stops h₃

/-- The continuation of a run is one of tasks that come after the calls made before. -/
theorem recoverFromBaseline_calls {calls : List Call} {history : History} {baseline : Instant}
    (h : Evidence m calls history)
    (h_ok : ∀ made, ok (calls ++ made)) :
    (recoverFromBaseline m baseline).Ensures (fun _ => Stops m ok) (Stops m ok) history := by
  unfold recoverFromBaseline
  split
  next => exact executeRetained_calls h fun _ made _ => h_ok made
  next =>
    have h₀ : ok calls := by simpa using h_ok []
    refine ask_then rfl h h₀ fun restored _ h => task_then h h₀ fun blocked _ h => ?_
    have h₁ := h_ok [verification restored 2]
    refine check_then h h₁ (task_then h h₁ fun _ _ h => h.stops ?_)
    simpa using h_ok [verification restored 2, { name := .verify }]

/-- The calls of `ApplicationRecovery.execute`. -/
def applicationCalls (restored matching : Database) (source : Json String) (point1 point2 : Point) :
    List Call :=
  [{ name := .bootstrap },
    { name := .receipt, extra := some { recoveryPhase := some "source-preflight" } },
    { name := .baseline }, { name := .control }, { name := .verify },
    binding restored source point1 "behind", verification restored 2,
    binding matching source point2 "matching", verification matching 0]

/-- No two of them agree in all arguments, whatever the providers have answered. -/
theorem nodup_applicationCalls (restored matching : Database) (source : Json String)
    (point1 point2 : Point) : (applicationCalls restored matching source point1 point2).Nodup := by
  simp [applicationCalls, verification, binding]

/-- The calls of the application recovery are all different. -/
theorem executeApplication_calls :
    (executeApplication m).Ensures (fun _ => Stops m List.Nodup) (Stops m List.Nodup) [] := by
  have h : Evidence m [] [] := ⟨[], rfl, .nil⟩
  -- the calls made so far are a prefix of the list, the first five under any values
  have h_take := fun restored matching source point1 point2 n =>
    (nodup_applicationCalls restored matching source point1 point2).sublist (List.take_sublist n _)
  have h_early := h_take ⟨"", ""⟩ ⟨"", ""⟩ .null ⟨0, ""⟩ ⟨0, ""⟩
  have h₁ := h_early 1
  have h₂ := h_early 2
  have h₃ := h_early 3
  have h₄ := h_early 4
  have h₅ := h_early 5
  -- the program, call by call, with the tasks that were submitted so far
  refine ask_then rfl h List.nodup_nil fun _ _ h => task_then h List.nodup_nil fun _ _ h => ?_
  refine task_then h h₁ fun preflight _ h => check_then h h₂ ?_
  refine ask_then rfl h h₂ fun _ _ h => task_then h h₂ fun first _ h => ?_
  refine ofOption_then h h₃ fun _ => ask_then rfl h h₃ fun _ _ h => check_then h h₃ ?_
  refine ask_then rfl h h₃ fun point1 _ h => task_then h h₃ fun second _ h => ?_
  refine ofOption_then h h₄ fun _ => ask_then rfl h h₄ fun _ _ h => ?_
  refine ask_then rfl h h₄ fun point2 _ h => check_then h h₄ ?_
  refine ask_then rfl h h₄ fun _ _ h => task_then h h₄ fun initial _ h => check_then h h₅ ?_
  refine ofOption_then h h₅ fun _ => ofOption_then h h₅ fun fingerprint => ?_
  refine ask_then rfl h h₅ fun _ _ h => ask_then rfl h h₅ fun restored _ h => ?_
  refine ofOption_then h h₅ fun source => task_then h h₅ fun blocked _ h => ?_
  have h_late := fun matching => h_take restored matching source point1 point2
  have h₆ := h_late ⟨"", ""⟩ 6
  have h₇ := h_late ⟨"", ""⟩ 7
  refine check_then h h₆ (task_then h h₆ fun independent _ h => check_then h h₇ ?_)
  refine ask_then rfl h h₇ fun _ _ h => ask_then rfl h h₇ fun _ _ h => ?_
  refine ask_then rfl h h₇ fun matching _ h => check_then h h₇ ?_
  have h₈ := h_late matching 8
  have h₉ := h_late matching 9
  refine task_then h h₇ fun resumed _ h => check_then h h₈ (task_then h h₈ fun final _ h => ?_)
  refine ofOption_then h h₉ fun _ => check_then h h₉ (ask_then rfl h h₉ fun _ _ h => ?_)
  exact ask_then rfl h h₉ fun _ _ h => h.stops h₉

/-- The calls that `NativeRun.run` of a SQL fixture makes before it goes on from its baseline. -/
def fixtureCalls (fixture : Json String) : List Call :=
  [{ name := .bootstrap }, { name := .verify }, { name := .baseline }, { name := .control },
    { name := .receipt, extra := some { fixtureJson := some fixture } },
    { name := .receipt, extra := some { fixtureJson := some fixture } }, { name := .verify }]

/-- Calls that are distinct exactly while there are fewer than `n`. -/
def DistinctBelow (n : ℕ) (calls : List Call) : Prop := calls.Nodup ↔ calls.length < n

/-- The first six calls of the fixture are different. -/
theorem distinctBelow_take_fixtureCalls (fixture : Json String) :
    ∀ n, DistinctBelow 6 ((fixtureCalls fixture).take n)
  | 0 | 1 | 2 | 3 | 4 | 5 | 6 => by simp [DistinctBelow, fixtureCalls]
  | _ + 7 => by simp [DistinctBelow, fixtureCalls]

/-- So they are with any calls behind them. -/
theorem distinctBelow_fixtureCalls_append (fixture : Json String) (made : List Call) :
    DistinctBelow 6 (fixtureCalls fixture ++ made) := by
  refine iff_of_false (fun h => ?_) ?_
  · have h_early := h.of_append_left
    simp [fixtureCalls] at h_early
  · simp [fixtureCalls]

/-- The first three calls of the retained recovery are different. -/
theorem distinctBelow_retainedCalls (restored : Database) :
    ∀ made, made <+: retainedCalls restored → DistinctBelow 3 made := by
  intro made h_made
  rw [List.prefix_iff_eq_take] at h_made
  rw [h_made]
  rcases made with _ | ⟨_, _ | ⟨_, _ | ⟨_, made⟩⟩⟩ <;>
    simp [DistinctBelow, retainedCalls, verification]

/-- The calls of a run with the fixture. -/
theorem runFixture_calls (h_fixture : m.application = false) :
    (run m).Ensures (fun _ => Stops m (DistinctBelow 6)) (Stops m (DistinctBelow 6)) [] := by
  have h : Evidence m [] [] := ⟨[], rfl, .nil⟩
  have h_early := distinctBelow_take_fixtureCalls .null
  have h₀ := h_early 0
  have h₁ := h_early 1
  have h₂ := h_early 2
  have h₃ := h_early 3
  have h₄ := h_early 4
  unfold run
  rw [h_fixture]
  refine ask_then rfl h h₀ fun _ _ h => ask_then rfl h h₀ fun _ _ h => ?_
  refine task_then h h₀ fun _ _ h => task_then h h₁ fun initial _ h => check_then h h₂ ?_
  refine task_then h h₂ fun started _ h => ofOption_then h h₃ fun _ => ?_
  refine ask_then rfl h h₃ fun baseline _ h => ?_
  refine silent_then (silent_windowWait baseline) h h₃ fun _ _ h => ?_
  refine task_then h h₃ fun fixture _ h => task_then h h₄ fun receipt _ h => ?_
  have h_late := distinctBelow_take_fixtureCalls fixture
  have h₅ := h_late 5
  have h₆ := h_late 6
  have h₇ := h_late 7
  refine task_then h h₅ fun replay _ h => check_then h h₆ (task_then h h₆ fun good _ h => ?_)
  refine check_then h h₇ (recoverFromBaseline_calls h fun made => ?_)
  exact distinctBelow_fixtureCalls_append fixture made

/-! ### Freshness -/

/-- The three workflows. -/
inductive Workflow
  | run
  /-- `RetainedRecovery.execute`, on its own. -/
  | retained (baseline : Instant)
  | application

/-- The program of the workflow. -/
def Workflow.program (m : Manifest) : Workflow → Controller Status
  | run => Native.run m
  | retained baseline => executeRetained m baseline
  | application => executeApplication m

/-- Which call of the workflow repeats an earlier one for the first time. -/
def Workflow.firstRepeat (m : Manifest) : Workflow → Option ℕ
  | run => if m.application then none else some 6
  | retained _ => some 3
  | application => none

/-- The history of a run against a provider, from the start. -/
def Provider.history (p : Provider) (m : Manifest) (w : Workflow) : History :=
  ((w.program m).run p.answer []).2

/-- The calls of a run are distinct until the first that the workflow repeats. -/
def Workflow.Distinct (m : Manifest) (w : Workflow) (calls : List Call) : Prop :=
  calls.Nodup ↔ ∀ n ∈ w.firstRepeat m, calls.length < n

/-- A workflow without a repeated call has different calls. -/
theorem Workflow.distinct_of_none {w : Workflow} (h : w.firstRepeat m = none) :
    w.Distinct m = List.Nodup := by
  ext calls
  simp [Distinct, h]

/-- A workflow with a repeated call has different calls before it. -/
theorem Workflow.distinct_of_some {w : Workflow} {n : ℕ} (h : w.firstRepeat m = some n) :
    w.Distinct m = DistinctBelow n := by
  ext calls
  simp [Distinct, DistinctBelow, h]

/-- Wherever a workflow stops, its calls are those that it makes. -/
theorem Workflow.stops (m : Manifest) (w : Workflow) :
    (w.program m).Ensures (fun _ => Stops m (w.Distinct m)) (Stops m (w.Distinct m)) [] := by
  cases w with
  | run =>
    cases h_application : m.application with
    | true =>
      have h_never : Workflow.run.firstRepeat m = none := if_pos h_application
      rw [distinct_of_none h_never, program, Native.run, if_pos h_application]
      exact executeApplication_calls
    | false =>
      have h_sixth : Workflow.run.firstRepeat m = some 6 := by rw [firstRepeat, h_application]; rfl
      rw [distinct_of_some h_sixth]
      exact runFixture_calls h_application
  | retained baseline =>
    rw [distinct_of_some rfl]
    exact executeRetained_calls ⟨[], rfl, .nil⟩ distinctBelow_retainedCalls
  | application =>
    rw [distinct_of_none rfl]
    exact executeApplication_calls

/-- **Freshness of the evidence.** The results of distinct calls of `task` come from distinct
ECS tasks exactly in the runs that end before a call is repeated. -/
theorem evidence_fresh_iff (p : Provider) (m : Manifest) (w : Workflow) :
    (references (p.history m w)).Nodup ↔
      ∀ n ∈ w.firstRepeat m, (references (p.history m w)).length < n := by
  have h_stops : Stops m (w.Distinct m) (p.history m w) := by
    rcases (w.stops m).run p.answer with ⟨_, -, h_stops⟩ | ⟨-, h_stops⟩ <;> exact h_stops
  obtain ⟨calls, h_evidence, h_distinct⟩ := h_stops
  rw [h_evidence.nodup_iff (p.consistent _), h_evidence.length_eq]
  exact h_distinct

end Workflows

/-! ### A run that repeats -/

/-- The tasks that an exchange has launched. -/
def launchedTasks : Exchange Question Question.Answer → List Arn
  | ⟨.runTask _, some launch⟩ => launch.tasks
  | _ => []

/-- A task that no launch of the history names. -/
def unused (history : History) : Arn := (history.flatMap launchedTasks).sum + 1

/-- A task of a launch has a number that was used. -/
theorem Launches.lt_unused {history : History} {request : RunTask} {launch : Launch} {arn : Arn}
    (h : Launches history request launch) (h_arn : arn ∈ launch.tasks) : arn < unused history := by
  have h_mem : arn ∈ history.flatMap launchedTasks := List.mem_flatMap.mpr ⟨_, h, h_arn⟩
  exact Nat.lt_succ_of_le (List.single_le_sum (fun n _ => Nat.zero_le n) arn h_mem)

/-- The provider that launches one new task for every new request, and answers any other
question as `others` does. -/
def Provider.launching (others : Environment Question Question.Answer) : Provider where
  answer history q :=
    match q with
    | .runTask request =>
      match launched history request with
      | some earlier => some (some earlier)
      | none => some (some ⟨[unused history], false⟩)
    | q => others history q
  again h_launched h_answer := by
    simp only [h_launched, Option.some.injEq] at h_answer
    exact h_answer.symm
  fresh h_launched h_answer other earlier h_earlier := by
    simp only [h_launched, Option.some.injEq] at h_answer
    subst h_answer
    intro arn h_new h_old
    obtain rfl := List.mem_singleton.mp h_new
    exact (h_earlier.lt_unused h_old).false

/-- A manifest of the SQL fixture. -/
def fixtureManifest : Manifest where
  acceptanceWorkflow := .sqlFixture
  retained := false
  run := "acceptance1"
  cluster := "arn:aws:ecs:us-east-2:123456789012:cluster/csa-native-acceptance1"
  tasks name := "csa-native-acceptance1-" ++ name.text ++ ":1"
  taskSubnet := "subnet-1"
  taskGroups name := "sg-" ++ name.text
  image := ⟨"csa-native-acceptance1", "sha256:0"⟩
  controlDb := "csa-native-acceptance1-control"
  downstreamDb := "csa-native-acceptance1-receipts"
  application_retained := nofun

/-- The request that has launched a task. -/
def requestOf (arn : Arn) : Exchange Question Question.Answer → Option RunTask
  | ⟨.runTask request, some launch⟩ => if arn ∈ launch.tasks then some request else none
  | _ => none

/-- The output of every task: ledgers that are empty, and a receipt of one effect. -/
def output : Json String :=
  .object [("safe_to_resume", .bool true), ("local_intents", .integer 0),
    ("remote_effects", .integer 0), ("baseline_at", .string "2026-01-01T00:00:00+00:00"),
    ("effects", .integer 1)]

/-- Providers for which every task runs as it should. -/
def smooth : Environment Question Question.Answer := fun history q =>
  match q with
  | .gate | .separateDatabases | .archive _ _ _ | .record _ => some ()
  | .listTasks _ => some false
  | .describeTaskDefinition definition =>
    ([.bootstrap, .baseline, .control, .receipt, .verify].find?
      (fixtureManifest.tasks · = definition)).map fun name => [fixtureManifest.container name]
  | .fromisoformat _ => some ⟨true, 0⟩
  | .waitStopped _ => some true
  | .describeTasks arn =>
    (history.findSome? (requestOf arn)).map fun request =>
      [⟨arn, "STOPPED", request.taskDefinition, [⟨some 0, fixtureManifest.image.digest⟩]⟩]
  | .logEvents _ _ => some (some [some output])
  | _ => none

/-- A run of the SQL fixture: the replayed receipt and the second verification come from the
tasks of the first ones. -/
theorem replay_not_fresh :
    ¬ ∀ (p : Provider) (m : Manifest) (w : Workflow), (references (p.history m w)).Nodup := by
  intro h
  have h_run : ¬ (references ((Provider.launching smooth).history fixtureManifest .run)).Nodup := by
    decide +kernel
  exact h_run (h _ _ _)

end ControlPlane.Native
