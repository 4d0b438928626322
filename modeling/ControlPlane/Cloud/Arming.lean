import ControlPlane.Cloud.Guard
import ControlPlane.Model.Arming

/-!
# An armed guard, and its empty registry

Where `armed_gate` returns, the schedule and the watchdog that were described fit together: what the
watchdog reads of its environment is the run of the manifest, the schedule invokes it from the
deadline on, and then it goes to work, while an earlier invocation does nothing (`Watches`).

The empty registry is put in place at most once, and only behind that gate, where there was no
registry and AWS listed nothing of the run (`initializeRegistry_fresh`).
-/

namespace ControlPlane.Arming

open Framework
open Dialogue (Guarded Replies guarded_call guarded_check guarded_lastCheck guarded_ofOption)

/-- What the watchdog with these settings does, and when it is invoked. -/
structure Watches (m : Manifest) (schedule : Schedule) (s : Guard.Settings) : Prop where
  run : s.run = m.inventory
  valid : s.run.valid = true
  target : schedule.targetArn = m.watchdogArn
  hour : schedule.endDate = schedule.startDate + 3600 * second
  /-- Before the schedule begins, an invocation only reads the clock. -/
  early : ∀ (env : Guard.Environment) (now : ℤ), env [] .now = some (some now) →
    now < schedule.startDate →
    (Guard.handler s).outcome env [] = (.returned .armedNoMutation, [⟨.now, some now⟩])
  /-- A scheduled invocation goes to work. -/
  due : ∀ (env : Guard.Environment) (now : ℤ) (stored : Guard.Stored),
    env [] .now = some (some now) → schedule.startDate ≤ now →
    env [⟨.now, some now⟩] .getRegistry = some (some stored) →
    [⟨.now, some now⟩, ⟨.getRegistry, some stored⟩] <+: ((Guard.handler s).outcome env []).2

/-- What is behind the gate: a watchdog that was described and watches the run from a deadline on
which is at most three hours away, and a checker. -/
def Armed (fromisoformat : String → Option ℤ) (m : Manifest) (asked : History) : Prop :=
  ∃ plan now schedule function checker s,
    asked = [⟨.getCallerIdentity, some m.account⟩, ⟨.getAccountPlanState, some plan⟩,
      ⟨.now, some now⟩, ⟨.getSchedule m.schedule, some schedule⟩,
      ⟨.getFunctionConfiguration m.watchdog, some function⟩,
      ⟨.getFunctionConfiguration (m.tag ++ "-checker"), some checker⟩] ∧
    headroom m plan = true ∧ now < schedule.startDate ∧
    schedule.startDate ≤ now + 10800 * second ∧ observing m checker = true ∧
    settings fromisoformat function.environment = some s ∧ Watches m schedule s

variable {fromisoformat : String → Option ℤ} {m : Manifest}

theorem handler_early {s : Guard.Settings} {env : Guard.Environment} {now : ℤ}
    (h_now : env [] .now = some (some now)) (h : now < s.cleanupAt) :
    (Guard.handler s).outcome env [] = (.returned .armedNoMutation, [⟨.now, some now⟩]) := by
  rw [Guard.handler, Dialogue.outcome_call h_now, if_pos h]
  rfl

theorem handler_due {s : Guard.Settings} {env : Guard.Environment} {now : ℤ}
    {stored : Guard.Stored} (h_now : env [] .now = some (some now)) (h : s.cleanupAt ≤ now)
    (h_disposition : s.disposition = "discard_isolated_synthetic_state")
    (h_stored : env [⟨.now, some now⟩] .getRegistry = some (some stored)) :
    [⟨.now, some now⟩, ⟨.getRegistry, some stored⟩] <+: ((Guard.handler s).outcome env []).2 := by
  have h_check : Dialogue.check (ι := Guard.Question)
      (ρ := Replies Guard.Question.Reply) (s.disposition = "discard_isolated_synthetic_state") =
        pure () := by
    rw [h_disposition]
    rfl
  rw [Guard.handler, Dialogue.outcome_call h_now, if_neg (not_lt.mpr h), List.nil_append,
    Guard.clean, h_check]
  show _ <+: (Dialogue.outcome env (Dialogue.call .getRegistry >>= _) _).2
  rw [Dialogue.outcome_call h_stored]
  exact Dialogue.prefix_outcome _ env _

/-- The variables of a watchdog that is configured are its settings. -/
theorem settings_of_configured {function : FunctionConfiguration} {deadline : ℤ}
    (h : configured fromisoformat m deadline function = true) :
    settings fromisoformat function.environment =
      some ⟨m.inventory, deadline, "discard_isolated_synthetic_state"⟩ := by
  simp only [configured, Bool.and_eq_true, decide_eq_true_eq] at h
  obtain ⟨⟨⟨⟨-, h_run⟩, h_account⟩, h_deadline⟩, h_disposition⟩ := h
  simp [settings, h_run, h_account, h_deadline, h_disposition, Manifest.inventory]

theorem watches_of_checks {schedule : Schedule} {deadline : ℤ}
    (h_valid : m.inventory.valid = true) (h : scheduled m deadline schedule = true) :
    schedule.startDate = deadline ∧
      Watches m schedule ⟨m.inventory, deadline, "discard_isolated_synthetic_state"⟩ := by
  simp only [scheduled, Bool.and_eq_true, decide_eq_true_eq] at h
  obtain ⟨⟨⟨⟨⟨⟨-, h_target⟩, -⟩, -⟩, -⟩, rfl⟩, h_end⟩ := h
  exact ⟨rfl, rfl, h_valid, h_target, h_end, fun _ _ h_now h_early => handler_early h_now h_early,
    fun _ _ _ h_now h_due h_stored => handler_due h_now h_due rfl h_stored⟩

theorem accountGate_headroom : (accountGate m).Guarded (fun _ _ => True)
    (fun _ asked => Inventory.isAccount m.account = true ∧ ∃ plan,
      asked = [⟨.getCallerIdentity, some m.account⟩, ⟨.getAccountPlanState, some plan⟩] ∧
      headroom m plan = true) (fun _ => True) [] := by
  refine guarded_check trivial fun h_digits => guarded_call trivial trivial fun account => ?_
  refine guarded_check trivial fun h_account => guarded_call trivial trivial fun plan => ?_
  refine guarded_lastCheck trivial fun h_plan => ⟨h_digits, plan, ?_, h_plan⟩
  rw [of_decide_eq_true h_account]
  rfl

theorem armedGate_armed : (armedGate fromisoformat m).Guarded (fun _ _ => True)
    (fun _ => Armed fromisoformat m) (fun _ => True) [] := by
  refine accountGate_headroom.bind ?_
  rintro _ _ ⟨h_digits, plan, rfl, h_plan⟩
  refine guarded_ofOption trivial fun deadline _ => ?_
  refine guarded_call trivial trivial fun now => guarded_check trivial fun h_remaining => ?_
  refine guarded_check trivial fun h_run => guarded_check trivial fun _ => ?_
  refine guarded_call trivial trivial fun schedule => ?_
  refine guarded_call trivial trivial fun function => ?_
  refine guarded_check trivial fun _ => guarded_check trivial fun h_guard => ?_
  refine guarded_call trivial trivial fun checker => guarded_lastCheck trivial fun h_checker => ?_
  simp only [Bool.and_eq_true, decide_eq_true_eq] at h_remaining h_run h_guard
  -- the digits of the account come from the gate of the account
  have h_valid : m.inventory.valid = true := by
    rw [Inventory.Run.valid, Bool.and_eq_true]
    exact ⟨h_run.1, h_digits⟩
  -- the environment of the function, read as the function reads it
  obtain ⟨h_start, h_watches⟩ := watches_of_checks h_valid h_guard.1
  rw [← h_start] at h_remaining
  exact ⟨plan, now, schedule, function, checker, _, rfl, h_plan, Int.sub_pos.mp h_remaining.1,
    Int.le_add_of_sub_left_le h_remaining.2, h_checker,
    settings_of_configured (h_start ▸ h_guard.2), h_watches⟩

end ControlPlane.Arming

/-! ### The empty registry -/

namespace ControlPlane.Initialization

open Framework
open Arming (Manifest Armed armedGate armedGate_armed)
open Inventory (Inventoried)
open Dialogue (Guarded guarded_call guarded_check guarded_pure)

/-- Why the empty registry may be put in place: the guard is armed, there is no registry, and AWS
lists nothing of the run. -/
def Vacant (fromisoformat : String → Option ℤ) (m : Manifest) (before : History) : Prop :=
  ∃ gated asked, before = ofGate.history gated ++ [⟨.getRegistry, some .noSuchKey⟩] ++
      ofInventory.history asked ∧
    Armed fromisoformat m gated ∧ Inventoried m.inventory [] [] asked ∧
    ∀ kind id, ¬ Guard.Listed m.inventory (Inventory.owners [] []) asked kind id

/-- What is returned, and after what. -/
def Returns (fromisoformat : String → Option ℤ) (m : Manifest) : Status → History → Prop
  | .existingRegistryPreserved, history => ∃ gated length, Armed fromisoformat m gated ∧
    length ≤ 2000000 ∧ history = ofGate.history gated ++ [⟨.getRegistry, some (.found true length)⟩]
  | .emptyRegistryInitialized report, history => report.allResourcesAbsent = true ∧
    ∃ before version, Vacant fromisoformat m before ∧ history = before ++
      [⟨.putEmptyRegistry, some version⟩, ⟨.readVersion version, some "[]"⟩]

variable {fromisoformat : String → Option ℤ} {m : Manifest}

theorem vacant_of_inventoried {gated : Arming.History} {asked : Inventory.History}
    (h_armed : Armed fromisoformat m gated) (h_rows : Inventoried m.inventory [] [] asked) :
    Vacant fromisoformat m (ofGate.history gated ++ [⟨.getRegistry, some .noSuchKey⟩] ++
      ofInventory.history asked) := by
  refine ⟨gated, asked, rfl, h_armed, h_rows, fun kind id => ?_⟩
  rintro ⟨exchange, h_final, h_lists⟩
  obtain ⟨_, h_row, -⟩ := h_rows.exact.complete exchange kind id h_final h_lists
  exact absurd h_row List.not_mem_nil

theorem initializeEmpty_guarded {gated : Arming.History} (h_armed : Armed fromisoformat m gated) :
    (initializeEmpty m).Guarded
      (fun history q => q = .putEmptyRegistry → Vacant fromisoformat m history)
      (Returns fromisoformat m) (fun _ => True)
      (ofGate.history gated ++ [⟨.getRegistry, some .noSuchKey⟩]) := by
  refine guarded_check trivial fun _ => ?_
  refine (Inventory.collect_inventoried []).lift.andThen ?_ (fun _ _ => trivial) ?_
  · rintro _ _ ⟨_, _, -, rfl, -⟩
    exact nofun
  rintro rows _ ⟨asked, rfl, h_rows⟩
  refine guarded_check trivial fun h_empty => ?_
  obtain rfl := List.isEmpty_iff.mp h_empty
  have h_vacant := vacant_of_inventoried h_armed h_rows
  refine guarded_call (fun _ => h_vacant) trivial fun version => ?_
  refine guarded_call nofun trivial fun body => guarded_check trivial fun h_body => guarded_pure ?_
  refine ⟨rfl, _, version, h_vacant, ?_⟩
  rw [of_decide_eq_true h_body, List.append_assoc]
  rfl

/-- What holds of a run of `initialize_registry`. -/
structure Fresh (fromisoformat : String → Option ℤ) (m : Manifest)
    (run : Dialogue.Outcome Status × History) : Prop where
  /-- in particular nothing was put before -/
  vacant : ∀ before answer, before ++ [⟨.putEmptyRegistry, answer⟩] <+: run.2 →
    Vacant fromisoformat m before
  returns : ∀ status, run.1 = .returned status → Returns fromisoformat m status run.2

/-- **The registry is only put where it is new**, behind an armed guard, whatever is answered. -/
theorem initializeRegistry_fresh (fromisoformat : String → Option ℤ) (m : Manifest)
    (env : Environment) :
    Fresh fromisoformat m ((initializeRegistry fromisoformat m).outcome env []) := by
  have h : (initializeRegistry fromisoformat m).Guarded
      (fun history q => q = .putEmptyRegistry → Vacant fromisoformat m history)
      (Returns fromisoformat m) (fun _ => True) [] := by
    refine armedGate_armed.lift.andThen ?_ (fun _ _ => trivial) ?_
    · rintro _ _ ⟨_, _, -, rfl, -⟩
      exact nofun
    rintro _ _ ⟨gated, rfl, h_armed⟩
    refine guarded_check trivial fun _ => guarded_call nofun trivial fun existing => ?_
    cases existing with
    | found isList length =>
      refine guarded_check trivial fun h_found => guarded_pure ⟨gated, length, h_armed, ?_⟩
      simp only [Bool.and_eq_true, decide_eq_true_eq] at h_found
      obtain ⟨h_length, rfl⟩ := h_found
      exact ⟨h_length, rfl⟩
    | noSuchKey => exact initializeEmpty_guarded h_armed
  obtain ⟨-, h_allowed, h_returned, -⟩ := h.outcome env (Prod.eta _).symm
  exact ⟨fun before answer h_put => h_allowed before _ List.nil_prefix h_put rfl, h_returned⟩

end ControlPlane.Initialization
