import ControlPlane.Cloud.Cleanup
import ControlPlane.Cloud.Inventory
import ControlPlane.Model.Guard

/-!
# The watchdog stays within its run

The inventory and the cleanup pass each have a rule of their own, for the questions that they ask.
In the handlers they are asked among others, and the rules are carried over by `Guarded.lift`.

Whatever AWS answers, the watchdog changes nothing before its deadline has passed, nor without the
disposition, and only after it has stored the registry and the inventory; and what it changes then
is a resource that the answers to its second inventory list as one of the run, which permits the
call and which nothing listed may still use (`handler_confined`).

The checker changes nothing at all. Where it reports that everything is absent no last answer lists
anything, and where it does not, some answer did (`checker_reports`).
-/

namespace ControlPlane.Guard

open Framework Registry
open Cleanup (Warranted)
open Inventory (Found Inventoried Run)
open Dialogue (Guarded Only guarded_call guarded_lastCall guarded_check guarded_pure guarded_ends)

/-! ### The parts -/

/-- A question of the inventory. -/
abbrev Reading (q : Question) : Prop := ∃ asked, q = .inventory asked

/-- An inventory, and the stretch of its questions. -/
def Collected (r : Run) (known : List Entry) (rows : List Found) (stretch : History) : Prop :=
  r.valid = true ∧ ∃ asked, stretch = ofInventory.history asked ∧ Inventoried r known rows asked

theorem collect_collected (r : Run) (known : List Entry) :
    (collect r known).Guarded (fun _ q => Reading q) (Collected r known) (fun _ => True) [] := by
  refine guarded_check trivial fun h_valid => ?_
  refine (Inventory.collect_inventoried known).lift.imp ?_ ?_ fun _ _ => trivial
  · rintro _ _ ⟨_, q, -, rfl, -⟩
    exact ⟨q, rfl⟩
  · rintro rows _ ⟨asked, rfl, h_rows⟩
    exact ⟨h_valid, asked, rfl, h_rows⟩

/-- A question of the pass over the rows, which changes only what is warranted. -/
def Passing (rows : List Found) (q : Question) : Prop :=
  ∃ asked, q = .cleanup asked ∧ ∀ mutation resource, asked = .mutate mutation resource →
    ∃ row ∈ rows, Warranted ((read rows).map (·.kind)) row.toRow mutation resource

/-- A pass over the rows that was run to its end, and the stretch of its questions. -/
def Passed (rows : List Found) (report : Cleanup.Report) (stretch : History) : Prop :=
  ∃ asked, stretch = ofCleanup.history asked ∧
    (Cleanup.cleanupPass (some Cleanup.archiveLogs) (read rows)).Ends (.returned report) asked

theorem cleanupPass_passed (rows : List Found) :
    ((Cleanup.cleanupPass (some Cleanup.archiveLogs) (read rows)).lift ofCleanup).Guarded
      (fun history q => (∃ asked, history = ofCleanup.history asked) ∧ Passing rows q)
      (Passed rows) (fun _ => True) [] := by
  have h_proper : Only _ (Cleanup.cleanupPass (some Cleanup.archiveLogs) (read rows)) :=
    Cleanup.handleRows_proper {} (read rows)
  refine (h_proper.and (guarded_ends _)).lift.imp ?_ ?_ fun _ _ => trivial
  · rintro _ _ ⟨asked, q, rfl, rfl, h_proper, -⟩
    refine ⟨⟨asked, rfl⟩, q, rfl, fun mutation resource h_q => ?_⟩
    obtain ⟨_, h_row, h_warranted⟩ := h_proper mutation resource h_q
    obtain ⟨row, h_found, rfl⟩ := List.mem_map.mp h_row
    exact ⟨row, h_found, h_warranted⟩
  · rintro report _ ⟨asked, rfl, -, h_ends⟩
    exact ⟨asked, rfl, h_ends⟩

/-! ### The watchdog -/

/-- What the watchdog has seen and stored before it begins its pass. -/
structure Preparation (s : Settings) where
  now : ℤ
  stored : Stored
  /-- The inventory that it stores. -/
  rows : List Found
  asked : Inventory.History
  /-- The inventory of the pass. -/
  again : List Found
  askedAgain : Inventory.History
  due : s.cleanupAt ≤ now
  disposition : s.disposition = "discard_isolated_synthetic_state"
  valid : s.run.valid = true
  first : Inventoried s.run stored.known rows asked
  second : Inventoried s.run stored.known again askedAgain

/-- All that was asked for it, and answered. -/
def Preparation.history {s : Settings} (p : Preparation s) : History :=
  [⟨.now, some p.now⟩, ⟨.getRegistry, some p.stored⟩] ++ ofInventory.history p.asked ++
    [⟨.putRegistry (values (keyed (p.stored.known ++ written p.rows))), some ()⟩,
      ⟨.putInventory (written p.rows), some ()⟩] ++ ofInventory.history p.askedAgain

/-- Why the watchdog may change a resource, after what was asked and answered before. -/
def Confined (s : Settings) (before : History) (mutation : Cleanup.Mutation)
    (resource : String) : Prop :=
  ∃ (p : Preparation s) (calls : Cleanup.History), before = p.history ++ ofCleanup.history calls ∧
    ∃ row ∈ p.again, Warranted ((read p.again).map (·.kind)) row.toRow mutation resource

/-- A question that changes nothing, or is confined. -/
def Allowed (s : Settings) (history : History) (q : Question) : Prop :=
  ∀ mutation resource, q = .cleanup (.mutate mutation resource) →
    Confined s history mutation resource

/-- What the watchdog returns, and after what. -/
def Returns (s : Settings) : Result → History → Prop
  | .armedNoMutation, history =>
    ∃ now, now < s.cleanupAt ∧ history = [⟨.now, some now⟩]
  | .cleaned report, history => report.failedKinds = [] ∧ ∃ (p : Preparation s) (pass : History),
    Passed p.again report pass ∧ history = p.history ++ pass ++
      [⟨.putCleanup report (Inventory.publicReport (read p.again)), some ()⟩,
        ⟨.invokeChecker, some ()⟩]

variable {s : Settings}

theorem Reading.allowed {history : History} {q : Question} (h : Reading q) :
    Allowed s history q := by
  obtain ⟨asked, rfl⟩ := h
  rintro _ _ ⟨⟩

/-- The pass, and what comes behind it. -/
theorem pass_guarded (p : Preparation s) :
    (do
      let report ← (Cleanup.cleanupPass (some Cleanup.archiveLogs) (read p.again)).lift ofCleanup
      let _ ← call (.putCleanup report (Inventory.publicReport (read p.again)))
      let _ ← call .invokeChecker
      Dialogue.check (report.failedKinds = [])
      pure (.cleaned report) : Controller Result).Guarded (Allowed s) (Returns s) (fun _ => True)
        p.history := by
  refine (cleanupPass_passed p.again).andThen ?_ (fun _ _ => trivial) fun report pass h_pass => ?_
  · rintro _ _ ⟨⟨calls, rfl⟩, asked, rfl, h_warranted⟩ mutation resource ⟨⟩
    exact ⟨p, calls, rfl, h_warranted mutation resource rfl⟩
  refine guarded_call nofun trivial fun _ => guarded_call nofun trivial fun _ => ?_
  refine guarded_check trivial fun h_failed => guarded_pure ?_
  exact ⟨of_decide_eq_true h_failed, p, pass, h_pass, by rw [List.append_assoc]; rfl⟩

theorem clean_guarded {now : ℤ} (h_due : s.cleanupAt ≤ now) :
    (clean s).Guarded (Allowed s) (Returns s) (fun _ => True) [⟨.now, some now⟩] := by
  refine guarded_check trivial fun h_disposition => ?_
  refine guarded_call nofun trivial fun stored => ?_
  refine (collect_collected s.run stored.known).andThen (fun _ _ h => h.allowed)
    (fun _ _ => trivial) ?_
  rintro rows _ ⟨h_valid, asked, rfl, h_rows⟩
  refine guarded_call nofun trivial fun _ => guarded_call nofun trivial fun _ => ?_
  refine (collect_collected s.run stored.known).andThen (fun _ _ h => h.allowed)
    (fun _ _ => trivial) ?_
  rintro again _ ⟨-, askedAgain, rfl, h_again⟩
  have h_history := pass_guarded ⟨now, stored, rows, asked, again, askedAgain, h_due,
    of_decide_eq_true h_disposition, h_valid, h_rows, h_again⟩
  simpa [Preparation.history] using h_history

theorem handler_guarded :
    (handler s).Guarded (Allowed s) (Returns s) (fun _ => True) [] := by
  refine guarded_call nofun trivial fun now => ?_
  split
  next h_early => exact guarded_pure ⟨now, h_early, rfl⟩
  next h_due => exact clean_guarded (not_lt.mp h_due)

/-- What holds of a run of the watchdog. -/
structure Stays (s : Settings) (run : Dialogue.Outcome Result × History) : Prop where
  /-- each change is confined, given what came before it -/
  confined : ∀ before mutation resource answer,
    before ++ [⟨.cleanup (.mutate mutation resource), answer⟩] <+: run.2 →
      Confined s before mutation resource
  returns : ∀ result, run.1 = .returned result → Returns s result run.2

/-- **The watchdog stays within its run**, whatever AWS answers. -/
theorem handler_confined (s : Settings) (env : Environment) :
    Stays s ((handler s).outcome env []) := by
  obtain ⟨-, h_allowed, h_returned, -⟩ := handler_guarded.outcome env (Prod.eta _).symm
  refine ⟨fun before mutation resource answer h => ?_, h_returned⟩
  exact h_allowed before _ List.nil_prefix h mutation resource rfl

/-! ### The checker -/

/-- What the checker may ask. -/
def Observing (q : Question) : Prop := q = .getRegistry ∨ Reading q ∨ ∃ report, q = .putCheck report

/-- The last answer to some question lists the resource as one of the run. -/
def Listed (r : Run) (owners : List String) (asked : Inventory.History) (kind : Cleanup.Kind)
    (id : String) : Prop :=
  ∃ exchange, Inventory.Final asked exchange ∧ Inventory.Lists r owners exchange kind id

/-- An answer of the invocation has this state for the resource. A resource of a kind that has no
state is present. -/
def Stated (r : Run) (owners : List String) (asked : Inventory.History) (kind : Cleanup.Kind)
    (id state : String) : Prop :=
  ∃ row, Inventory.Described r owners asked row ∧ row.kind = kind ∧ row.id = id ∧
    state = match kind with
      | .task | .repository | .logGroup | .dbSubnetGroup | .dbParameterGroup | .cluster | .role =>
        "present"
      | _ => row.state

/-- The resource is on its way out: a key or a secret that is to be deleted, or a task definition
that is being deleted where no cluster and no task is left that could run it. -/
def Leaving (r : Run) (owners : List String) (asked : Inventory.History) (kind : Cleanup.Kind)
    (id : String) : Prop :=
  (kind = .key ∧ Stated r owners asked kind id "PendingDeletion") ∨
  (kind = .secret ∧ Stated r owners asked kind id "pending_deletion") ∨
  (kind = .taskDefinition ∧ Stated r owners asked kind id "DELETE_IN_PROGRESS" ∧
    ∀ other, ¬ Listed r owners asked .cluster other ∧ ¬ Listed r owners asked .task other)

/-- What the checker reports of the answers that it got. -/
structure Reports (r : Run) (report : Inventory.PublicReport) (owners : List String)
    (asked : Inventory.History) : Prop where
  absent : report.allResourcesAbsent = true → ∀ kind id, ¬ Listed r owners asked kind id
  present : report.allResourcesAbsent = false →
    ∃ exchange ∈ asked, ∃ kind id, Inventory.Lists r owners exchange kind id
  /-- only what is already on its way out -/
  inactive : report.activeResourcesAbsent = true → ∀ kind id, Listed r owners asked kind id →
    Leaving r owners asked kind id
  /-- each resource with a state that it was answered to be in -/
  residuals : ∀ kind id, Listed r owners asked kind id →
    ∃ state, Stated r owners asked kind id state ∧ (kind, state) ∈ report.residuals
  /-- and nothing else -/
  shown : ∀ kind state, (kind, state) ∈ report.residuals →
    ∃ id, Stated r owners asked kind id state ∧
      ∃ exchange ∈ asked, Inventory.Lists r owners exchange kind id

/-- The state of a row is the one that it was answered to be in. -/
theorem stated_row {r : Run} {owners : List String} {asked : Inventory.History} {row : Found}
    (h : Inventory.Described r owners asked row) : Stated r owners asked row.kind row.id
      (if Inventory.hasState row.kind then row.state else "present") := by
  refine ⟨row, h, rfl, rfl, ?_⟩
  cases row.kind <;> rfl

/-- The inventory of inactive rows lists only what is on its way out. -/
theorem leaving_of_dormant {r : Run} {owners : List String} {rows : List Found}
    {asked : Inventory.History} (h : Inventory.Exact r owners [] Inventory.Nothing rows asked)
    (h_inactive : (Inventory.publicReport (read rows)).activeResourcesAbsent = true)
    {kind : Cleanup.Kind} {id : String} (h_listed : Listed r owners asked kind id) :
    Leaving r owners asked kind id := by
  obtain ⟨exchange, h_final, h_lists⟩ := h_listed
  obtain ⟨row, h_row, rfl, rfl⟩ := h.complete exchange kind id h_final h_lists
  have h_stated (h_has : Inventory.hasState row.kind = true) :
      Stated r owners asked row.kind row.id row.state := by
    have h_any := stated_row (h.described row h_row)
    rwa [if_pos h_has] at h_any
  have h_dormant := List.all_eq_true.mp h_inactive row.toRow (List.mem_map_of_mem h_row)
  simp only [Inventory.dormant, Bool.or_eq_true, Bool.and_eq_true, decide_eq_true_eq] at h_dormant
  -- a dormant row is a key, a secret or a task definition
  rcases h_dormant with (⟨h_kind, h_state⟩ | ⟨h_kind, h_state⟩) | ⟨⟨h_kind, h_state⟩, h_idle⟩
  · exact .inl ⟨h_kind, h_state ▸ h_stated (by rw [h_kind]; rfl)⟩
  · exact .inr (.inl ⟨h_kind, h_state ▸ h_stated (by rw [h_kind]; rfl)⟩)
  · -- what can execute a task would have a row
    have h_none : ∀ other ∈ rows, other.kind ≠ .cluster ∧ other.kind ≠ .task := by
      simpa [read] using h_idle
    refine .inr (.inr ⟨h_kind, h_state ▸ h_stated (by rw [h_kind]; rfl), fun other => ⟨?_, ?_⟩⟩)
    · rintro ⟨_, h_last, h_cluster⟩
      obtain ⟨found, h_found, h_is, -⟩ := h.complete _ _ _ h_last h_cluster
      exact (h_none found h_found).1 h_is
    · rintro ⟨_, h_last, h_task⟩
      obtain ⟨found, h_found, h_is, -⟩ := h.complete _ _ _ h_last h_task
      exact (h_none found h_found).2 h_is

theorem reports_publicReport {r : Run} {owners : List String} {rows : List Found}
    {asked : Inventory.History}
    (h : Inventory.Exact r owners [] Inventory.Nothing rows asked) :
    Reports r (Inventory.publicReport (read rows)) owners asked where
  absent h_absent kind id := by
    rintro ⟨exchange, h_final, h_lists⟩
    obtain ⟨row, h_row, -⟩ := h.complete exchange kind id h_final h_lists
    have h_none : read rows = [] := List.isEmpty_iff.mp h_absent
    exact List.ne_nil_of_mem (List.mem_map_of_mem h_row) h_none
  present h_present := by
    -- the report is of some row, and a row is what some answer lists
    obtain ⟨row, h_row⟩ : ∃ row, row ∈ rows := by
      refine List.exists_mem_of_ne_nil rows fun h_none => ?_
      rw [h_none] at h_present
      cases h_present
    rcases h.sound row.kind row.id ⟨row, h_row, rfl, rfl⟩ with h_none | ⟨exchange, h_mem, h_lists⟩
    · exact absurd h_none id
    · exact ⟨exchange, h_mem, _, _, h_lists⟩
  inactive h_inactive _ _ h_listed := leaving_of_dormant h h_inactive h_listed
  residuals kind id := by
    rintro ⟨exchange, h_final, h_lists⟩
    obtain ⟨row, h_row, rfl, rfl⟩ := h.complete exchange kind id h_final h_lists
    exact ⟨_, stated_row (h.described row h_row), List.mem_map_of_mem (List.mem_map_of_mem h_row)⟩
  shown kind state h_shown := by
    obtain ⟨_, h_read, h_residual⟩ := List.mem_map.mp h_shown
    obtain ⟨row, h_row, rfl⟩ := List.mem_map.mp h_read
    obtain ⟨rfl, rfl⟩ := Prod.mk.inj h_residual
    refine ⟨row.id, stated_row (h.described row h_row), ?_⟩
    exact (h.sound row.kind row.id ⟨row, h_row, rfl, rfl⟩).resolve_left id

/-- What holds of a run of the checker. -/
structure Observes (r : Run) (run : Dialogue.Outcome Inventory.PublicReport × History) : Prop where
  asks : ∀ exchange ∈ run.2, Observing exchange.1
  returns : ∀ report, run.1 = .returned report → ∃ stored rows asked,
    run.2 = ⟨.getRegistry, some stored⟩ :: ofInventory.history asked ++
      [⟨.putCheck report, some ()⟩] ∧
    Inventoried r stored.known rows asked ∧
    Reports r report (Inventory.owners stored.known rows) asked

theorem checker_guarded (r : Run) :
    (checker r).Guarded (fun _ q => Observing q) (fun report history => ∃ stored rows asked,
      history = ⟨.getRegistry, some stored⟩ :: ofInventory.history asked ++
        [⟨.putCheck report, some ()⟩] ∧
      Inventoried r stored.known rows asked ∧
      Reports r report (Inventory.owners stored.known rows) asked) (fun _ => True) [] := by
  refine guarded_call (.inl rfl) trivial fun stored => ?_
  refine (collect_collected r stored.known).andThen (fun _ _ h => .inr (.inl h))
    (fun _ _ => trivial) ?_
  rintro rows _ ⟨-, asked, rfl, h_rows⟩
  refine guarded_call (.inr (.inr ⟨_, rfl⟩)) trivial fun _ => guarded_pure ?_
  exact ⟨stored, rows, asked, rfl, h_rows, reports_publicReport h_rows.exact⟩

/-- **The checker only reports**, and reports what AWS lists. -/
theorem checker_reports (r : Run) (env : Environment) :
    Observes r ((checker r).outcome env []) := by
  obtain ⟨-, -, h_returned, -⟩ := (checker_guarded r).outcome env (Prod.eta _).symm
  exact ⟨(checker_guarded r).asked env, h_returned⟩

end ControlPlane.Guard
