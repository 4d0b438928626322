import ControlPlane.Cloud.Cleanup
import ControlPlane.Framework.Waning
import ControlPlane.Model.Inventory

/-!
# Repeated cleanup passes come to an end

What a row still has before it is its `phase`: a protected database is unprotected, deleted, and
then gone. The next call for a row is `decisive`; some rows have none and are left to AWS, such as a
database that is being deleted, or a secret that goes with its database. `blockers` are the kinds
that must be gone first, and they go up a rank, so that some row is always free to go
(`exists_unblocked`).

`Settles` is what is asked of AWS between two passes: no row goes back, a call that was answered has
its effect, and what is left to AWS comes nearer to its end once its blockers are gone. A pass is
*clean* if it ends without a failure. After as many clean passes as the phases of the first
inventory, in any order with others that fail or are cut short, the public report says that no
active resource is left (`cleanup_converges`).
-/

namespace ControlPlane.Cleanup

open Framework
open Dialogue (Guarded guarded_call guarded_check guarded_pure guarded_raise)

/-! ### Phases -/

/-- How far a row is from being done with. -/
def phase (row : Row) : ℕ :=
  match row.kind with
  | .database =>
    if row.state = "deleting" then 1
    else if row.protected_ then 4
    else if row.state = "available" then 2 else 3
  | .snapshot => if row.state = "available" then 1 else 2
  | .backup => if row.state = "retained" then 1 else 2
  | .secret => if row.state = "pending_deletion" then 0 else 1
  | .taskDefinition =>
    if row.state = "DELETE_IN_PROGRESS" then 0 else if row.state = "ACTIVE" then 2 else 1
  | .key => if row.state = "PendingDeletion" then 0 else 1
  | _ => 1

/-- The call that brings a row nearer to its end, if the pass has one. -/
def decisive (row : Row) : Option Mutation :=
  match row.kind with
  | .task => some (.stopTask row.cluster)
  | .database =>
    if row.state = "deleting" then none
    else if row.protected_ then some .unprotect
    else if row.state = "available" then some .deleteDbInstance else none
  | .snapshot => if row.state = "available" then some .deleteDbSnapshot else none
  | .backup => if row.state = "retained" then some .deleteDbInstanceAutomatedBackup else none
  | .repository => some .deleteRepository
  | .secret => if row.state = "active" && !row.managed then some .deleteSecret else none
  | .logGroup => some .deleteLogGroup
  | .endpoint => some .deleteVpcEndpoints
  | .eni => if row.requesterManaged then none else some .deleteNetworkInterface
  | .routeTable => if row.associations.any (·.main) then none else some .deleteRouteTable
  | .securityGroup => some .deleteSecurityGroup
  | .subnet => some .deleteSubnet
  | .vpc => some .deleteVpc
  | .dbSubnetGroup => some .deleteDbSubnetGroup
  | .dbParameterGroup => some .deleteDbParameterGroup
  | .taskDefinition =>
    if row.state = "DELETE_IN_PROGRESS" then none
    else if row.state = "ACTIVE" then some .deregisterTaskDefinition
    else some .deleteTaskDefinitions
  | .cluster => some .deleteCluster
  | .role => some .deleteRole
  | .key => if row.state = "PendingDeletion" then none else some .scheduleKeyDeletion

/-- What a row that is left to AWS goes with. -/
def owners : Kind → List Kind
  | .secret | .backup => [.database]
  | .eni => [.database, .endpoint]
  | .routeTable => [.vpc]
  | _ => []

/-- The kinds that must be gone before a row can come nearer to its end. -/
def blockers (row : Row) : List Kind :=
  if (decisive row).isSome then users row.kind else owners row.kind

/-- No kind blocks one that does not have the higher rank. -/
def rank : Kind → ℕ
  | .task => 0
  | .database | .snapshot | .endpoint | .repository | .taskDefinition | .cluster | .role => 1
  | .backup | .secret | .logGroup | .eni | .dbSubnetGroup | .dbParameterGroup => 2
  | .securityGroup | .subnet | .key => 3
  | .vpc => 4
  | .routeTable => 5

/-- A user of a kind ranks lower. -/
theorem rank_lt_of_users {kind user : Kind} (h : user ∈ users kind) : rank user < rank kind := by
  cases kind <;> revert user <;> decide

/-- An owner of a kind ranks lower. -/
theorem rank_lt_of_owners {kind owner : Kind} (h : owner ∈ owners kind) :
    rank owner < rank kind := by
  cases kind <;> revert owner <;> decide

/-- So whatever blocks a row ranks lower than it. -/
theorem rank_lt_of_blockers {row : Row} {kind : Kind} (h : kind ∈ blockers row) :
    rank kind < rank row.kind := by
  unfold blockers at h
  split at h
  · exact rank_lt_of_users h
  · exact rank_lt_of_owners h

/-- What blocks another row counts as long as it is listed. -/
theorem phase_ne_zero_of_blocker {row other : Row} (h : other.kind ∈ blockers row) :
    phase other ≠ 0 := by
  have h_blocks : other.kind ≠ .secret ∧ other.kind ≠ .taskDefinition ∧ other.kind ≠ .key := by
    unfold blockers at h
    split at h
    · cases h_kind : row.kind <;> rw [h_kind] at h <;> revert h <;> cases other.kind <;> decide
    · cases h_kind : row.kind <;> rw [h_kind] at h <;> revert h <;> cases other.kind <;> decide
  obtain ⟨h_secret, h_definition, h_key⟩ := h_blocks
  unfold phase
  split <;> first | contradiction | skip
  all_goals (repeat' split) <;> decide

/-! ### A clean pass makes the decisive calls -/

/-- The call was answered, and nothing was reported as undone where that is looked at. -/
def Carried (history : History) (mutation : Mutation) (resource : String) : Prop :=
  ∃ reply, (⟨.mutate mutation resource, some reply⟩ : Exchange) ∈ history ∧
    (mutation = .deleteVpcEndpoints ∨ mutation = .deleteTaskDefinitions → reply = true)

variable {kinds : List Kind} {row : Row} {mutation : Mutation}

/-- The program ends with the call carried out. -/
abbrev Carries (mutation : Mutation) (row : Row) (x : Controller Bool) : Prop :=
  x.Guarded (fun _ _ => True) (fun _ stretch => Carried stretch mutation row.id)
    (fun _ => True) []

/-- `act` carries out its change, unless the change may be incomplete. -/
theorem carries_act (h : mutation ≠ .deleteVpcEndpoints ∧ mutation ≠ .deleteTaskDefinitions) :
    Carries mutation row (act mutation row) := by
  refine guarded_call trivial trivial fun reply => guarded_pure ⟨reply, List.mem_cons_self, ?_⟩
  rintro (rfl | rfl)
  · exact absurd rfl h.1
  · exact absurd rfl h.2

/-- `actFully` carries it out even then. -/
theorem carries_actFully : Carries mutation row (actFully mutation row) := by
  refine guarded_call trivial trivial fun reply => guarded_check trivial fun h_reply => ?_
  exact guarded_pure ⟨reply, List.mem_cons_self, fun _ => h_reply⟩

/-- What comes before the last part does not matter. -/
theorem carries_behind {α : Type} {x : Controller α} {f : α → Controller Bool}
    (h : ∀ result, Carries mutation row (f result)) : Carries mutation row (x >>= f) := by
  refine (Dialogue.guarded_ends x).andThen (fun _ _ _ => trivial) (fun _ _ => trivial) ?_
  intro result earlier _
  refine (h result).after (fun _ _ _ => trivial) ?_ fun _ _ => trivial
  rintro _ stretch ⟨reply, h_mem, h_reply⟩
  exact ⟨reply, List.mem_append_right earlier h_mem, h_reply⟩

section Tests

variable {test : Prop} [Decidable test] {next : Mutation} {x y : Controller Bool}

/-- The code has one call or another. -/
theorem carries_either {others : Option Mutation}
    (h : (if test then some next else others) = some mutation) (h_x : Carries next row x)
    (h_y : others = some mutation → Carries mutation row y) :
    Carries mutation row (if test then x else y) := by
  split at h
  next h_test =>
    obtain rfl := Option.some.inj h
    rw [if_pos h_test]
    exact h_x
  next h_test =>
    rw [if_neg h_test]
    exact h_y h

/-- The test of the code is the test for the decisive call. -/
theorem carries_if (h : (if test then some next else none) = some mutation)
    (h_x : Carries next row x) : Carries mutation row (if test then x else y) :=
  carries_either h h_x nofun

/-- The code passes the row over where there is no decisive call. -/
theorem carries_else {others : Option Mutation}
    (h : (if test then none else others) = some mutation)
    (h_y : others = some mutation → Carries mutation row y) :
    Carries mutation row (if test then x else y) := by
  split at h
  next => cases h
  next h_test =>
    rw [if_neg h_test]
    exact h_y h

end Tests

/-- What decides about a row is carried out where nothing uses it. -/
theorem handleKind_carries (h_unused : ∀ user ∈ users row.kind, user ∉ kinds)
    (h : decisive row = some mutation) (h_task : row.kind ≠ .task) :
    Carries mutation row (handleKind (some archiveLogs) kinds row) := by
  -- the code tests some of the users, all of which are gone
  have h_without (others : List Kind) (h_users : others ⊆ users row.kind) :
      without kinds others = true :=
    without_iff.mpr fun user h_user => h_unused user (h_users h_user)
  have h_only : ∀ {next : Mutation}, next ≠ .deleteVpcEndpoints ∧ next ≠ .deleteTaskDefinitions →
      Carries next row (act next row) := carries_act
  unfold decisive at h
  unfold handleKind
  cases h_kind : row.kind with
  | task => exact absurd h_kind h_task
  -- the chain of tests in the code is the one in `decisive`
  | database =>
    simp only [h_kind] at h
    refine carries_else h fun h => carries_either h (h_only ⟨nofun, nofun⟩) fun h => ?_
    exact carries_if h (h_only ⟨nofun, nofun⟩)
  | snapshot =>
    simp only [h_kind] at h
    exact carries_if h (h_only ⟨nofun, nofun⟩)
  | backup =>
    simp only [h_kind] at h
    exact carries_if h (guarded_check trivial fun _ => h_only ⟨nofun, nofun⟩)
  | secret =>
    simp only [h_kind] at h
    exact carries_if h (h_only ⟨nofun, nofun⟩)
  | taskDefinition =>
    simp only [h_kind] at h
    refine carries_else h fun h => carries_either h (h_only ⟨nofun, nofun⟩) fun h => ?_
    obtain rfl := Option.some.inj h
    exact carries_actFully
  | eni =>
    simp only [h_kind, h_without [.database, .endpoint] (by rw [h_kind]; decide)] at h ⊢
    split at h
    next => cases h
    next h_requester =>
      obtain rfl := Option.some.inj h
      rw [if_pos (by simpa using h_requester)]
      exact h_only ⟨nofun, nofun⟩
  | key =>
    simp only [h_kind, h_without [.database, .backup, .snapshot] (by rw [h_kind]; decide)] at h ⊢
    split at h
    next => cases h
    next h_pending =>
      obtain rfl := Option.some.inj h
      rw [if_pos (by simpa using h_pending)]
      exact h_only ⟨nofun, nofun⟩
  -- from here on the code first reads or revokes something, or has only one call
  | routeTable =>
    simp only [h_kind, h_without [.endpoint] (by rw [h_kind]; decide), if_true] at h ⊢
    refine carries_behind fun _ => carries_else h fun h => ?_
    obtain rfl := Option.some.inj h
    exact h_only ⟨nofun, nofun⟩
  | logGroup =>
    rw [h_kind] at h
    obtain rfl := Option.some.inj h
    simp only [h_without [.database] (by rw [h_kind]; decide), if_true]
    exact carries_behind fun _ => h_only ⟨nofun, nofun⟩
  | securityGroup =>
    rw [h_kind] at h
    obtain rfl := Option.some.inj h
    simp only [h_without [.database, .endpoint, .eni] (by rw [h_kind]; decide), if_true]
    exact carries_behind fun _ => carries_behind fun _ => h_only ⟨nofun, nofun⟩
  | subnet =>
    rw [h_kind] at h
    obtain rfl := Option.some.inj h
    simp only [h_without [.database, .endpoint, .eni] (by rw [h_kind]; decide), if_true]
    exact h_only ⟨nofun, nofun⟩
  | vpc =>
    rw [h_kind] at h
    obtain rfl := Option.some.inj h
    simp only [h_without [.database, .endpoint, .eni, .subnet, .securityGroup]
      (by rw [h_kind]; decide), if_true]
    exact h_only ⟨nofun, nofun⟩
  | dbSubnetGroup | dbParameterGroup =>
    rw [h_kind] at h
    obtain rfl := Option.some.inj h
    simp only [h_without [.database] (by rw [h_kind]; decide), if_true]
    exact h_only ⟨nofun, nofun⟩
  | endpoint =>
    rw [h_kind] at h
    obtain rfl := Option.some.inj h
    exact carries_actFully
  | repository | cluster =>
    rw [h_kind] at h
    obtain rfl := Option.some.inj h
    exact h_only ⟨nofun, nofun⟩
  | role =>
    rw [h_kind] at h
    obtain rfl := Option.some.inj h
    exact carries_behind fun _ => carries_behind fun _ => h_only ⟨nofun, nofun⟩

/-- A task may use everything. -/
theorem task_mem_users {kind : Kind} (h : kind ≠ .task) : Kind.task ∈ users kind := by
  cases kind <;> first | exact absurd rfl h | decide

/-- So it is for every row, tasks included. -/
theorem handleRow_carries (h_unused : ∀ user ∈ users row.kind, user ∉ kinds)
    (h : decisive row = some mutation) :
    Carries mutation row (handleRow (some archiveLogs) kinds row) := by
  unfold handleRow
  by_cases h_task : row.kind = .task
  -- a task is stopped before anything else is looked at
  · rw [if_pos h_task]
    unfold decisive at h
    rw [h_task] at h
    obtain rfl := Option.some.inj h
    exact carries_act ⟨nofun, nofun⟩
  · rw [if_neg h_task, if_neg (h_unused .task (task_mem_users h_task))]
    exact handleKind_carries h_unused h h_task

/-- The decisive call of the row was carried out, if nothing listed may still use the resource. -/
def Advanced (kinds : List Kind) (history : History) (row : Row) : Prop :=
  ∀ mutation, decisive row = some mutation → (∀ user ∈ users row.kind, user ∉ kinds) →
    Carried history mutation row.id

/-- A row that has advanced has done so in any longer stretch. -/
theorem Advanced.append {stretch : History} (h : Advanced kinds stretch row)
    (before after : History) : Advanced kinds (before ++ stretch ++ after) row := by
  intro mutation h_decisive h_unused
  obtain ⟨reply, h_mem, h_reply⟩ := h mutation h_decisive h_unused
  exact ⟨reply, List.mem_append_left after (List.mem_append_right before h_mem), h_reply⟩

/-- Handling a row advances it. -/
theorem handleRow_advances :
    (handleRow (some archiveLogs) kinds row).Guarded (fun _ _ => True)
      (fun _ stretch => Advanced kinds stretch row) (fun _ => True) [] := by
  by_cases h : (decisive row).isSome ∧ ∀ user ∈ users row.kind, user ∉ kinds
  · obtain ⟨h_some, h_unused⟩ := h
    obtain ⟨mutation, h_decisive⟩ := Option.isSome_iff_exists.mp h_some
    -- the row has a decisive call, and nothing stands in its way
    refine (handleRow_carries h_unused h_decisive).imp (fun _ _ h => h) ?_ fun _ h => h
    intro _ stretch h_carried mutation' h_mutation' _
    obtain rfl := Option.some.inj (h_decisive.symm.trans h_mutation')
    exact h_carried
  · refine (Dialogue.guarded_ends _).imp (fun _ _ h => h) ?_ fun _ _ => trivial
    -- for any other row there is nothing to prove
    intro _ _ _ mutation h_mutation h_unused
    exact absurd ⟨Option.isSome_iff_exists.mpr ⟨mutation, h_mutation⟩, h_unused⟩ h

/-- A pass in which nothing fails advances every row. -/
theorem handleRows_advances (report : Report) (rows : List Row) :
    (handleRows (some archiveLogs) kinds report rows).Guarded (fun _ _ => True)
      (fun final stretch => final.failedKinds = [] → report.failedKinds = [] ∧
        ∀ row ∈ rows, Advanced kinds stretch row)
      (fun _ => False) [] := by
  induction rows generalizing report with
  | nil => exact guarded_pure fun h => ⟨h, nofun⟩
  | cons row rows ih =>
    have h_first : (handleRow (some archiveLogs) kinds row).Guarded (fun _ _ => True) _ _ [] :=
      handleRow_advances
    refine h_first.caught.bind fun handled stretch h_row => ?_
    refine (ih (report.add row handled)).after (fun _ _ h => h) ?_ fun _ h => h
    intro final later h_later h_final
    obtain ⟨h_report, h_rows⟩ := h_later h_final
    -- a row that fails is reported, so that the report tells
    cases handled with
    | none => exact absurd h_report (List.append_ne_nil_of_right_ne_nil _ (List.cons_ne_nil _ _))
    | some acted =>
      refine ⟨?_, fun other h_other => ?_⟩
      · cases acted <;> exact h_report
      rcases List.mem_cons.mp h_other with rfl | h_other
      · exact Advanced.append h_row [] later
      · simpa using (h_rows other h_other).append stretch []

/-! ### Pass after pass -/

/-- A pass, with what AWS answers in it. -/
structure Pass where
  env : Environment
  /-- It ends, and nothing has failed. -/
  clean : Bool

/-- The run of a pass. -/
abbrev Pass.run (pass : Pass) (rows : List Row) : Dialogue.Outcome Report × History :=
  (cleanupPass (some archiveLogs) rows).outcome pass.env []

/-- The rows that come nearer to their end before the next pass: those whose decisive call was
carried out, and those that are left to AWS once nothing is listed that they go with. -/
def Due (rows : List Row) (history : History) (row : Row) : Prop :=
  (∃ mutation, decisive row = some mutation ∧ Carried history mutation row.id) ∨
    (decisive row = none ∧ phase row ≠ 0 ∧ ∀ other ∈ rows, other.kind ∉ owners row.kind)

/-- A pass over the inventory, and what AWS makes of it until the next one. -/
structure Settles (rows : List Row) (pass : Pass) (next : List Row) : Prop where
  clean : pass.clean = true → ∃ report, (pass.run rows).1 = .returned report ∧
    report.failedKinds = []
  wanes : Wanes phase (Due rows (pass.run rows).2) rows next

/-- In a clean pass some row is due, if any counts. -/
theorem Settles.exists_due {rows next : List Row} {pass : Pass} (h : Settles rows pass next)
    (h_clean : pass.clean = true) (h_total : total phase rows ≠ 0) :
    ∃ row ∈ rows, Due rows (pass.run rows).2 row := by
  obtain ⟨report, h_report, h_failed⟩ := h.clean h_clean
  have h_rule : (cleanupPass (some archiveLogs) rows).Guarded _ _ _ [] :=
    handleRows_advances {} rows
  obtain ⟨-, -, h_returned, -⟩ := h_rule.outcome pass.env (Prod.eta _).symm
  obtain ⟨-, h_rows⟩ := h_returned report h_report h_failed
  -- the row with the least rank has nothing before it
  obtain ⟨row, h_row, h_counts, h_free⟩ := exists_unblocked
    (fun other row => other.kind ∈ blockers row) (fun row => rank row.kind)
    (fun _ _ h => rank_lt_of_blockers h) h_total
  have h_free : ∀ other ∈ rows, other.kind ∉ blockers row := fun other h_other h_blocks =>
    h_free other h_other (phase_ne_zero_of_blocker h_blocks) h_blocks
  refine ⟨row, h_row, ?_⟩
  cases h_decisive : decisive row with
  -- left to AWS: its blockers are what it goes with
  | none =>
    refine .inr ⟨h_decisive, h_counts, ?_⟩
    simpa [blockers, h_decisive] using h_free
  -- its blockers are the users of the resource
  | some mutation =>
    refine .inl ⟨mutation, h_decisive, h_rows row h_row mutation h_decisive fun user h_user => ?_⟩
    intro h_listed
    obtain ⟨other, h_other, rfl⟩ := List.mem_map.mp h_listed
    refine h_free other h_other ?_
    rwa [blockers, h_decisive]

/-! ### The public report -/

/-- The report counts what the phases count. -/
theorem activeResourcesAbsent_iff {rows : List Row} :
    (Inventory.publicReport rows).activeResourcesAbsent = true ↔ total phase rows = 0 := by
  rw [total_eq_zero]
  show rows.all (Inventory.dormant _) = true ↔ _
  rw [List.all_eq_true]
  constructor
  · intro h row h_row
    have h_dormant := h row h_row
    simp only [Inventory.dormant, Bool.or_eq_true, Bool.and_eq_true, decide_eq_true_eq] at h_dormant
    rcases h_dormant with (⟨h_kind, h_state⟩ | ⟨h_kind, h_state⟩) | ⟨⟨h_kind, h_state⟩, -⟩ <;>
      simp [phase, h_kind, h_state]
  · intro h row h_row
    -- no cluster and no task is listed, since each would count
    have h_runtime : (rows.any fun row => row.kind = .cluster || row.kind = .task) = false := by
      rw [List.any_eq_false]
      intro other h_other h_executes
      have h_other := h other h_other
      simp only [Bool.or_eq_true, decide_eq_true_eq] at h_executes
      rcases h_executes with h_kind | h_kind <;> simp [phase, h_kind] at h_other
    have h_row := h row h_row
    rw [h_runtime]
    -- only three kinds of rows can have no phase left
    unfold phase at h_row
    split at h_row
    next => repeat' split at h_row
            all_goals cases h_row
    next => split at h_row <;> cases h_row
    next => split at h_row <;> cases h_row
    next h_kind =>
      split at h_row
      next h_state => simp [Inventory.dormant, h_kind, h_state]
      next => cases h_row
    next h_kind =>
      split at h_row
      next h_state => simp [Inventory.dormant, h_kind, h_state]
      next => split at h_row <;> cases h_row
    next h_kind =>
      split at h_row
      next h_state => simp [Inventory.dormant, h_kind, h_state]
      next => cases h_row
    next => cases h_row

/-- **Repeated cleanup passes come to an end**: after as many clean passes as the phases of the
first inventory, whatever happens in the others, nothing active is reported. -/
theorem cleanup_converges {rows last : List Row} {passes : List Pass}
    (h : Leads Settles rows passes last)
    (h_enough : total phase rows ≤ passes.countP (·.clean)) :
    (Inventory.publicReport last).activeResourcesAbsent = true := by
  rw [activeResourcesAbsent_iff]
  -- no pass raises the sum, and a clean one lowers it
  refine leads_total (fun _ _ _ h => h.wanes.total_le) ?_ h h_enough
  exact fun items pass next h h_clean h_total =>
    h.wanes.total_lt (h.exists_due h_clean h_total)

/-! ### A task in its cluster -/

namespace Trial

/-- The cluster of a run. -/
def cluster : String := "arn:aws:ecs:us-east-2:123456789012:cluster/csa-native-rehearsal"

/-- A task in it. -/
def taskRow : Row := { kind := .task, id := "task/1", cluster := cluster }

/-- The cluster, as a row. -/
def clusterRow : Row := { kind := .cluster, id := cluster }

/-- Nothing fails. -/
def answers : (q : Question) → Option q.Reply
  | .describeLogStreams _ => some []
  | .getLogEvents _ _ _ => some ⟨[], "end"⟩
  | .putObject _ _ => some .stored
  | .getObject _ => some ""
  | .mutate _ _ => some true
  | .listRolePolicies _ => some []

/-- A pass with these answers. -/
def pass : Pass := ⟨Dialogue.steady answers, true⟩

/-- The first pass stops the task, and leaves the cluster alone. -/
theorem settles_task : Settles [taskRow, clusterRow] pass [clusterRow] where
  clean _ := ⟨_, rfl, rfl⟩
  wanes := by
    refine ⟨[none, some clusterRow], .refl _, .cons ⟨by decide, fun _ => by decide⟩
      (.cons ⟨by decide, ?_⟩ .nil)⟩
    rintro (⟨mutation, h_decisive, reply, h_mem, -⟩ | ⟨h_none, -⟩)
    · obtain rfl := Option.some.inj h_decisive
      rcases List.mem_singleton.mp h_mem with ⟨⟩
    · cases h_none

/-- Behind the cluster nothing is left. -/
theorem settles_cluster : Settles [clusterRow] pass [] where
  clean _ := ⟨_, rfl, rfl⟩
  wanes := ⟨[none], .refl _, .cons ⟨by decide, fun _ => by decide⟩ .nil⟩

end Trial

/-- So the cluster is cleared away. -/
theorem cleanup_converges_cluster :
    (Inventory.publicReport ([] : List Row)).activeResourcesAbsent = true :=
  @cleanup_converges [Trial.taskRow, Trial.clusterRow] [] [Trial.pass, Trial.pass]
    ⟨_, Trial.settles_task, _, Trial.settles_cluster, rfl⟩ (by decide)

end ControlPlane.Cleanup
