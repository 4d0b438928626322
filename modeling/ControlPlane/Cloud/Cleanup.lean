import ControlPlane.Cloud.Archive
import ControlPlane.Framework.Embed

/-!
# The order of the cleanup

`users` says which kinds of resources may still use one of a kind, and `Permits` which calls a row
allows at all. Whatever AWS answers, every call of `cleanup_pass` that changes something is about a
row of its inventory that permits it, and the inventory has no row of a kind that may still use the
resource (`cleanupPass_ordered`). What a row decides is decided before anything is asked, so the
proof is one case for each kind; the archive of the logs changes nothing.
-/

namespace ControlPlane.Cleanup

open Framework
open Dialogue (Only only_pure only_check only_call only_ite only_each)

/-! ### Users and permissions -/

/-- The kinds that may still use a resource of this kind. -/
def users : Kind → List Kind
  | .task => []
  | .logGroup | .dbSubnetGroup | .dbParameterGroup => [.task, .database]
  | .eni => [.task, .database, .endpoint]
  | .routeTable => [.task, .endpoint]
  | .securityGroup | .subnet => [.task, .database, .endpoint, .eni]
  | .vpc => [.task, .database, .endpoint, .eni, .subnet, .securityGroup]
  | .key => [.task, .database, .backup, .snapshot]
  | _ => [.task]

/-- The permissions that a group grants in a direction. -/
def Row.permissions (row : Row) : Direction → List (Json String)
  | .ingress => row.ingress
  | .egress => row.egress

/-- The calls that a row allows. -/
def Permits (row : Row) : Mutation → Prop
  | .stopTask cluster => cluster = row.cluster
  | .unprotect => row.protected_ = true ∧ row.state ≠ "deleting"
  -- no database that is protected, or that is not available
  | .deleteDbInstance => row.protected_ = false ∧ row.state = "available"
  | .deleteDbSnapshot => row.state = "available"
  | .deleteDbInstanceAutomatedBackup => row.state = "retained" ∧ row.runTagVerified = true
  -- no secret that RDS manages
  | .deleteSecret => row.state = "active" ∧ row.managed = false
  | .deleteNetworkInterface => row.requesterManaged = false
  -- no main route table
  | .deleteRouteTable => ∀ association ∈ row.associations, association.main = false
  | .revoke direction permissions => permissions = row.permissions direction ∧ permissions ≠ []
  | .deregisterTaskDefinition => row.state = "ACTIVE"
  | .deleteTaskDefinitions => row.state ≠ "ACTIVE" ∧ row.state ≠ "DELETE_IN_PROGRESS"
  | .scheduleKeyDeletion => row.state ≠ "PendingDeletion"
  | _ => True

/-- What a call is about: the resource of the row, or an association of it that is not main. -/
def Targets (row : Row) (resource : String) : Mutation → Prop
  | .disassociateRouteTable => ∃ association ∈ row.associations, association.main = false ∧
      resource = association.routeTableAssociationId
  | _ => resource = row.id

/-- A call that the row allows, of its own kind, when nothing listed may still use it. -/
structure Warranted (kinds : List Kind) (row : Row) (mutation : Mutation) (resource : String) :
    Prop where
  kind : mutation.kind = row.kind
  targets : Targets row resource mutation
  permits : Permits row mutation
  unused : ∀ user ∈ users row.kind, user ∉ kinds

/-- A question that changes nothing but what is warranted. -/
abbrev Proper (kinds : List Kind) (row : Row) (q : Question) : Prop :=
  ∀ mutation resource, q = .mutate mutation resource → Warranted kinds row mutation resource

variable {kinds : List Kind} {row : Row}

/-- `without` says that none of the others is there. -/
theorem without_iff {others : List Kind} :
    without kinds others = true ↔ ∀ user ∈ others, user ∉ kinds := by
  rw [without, List.all_eq_true]
  exact forall₂_congr fun user _ => decide_eq_true_iff

/-- With the tasks gone, the test of a kind is that its users are. -/
theorem unused_of_without {others : List Kind} (h_task : Kind.task ∉ kinds)
    (h_users : users row.kind = .task :: others) (h : without kinds others = true) :
    ∀ user ∈ users row.kind, user ∉ kinds := by
  rw [h_users]
  intro user h_user
  rcases List.mem_cons.mp h_user with rfl | h_other
  · exact h_task
  · exact without_iff.mp h user h_other

/-! ### The calls of a row -/

section Calls

variable {mutation : Mutation}

/-- A warranted change is proper. -/
theorem proper_mutate {resource : String} (h : Warranted kinds row mutation resource) :
    Proper kinds row (.mutate mutation resource) := by
  rintro _ _ ⟨⟩
  exact h

/-- `act`, where it is warranted. -/
theorem only_act (h : Warranted kinds row mutation row.id) :
    Only (Proper kinds row) (act mutation row) :=
  (only_call (proper_mutate h)).bind fun _ => only_pure true

/-- `actFully`, where it is warranted. -/
theorem only_actFully (h : Warranted kinds row mutation row.id) :
    Only (Proper kinds row) (actFully mutation row) :=
  (only_call (proper_mutate h)).bind fun complete =>
    (only_check complete).bind fun _ => only_pure true

/-- `mutateEach`, where every change is warranted. -/
theorem only_mutateEach {resources : List String}
    (h : ∀ resource ∈ resources, Warranted kinds row mutation resource) :
    Only (Proper kinds row) (mutateEach mutation resources) :=
  only_each fun resource h_resource =>
    (only_call (proper_mutate (h resource h_resource))).bind fun _ => only_pure ()

variable (h_unused : ∀ user ∈ users row.kind, user ∉ kinds)

include h_unused

/-- A database is unprotected or deleted as its row says. -/
theorem only_deleteDatabase (h_kind : row.kind = .database) :
    Only (Proper kinds row) (deleteDatabase row) := by
  refine only_ite (fun _ => only_pure false) fun h_deleting => ?_
  refine only_ite (fun h_protected => ?_) fun h_protected => ?_
  · exact only_act ⟨h_kind.symm, rfl, ⟨h_protected, h_deleting⟩, h_unused⟩
  refine only_ite (fun h_available => ?_) fun _ => only_pure true
  rw [Bool.not_eq_true] at h_protected
  exact only_act ⟨h_kind.symm, rfl, ⟨h_protected, h_available⟩, h_unused⟩

/-- The logs are archived, then deleted. -/
theorem only_deleteLogs (h_kind : row.kind = .logGroup) :
    Only (Proper kinds row) (deleteLogs (some archiveLogs) row) := by
  have h_archive : Only (Proper kinds row) (archiveLogs row.id) :=
    (archiveLogs_adds row.id).imp
      (fun _ _ h mutation resource h_q => absurd h_q (h mutation resource))
      (fun _ _ _ => trivial) fun _ h => h
  refine Only.bind (h_archive.bind fun _ => only_pure ()) fun _ => ?_
  exact only_act ⟨h_kind.symm, rfl, trivial, h_unused⟩

/-- A route table loses its associations, then goes. -/
theorem only_deleteRouteTable (h_kind : row.kind = .routeTable) :
    Only (Proper kinds row) (deleteRouteTable row) := by
  refine Only.bind (only_mutateEach ?_) fun _ => ?_
  · intro resource h_resource
    obtain ⟨association, h_association, rfl⟩ := List.mem_map.mp h_resource
    rw [List.mem_filter, Bool.not_eq_true'] at h_association
    exact ⟨h_kind.symm, ⟨association, h_association.1, h_association.2, rfl⟩, trivial, h_unused⟩
  · refine only_ite (fun _ => only_pure true) fun h_main => ?_
    refine only_act ⟨h_kind.symm, rfl, fun association h_association => ?_, h_unused⟩
    rw [List.any_eq_true, not_exists] at h_main
    exact Bool.eq_false_iff.mpr fun h_is => h_main association ⟨h_association, h_is⟩

/-- The permissions of one direction are revoked. -/
theorem only_revokeAll (h_kind : row.kind = .securityGroup) (direction : Direction) :
    Only (Proper kinds row) (revokeAll direction (row.permissions direction) row) := by
  refine only_mutateEach fun resource h_resource => ?_
  -- there is a call only where the row has permissions of this direction
  split at h_resource
  next => exact absurd h_resource List.not_mem_nil
  next h_some =>
    exact ⟨h_kind.symm, List.mem_singleton.mp h_resource, ⟨rfl, h_some⟩, h_unused⟩

/-- A security group loses its permissions, then goes. -/
theorem only_deleteSecurityGroup (h_kind : row.kind = .securityGroup) :
    Only (Proper kinds row) (deleteSecurityGroup row) := by
  refine Only.bind (only_revokeAll h_unused h_kind .ingress) fun _ => ?_
  refine Only.bind (only_revokeAll h_unused h_kind .egress) fun _ => ?_
  exact only_act ⟨h_kind.symm, rfl, trivial, h_unused⟩

/-- A task definition is deregistered, then deleted. -/
theorem only_deleteTaskDefinition (h_kind : row.kind = .taskDefinition) :
    Only (Proper kinds row) (deleteTaskDefinition row) := by
  refine only_ite (fun _ => only_pure false) fun h_deleting => ?_
  -- an active revision is deregistered first
  refine only_ite (fun h_active => ?_) fun h_active => ?_
  · exact only_act ⟨h_kind.symm, rfl, h_active, h_unused⟩
  · exact only_actFully ⟨h_kind.symm, rfl, ⟨h_active, h_deleting⟩, h_unused⟩

/-- A role loses its policies, then goes. -/
theorem only_deleteRole (h_kind : row.kind = .role) : Only (Proper kinds row) (deleteRole row) := by
  have h_read : Proper kinds row (.listRolePolicies row.id) := nofun
  refine Only.bind (only_call h_read) fun policies => ?_
  refine Only.bind (only_each fun policy _ => ?_) fun _ => ?_
  · refine Only.bind (only_call (proper_mutate ?_)) fun _ => only_pure ()
    exact ⟨h_kind.symm, rfl, trivial, h_unused⟩
  · exact only_act ⟨h_kind.symm, rfl, trivial, h_unused⟩

end Calls

/-! ### The pass -/

/-- The handling by kind is proper where no task runs. -/
theorem handleKind_proper (h_task : Kind.task ∉ kinds) :
    Only (Proper kinds row) (handleKind (some archiveLogs) kinds row) := by
  unfold handleKind
  -- where the code tests nothing else, the tasks are the only users
  have h_alone (h_users : users row.kind = [.task]) : ∀ user ∈ users row.kind, user ∉ kinds :=
    unused_of_without h_task h_users rfl
  cases h_kind : row.kind with
  | task => exact only_pure false
  | database => exact only_deleteDatabase (h_alone (by rw [h_kind]; rfl)) h_kind
  | snapshot =>
    refine only_ite (fun h_available => ?_) fun _ => only_pure false
    exact only_act ⟨h_kind.symm, rfl, h_available, h_alone (by rw [h_kind]; rfl)⟩
  | backup =>
    refine only_ite (fun h_retained => ?_) fun _ => only_pure false
    refine Dialogue.guarded_check trivial fun h_verified => ?_
    exact only_act ⟨h_kind.symm, rfl, ⟨h_retained, h_verified⟩, h_alone (by rw [h_kind]; rfl)⟩
  | repository => exact only_act ⟨h_kind.symm, rfl, trivial, h_alone (by rw [h_kind]; rfl)⟩
  | secret =>
    refine only_ite (fun h_secret => ?_) fun _ => only_pure false
    rw [Bool.and_eq_true, decide_eq_true_iff, Bool.not_eq_true'] at h_secret
    exact only_act ⟨h_kind.symm, rfl, h_secret, h_alone (by rw [h_kind]; rfl)⟩
  -- here the code tests for the other users itself
  | logGroup =>
    refine only_ite (fun h_without => ?_) fun _ => only_pure false
    exact only_deleteLogs (unused_of_without h_task (by rw [h_kind]; rfl) h_without) h_kind
  | endpoint => exact only_actFully ⟨h_kind.symm, rfl, trivial, h_alone (by rw [h_kind]; rfl)⟩
  | eni =>
    refine only_ite (fun h_eni => ?_) fun _ => only_pure false
    rw [Bool.and_eq_true, Bool.not_eq_true'] at h_eni
    exact only_act ⟨h_kind.symm, rfl, h_eni.1,
      unused_of_without h_task (by rw [h_kind]; rfl) h_eni.2⟩
  | routeTable =>
    refine only_ite (fun h_without => ?_) fun _ => only_pure false
    exact only_deleteRouteTable (unused_of_without h_task (by rw [h_kind]; rfl) h_without) h_kind
  | securityGroup =>
    refine only_ite (fun h_without => ?_) fun _ => only_pure false
    exact only_deleteSecurityGroup (unused_of_without h_task (by rw [h_kind]; rfl) h_without)
      h_kind
  | subnet | vpc | dbSubnetGroup | dbParameterGroup =>
    refine only_ite (fun h_without => ?_) fun _ => only_pure false
    exact only_act ⟨h_kind.symm, rfl, trivial,
      unused_of_without h_task (by rw [h_kind]; rfl) h_without⟩
  | taskDefinition => exact only_deleteTaskDefinition (h_alone (by rw [h_kind]; rfl)) h_kind
  | cluster => exact only_act ⟨h_kind.symm, rfl, trivial, h_alone (by rw [h_kind]; rfl)⟩
  | role => exact only_deleteRole (h_alone (by rw [h_kind]; rfl)) h_kind
  | key =>
    refine only_ite (fun h_key => ?_) fun _ => only_pure false
    rw [Bool.and_eq_true, decide_eq_true_iff] at h_key
    exact only_act ⟨h_kind.symm, rfl, h_key.1,
      unused_of_without h_task (by rw [h_kind]; rfl) h_key.2⟩

/-- The handling of any row is proper. -/
theorem handleRow_proper : Only (Proper kinds row) (handleRow (some archiveLogs) kinds row) := by
  unfold handleRow
  refine only_ite (fun h_task => ?_) fun _ => ?_
  · refine only_act ⟨h_task.symm, rfl, rfl, ?_⟩
    rw [h_task]
    exact fun user h_user => absurd h_user List.not_mem_nil
  · exact only_ite (fun _ => only_pure false) fun h_task => handleKind_proper h_task

/-- A question of the pass is proper for one of the rows. -/
theorem handleRows_proper (report : Report) (rows : List Row) :
    Only (fun q => ∀ mutation resource, q = .mutate mutation resource →
      ∃ row ∈ rows, Warranted kinds row mutation resource)
      (handleRows (some archiveLogs) kinds report rows) := by
  -- the kinds are those of all rows, whatever is left to handle
  induction rows generalizing report with
  | nil => exact only_pure report
  | cons row rows ih =>
    have h_row : Only (Proper kinds row) (handleRow (some archiveLogs) kinds row).caught :=
      handleRow_proper.caught
    refine Only.bind ?_ fun handled => ?_
    · refine h_row.imp ?_ (fun _ _ h => h) fun _ h => h
      exact fun _ q h mutation resource h_q => ⟨row, List.mem_cons_self, h mutation resource h_q⟩
    · refine (ih (report.add row handled)).imp ?_ (fun _ _ h => h) fun _ h => h
      intro _ q h mutation resource h_q
      obtain ⟨other, h_other, h_warranted⟩ := h mutation resource h_q
      exact ⟨other, List.mem_cons_of_mem row h_other, h_warranted⟩

/-- Every call that changes something is about a resource of the inventory that permits it and that
nothing listed may still use. -/
def Ordered (rows : List Row) (history : History) : Prop :=
  ∀ mutation resource answer, (⟨.mutate mutation resource, answer⟩ : Exchange) ∈ history →
    ∃ row ∈ rows, Warranted (rows.map (·.kind)) row mutation resource

/-- **The order of the cleanup**, whatever AWS answers. -/
theorem cleanupPass_ordered (rows : List Row) (env : Environment) :
    Ordered rows ((cleanupPass (some archiveLogs) rows).outcome env []).2 := by
  intro mutation resource answer h_mem
  have h_proper : Only _ (cleanupPass (some archiveLogs) rows) := handleRows_proper {} rows
  exact h_proper.asked env _ h_mem mutation resource rfl

end ControlPlane.Cleanup
