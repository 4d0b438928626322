import ControlPlane.Framework.Hierarchy
import ControlPlane.Locking.Steps

/-!
# The order of the locks

The transactions do not lock in one order: `link` takes the advisory lock of the identities
before the gate row and `ingest` after it, `propose` has the gate row before the customer, and
the triggers of `finish` and `resolve` ask for it while they hold rows. What saves them is
that the gate row is shared by all of them, so a transaction that holds it is in nobody's way
but a coordinator's, and a coordinator holds nothing when it asks for the gate row and asks
for nothing that others have once it holds it. In `order` the exclusive request for the gate
row is therefore at the bottom and the shared one near the top; everything else is locked in
the order of its levels (`Tx.climbs`).

The permits are left out (`Tx.isGoverned`): `acquire` and `release` lock in opposite orders.
-/

namespace ControlPlane

open Framework

/-! ### Levels -/

/-- The order of the locks. -/
def Resource.level : Resource → LockMode → ℕ
  | .gate, .exclusive => 0
  | .identities, _ => 1
  | .exception _, _ => 2
  | .customer _, _ => 3
  | .request _, _ => 4
  | .job _, _ => 5
  | .backlog _, _ => 6
  | .proposal _, _ => 7
  | .jobRoute _, _ => 8
  | .jobKey _, _ => 9
  | .identity .., _ => 10
  | .identityOf .., _ => 11
  | .event .., _ => 12
  | .capacity _, _ => 13
  | .requestPermit _, _ => 14
  | .capacityRequest _, _ => 15
  | .capacityCompletion _, _ => 16
  | .gate, .shared => 17
  | .session _, _ => 18
  | .proof _, _ => 19

/-- The order of the locks. A shared request for the gate row overtakes the coordinators that
wait for it. -/
def order : Hierarchy Resource where
  level := Resource.level
  queues resource := resource ≠ .gate
  exclusive_le resource := by
    cases resource with
    | gate => exact Nat.zero_le _
    | _ => exact le_refl _
  shared_le resource h := by
    cases resource with
    | gate => cases h
    | _ => exact le_refl _

/-! ### The rules -/

section Rules

variable {held : List (Resource × LockMode)}

/-- A statement that reads the gate. -/
theorem climbs_executionOpen {next : Bool → Transaction}
    (h_above : order.above held .gate .shared = true)
    (h : ∀ isOpen, (next isOpen).Climbs order ((.gate, .shared) :: held)) :
    (executionOpen next).Climbs order held :=
  fun db => ⟨.inr h_above, h db.executionOpen⟩

/-- A lock above all that are held. -/
theorem climbs_lock {resource : Resource} {next : Db → Transaction}
    (h_above : order.above held resource .exclusive = true)
    (h : ∀ db, (next db).Climbs order ((resource, .exclusive) :: held)) :
    (lock resource next).Climbs order held := fun db => ⟨.inr h_above, h db⟩

/-- A lock that the transaction has already. -/
theorem climbs_relock {resource : Resource} {next : Db → Transaction}
    (h_held : (resource, .exclusive) ∈ held)
    (h : ∀ db, (next db).Climbs order ((resource, .exclusive) :: held)) :
    (lock resource next).Climbs order held := fun db => ⟨.inl h_held, h db⟩

/-- A read takes no lock. -/
theorem climbs_read {next : Db → Transaction} (h : ∀ db, (next db).Climbs order held) :
    (read next).Climbs order held := h

/-- A write reads the gate first. -/
theorem climbs_modify {effect : Db → Db} {next : Transaction}
    (h_above : order.above held .gate .shared = true)
    (h : next.Climbs order ((.gate, .shared) :: held)) : (modify effect next).Climbs order held :=
  climbs_executionOpen h_above fun _ => h

/-- An admission reads the gate twice, then locks its key. -/
theorem climbs_insertAdmitted {key : Resource} {violated : Db → Bool} {effect : Db → Db}
    {next : Transaction} (h_above : order.above held .gate .shared = true)
    (h_again : order.above ((.gate, .shared) :: held) .gate .shared = true)
    (h_key : order.above ((.gate, .shared) :: (.gate, .shared) :: held) key .exclusive = true)
    (h : next.Climbs order ((key, .exclusive) :: (.gate, .shared) :: (.gate, .shared) :: held)) :
    (insertAdmitted key violated effect next).Climbs order held := by
  refine climbs_executionOpen h_above fun _ => climbs_executionOpen h_again fun isOpen => ?_
  split
  · trivial
  refine climbs_lock h_key fun db => ?_
  split
  · trivial
  · exact h

/-- A test. -/
theorem climbs_ite {c : Prop} [Decidable c] {yes no : Transaction}
    (h_yes : yes.Climbs order held) (h_no : no.Climbs order held) :
    (if c then yes else no).Climbs order held := by
  split
  · exact h_yes
  · exact h_no

end Rules

/-! ### The scripts -/

section Scripts

variable (now : Time)

namespace Capacity

variable {held : List (Resource × LockMode)}

/-- The check of the backlog locks its destination. -/
theorem checkBacklog_climbs {name : String} {route : Destination} {next : Transaction}
    (h_above : order.above held (.backlog name) .exclusive = true)
    (h : next.Climbs order ((.backlog name, .exclusive) :: held)) :
    (checkBacklogScript now name route next).Climbs order held :=
  climbs_lock h_above fun _ => climbs_read fun _ => climbs_ite trivial h

/-- An admission locks the destination of the owner, if there is one. -/
theorem admission_climbs {owner : Option String} {next : Option String → Transaction}
    (h_above : ∀ name, order.above held (.backlog name) .exclusive = true)
    (h_none : (next none).Climbs order held)
    (h_some : ∀ name, (next (some name)).Climbs order ((.backlog name, .exclusive) :: held)) :
    (admissionScript now owner next).Climbs order held := by
  refine climbs_read fun db => climbs_ite h_none (climbs_read fun db => ?_)
  split
  · trivial
  · split
    · trivial
    · exact checkBacklog_climbs now (h_above _) (h_some _)

/-- A readmission locks the destination of the job, if there is one. -/
theorem readmission_climbs {key : Uuid} {next : Transaction}
    (h_above : ∀ name, order.above held (.backlog name) .exclusive = true)
    (h_none : next.Climbs order held)
    (h_some : ∀ name, next.Climbs order ((.backlog name, .exclusive) :: held)) :
    (readmissionScript now key next).Climbs order held := by
  refine climbs_read fun db => ?_
  split
  · exact h_none
  · split
    · exact h_none
    · exact checkBacklog_climbs now (h_above _) (h_some _)

/-- `defer`: the gate, then the job. -/
theorem defer_climbs (id : Uuid) (token : Option Uuid) (attempted : Bool) :
    (deferScript now id token attempted).Climbs order [] := by
  refine climbs_executionOpen rfl fun _ => climbs_lock rfl fun db => ?_
  split
  · trivial
  · exact climbs_ite (climbs_ite trivial trivial) trivial

end Capacity

namespace Service

/-- The customer is locked, or was inserted by the transaction. -/
theorem process_climbs {held : List (Resource × LockMode)} (source : Source)
    (event : SourceEvent) (customerId : Uuid)
    (h_lock : ∀ next : Db → Transaction,
      (∀ db, (next db).Climbs order ((.customer customerId, .exclusive) :: held)) →
        (lock (.customer customerId) next).Climbs order held)
    (h_gate : order.above ((.customer customerId, .exclusive) :: held) .gate .shared = true)
    (h_event : order.above ((.gate, .shared) :: (.customer customerId, .exclusive) :: held)
      (.event source event.eventId) .exclusive = true) :
    (processScript now source event customerId).Climbs order held := by
  refine h_lock _ fun db => ?_
  split
  · trivial
  · exact climbs_executionOpen h_gate fun _ => climbs_lock h_event fun _ => trivial

/-- `ingest`: the gate, the identities, the customer, then the event. -/
theorem ingest_climbs (source : Source) (event : SourceEvent) :
    (ingestScript now source event).Climbs order [] := by
  refine climbs_executionOpen rfl fun _ => climbs_lock rfl fun _ => climbs_read fun db => ?_
  split
  · exact climbs_ite (climbs_modify rfl trivial) (climbs_modify rfl trivial)
  refine climbs_read fun db => ?_
  split
  · exact process_climbs now source event _ (fun _ => climbs_lock rfl) rfl rfl
  refine climbs_read fun db => climbs_ite ?_ fun db => ?_
  · exact climbs_executionOpen rfl fun _ => climbs_lock rfl fun _ => trivial
  · refine climbs_executionOpen rfl fun _ => climbs_lock rfl fun _ => climbs_lock rfl fun _ =>
      climbs_lock rfl fun _ => ?_
    exact process_climbs now source event _ (fun _ => climbs_relock (by simp)) rfl rfl

/-- `link`: the identities, the customer, then the new keys. -/
theorem link_climbs (actor : Actor) (command : Contract.Link) :
    (linkScript now actor command).Climbs order [] := by
  refine climbs_lock rfl fun _ => climbs_lock rfl fun db => ?_
  split
  · trivial
  exact climbs_ite trivial <| climbs_read fun db => climbs_ite trivial <| climbs_read fun db =>
    climbs_ite trivial <| climbs_executionOpen rfl fun _ => climbs_lock rfl fun _ =>
    climbs_lock rfl fun _ => climbs_modify rfl trivial

/-- The backlog lock of the destination is held when there is one. -/
theorem enqueue_climbs (actor : Actor) (command : Contract.Proposal) (row : Customer)
    (decision : Decision × Reason) (destination : Option String) (customer request : Uuid) :
    (enqueueScript now actor command row decision destination).Climbs order
      (destination.toList.map (fun name => (.backlog name, .exclusive)) ++
        [(.request request, .exclusive), (.customer customer, .exclusive), (.gate, .shared)]) := by
  have h_audited : ∀ held, order.above held .gate .shared = true →
      (modify (fun db => db.audit now actor (.id command.requestId)
        (.proposal command row.state row.provenance decision.1 decision.2 (digest command)))
        (.commit .done)).Climbs order held := fun held h_above => climbs_modify h_above trivial
  cases destination with
  | none =>
    refine climbs_insertAdmitted rfl rfl rfl ?_
    dsimp only [Capacity.bindScript]
    cases decision.1 with
    | allow => exact climbs_insertAdmitted rfl rfl rfl (h_audited _ rfl)
    | deny => exact climbs_modify rfl (h_audited _ rfl)
    | approval => exact h_audited _ rfl
  | some name =>
    refine climbs_insertAdmitted rfl rfl rfl <| climbs_executionOpen rfl fun _ =>
      climbs_lock rfl fun _ => ?_
    cases decision.1 with
    | allow => exact climbs_insertAdmitted rfl rfl rfl (h_audited _ rfl)
    | deny => exact climbs_modify rfl (h_audited _ rfl)
    | approval => exact h_audited _ rfl

/-- `propose`: the gate, the customer, the request, the destination, then the new keys. -/
theorem propose_climbs (actor : Actor) (command : Contract.Proposal) :
    (proposeScript now actor command).Climbs order [] := by
  refine climbs_executionOpen rfl fun isOpen => climbs_ite trivial <| climbs_lock rfl fun db => ?_
  split
  · trivial
  refine climbs_lock rfl fun _ => climbs_read fun db => ?_
  split
  · exact climbs_ite (climbs_modify rfl trivial) trivial
  refine climbs_ite ?_ (enqueue_climbs now actor command _ _ none _ _)
  exact Capacity.admission_climbs now (fun _ => rfl) (enqueue_climbs now actor command _ _ none _ _)
    fun name => enqueue_climbs now actor command _ _ (some name) _ _

/-- `approve`: the gate, the customer, the proposal, then the key of the job. -/
theorem approve_climbs (utc utc' : Time) (actor : Actor) (id : Uuid)
    (command : Contract.Approval) :
    (approveScript now utc utc' actor id command).Climbs order [] := by
  refine climbs_executionOpen rfl fun isOpen => climbs_ite trivial <| climbs_read fun db => ?_
  split
  · trivial
  refine climbs_lock rfl fun db => ?_
  split
  · trivial
  refine climbs_lock rfl fun db => ?_
  split
  · trivial
  split
  · exact climbs_modify rfl (climbs_modify rfl trivial)
  · exact climbs_ite trivial <| climbs_modify rfl <| climbs_insertAdmitted rfl rfl rfl <|
      climbs_modify rfl trivial

/-- `resolve`: the exception, a job that is requeued, then its destination. -/
theorem resolve_climbs (actor : Actor) (id : ℕ) (command : Contract.Resolution) :
    (resolveScript now actor id command).Climbs order [] := by
  refine climbs_lock rfl fun db => ?_
  split
  · trivial
  refine climbs_ite trivial ?_
  dsimp only
  split
  · exact climbs_modify rfl (climbs_modify rfl trivial)
  refine climbs_ite trivial ?_
  split
  · trivial
  · trivial
  refine climbs_lock rfl fun db => ?_
  split
  · trivial
  refine climbs_ite trivial <| Capacity.readmission_climbs now (fun _ => rfl) ?_ fun name => ?_
  · exact climbs_modify rfl <| climbs_modify rfl <| climbs_modify rfl trivial
  · exact climbs_modify rfl <| climbs_modify rfl <| climbs_modify rfl trivial

end Service

namespace Worker

/-- `claim`: the gate, then a job that nobody has locked. -/
theorem claim_climbs (leaseSeconds : ℤ) (locked : List Uuid) :
    (claimScript now leaseSeconds locked).Climbs order [] := by
  refine climbs_executionOpen rfl fun isOpen => climbs_ite trivial fun db => ?_
  dsimp only
  cases first (claimable now locked db) with
  | none => trivial
  | some candidate => exact ⟨.inr rfl, fun _ => climbs_modify rfl (climbs_modify rfl trivial)⟩

/-- `finish`: the job, then the gate. -/
theorem finish_climbs (jitter : Time) (id : Uuid) (token : Option Uuid) (verdict : Verdict) :
    (finishScript now jitter id token verdict).Climbs order [] := by
  refine climbs_lock rfl fun db => ?_
  split
  · trivial
  · exact climbs_ite trivial <| climbs_modify rfl <|
      climbs_ite (climbs_modify rfl (climbs_modify rfl trivial)) (climbs_modify rfl trivial)

/-- `prepare`: the gate, the customer, then the job. -/
theorem prepare_climbs (utc : Time) (id : Uuid) (token : Option Uuid) :
    (prepareScript now utc id token).Climbs order [] := by
  unfold prepareScript
  dsimp only
  refine climbs_executionOpen rfl fun isOpen => climbs_ite trivial <| climbs_read fun db => ?_
  split
  · trivial
  refine climbs_lock rfl fun db => ?_
  split
  · trivial
  refine climbs_lock rfl fun db => ?_
  split
  · trivial
  refine climbs_ite trivial ?_
  split
  · trivial
  split
  · trivial
  · exact climbs_ite trivial (climbs_modify rfl (climbs_modify rfl trivial))

end Worker

namespace Recovery

/-- `begin`: the gate exclusively, before everything else. -/
theorem begin_climbs (coordinator : Coordinator) :
    (beginScript now coordinator).Climbs order [] :=
  climbs_lock rfl fun _ => climbs_ite trivial fun _ => climbs_lock rfl fun _ =>
    climbs_ite trivial trivial

/-- So does `verify`. -/
theorem verify_climbs (coordinator : Coordinator) (surroundings : Surroundings)
    (sessionId : Uuid) : (verifyScript now coordinator surroundings sessionId).Climbs order [] := by
  refine climbs_lock rfl fun _ => climbs_read fun db => ?_
  split
  · trivial
  refine climbs_read fun db => ?_
  split
  · trivial
  · exact fun _ => climbs_lock rfl fun _ => climbs_ite trivial trivial

/-- So does the approval of a recovery. -/
theorem approve_climbs (coordinator : Coordinator) (surroundings : Surroundings)
    (sessionId proofId : Uuid) :
    (approveScript now coordinator surroundings sessionId proofId).Climbs order [] := by
  refine climbs_lock rfl fun _ => climbs_read fun db => ?_
  split
  · trivial
  · exact climbs_lock rfl fun _ => trivial

/-- So does `resume`. -/
theorem resume_climbs (coordinator : Coordinator) (surroundings : Surroundings)
    (sessionId proofId : Uuid) :
    (resumeScript coordinator surroundings sessionId proofId).Climbs order [] := by
  refine climbs_lock rfl fun _ => climbs_read fun db => ?_
  split
  · trivial
  · exact climbs_ite trivial (climbs_lock rfl fun _ => trivial)

end Recovery

end Scripts

/-- The transactions but those on the permits. -/
def Tx.isGoverned : Tx → Bool
  | .acquire .. | .release .. => false
  | _ => true

/-- The work is a governed transaction. -/
def Work.isGoverned : Work → Bool
  | .tx entry => entry.tx.isGoverned
  | _ => false

/-- **Every governed transaction locks in order.** -/
theorem Work.climbs {work : Work} (h : work.isGoverned = true) :
    work.script.Climbs order [] := by
  cases work with
  | insertProposal | insertJob => cases h
  | tx entry =>
    obtain ⟨now, tx⟩ := entry
    cases tx with
    | ingest source event => exact Service.ingest_climbs now source event
    | link actor command => exact Service.link_climbs now actor command
    | propose actor command => exact Service.propose_climbs now actor command
    | approve utc utc' actor id command =>
      exact Service.approve_climbs now utc utc' actor id command
    | resolve actor id command => exact Service.resolve_climbs now actor id command
    | claim leaseSeconds locked => exact Worker.claim_climbs now leaseSeconds locked
    | prepare utc id token => exact Worker.prepare_climbs now utc id token
    | finish jitter id token verdict => exact Worker.finish_climbs now jitter id token verdict
    | defer id token attempted => exact Capacity.defer_climbs now id token attempted
    | acquire | release => cases h
    | begin coordinator => exact Recovery.begin_climbs now coordinator
    | verify coordinator surroundings sessionId =>
      exact Recovery.verify_climbs now coordinator surroundings sessionId
    | approveRecovery coordinator surroundings sessionId proofId =>
      exact Recovery.approve_climbs now coordinator surroundings sessionId proofId
    | resume coordinator surroundings sessionId proofId =>
      exact Recovery.resume_climbs coordinator surroundings sessionId proofId

/-! ### Runs -/

namespace Server

/-- Every step keeps the scripts climbing. -/
theorem climbing_step {s : Server} {action : Action} (h : s.engine.Climbing order)
    (h_governed : ∀ client work, action = .start client work → work.isGoverned = true) :
    (s.step action).engine.Climbing order := by
  cases action with
  | start client work =>
    unfold Server.step
    dsimp only
    split
    · exact h.start (Script.Climbs.map (Work.climbs (h_governed client work rfl)))
    · exact h
  | statement client =>
    have h_stated := s.stated client
    generalize s.step (.statement client) = s' at h_stated ⊢
    cases h_stated with
    | goesOn h_end => exact h.statement client
    | rolledBack | committed =>
      change Engine.Climbing order (Server.move _ client _).engine
      rw [move_engine]
      exact h.statement client
  | abort client =>
    unfold Server.step
    rw [move_engine]
    exact h.abort client
  -- a step outside the transactions locks nothing
  | world label =>
    unfold Server.step
    dsimp only
    split <;> exact h

/-- **No deadlock.** When all transactions of a run are governed ones, the wait-for graph has
no cycle at its end, in whatever order the clients have asked. -/
theorem deadlock_freedom (db : Db) (remote : Receiver) (actions : List Action)
    (h_governed : ∀ client work, .start client work ∈ actions → work.isGoverned = true)
    (arrived : Client → ℕ) (client : Client) :
    ¬ Relation.TransGen (Engine.Waits order.queues arrived
      ((initial db remote).run actions).engine) client client := by
  suffices h : ((initial db remote).run actions).engine.Climbing order from
    h.acyclic arrived client
  induction actions using List.reverseRecOn with
  | nil => exact Engine.initial_climbing db
  | append_singleton actions action ih =>
    have h_run : (initial db remote).run (actions ++ [action]) =
        ((initial db remote).run actions).step action := run_concat actions action
    rw [h_run]
    refine climbing_step (ih fun client work h_start => h_governed client work ?_)
      fun client work h_start => h_governed client work ?_
    · exact List.mem_append_left _ h_start
    · rw [h_start]
      exact List.mem_append_right _ List.mem_cons_self

/-- An `ingest` holds the advisory lock, which a `link` asks for before it has the gate row. -/
def linkBehindIngest : List Action :=
  let event : SourceEvent := ⟨"event", "subject", 1, FieldMap.empty⟩
  [.start (.external 0) (.tx ⟨0, .ingest .crm event⟩), .statement (.external 0),
    .statement (.external 0), .start (.external 1) (.tx ⟨0, .link .operator
      ⟨.crm, "subject", 0, 0, "evidence"⟩⟩), .statement (.external 1)]

/-- There the `link` waits for the `ingest`, and there is no cycle. -/
theorem link_waits_for_ingest :
    Engine.Waits order.queues (fun _ => 0)
      ((initial (Db.migrated ∅ ∅) Receiver.empty).run linkBehindIngest).engine
      (.external 1) (.external 0) ∧
    ¬ Relation.TransGen (Engine.Waits order.queues (fun _ => 0)
      ((initial (Db.migrated ∅ ∅) Receiver.empty).run linkBehindIngest).engine)
      (.external 1) (.external 1) := by
  have h_governed : ∀ client work, .start client work ∈ linkBehindIngest →
      work.isGoverned = true := by
    intro client work h_start
    simp only [linkBehindIngest, List.mem_cons, Action.start.injEq, reduceCtorEq, false_or,
      List.not_mem_nil, or_false] at h_start
    rcases h_start with ⟨-, rfl⟩ | ⟨-, rfl⟩ <;> rfl
  refine ⟨.blocked ⟨.identities, .exclusive, .exclusive, rfl, ?_, by decide, by decide⟩, ?_⟩
  · exact List.mem_cons_self
  · exact deadlock_freedom (Db.migrated ∅ ∅) Receiver.empty linkBehindIngest h_governed _ _

end Server
end ControlPlane
