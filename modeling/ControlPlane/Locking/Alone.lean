import ControlPlane.Dispatch.Origin
import ControlPlane.Model.Statements

/-!
# A script with nobody else is the transaction

`Tx.script_alone`: the statements of a transaction, run one after the other with no other
transaction in between, commit exactly when the transaction of `Model` does, with its
answer and its effect (`Tx.seen`). Everything proved about `Tx.apply` is so about the
scripts as long as they do not interleave; what holds under interleaving is the subject of
the other modules here.
-/

namespace ControlPlane

open Framework

/-! ### What the client sees of a transaction -/

/-- Whether the transaction commits, its answer, and the state after it. -/
def Outcome.seen {α : Type} (answer : Except Fault α → Answer) (outcome : Outcome α) (db : Db) :
    (Bool × Answer) × Db :=
  match outcome with
  | .ok (a, db') => ((true, answer (.ok a)), db')
  | .error fault => ((false, answer (.error fault)), db)

namespace Answer

/-- The answer of a transaction that returns nothing the worker goes on with. -/
def ofUnit {α : Type} : Except Fault α → Answer
  | .ok _ => .done
  | .error _ => .raised

/-- The answer of a claim. -/
def ofClaim : Except Fault (Option Worker.Claimed) → Answer
  | .ok job => .claimed job
  | .error _ => .raised

/-- The answer of `acquire`: a token, or none where no permit is free. -/
def ofAcquire : Except Fault (Option Uuid) → Answer
  | .ok token => .permitted token
  | .error _ => .raised

end Answer

/-- What is seen of each transaction of the model. -/
def Tx.seen (now : Time) (db : Db) : Tx → (Bool × Answer) × Db
  | .ingest source event => (Service.ingest now source event db).seen .ofUnit db
  | .link actor command => (Service.link now actor command db).seen .ofUnit db
  | .propose actor command => (Service.propose now actor command db).seen .ofUnit db
  | .approve utc utc' actor id command =>
      (Service.approve now utc utc' actor id command db).seen .ofUnit db
  | .resolve actor id command => (Service.resolve now actor id command db).seen .ofUnit db
  | .claim leaseSeconds locked => (Worker.claim now leaseSeconds locked db).seen .ofClaim db
  | .prepare utc id token => (Worker.prepare now utc id token db).seen .prepared db
  | .finish jitter id token verdict =>
      (Worker.settle now jitter id token verdict db).seen .ofUnit db
  | .defer id token attempted => (Capacity.defer now id token attempted db).seen .ofUnit db
  | .acquire name route kind => (Capacity.acquire now name route kind db).seen .ofAcquire db
  | .release name token failed cooldown =>
      (Capacity.release now name token failed cooldown db).seen .ofUnit db
  | .begin coordinator => (Recovery.begin now coordinator db).seen .ofUnit db
  | .verify coordinator surroundings sessionId =>
      (Recovery.verify now coordinator surroundings sessionId db).seen .ofUnit db
  | .approveRecovery coordinator surroundings sessionId proofId =>
      (Recovery.approve now coordinator surroundings sessionId proofId db).seen .ofUnit db
  | .resume coordinator surroundings sessionId proofId =>
      (Recovery.resume now coordinator surroundings sessionId proofId db).seen .ofUnit db

/-- The state after it is the one the transaction of the model leaves. -/
theorem Outcome.seen_state {α : Type} (answer : Except Fault α → Answer) (outcome : Outcome α)
    (db : Db) : (outcome.seen answer db).2 = outcome.commit db := by
  unfold Outcome.seen Outcome.commit
  split <;> rfl

/-- So it is for every transaction. -/
theorem Tx.seen_state (now : Time) (db : Db) (tx : Tx) :
    (tx.seen now db).2 = tx.apply now db := by
  cases tx <;> exact Outcome.seen_state _ _ _

/-! ### The statements -/

section Statements

variable (db : Db) (pending : Db → Db)

@[simp] theorem alone_executionOpen (next : Bool → Transaction) :
    (executionOpen next).alone db pending = (next (pending db).executionOpen).alone db pending :=
  rfl

@[simp] theorem alone_lock (resource : Resource) (next : Db → Transaction) :
    (lock resource next).alone db pending = (next (pending db)).alone db pending := rfl

@[simp] theorem alone_read (next : Db → Transaction) :
    (read next).alone db pending = (next (pending db)).alone db pending := rfl

@[simp] theorem alone_lockAll (resources : List Resource) (next : Transaction) :
    (lockAll resources next).alone db pending = next.alone db pending := by
  induction resources with
  | nil => rfl
  | cons resource resources ih => exact ih

@[simp] theorem alone_insertRow (keys : List Resource) (effect : Db → Db) (next : Transaction) :
    (insertRow keys effect next).alone db pending = next.alone db (effect ∘ pending) :=
  alone_lockAll db pending keys (.write effect next)

@[simp] theorem alone_draw (next : Uuid → Transaction) :
    (draw next).alone db pending =
      (next db.supply).alone { db with supply := db.supply + 1 } pending := rfl

@[simp] theorem alone_modify (effect : Db → Db) (next : Transaction) :
    (modify effect next).alone db pending = next.alone db (effect ∘ pending) := rfl

/-- An admission that the gate and the constraints let through. -/
theorem alone_insertAdmitted {key : Resource} {violated : Db → Bool} {effect : Db → Db}
    {next : Transaction} (h_open : (pending db).executionOpen = true)
    (h_violated : violated (pending db) = false) :
    (insertAdmitted key violated effect next).alone db pending =
      next.alone db (effect ∘ pending) := by
  -- both triggers read the open gate, and the key is free
  unfold insertAdmitted
  rw [alone_executionOpen, alone_executionOpen, h_open, if_neg Bool.noConfusion, alone_lock,
    h_violated, if_neg Bool.noConfusion]
  rfl

end Statements

variable {now : Time} {db : Db}

/-- An `UPDATE` of a row that is there. -/
theorem Db.updateJob_of_some {id : Uuid} {job : Job} (h : db.jobs.lookup id = some job)
    (f : Job → Job) : db.updateJob id f = { db with jobs := db.jobs.insert id (f job) } := by
  unfold Db.updateJob
  rw [h]

/-- The same for a proposal. -/
theorem Db.updateProposal_of_some {id : Uuid} {proposal : Proposal}
    (h : db.proposals.lookup id = some proposal) (f : Proposal → Proposal) :
    db.updateProposal id f =
      { db with proposals := db.proposals.insert id (f proposal) } := by
  unfold Db.updateProposal
  rw [h]

/-! ### `capacity.py` -/

namespace Capacity

/-- The check of the backlog, behind which the script goes on. -/
theorem checkBacklog_alone (name : String) (route : Destination) (next : Transaction) :
    (checkBacklogScript now name route next).alone db id =
      match checkBacklog now name route db with
      | .error _ => ((false, .raised), db)
      | .ok () => next.alone db id := by
  unfold checkBacklogScript checkBacklog
  simp only [alone_lock, alone_read, id]
  split <;> rfl

/-- The admission of a request of this owner. -/
theorem admission_alone (owner : Option String) (next : Option String → Transaction) :
    (admissionScript now owner next).alone db id =
      match admission now owner db with
      | .error _ => ((false, .raised), db)
      | .ok destination => (next destination).alone db id := by
  unfold admissionScript admission
  simp only [alone_read, id]
  -- an owner without a route is admitted at once
  split
  · rfl
  simp only [alone_read, id]
  cases owner.bind fun owner => db.destinationRoutes.lookup owner with
  | none => rfl
  | some name =>
    dsimp only
    cases db.destinations.lookup name with
    | none => rfl
    | some route =>
      dsimp only
      rw [checkBacklog_alone]
      cases checkBacklog now name route db <;> rfl

/-- The admission of a job that is taken up again. -/
theorem readmission_alone (key : Uuid) (next : Transaction) :
    (readmissionScript now key next).alone db id =
      match readmission now key db with
      | .error _ => ((false, .raised), db)
      | .ok () => next.alone db id := by
  unfold readmissionScript readmission
  simp only [alone_read, id]
  cases db.jobRoutes.lookup key with
  | none => rfl
  | some name =>
    dsimp only
    cases db.destinations.lookup name with
    | none => rfl
    | some route => exact checkBacklog_alone name route next

/-- `acquire`: the bucket is refreshed, and a permit inserted if one is free. -/
theorem acquire_alone (name : String) (route : Destination) (kind : RequestKind) :
    (acquireScript now name route kind).alone db id =
      (acquire now name route kind db).seen .ofAcquire db := by
  unfold acquireScript acquire
  -- the row is inserted with its defaults first, so that both read the same
  have h_state : stateRow name { db with
      capacityState := db.capacityState.insert name (stateRow name db) } = stateRow name db := by
    unfold stateRow
    rw [Table.lookup_insert_self]
    rfl
  simp only [alone_executionOpen, alone_lock, alone_read, alone_lockAll, Script.alone,
    Function.comp, id, h_state]
  unfold refresh permit
  dsimp only
  -- the two sides differ in how the refreshed bucket is spelled out only
  generalize (if kind = .dispatch then 1 else 0) = reserved
  generalize max (now / seconds 1) (stateRow name db).windowId = window
  generalize (if (stateRow name db).windowId = window then (stateRow name db).used else 0) = used
  split <;> rfl

/-- `release`: the permit is deleted, and the bucket cools down behind a failure. -/
theorem release_alone (name : String) (token : Uuid) (failed : Bool) (cooldown : ℕ) :
    (releaseScript now name token failed cooldown).alone db id =
      (release now name token failed cooldown db).seen .ofUnit db := by
  unfold releaseScript release
  simp only [alone_executionOpen, alone_lock, Script.alone, Function.comp, id]
  split
  · rfl
  cases failed with
  | false => rfl
  -- a failed request cools the destination down, if it has a bucket
  | true =>
    simp only [Script.alone, alone_executionOpen, alone_lock, Function.comp, id,
      Bool.true_eq_false, if_false, if_true]
    cases db.capacityState.lookup name <;> rfl

/-- `defer`: the job is put off, and the attempt refunded if none was made. -/
theorem defer_alone (id : Uuid) (token : Option Uuid) (attempted : Bool) :
    (deferScript now id token attempted).alone db (fun db => db) =
      (defer now id token attempted db).seen .ofUnit db := by
  unfold deferScript defer
  simp only [alone_executionOpen, alone_lock]
  cases h_job : db.jobs.lookup id with
  | none => rfl
  | some job =>
    dsimp only
    -- only the worker that holds the lease puts the job off
    split
    · generalize (if attempted then 0 else 1) = refund
      split
      · rfl
      · change ((true, Answer.done), db.updateJob id _) = _
        rw [Db.updateJob_of_some h_job]
        rfl
    · rfl

end Capacity

/-! ### `service.py` -/

namespace Service

/-- `ingest`: the event is new, known, or of an unknown subject. -/
theorem ingest_alone (source : Source) (event : SourceEvent) :
    (ingestScript now source event).alone db id =
      (ingest now source event db).seen .ofUnit db := by
  unfold ingestScript ingest
  simp only [alone_executionOpen, alone_lock, alone_read, id]
  cases db.events.lookup (source, event.eventId) with
  -- the event is known
  | some previous =>
    dsimp only
    split <;> rfl
  | none =>
    simp only [alone_read, id]
    -- the event is new: its subject is known, or may be enrolled
    cases db.identities.lookup (source, event.subject) with
    | some customerId =>
      dsimp only
      unfold processScript
      simp only [alone_lock, id]
      cases db.customers.lookup customerId <;> rfl
    | none =>
      simp only [alone_read, id]
      split
      · rfl
      · unfold processScript
        simp only [alone_draw, alone_insertRow, alone_lock, Function.comp, id]
        rw [Table.lookup_insert_self]
        rfl

/-- `link`: an identity is added to a customer. -/
theorem link_alone (actor : Actor) (command : Contract.Link) :
    (linkScript now actor command).alone db id = (link now actor command db).seen .ofUnit db := by
  unfold linkScript link
  simp only [alone_lock, id]
  cases db.customers.lookup command.customerId with
  | none => rfl
  | some row =>
    dsimp only
    split
    · rfl
    simp only [alone_read, id]
    split
    · rfl
    simp only [alone_read, id]
    split <;> rfl

variable (now) in
/-- The inserts of a new request, whose keys are free while the gate is open. -/
theorem enqueue_alone (actor : Actor) (command : Contract.Proposal) (row : Customer)
    (decision : Decision × Reason) (destination : Option String)
    (h_open : db.executionOpen = true) (h_row : db.customers.lookup command.customerId = some row)
    (h_new : db.proposals.lookup command.requestId = none)
    (h_job : db.jobs.lookup command.requestId = none) :
    (enqueueScript now actor command row decision destination).alone db id =
      ((true, .done), enqueue now actor command row decision destination db) := by
  -- the binding writes a table that no later test reads
  have h_bind : ∀ (next : Transaction) (pending : Db → Db),
      (Capacity.bindScript command.requestId destination next).alone db pending =
        next.alone db (Capacity.bind command.requestId destination ∘ pending) := by
    cases destination <;> exact fun _ _ => rfl
  unfold enqueueScript enqueue insertProposal
  rw [alone_insertAdmitted, h_bind]
  · cases decision.1 with
    | approval | deny => rfl
    | allow =>
      unfold insertJob
      dsimp only
      rw [alone_insertAdmitted]
      · rfl
      · cases destination <;> exact h_open
      · cases destination <;>
        · change ((db.jobs.lookup _).isSome || (AList.lookup _ (AList.insert _ _ _)).isNone) = _
          rw [h_job, Table.lookup_insert_self]
          rfl
  · exact h_open
  · change ((db.proposals.lookup _).isSome || (db.customers.lookup command.customerId).isNone) = _
    rw [h_new, h_row]
    rfl

/-- `propose`: a request is new, or the one of the same id is compared. -/
theorem propose_alone (actor : Actor) (command : Contract.Proposal)
    (h_jobs : ∀ id, db.proposals.lookup id = none → db.jobs.lookup id = none) :
    (proposeScript now actor command).alone db id =
      (propose now actor command db).seen .ofUnit db := by
  unfold proposeScript propose
  simp only [alone_executionOpen, id]
  split
  · rfl
  rename_i h_open
  simp only [alone_lock, id]
  cases h_row : db.customers.lookup command.customerId with
  | none => rfl
  | some row =>
    simp only [alone_lock, alone_read, id]
    cases h_new : db.proposals.lookup command.requestId with
    | some previous =>
      dsimp only
      split <;> rfl
    | none =>
      -- the two inserts find their keys free
      have h_enqueue := fun decision destination =>
        enqueue_alone now actor command row decision destination (by simpa using h_open)
          h_row h_new (h_jobs _ h_new)
      dsimp only
      split
      · rw [Capacity.admission_alone]
        cases Capacity.admission now row.state.owner db with
        | error fault => rfl
        | ok destination => exact h_enqueue _ destination
      · exact h_enqueue _ none

/-- `approve`: the approval is refused, or the job is ensured. -/
theorem approve_alone (utc utc' : Time) (actor : Actor) (id : Uuid)
    (command : Contract.Approval) :
    (approveScript now utc utc' actor id command).alone db (fun db => db) =
      (approve now utc utc' actor id command db).seen .ofUnit db := by
  unfold approveScript approve
  simp only [alone_executionOpen]
  split
  · rfl
  rename_i h_closed
  have h_open : db.executionOpen = true := by simpa using h_closed
  simp only [alone_read]
  cases h_proposal : db.proposals.lookup id with
  | none => rfl
  | some proposal =>
    simp only [alone_lock]
    cases db.customers.lookup proposal.customerId with
    | none => rfl
    | some row =>
      simp only [alone_lock, h_proposal]
      cases approvalReason actor command proposal row utc with
      | some reason => rfl
      | none =>
        dsimp only
        split
        · rfl
        -- with nobody else at work the proposal is still the one that was read
        · have h_update := Db.updateProposal_of_some h_proposal fun row : Proposal =>
            { row with
              approvedBy := some actor
              approvedUntil := some (approvalUntil proposal utc') }
          unfold ensureJob
          rw [alone_modify, alone_insertAdmitted]
          · simp only [alone_modify, Script.alone, Function.comp]
            rw [h_update]
            rfl
          · change (db.updateProposal id _).executionOpen = true
            rw [h_update]
            exact h_open
          · change ((db.updateProposal id _).proposals.lookup id).isNone = false
            rw [h_update, Table.lookup_insert_self]
            rfl

variable (now db) in
/-- Requeueing a job is refused by both, or has the same effect in both. -/
theorem requeue_alone (row : ExceptionRow) (next : Transaction) :
    (∃ fault, requeue now row db = .error fault ∧
      (requeueScript now row next).alone db id = ((false, .raised), db)) ∨
    ∃ effect, requeue now row db = .ok (effect db) ∧
      (requeueScript now row next).alone db id = next.alone db effect := by
  unfold requeueScript requeue
  split
  · exact .inl ⟨_, rfl, rfl⟩
  cases row.subject with
  | text | exception => exact .inl ⟨_, rfl, rfl⟩
  | id key =>
    simp only [alone_lock, id]
    cases h_job : db.jobs.lookup key with
    | none => exact .inl ⟨_, rfl, rfl⟩
    | some job =>
      dsimp only
      split
      · exact .inl ⟨_, rfl, rfl⟩
      rw [Capacity.readmission_alone]
      -- the backlog of its destination decides
      cases Capacity.readmission now key db with
      | error fault => exact .inl ⟨_, rfl, rfl⟩
      | ok =>
        refine .inr ⟨Db.updateJob key (requeued now), ?_, rfl⟩
        rw [Db.updateJob_of_some h_job]

/-- `resolve`: an exception is acknowledged, or its job requeued. -/
theorem resolve_alone (actor : Actor) (id : ℕ) (command : Contract.Resolution) :
    (resolveScript now actor id command).alone db (fun db => db) =
      (resolve now actor id command db).seen .ofUnit db := by
  unfold resolveScript resolve
  simp only [alone_lock]
  cases exceptionRow db id with
  | none => rfl
  | some row =>
    dsimp only
    split
    · rfl
    cases command.disposition with
    | acknowledge => rfl
    | requeue =>
      dsimp only
      rcases requeue_alone now db row _ with
        ⟨fault, h_fault, h_alone⟩ | ⟨effect, h_ok, h_alone⟩
      · rw [h_fault]
        exact h_alone
      · rw [h_ok]
        exact h_alone

end Service

/-! ### `worker.py` -/

namespace Worker

/-- `claim`: the first claimable job is leased. -/
theorem claim_alone (leaseSeconds : ℤ) (locked : List Uuid) :
    (claimScript now leaseSeconds locked).alone db id =
      (claim now leaseSeconds locked db).seen .ofClaim db := by
  unfold claimScript claim
  simp only [alone_executionOpen, id]
  split
  · rfl
  simp only [Script.alone, id]
  cases h_first : first (claimable now locked db) with
  | none => rfl
  | some candidate =>
    simp only [alone_draw, alone_modify, Script.alone, Function.comp, id]
    -- the candidate was read from the jobs that are there
    have h_job : ({ db with supply := db.supply + 1 } : Db).jobs.lookup candidate.id =
        some candidate.job := (of_mem_claimable (first_mem h_first)).1
    rw [Db.updateJob_of_some h_job]
    rfl

/-- `finish`: the job takes the status of the verdict, with an exception if it ends. -/
theorem finish_alone (jitter : Time) (id : Uuid) (token : Option Uuid) (verdict : Verdict) :
    (finishScript now jitter id token verdict).alone db (fun db => db) =
      (settle now jitter id token verdict db).seen .ofUnit db := by
  unfold finishScript settle finish
  simp only [alone_lock]
  cases h_job : db.jobs.lookup id with
  | none => rfl
  | some current =>
    dsimp only
    split
    · rfl
    · generalize budgeted verdict.status verdict.reason current = final
      unfold conclude
      simp only [alone_modify]
      by_cases h_dead : final.1 = .dead ∨ final.1 = .blocked
      · rw [if_pos h_dead, if_pos h_dead]
        simp only [alone_modify, Script.alone, Function.comp]
        rw [Db.updateJob_of_some h_job]
        rfl
      · rw [if_neg h_dead, if_neg h_dead]
        simp only [alone_modify, Script.alone, Function.comp]
        rw [Db.updateJob_of_some h_job]
        rfl

/-- `prepare`: the job is tested again, and its request intended. -/
theorem prepare_alone (utc : Time) (id : Uuid) (token : Option Uuid) :
    (prepareScript now utc id token).alone db (fun db => db) =
      (prepare now utc id token db).seen .prepared db := by
  unfold prepareScript prepare
  -- test by test, as both definitions have them
  simp only [alone_executionOpen]
  split
  · rfl
  simp only [alone_read]
  cases db.proposals.lookup id with
  | none => rfl
  | some proposal =>
    simp only [alone_lock]
    cases db.customers.lookup proposal.customerId with
    | none => rfl
    | some row =>
      simp only [alone_lock]
      cases h_job : db.jobs.lookup id with
      | none => rfl
      | some current =>
        dsimp only
        split
        · rfl
        -- the decision is made again, on the row as it is now
        cases Service.validProposal proposal row utc true with
        | some reason => rfl
        | none =>
          cases mutationOf proposal row with
          | error fault => rfl
          | ok mutation =>
            dsimp only
            split
            · rfl
            · simp only [alone_modify, Script.alone, Function.comp]
              rw [Db.updateJob_of_some h_job]
              rfl

end Worker

/-! ### `recovery.py` -/

namespace Recovery

/-- `begin`: the gate closes, and a session starts. -/
theorem begin_alone (coordinator : Coordinator) (h_fresh : db.sessions.lookup db.supply = none) :
    (beginScript now coordinator).alone db id =
      (begin now coordinator db).seen .ofUnit db := by
  unfold beginScript begin
  simp only [alone_lock, id]
  split
  · rfl
  simp only [alone_draw, alone_lock, id, h_fresh]
  rfl

/-- `verify`: the proof of a session is recorded. -/
theorem verify_alone (coordinator : Coordinator) (surroundings : Surroundings)
    (sessionId : Uuid) (h_fresh : db.proofs.lookup db.supply = none) :
    (verifyScript now coordinator surroundings sessionId).alone db id =
      (verify now coordinator surroundings sessionId db).seen .ofUnit db := by
  unfold verifyScript verify
  simp only [alone_lock, alone_read, id]
  cases currentSession coordinator sessionId db with
  | error fault => rfl
  | ok session =>
    simp only [alone_read, id]
    cases observe coordinator surroundings session db with
    | error fault => rfl
    | ok report =>
      simp only [alone_draw, alone_lock, id, h_fresh]
      rfl

/-- `approve`: the proof is approved, unless it is stale. -/
theorem approve_alone (coordinator : Coordinator) (surroundings : Surroundings)
    (sessionId proofId : Uuid) :
    (approveScript now coordinator surroundings sessionId proofId).alone db id =
      (approve now coordinator surroundings sessionId proofId db).seen .ofUnit db := by
  unfold approveScript approve
  simp only [alone_lock, alone_read, id]
  cases freshApproval coordinator surroundings sessionId proofId db <;> rfl

/-- `resume`: the gate opens on a fresh approval. -/
theorem resume_alone (coordinator : Coordinator) (surroundings : Surroundings)
    (sessionId proofId : Uuid) :
    (resumeScript coordinator surroundings sessionId proofId).alone db id =
      (resume now coordinator surroundings sessionId proofId db).seen .ofUnit db := by
  unfold resumeScript resume
  simp only [alone_lock, alone_read, id]
  cases freshApproval coordinator surroundings sessionId proofId db with
  | error fault => rfl
  | ok fresh =>
    dsimp only
    split <;> rfl

end Recovery

/-! ### All transactions -/

/-- The ids in the recovery tables have been drawn. -/
structure RecoveryDrawn (db : Db) : Prop where
  session : ∀ id session, db.sessions.lookup id = some session → id < db.supply
  proof : ∀ id proof, db.proofs.lookup id = some proof → id < db.supply

/-- What the constraints and the draws guarantee: a job has its proposal, and the id that
is drawn next is in no recovery table. -/
structure Db.KeysSound (db : Db) : Prop extends RecoveryDrawn db where
  job : ∀ id, db.proposals.lookup id = none → db.jobs.lookup id = none

/-- **A transaction alone is the transaction of the model**: its statements commit when it
does, with its answer and its effect. -/
theorem Tx.script_alone (now : Time) {db : Db} (h : db.KeysSound) (tx : Tx) :
    (tx.script now).alone db id = tx.seen now db := by
  -- a key that is drawn now is that of no session and no proof
  have h_session : db.sessions.lookup db.supply = none :=
    Option.eq_none_iff_forall_ne_some.mpr fun session h_some =>
      absurd (h.session _ session h_some) (lt_irrefl _)
  have h_proof : db.proofs.lookup db.supply = none :=
    Option.eq_none_iff_forall_ne_some.mpr fun proof h_some =>
      absurd (h.proof _ proof h_some) (lt_irrefl _)
  cases tx with
  | ingest source event => exact Service.ingest_alone source event
  | link actor command => exact Service.link_alone actor command
  | propose actor command => exact Service.propose_alone actor command h.job
  | approve utc utc' actor id command => exact Service.approve_alone utc utc' actor id command
  | resolve actor id command => exact Service.resolve_alone actor id command
  | claim leaseSeconds locked => exact Worker.claim_alone leaseSeconds locked
  | prepare utc id token => exact Worker.prepare_alone utc id token
  | finish jitter id token verdict => exact Worker.finish_alone jitter id token verdict
  | defer id token attempted => exact Capacity.defer_alone id token attempted
  | acquire name route kind => exact Capacity.acquire_alone name route kind
  | release name token failed cooldown => exact Capacity.release_alone name token failed cooldown
  | begin coordinator => exact Recovery.begin_alone coordinator h_session
  | verify coordinator surroundings sessionId =>
    exact Recovery.verify_alone coordinator surroundings sessionId h_proof
  | approveRecovery coordinator surroundings sessionId proofId =>
    exact Recovery.approve_alone coordinator surroundings sessionId proofId
  | resume coordinator surroundings sessionId proofId =>
    exact Recovery.resume_alone coordinator surroundings sessionId proofId

/-- Marking a session starts none. -/
theorem markSession_sessions {db : Db} {sessionId id : Uuid} {status : SessionStatus}
    {session : Session}
    (h : (Recovery.markSession sessionId status db).sessions.lookup id = some session) :
    ∃ session', db.sessions.lookup id = some session' := by
  unfold Recovery.markSession at h
  split at h
  · exact ⟨session, h⟩
  · rename_i marked h_marked
    rw [Table.lookup_insert] at h
    split at h
    · rename_i h_eq
      exact ⟨marked, h_eq ▸ h_marked⟩
    · exact ⟨session, h⟩

/-- Every transaction keeps the ids of recovery drawn. -/
theorem RecoveryDrawn.step {db : Db} (h : RecoveryDrawn db) (entry : Entry) :
    RecoveryDrawn (db.step entry) := by
  obtain ⟨now, tx⟩ := entry
  change RecoveryDrawn (tx.apply now db)
  have h_supply := supply_le_apply now db tx
  -- sessions and proofs are written by the four commands of recovery
  by_cases h_tx : tx.isCoordination = false
  · obtain ⟨-, h_sessions, h_proofs⟩ := Coordination.mk.inj (coordination_apply now db h_tx)
    exact ⟨fun id session h_id => (h.session id session (h_sessions ▸ h_id)).trans_le h_supply,
      fun id proof h_id => (h.proof id proof (h_proofs ▸ h_id)).trans_le h_supply⟩
  have h_committed := tx.committed now db
  generalize tx.apply now db = db' at h_committed h_supply ⊢
  cases h_committed with
  | rolledBack => exact h
  -- the session that starts takes the id drawn, which is behind the supply now
  | begin h_case =>
    rw [h_case.h_state]
    refine ⟨fun id session h_id => ?_,
      fun id proof h_id => Nat.lt_succ_of_lt (h.proof id proof h_id)⟩
    rw [Table.lookup_insert] at h_id
    split at h_id
    · rename_i h_eq
      exact h_eq ▸ Nat.lt_succ_self db.supply
    · exact Nat.lt_succ_of_lt (h.session id session h_id)
  | verify h_case =>
    rw [h_case.h_state]
    refine ⟨fun id session h_id => Nat.lt_succ_of_lt (h.session id session h_id),
      fun id proof h_id => ?_⟩
    rw [Table.lookup_insert] at h_id
    split at h_id
    · rename_i h_eq
      exact h_eq ▸ Nat.lt_succ_self db.supply
    · exact Nat.lt_succ_of_lt (h.proof id proof h_id)
  | approveRecovery | resume =>
    refine ⟨fun id session h_id => ?_, fun id proof h_id => ?_⟩
    · obtain ⟨session', h_session⟩ := markSession_sessions h_id
      exact (h.session id session' h_session).trans_le h_supply
    · rw [(Recovery.markSession_frame ..).2.2.2.2.2.2] at h_id
      exact (h.proof id proof h_id).trans_le h_supply
  | _ => exact absurd rfl h_tx

/-- The keys are sound in every database that is reached. -/
theorem keys_sound (registry : Table String Destination) (owners : Table String String)
    (entries : List Entry) : ((Db.migrated registry owners).run entries).KeysSound := by
  -- a migrated database has no session and no proof
  have h_drawn : RecoveryDrawn ((Db.migrated registry owners).run entries) :=
    run_invariant ⟨fun _ _ h => (by cases h), fun _ _ h => (by cases h)⟩
      (fun _ entry h => h.step entry) entries
  refine ⟨h_drawn, fun id h_none => Option.eq_none_iff_forall_ne_some.mpr fun job h_job => ?_⟩
  obtain ⟨p, h_p, -⟩ := (work_sound registry owners entries).job id job h_job
  rw [h_none] at h_p
  cases h_p

end ControlPlane
