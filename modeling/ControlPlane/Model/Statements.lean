import ControlPlane.Framework.Script
import ControlPlane.Model.World

/-!
# The transactions, statement by statement

`Tx.apply` takes a transaction as one step. Here each is the script of its statements, with
the locks in the order the code takes them: `FOR UPDATE` and the advisory locks are
exclusive, `cp.execution_open()` shares the gate row, and every data-modifying statement
on a business table fires `recovery_state_lock` first, which shares the gate row too. An
`INSERT` into `cp.proposals` or `cp.jobs` fires `require_open_admission` for its row.

An `INSERT` waits for another transaction that has inserted its key, and a `DELETE` or an
`UPDATE` for one that has changed its row, so keys and rows are locked exclusively.
A row that a statement looks for and does not find is locked all the same, which keeps the
others waiting until the transaction has been rolled back. Foreign-key checks lock nothing
here: they ask for a row that the transaction has locked or inserted itself, or one that
nobody changes (an `INSERT` by hand apart).

Writes that follow each other with no read between them may stand as one statement. What
`ingest` inserts is new, since it looks the keys up under the advisory lock. A `ValueError`,
a `LookupError` and a violated constraint end the transaction in a rollback.
-/

namespace ControlPlane

open Framework

/-- What the transactions lock: rows, the unique keys of inserted rows, and the advisory
locks. A row and its primary key are one resource, but for the jobs: a job that is there may
be locked while an `INSERT` finds its key. -/
inductive Resource
  /-- The row of `cp.recovery_gate`. -/
  | gate
  /-- The advisory lock of the identity discovery. -/
  | identities
  /-- The advisory lock of a request id. -/
  | request (id : Uuid)
  /-- The advisory lock of a destination's backlog. -/
  | backlog (destination : String)
  | customer (id : Uuid)
  | proposal (id : Uuid)
  | job (id : Uuid)
  | jobKey (id : Uuid)
  | jobRoute (id : Uuid)
  | exception (id : ℕ)
  | identity (source : Source) (subject : String)
  /-- `UNIQUE(source,customer_id)` of `cp.identities`. -/
  | identityOf (source : Source) (customerId : Uuid)
  | event (source : Source) (eventId : String)
  | capacity (destination : String)
  | requestPermit (token : Uuid)
  | capacityRequest (token : Uuid)
  | capacityCompletion (token : Uuid)
  | session (id : Uuid)
  | proof (id : Uuid)
deriving DecidableEq

/-- What a worker gets from a transaction. -/
inductive Answer
  | done
  | raised
  | claimed (job : Option Worker.Claimed)
  | permitted (token : Option Uuid)
  | prepared (answer : Except Fault Worker.Prepared)

/-- The ids of `uuid4`. -/
instance : Sequence Db where
  advance db := { db with supply := db.supply + 1 }

/-- A transaction on the database, which locks resources and ends with an answer. -/
abbrev Transaction : Type := Script Db Resource Answer

/-! ### Statements -/

/-- `SELECT cp.execution_open()`. -/
def executionOpen (next : Bool → Transaction) : Transaction :=
  .select (fun _ => some (.gate, .shared)) fun db => next db.executionOpen

/-- `SELECT .. FOR UPDATE` of a row, or an advisory lock. -/
def lock (resource : Resource) (next : Db → Transaction) : Transaction :=
  .select (fun _ => some (resource, .exclusive)) next

/-- A `SELECT` that locks nothing. -/
def read (next : Db → Transaction) : Transaction := .select (fun _ => none) next

/-- `uuid4()`. -/
def draw (next : Uuid → Transaction) : Transaction :=
  .draw fun db => next db.supply

/-- A statement on a business table, after `recovery_state_lock`. -/
def modify (effect : Db → Db) (next : Transaction) : Transaction :=
  executionOpen fun _ => .write effect next

/-- Locks that are taken one after the other. -/
def lockAll (resources : List Resource) (next : Transaction) : Transaction :=
  resources.foldr (fun resource next => lock resource fun _ => next) next

/-- An `INSERT`, under its unique keys. -/
def insertRow (keys : List Resource) (effect : Db → Db) (next : Transaction) : Transaction :=
  executionOpen fun _ => lockAll keys (.write effect next)

/-- An `INSERT` into `cp.proposals` or `cp.jobs`: `recovery_state_lock`, then
`require_open_admission`, then the row under its key, which `violated` checks. -/
def insertAdmitted (key : Resource) (violated : Db → Bool) (effect : Db → Db) (next : Transaction) :
    Transaction :=
  executionOpen fun _ => executionOpen fun isOpen =>
    if isOpen = false then .rollback .raised
    else lock key fun db =>
      if violated db then .rollback .raised else .write effect next

/-- The `INSERT` into `cp.proposals`, under its key and with its customer there. -/
def insertProposal (id : Uuid) (row : Proposal) (next : Transaction) : Transaction :=
  insertAdmitted (.proposal id)
    (fun db => (db.proposals.lookup id).isSome || (db.customers.lookup row.customerId).isNone)
    (fun db => { db with proposals := db.proposals.insert id row }) next

/-- The `INSERT` into `cp.jobs`, under its key and with its proposal there. -/
def insertJob (id : Uuid) (row : Job) (next : Transaction) : Transaction :=
  insertAdmitted (.jobKey id)
    (fun db => (db.jobs.lookup id).isSome || (db.proposals.lookup id).isNone)
    (fun db => { db with jobs := db.jobs.insert id row }) next

/-- `INSERT INTO cp.jobs .. ON CONFLICT DO NOTHING`. -/
def ensureJob (id : Uuid) (row : Job) (next : Transaction) : Transaction :=
  insertAdmitted (.jobKey id) (fun db => (db.proposals.lookup id).isNone)
    (fun db => if (db.jobs.lookup id).isSome then db
      else { db with jobs := db.jobs.insert id row }) next

/-- `UPDATE cp.jobs SET .. WHERE id=..`. -/
def Db.updateJob (id : Uuid) (f : Job → Job) (db : Db) : Db :=
  match db.jobs.lookup id with
  | none => db
  | some job => { db with jobs := db.jobs.insert id (f job) }

/-- `UPDATE cp.proposals SET .. WHERE id=..`. -/
def Db.updateProposal (id : Uuid) (f : Proposal → Proposal) (db : Db) : Db :=
  match db.proposals.lookup id with
  | none => db
  | some proposal => { db with proposals := db.proposals.insert id (f proposal) }

/-! ### `capacity.py` -/

namespace Capacity

/-- `check_backlog`, which holds the destination from the count to the end. -/
def checkBacklogScript (now : Time) (name : String) (route : Destination)
    (next : Transaction) : Transaction :=
  lock (.backlog name) fun _ => read fun db =>
  if route.backlogLimit ≤ backlog db now name then .rollback .raised else next

/-- `admission`, for the owner of the customer. -/
def admissionScript (now : Time) (owner : Option String)
    (next : Option String → Transaction) : Transaction :=
  read fun db =>
  if db.destinations.entries.isEmpty then next none
  else read fun db =>
    match owner.bind fun owner => db.destinationRoutes.lookup owner with
    | none => .rollback .raised
    | some name =>
      match db.destinations.lookup name with
      | none => .rollback .raised
      | some route => checkBacklogScript now name route (next (some name))

/-- `readmission`, for a job that was admitted before. -/
def readmissionScript (now : Time) (key : Uuid) (next : Transaction) : Transaction :=
  read fun db =>
  match db.jobRoutes.lookup key with
  | none => next
  | some name =>
    match db.destinations.lookup name with
    | none => next
    | some route => checkBacklogScript now name route next

/-- The `INSERT` into `cp.job_routes`, for a job that has a destination. -/
def bindScript (key : Uuid) (destination : Option String) (next : Transaction) : Transaction :=
  match destination with
  | none => next
  | some name => insertRow [.jobRoute key] (bind key (some name)) next

/-- The permits that `acquire` deletes first. -/
def expired (now : Time) (name : String) (db : Db) : List Uuid :=
  (db.requestPermits.entries.filter fun row =>
    row.2.destination = name && row.2.expires ≤ now).map (·.1)

/-- The transaction of `acquire`: the row of the state is locked before the permits. -/
def acquireScript (now : Time) (name : String) (route : Destination) (kind : RequestKind) :
    Transaction :=
  executionOpen fun _ => lock (.capacity name) fun _ =>
  .write (fun db => { db with
    capacityState := db.capacityState.insert name (stateRow name db) }) <|
  read fun db =>
  let state := stateRow name db
  executionOpen fun _ => read fun db =>
  lockAll ((expired now name db).map .requestPermit) <|
  .write (fun db => { db with
    requestPermits := db.requestPermits.filter fun _ permit =>
      !(permit.destination = name && permit.expires ≤ now) }) <|
  read fun db =>
  let live := (db.requestPermits.entries.filter fun row => row.2.destination = name).length
  let window := max (now / seconds 1) state.windowId
  let used := if state.windowId = window then state.used else 0
  let limit := route.requestsPerSecond - (if kind = .dispatch then 1 else 0)
  let eligible := state.nextProbe.all (· ≤ now)
  if eligible = false ∨ limit ≤ used ∨ route.concurrency ≤ live then .commit (.permitted none)
  else draw fun token =>
    let row := { state with windowId := window, used := used + 1, lastServed := some now }
    insertRow [.requestPermit token, .capacityRequest token] (fun db => { db with
      requestPermits := db.requestPermits.insert token ⟨name, now + seconds 30, kind⟩
      capacityRequests := db.capacityRequests.insert token ⟨name, window, kind, now⟩
      capacityState := db.capacityState.insert name row }) <|
    .commit (.permitted (some token))

/-- The transaction of `release`: the permit is locked before the row of the state. -/
def releaseScript (now : Time) (name : String) (token : Uuid) (failed : Bool) (cooldown : ℕ) :
    Transaction :=
  executionOpen fun _ =>
  .select (fun db => (db.requestPermits.lookup token).map fun _ =>
    (.requestPermit token, .exclusive)) fun _ =>
  .write (fun db => { db with requestPermits := db.requestPermits.erase token }) <|
  executionOpen fun _ => lock (.capacityCompletion token) fun db =>
  if (db.capacityRequests.lookup token).isNone ∨ (db.capacityCompletions.lookup token).isSome
  then .rollback .raised
  else
    .write (fun db => { db with
      capacityCompletions := db.capacityCompletions.insert token ⟨now, failed⟩ }) <|
    if failed = false then .commit .done
    else executionOpen fun _ => lock (.capacity name) fun db =>
      match db.capacityState.lookup name with
      | none => .commit .done
      | some state =>
        let probe := laterProbe state.nextProbe (now + seconds cooldown)
        let row := { state with nextProbe := some probe }
        .write (fun db => { db with capacityState := db.capacityState.insert name row }) <|
        .commit .done

/-- The row of an `UPDATE` is locked after the trigger of the statement. -/
def deferScript (now : Time) (id : Uuid) (token : Option Uuid) (attempted : Bool) :
    Transaction :=
  executionOpen fun _ => lock (.job id) fun db =>
  match db.jobs.lookup id with
  | none => .commit .done
  | some job =>
    if token.isSome ∧ job.leaseToken = token ∧ job.status = .leased then
      let refund := if attempted then 0 else 1
      if job.attempts < refund then .rollback .raised
      else .write (Db.updateJob id (deferred now refund)) (.commit .done)
    else .commit .done

end Capacity

/-! ### `service.py` -/

namespace Service

/-- The block of `ingest` for an identified customer, and the record of the event. -/
def processScript (now : Time) (source : Source) (event : SourceEvent) (customerId : Uuid) :
    Transaction :=
  lock (.customer customerId) fun db =>
  match db.customers.lookup customerId with
  | none => .rollback .raised
  | some row =>
    insertRow [.event source event.eventId] (fun db =>
      let processed := process now source event customerId row db
      record now source event processed.1 processed.2) (.commit .done)

/-- The statements of `ingest`. -/
def ingestScript (now : Time) (source : Source) (event : SourceEvent) : Transaction :=
  executionOpen fun _ => lock .identities fun _ =>
  read fun db =>
  match db.events.lookup (source, event.eventId) with
  | some previous =>
    if previous.hash ≠ digest event then
      modify (fun db => (db.exception now .idempotencyConflict (.text event.eventId)
        (.idempotencyConflict source previous.hash (digest event))).audit now source.actor
          (.text event.eventId) (.sourceConflict db.nextException)) (.commit .done)
    else
      modify (fun db => db.audit now source.actor (.text event.eventId)
        (.sourceDuplicate (digest event))) (.commit .done)
  | none =>
    read fun db =>
    match db.identities.lookup (source, event.subject) with
    | some customerId => processScript now source event customerId
    | none =>
      read fun db =>
      let found := candidates event db
      if source ≠ .crm ∨ found ≠ [] ∨ event.attributes.email = none ∨
          event.attributes.email = some "" then
        let reason := if 1 < found.length then .identityAmbiguous else .identityReviewRequired
        insertRow [.event source event.eventId] (fun db =>
          let result := .exception reason db.nextException
          record now source event result ((db.exception now reason (.text event.subject)
            (.identityReview source event.eventId found)).audit now source.actor
              (.text event.subject) (.identityException result))) (.commit .done)
      else draw fun id =>
        insertRow [.customer id, .identity source event.subject, .identityOf source id]
          (fun db => { db with
            customers := db.customers.insert id Customer.initial
            identities := db.identities.insert (source, event.subject) id })
          (processScript now source event id)

/-- The statements of `link`. -/
def linkScript (now : Time) (actor : Actor) (command : Contract.Link) : Transaction :=
  lock .identities fun _ => lock (.customer command.customerId) fun db =>
  match db.customers.lookup command.customerId with
  | none => .rollback .raised
  | some row =>
    if row.revision ≠ command.expectedRevision then .rollback .raised
    else read fun db =>
      if (db.identities.lookup (command.source, command.subject)).any (· ≠ command.customerId) then
        .rollback .raised
      else read fun db =>
        if otherSubject command db then .rollback .raised
        else
          insertRow [.identity command.source command.subject,
            .identityOf command.source command.customerId] (fun db =>
            if (db.identities.lookup (command.source, command.subject)).isSome then db
            else { db with identities :=
              db.identities.insert (command.source, command.subject) command.customerId }) <|
          modify (fun db => db.audit now actor (.id command.customerId) (.identityLink command)) <|
          .commit .done

/-- The writes of an admitted `propose`. -/
def enqueueScript (now : Time) (actor : Actor) (command : Contract.Proposal) (row : Customer)
    (decision : Decision × Reason) (destination : Option String) : Transaction :=
  insertProposal command.requestId (proposalRow now actor command decision) <|
  Capacity.bindScript command.requestId destination <|
  let audited := modify (fun db => db.audit now actor (.id command.requestId)
    (.proposal command row.state row.provenance decision.1 decision.2 (digest command)))
    (.commit .done)
  match decision.1 with
  | .allow => insertJob command.requestId (Job.inserted now) audited
  | .deny => modify (fun db => db.exception now .proposalDenied (.id command.requestId)
      (.denied decision.2)) audited
  | .approval => audited

/-- The statements of `propose`. -/
def proposeScript (now : Time) (actor : Actor) (command : Contract.Proposal) : Transaction :=
  executionOpen fun isOpen =>
  if isOpen = false then .commit .done
  else lock (.customer command.customerId) fun db =>
    match db.customers.lookup command.customerId with
    | none => .rollback .raised
    | some row =>
      lock (.request command.requestId) fun _ => read fun db =>
      match db.proposals.lookup command.requestId with
      | some previous =>
        if previous.hash ≠ digest command ∨ previous.actor ≠ actor then
          modify (fun db => (db.exception now .proposalIdempotencyConflict
            (.id command.requestId) (.proposalConflict actor)).audit now actor
              (.id command.requestId) .proposalConflict) (.commit .done)
        else .commit .done
      | none =>
        let decision := actionDecision command.action row.state row.revision
          command.expectedRevision
        let admitted := enqueueScript now actor command row decision
        if decision.1 ≠ .deny then Capacity.admissionScript now row.state.owner admitted
        else admitted none

/-- The statements of `approve`. -/
def approveScript (now utc utc' : Time) (actor : Actor) (id : Uuid)
    (command : Contract.Approval) : Transaction :=
  executionOpen fun isOpen =>
  if isOpen = false then .commit .done
  else read fun db =>
    match db.proposals.lookup id with
    | none => .rollback .raised
    | some found =>
      lock (.customer found.customerId) fun db =>
      match db.customers.lookup found.customerId with
      | none => .rollback .raised
      | some row =>
        lock (.proposal id) fun db =>
        match db.proposals.lookup id with
        | none => .rollback .raised
        | some proposal =>
          match approvalReason actor command proposal row utc with
          | some reason =>
            modify (fun db => db.audit now actor (.id id) (.approvalDenied reason)) <|
            modify (fun db => db.exception now .approvalDenied (.id id) (.denied reason)) <|
            .commit .done
          | none =>
            if proposal.approvedBy.isSome then .commit .done
            else
              let until_ := approvalUntil proposal utc'
              modify (Db.updateProposal id fun row =>
                { row with approvedBy := some actor, approvedUntil := some until_ }) <|
              ensureJob id (Job.inserted now) <|
              modify (fun db => db.audit now actor (.id id)
                (.approval proposal.hash proposal.revision until_)) <|
              .commit .done

/-- The requeue branch of `resolve`, up to the update of the exception. -/
def requeueScript (now : Time) (row : ExceptionRow) (next : Transaction) : Transaction :=
  if row.category ≠ .retryExhausted ∧ row.category ≠ .remoteRejected then .rollback .raised
  else
    match row.subject with
    | .text _ | .exception _ => .rollback .raised
    | .id key =>
      lock (.job key) fun db =>
      match db.jobs.lookup key with
      | none => .rollback .raised
      | some job =>
        if job.status ≠ .dead then .rollback .raised
        else Capacity.readmissionScript now key <|
          modify (Db.updateJob key (requeued now)) next

/-- The statements of `resolve`. -/
def resolveScript (now : Time) (actor : Actor) (id : ℕ) (command : Contract.Resolution) :
    Transaction :=
  lock (.exception id) fun db =>
  match exceptionRow db id with
  | none => .rollback .raised
  | some row =>
    if row.status ≠ .opened then .rollback .raised
    else
      let close := fun status : ExceptionStatus =>
        modify (closeException id row status) <|
        modify (fun db => db.audit now actor (.exception id) (.exceptionResolution command)) <|
        .commit .done
      match command.disposition with
      | .acknowledge => close .acknowledged
      | .requeue => requeueScript now row (close .requeued)

end Service

/-! ### `worker.py` -/

namespace Worker

/-- `FOR UPDATE OF j SKIP LOCKED` chooses and locks in one statement; `locked` are the rows
it skips. -/
def claimScript (now : Time) (leaseSeconds : ℤ) (locked : List Uuid) : Transaction :=
  executionOpen fun isOpen =>
  if isOpen = false then .commit (.claimed none)
  else .select
    (fun db => (first (claimable now locked db)).map fun c => (.job c.id, .exclusive)) fun db =>
    match first (claimable now locked db) with
    | none => .commit (.claimed none)
    | some candidate =>
      draw fun token =>
      let row := leased now leaseSeconds token candidate.job
      modify (Db.updateJob candidate.id (leased now leaseSeconds token)) <|
      modify (fun db => db.audit now .executor (.id candidate.id)
        (.claim row.attempts (candidate.job.status = .leased))) <|
      .commit (.claimed (some ⟨candidate.id, row⟩))

/-- The statements of `finish`. -/
def finishScript (now jitter : Time) (id : Uuid) (token : Option Uuid) (verdict : Verdict) :
    Transaction :=
  lock (.job id) fun db =>
  match db.jobs.lookup id with
  | none => .rollback .raised
  | some current =>
    if fenced token current then .commit .done
    else
      let final := budgeted verdict.status verdict.reason current
      let backoff := match verdict.delay with
        | some delay => seconds delay
        | none => seconds (min 60 (2 ^ current.attempts)) + jitter
      modify (Db.updateJob id (finished now backoff final.1 final.2 verdict.remoteResult
        (some (verdict.uncertain.getD current.uncertain)))) <|
      let audited := modify (fun db => db.audit now .executor (.id id)
        (.executionResult final.1 final.2 current.attempts verdict.remoteResult)) (.commit .done)
      if final.1 = .dead ∨ final.1 = .blocked then
        modify (fun db => db.exception now (deadLetterCategory final.2) (.id id)
          (.execution final.2 current.uncertain)) audited
      else audited

/-- The statements of `prepare`. -/
def prepareScript (now utc : Time) (id : Uuid) (token : Option Uuid) : Transaction :=
  let refused := fun reason : Reason => Script.commit (.prepared (.ok (.refused reason)))
  let raised := fun fault : Fault => Script.rollback (.prepared (.error fault))
  executionOpen fun isOpen =>
  if isOpen = false then refused .recoveryClosed
  else read fun db =>
    match db.proposals.lookup id with
    | none => raised .proposalNotFound
    | some proposal =>
      lock (.customer proposal.customerId) fun db =>
      match db.customers.lookup proposal.customerId with
      | none => raised .customerNotFound
      | some row =>
        lock (.job id) fun db =>
        match db.jobs.lookup id with
        | none => raised .jobNotFound
        | some current =>
          if fenced token current then refused .leaseLost
          else
            match Service.validProposal proposal row utc true with
            | some reason => refused reason
            | none =>
              match mutationOf proposal row with
              | .error fault => raised fault
              | .ok mutation =>
                if current.mutation.any (· ≠ mutation) then refused .mutationChanged
                else
                  modify (Db.updateJob id (intended mutation)) <|
                  modify (fun db => db.audit now .executor (.id id)
                    (.dispatchAuthorized mutation.revision (digest mutation) current.attempts)) <|
                  .commit (.prepared (.ok (.dispatch mutation)))

end Worker

/-! ### `recovery.py` -/

namespace Recovery

/-- A statement on a recovery table fires no trigger. -/
def beginScript (now : Time) (coordinator : Coordinator) : Transaction :=
  lock .gate fun db =>
  if db.gate.mode = .closed then .rollback .raised
  else draw fun key => lock (.session key) fun db =>
    if (db.sessions.lookup key).isSome then .rollback .raised
    else
      .write (fun db => { db with
        sessions := db.sessions.insert key
          ⟨coordinator.binding, digest coordinator.binding, now, .closed⟩
        gate := ⟨.closed, db.gate.epoch + 1, some key, none, none⟩ }) <|
      .commit .done

/-- The statements of `verify`. -/
def verifyScript (now : Time) (coordinator : Coordinator) (surroundings : Surroundings)
    (sessionId : Uuid) : Transaction :=
  lock .gate fun _ => read fun db =>
  match currentSession coordinator sessionId db with
  | .error _ => .rollback .raised
  | .ok session =>
    read fun db =>
    match observe coordinator surroundings session db with
    | .error _ => .rollback .raised
    | .ok report =>
      draw fun key => lock (.proof key) fun db =>
      if (db.proofs.lookup key).isSome then .rollback .raised
      else
        .write (fun db => { db with
          proofs := db.proofs.insert key ⟨sessionId, report, digest report, now⟩ }) <|
        .commit .done

/-- The statements of the `approve` of a recovery. -/
def approveScript (now : Time) (coordinator : Coordinator) (surroundings : Surroundings)
    (sessionId proofId : Uuid) : Transaction :=
  lock .gate fun _ => read fun db =>
  match freshApproval coordinator surroundings sessionId proofId db with
  | .error _ => .rollback .raised
  | .ok _ =>
    lock (.session sessionId) fun _ =>
    .write (fun db => { db with
      gate := { db.gate with approvedProof := some proofId, approvedAt := some now } }) <|
    .write (markSession sessionId .approved) <|
    .commit .done

/-- The statements of `resume`. -/
def resumeScript (coordinator : Coordinator) (surroundings : Surroundings)
    (sessionId proofId : Uuid) : Transaction :=
  lock .gate fun _ => read fun db =>
  match freshApproval coordinator surroundings sessionId proofId db with
  | .error _ => .rollback .raised
  | .ok _ =>
    if db.gate.approvedProof ≠ some proofId then .rollback .raised
    else
      lock (.session sessionId) fun _ =>
      .write (fun db => { db with
        gate := { db.gate with mode := .opened, approvedProof := none } }) <|
      .write (markSession sessionId .resumed) <|
      .commit .done

end Recovery

/-! ### All transactions -/

/-- The statements of a transaction; `now` is what the database clock reads in it. -/
def Tx.script (now : Time) : Tx → Transaction
  | .ingest source event => Service.ingestScript now source event
  | .link actor command => Service.linkScript now actor command
  | .propose actor command => Service.proposeScript now actor command
  | .approve utc utc' actor id command => Service.approveScript now utc utc' actor id command
  | .resolve actor id command => Service.resolveScript now actor id command
  | .claim leaseSeconds locked => Worker.claimScript now leaseSeconds locked
  | .prepare utc id token => Worker.prepareScript now utc id token
  | .finish jitter id token verdict => Worker.finishScript now jitter id token verdict
  | .defer id token attempted => Capacity.deferScript now id token attempted
  | .acquire name route kind => Capacity.acquireScript now name route kind
  | .release name token failed cooldown => Capacity.releaseScript now name token failed cooldown
  | .begin coordinator => Recovery.beginScript now coordinator
  | .verify coordinator surroundings sessionId =>
      Recovery.verifyScript now coordinator surroundings sessionId
  | .approveRecovery coordinator surroundings sessionId proofId =>
      Recovery.approveScript now coordinator surroundings sessionId proofId
  | .resume coordinator surroundings sessionId proofId =>
      Recovery.resumeScript coordinator surroundings sessionId proofId

end ControlPlane
