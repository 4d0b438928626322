import ControlPlane.Model.Statements

/-!
# What the statements write

Most transactions leave the work alone, or what is known of the customers, or both. That is
seen from their writes one by one, whatever is read in between and whoever commits in between.

A write records one row in the audit log at most, and always does or never, whatever the
state.
-/

namespace ControlPlane

open Framework

/-! ### Kinds of writes -/

namespace Db

/-- The proposals, their routes and their jobs are the same. -/
structure SameWork (db db' : Db) : Prop where
  supply : db'.supply = db.supply
  destinations : db'.destinations = db.destinations
  proposals : db'.proposals = db.proposals
  routes : db'.jobRoutes = db.jobRoutes
  jobs : db'.jobs = db.jobs

/-- The work is the same twice. -/
theorem SameWork.trans {db db₁ db₂ : Db} (h₁ : db.SameWork db₁) (h₂ : db₁.SameWork db₂) :
    db.SameWork db₂ :=
  ⟨h₂.supply.trans h₁.supply, h₂.destinations.trans h₁.destinations,
    h₂.proposals.trans h₁.proposals, h₂.routes.trans h₁.routes, h₂.jobs.trans h₁.jobs⟩

end Db

/-- The write leaves the proposals, their routes and their jobs alone. -/
abbrev LeavesWork (effect : Db → Db) : Prop := ∀ db : Db, db.SameWork (effect db)

/-- The write leaves the customers and the events alone, and records no decision. -/
structure LeavesSources (effect : Db → Db) : Prop where
  supply : ∀ db, (effect db).supply = db.supply
  customers : ∀ db, (effect db).customers = db.customers
  events : ∀ db, (effect db).events = db.events
  log : (∀ db, (effect db).auditLog = db.auditLog) ∨
    ∀ db, ∃ row : AuditRow, row.isDecision = false ∧ (effect db).auditLog = db.auditLog ++ [row]

/-- The write is none of either. -/
structure Aside (effect : Db → Db) : Prop where
  work : LeavesWork effect
  sources : LeavesSources effect

/-- Locks write nothing. -/
theorem writes_lockAll {Ok : (Db → Db) → Prop} {next : Transaction} (resources : List Resource)
    (h : next.Writes Ok) : (lockAll resources next).Writes Ok := by
  induction resources with
  | nil => exact h
  | cons resource resources ih => exact fun _ => ih

variable (now : Time)

/-! ### Transactions on the sources -/

namespace Service

/-- An event is processed without touching the work. -/
theorem process_writes (source : Source) (event : SourceEvent) (customerId : Uuid) :
    (processScript now source event customerId).Writes LeavesWork := by
  intro db
  dsimp only
  split
  · trivial
  · refine fun _ _ => ⟨fun db => ?_, trivial⟩
    unfold record process
    dsimp only
    split <;> exact ⟨rfl, rfl, rfl, rfl, rfl⟩

/-- So is a source event as a whole. -/
theorem ingest_writes (source : Source) (event : SourceEvent) :
    (ingestScript now source event).Writes LeavesWork := by
  intro _ _ db
  dsimp only
  split
  · exact .ite (fun _ => ⟨fun _ => ⟨rfl, rfl, rfl, rfl, rfl⟩, trivial⟩)
      fun _ => ⟨fun _ => ⟨rfl, rfl, rfl, rfl, rfl⟩, trivial⟩
  intro db
  dsimp only
  split
  · exact process_writes now source event _
  refine fun db => .ite (fun _ _ => ⟨fun _ => ⟨rfl, rfl, rfl, rfl, rfl⟩, trivial⟩) fun db => ?_
  refine fun _ => writes_lockAll _ ⟨fun _ => ⟨rfl, rfl, rfl, rfl, rfl⟩, ?_⟩
  exact process_writes now source event _

/-- An identity that is linked is neither source data nor work. -/
theorem identify_aside (source : Source) (subject : String) (customerId : Uuid) :
    Aside fun db => if (db.identities.lookup (source, subject)).isSome then db
      else { db with identities := db.identities.insert (source, subject) customerId } := by
  refine ⟨fun db => ?_, fun db => ?_, fun db => ?_, fun db => ?_, .inl fun db => ?_⟩
  · split <;> exact ⟨rfl, rfl, rfl, rfl, rfl⟩
  all_goals split <;> rfl

/-- `link` writes aside. -/
theorem link_writes (actor : Actor) (command : Contract.Link) :
    (linkScript now actor command).Writes Aside := by
  intro _ db
  dsimp only
  split
  · trivial
  refine .ite trivial fun db => .ite trivial fun db => .ite trivial fun _ => writes_lockAll _
    ⟨identify_aside _ _ _, fun _ => ⟨⟨fun _ => ⟨rfl, rfl, rfl, rfl, rfl⟩, fun _ => rfl,
      fun _ => rfl, fun _ => rfl, .inr fun _ => ⟨_, rfl, rfl⟩⟩, trivial⟩⟩

end Service

/-! ### Transactions on neither -/

namespace Capacity

/-- `acquire` writes aside. -/
theorem acquire_writes (name : String) (route : Destination) (kind : RequestKind) :
    (acquireScript now name route kind).Writes Aside := by
  refine fun _ _ => ⟨?_, fun _ _ db => writes_lockAll _ ⟨?_, fun db => .ite trivial fun db _ =>
    writes_lockAll _ ⟨?_, trivial⟩⟩⟩
  all_goals exact ⟨fun _ => ⟨rfl, rfl, rfl, rfl, rfl⟩, fun _ => rfl, fun _ => rfl, fun _ => rfl,
    .inl fun _ => rfl⟩

/-- `release` writes aside. -/
theorem release_writes (name : String) (token : Uuid) (failed : Bool) (cooldown : ℕ) :
    (releaseScript now name token failed cooldown).Writes Aside := by
  refine fun _ _ => ⟨?_, fun _ db => .ite trivial ⟨?_, .ite trivial fun _ db => ?_⟩⟩
  · exact ⟨fun _ => ⟨rfl, rfl, rfl, rfl, rfl⟩, fun _ => rfl, fun _ => rfl, fun _ => rfl,
      .inl fun _ => rfl⟩
  · exact ⟨fun _ => ⟨rfl, rfl, rfl, rfl, rfl⟩, fun _ => rfl, fun _ => rfl, fun _ => rfl,
      .inl fun _ => rfl⟩
  · dsimp only
    split
    · trivial
    · exact ⟨⟨fun _ => ⟨rfl, rfl, rfl, rfl, rfl⟩, fun _ => rfl, fun _ => rfl, fun _ => rfl,
        .inl fun _ => rfl⟩, trivial⟩

end Capacity

namespace Recovery

/-- `begin` writes aside. -/
theorem begin_writes (coordinator : Coordinator) :
    (beginScript now coordinator).Writes Aside := by
  refine fun _ => .ite trivial fun _ _ => .ite trivial ⟨?_, trivial⟩
  exact ⟨fun _ => ⟨rfl, rfl, rfl, rfl, rfl⟩, fun _ => rfl, fun _ => rfl, fun _ => rfl,
    .inl fun _ => rfl⟩

/-- `verify` writes aside. -/
theorem verify_writes (coordinator : Coordinator) (surroundings : Surroundings)
    (sessionId : Uuid) : (verifyScript now coordinator surroundings sessionId).Writes Aside := by
  intro _ db
  dsimp only
  split
  · trivial
  intro db
  dsimp only
  split
  · trivial
  refine fun _ _ => .ite trivial ⟨?_, trivial⟩
  exact ⟨fun _ => ⟨rfl, rfl, rfl, rfl, rfl⟩, fun _ => rfl, fun _ => rfl, fun _ => rfl,
    .inl fun _ => rfl⟩

/-- A session is marked aside. -/
theorem markSession_aside (sessionId : Uuid) (status : SessionStatus) :
    Aside (markSession sessionId status) := by
  unfold markSession
  refine ⟨fun db => ?_, fun db => ?_, fun db => ?_, fun db => ?_, .inl fun db => ?_⟩
  · split <;> exact ⟨rfl, rfl, rfl, rfl, rfl⟩
  all_goals split <;> rfl

/-- The approval of a recovery writes aside. -/
theorem approve_writes (coordinator : Coordinator) (surroundings : Surroundings)
    (sessionId proofId : Uuid) :
    (approveScript now coordinator surroundings sessionId proofId).Writes Aside := by
  intro _ db
  dsimp only
  split
  · trivial
  refine fun _ => ⟨?_, markSession_aside _ _, trivial⟩
  exact ⟨fun _ => ⟨rfl, rfl, rfl, rfl, rfl⟩, fun _ => rfl, fun _ => rfl, fun _ => rfl,
    .inl fun _ => rfl⟩

/-- `resume` writes aside. -/
theorem resume_writes (coordinator : Coordinator) (surroundings : Surroundings)
    (sessionId proofId : Uuid) :
    (resumeScript coordinator surroundings sessionId proofId).Writes Aside := by
  intro _ db
  dsimp only
  split
  · trivial
  refine .ite trivial fun _ => ⟨?_, markSession_aside _ _, trivial⟩
  exact ⟨fun _ => ⟨rfl, rfl, rfl, rfl, rfl⟩, fun _ => rfl, fun _ => rfl, fun _ => rfl,
    .inl fun _ => rfl⟩

end Recovery

/-! ### Transactions on the work -/

/-- The update of a job leaves the sources. -/
theorem updateJob_leaves (id : Uuid) (f : Job → Job) : LeavesSources (Db.updateJob id f) := by
  unfold Db.updateJob
  refine ⟨fun db => ?_, fun db => ?_, fun db => ?_, .inl fun db => ?_⟩ <;> split <;> rfl

/-- The update of a proposal leaves the sources. -/
theorem updateProposal_leaves (id : Uuid) (f : Proposal → Proposal) :
    LeavesSources (Db.updateProposal id f) := by
  unfold Db.updateProposal
  refine ⟨fun db => ?_, fun db => ?_, fun db => ?_, .inl fun db => ?_⟩ <;> split <;> rfl

/-- An admission writes its row only. -/
theorem writes_insertAdmitted {Ok : (Db → Db) → Prop} {key : Resource} {violated : Db → Bool}
    {effect : Db → Db} {next : Transaction} (h_effect : Ok effect) (h : next.Writes Ok) :
    (insertAdmitted key violated effect next).Writes Ok :=
  fun _ _ => .ite trivial fun _ => .ite trivial ⟨h_effect, h⟩

/-- `defer` leaves the sources. -/
theorem Capacity.defer_writes (id : Uuid) (token : Option Uuid) (attempted : Bool) :
    (deferScript now id token attempted).Writes LeavesSources := by
  intro _ db
  dsimp only
  split
  · trivial
  · exact .ite (.ite trivial ⟨updateJob_leaves _ _, trivial⟩) trivial

namespace Service

/-- A new request leaves the sources. -/
theorem enqueue_writes (actor : Actor) (command : Contract.Proposal) (row : Customer)
    (decision : Decision × Reason) (destination : Option String) :
    (enqueueScript now actor command row decision destination).Writes LeavesSources := by
  have h_audited : (modify (fun db => db.audit now actor (.id command.requestId)
      (.proposal command row.state row.provenance decision.1 decision.2 (digest command)))
      (.commit .done)).Writes LeavesSources :=
    fun _ => ⟨⟨fun _ => rfl, fun _ => rfl, fun _ => rfl, .inr fun _ => ⟨_, rfl, rfl⟩⟩, trivial⟩
  -- the route comes first, whatever is decided
  have h_bind : ∀ next : Transaction, next.Writes LeavesSources →
      (Capacity.bindScript command.requestId destination next).Writes LeavesSources := by
    intro next h_next
    cases destination with
    | none => exact h_next
    | some name =>
      exact fun _ => writes_lockAll _
        ⟨⟨fun _ => rfl, fun _ => rfl, fun _ => rfl, .inl fun _ => rfl⟩, h_next⟩
  refine writes_insertAdmitted ⟨fun _ => rfl, fun _ => rfl, fun _ => rfl, .inl fun _ => rfl⟩ ?_
  refine h_bind _ ?_
  dsimp only
  split
  · exact writes_insertAdmitted
      ⟨fun _ => rfl, fun _ => rfl, fun _ => rfl, .inl fun _ => rfl⟩ h_audited
  · exact fun _ => ⟨⟨fun _ => rfl, fun _ => rfl, fun _ => rfl, .inl fun _ => rfl⟩, h_audited⟩
  · exact h_audited

/-- `propose` leaves the sources. -/
theorem propose_writes (actor : Actor) (command : Contract.Proposal) :
    (proposeScript now actor command).Writes LeavesSources := by
  refine fun _ => .ite trivial fun db => ?_
  dsimp only
  split
  · trivial
  intro _ db
  dsimp only
  split
  · refine .ite (fun _ => ⟨?_, trivial⟩) trivial
    exact ⟨fun _ => rfl, fun _ => rfl, fun _ => rfl, .inr fun _ => ⟨_, rfl, rfl⟩⟩
  refine .ite (fun db => .ite (enqueue_writes now actor command _ _ _) fun db => ?_)
    (enqueue_writes now actor command _ _ _)
  dsimp only
  split
  · trivial
  split
  · trivial
  · exact fun _ _ => .ite trivial (enqueue_writes now actor command _ _ _)

/-- `approve` leaves the sources. -/
theorem approve_writes (utc utc' : Time) (actor : Actor) (id : Uuid)
    (command : Contract.Approval) :
    (approveScript now utc utc' actor id command).Writes LeavesSources := by
  refine fun _ => .ite trivial fun db => ?_
  dsimp only
  split
  · trivial
  intro db
  dsimp only
  split
  · trivial
  intro db
  dsimp only
  split
  · trivial
  split
  · refine fun _ => ⟨?_, fun _ => ⟨?_, trivial⟩⟩
    · exact ⟨fun _ => rfl, fun _ => rfl, fun _ => rfl, .inr fun _ => ⟨_, rfl, rfl⟩⟩
    · exact ⟨fun _ => rfl, fun _ => rfl, fun _ => rfl, .inl fun _ => rfl⟩
  refine .ite trivial fun _ => ⟨updateProposal_leaves _ _, writes_insertAdmitted ?_ fun _ =>
    ⟨⟨fun _ => rfl, fun _ => rfl, fun _ => rfl, .inr fun _ => ⟨_, rfl, rfl⟩⟩, trivial⟩⟩
  refine ⟨fun db => ?_, fun db => ?_, fun db => ?_, .inl fun db => ?_⟩ <;> split <;> rfl

/-- `resolve` leaves the sources. -/
theorem resolve_writes (actor : Actor) (id : ℕ) (command : Contract.Resolution) :
    (resolveScript now actor id command).Writes LeavesSources := by
  have h_close : ∀ row status, (modify (closeException id row status) <|
      modify (fun db => db.audit now actor (.exception id) (.exceptionResolution command)) <|
      .commit .done).Writes LeavesSources := fun row status _ =>
    ⟨⟨fun _ => rfl, fun _ => rfl, fun _ => rfl, .inl fun _ => rfl⟩, fun _ =>
      ⟨⟨fun _ => rfl, fun _ => rfl, fun _ => rfl, .inr fun _ => ⟨_, rfl, rfl⟩⟩, trivial⟩⟩
  intro db
  dsimp only
  split
  · trivial
  refine .ite trivial ?_
  split
  · exact h_close _ _
  refine .ite trivial ?_
  split
  · trivial
  · trivial
  intro db
  dsimp only
  split
  · trivial
  refine .ite trivial fun db => ?_
  dsimp only
  -- the writes of a requeue, behind whichever test comes last
  have h_requeue : ∀ row key, (modify (Db.updateJob key (requeued now)) <|
      modify (closeException id row .requeued) <|
      modify (fun db => db.audit now actor (.exception id) (.exceptionResolution command)) <|
      .commit .done).Writes LeavesSources :=
    fun row key _ => ⟨updateJob_leaves _ _, h_close row _⟩
  split
  · exact h_requeue _ _
  split
  · exact h_requeue _ _
  · exact fun _ _ => .ite trivial (h_requeue _ _)

end Service

namespace Worker

/-- `claim` leaves the sources. -/
theorem claim_writes (leaseSeconds : ℤ) (locked : List Uuid) :
    (claimScript now leaseSeconds locked).Writes LeavesSources := by
  refine fun _ => .ite trivial fun db => ?_
  dsimp only
  split
  · trivial
  · exact fun _ _ => ⟨updateJob_leaves _ _, fun _ =>
      ⟨⟨fun _ => rfl, fun _ => rfl, fun _ => rfl, .inr fun _ => ⟨_, rfl, rfl⟩⟩, trivial⟩⟩

/-- `finish` leaves the sources. -/
theorem finish_writes (jitter : Time) (id : Uuid) (token : Option Uuid) (verdict : Verdict) :
    (finishScript now jitter id token verdict).Writes LeavesSources := by
  intro db
  dsimp only
  split
  · trivial
  refine .ite trivial fun _ => ⟨updateJob_leaves _ _, .ite (fun _ => ⟨?_, fun _ => ⟨?_, trivial⟩⟩)
    fun _ => ⟨?_, trivial⟩⟩
  · exact ⟨fun _ => rfl, fun _ => rfl, fun _ => rfl, .inl fun _ => rfl⟩
  · exact ⟨fun _ => rfl, fun _ => rfl, fun _ => rfl, .inr fun _ => ⟨_, rfl, rfl⟩⟩
  · exact ⟨fun _ => rfl, fun _ => rfl, fun _ => rfl, .inr fun _ => ⟨_, rfl, rfl⟩⟩

/-- `prepare` leaves the sources. -/
theorem prepare_writes (utc : Time) (id : Uuid) (token : Option Uuid) :
    (prepareScript now utc id token).Writes LeavesSources := by
  refine fun _ => .ite trivial fun db => ?_
  dsimp only
  split
  · trivial
  intro db
  dsimp only
  split
  · trivial
  intro db
  dsimp only
  split
  · trivial
  refine .ite trivial ?_
  split
  · trivial
  split
  · trivial
  refine .ite trivial fun _ => ⟨updateJob_leaves _ _, fun _ => ⟨?_, trivial⟩⟩
  exact ⟨fun _ => rfl, fun _ => rfl, fun _ => rfl, .inr fun _ => ⟨_, rfl, rfl⟩⟩

end Worker

/-- **Only an event changes what is known of the customers**, or records a decision. -/
theorem Tx.writes_sources (now : Time) {tx : Tx} (h : ∀ source event, tx ≠ .ingest source event) :
    (tx.script now).Writes LeavesSources := by
  cases tx with
  | ingest source event => exact absurd rfl (h source event)
  | link actor command => exact (Service.link_writes now actor command).imp fun _ h => h.sources
  | propose actor command => exact Service.propose_writes now actor command
  | approve utc utc' actor id command => exact Service.approve_writes now utc utc' actor id command
  | resolve actor id command => exact Service.resolve_writes now actor id command
  | claim leaseSeconds locked => exact Worker.claim_writes now leaseSeconds locked
  | prepare utc id token => exact Worker.prepare_writes now utc id token
  | finish jitter id token verdict => exact Worker.finish_writes now jitter id token verdict
  | defer id token attempted => exact Capacity.defer_writes now id token attempted
  | acquire name route kind =>
    exact (Capacity.acquire_writes now name route kind).imp fun _ h => h.sources
  | release name token failed cooldown =>
    exact (Capacity.release_writes now name token failed cooldown).imp fun _ h => h.sources
  | begin coordinator => exact (Recovery.begin_writes now coordinator).imp fun _ h => h.sources
  | verify coordinator surroundings sessionId =>
    exact (Recovery.verify_writes now coordinator surroundings sessionId).imp fun _ h => h.sources
  | approveRecovery coordinator surroundings sessionId proofId =>
    exact (Recovery.approve_writes now coordinator surroundings sessionId proofId).imp
      fun _ h => h.sources
  | resume coordinator surroundings sessionId proofId =>
    exact (Recovery.resume_writes coordinator surroundings sessionId proofId).imp
      fun _ h => h.sources

end ControlPlane
