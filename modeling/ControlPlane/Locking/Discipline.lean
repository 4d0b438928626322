import ControlPlane.Framework.Engine
import ControlPlane.Model.Server
import ControlPlane.Transactions.Frames
import ControlPlane.Transactions.Work

/-!
# The gate discipline of the transactions

What a transaction may have done when it commits, by what it knows of the gate then:

* it never locked the gate row: it wrote nothing;
* it shared the gate row, and the gate was open: anything but the recovery tables;
* it shared the gate row, and the gate was closed: nothing that is new work (`NoNewWork`);
* it holds the gate row exclusively: it is the coordinator's, wrote nothing but the
  recovery tables, and moved the gate as `GateMove` says.

`Work.disciplined` proves it of every script. A script is checked in two stages, before it
has locked the gate (`Outside`) and behind it (`Inside`), with one rule for each kind of
statement, so that the check of a script follows its statements. The statement in the
middle of a transaction whose trigger locks the gate is where it passes from one stage to
the other.
-/

namespace ControlPlane

open Framework

/-! ### New work -/

/-- The audit records of new work. -/
def AuditDetail.admits : AuditDetail → Bool
  | .proposal .. | .approval .. | .claim .. | .dispatchAuthorized .. => true
  | _ => false

/-- Between the two states no proposal was inserted or approved, no job inserted or leased,
and no dispatch authorized. -/
structure NoNewWork (db db' : Db) : Prop where
  proposals : db'.proposals = db.proposals
  jobs : ∀ id job', db'.jobs.lookup id = some job' → ∃ job, db.jobs.lookup id = some job ∧
    job'.mutation = job.mutation ∧ (job'.status = .leased → job' = job)
  audit : ∃ added, db'.auditLog = db.auditLog ++ added ∧ ∀ row ∈ added, row.detail.admits = false

/-- Nothing was done. -/
theorem NoNewWork.refl (db : Db) : NoNewWork db db :=
  ⟨rfl, fun _ job h => ⟨job, h, rfl, fun _ => rfl⟩, [], (List.append_nil _).symm,
    fun _ h => (by cases h)⟩

/-- Nothing new, twice. -/
theorem NoNewWork.trans {db₁ db₂ db₃ : Db} (h₁ : NoNewWork db₁ db₂) (h₂ : NoNewWork db₂ db₃) :
    NoNewWork db₁ db₃ where
  proposals := h₂.proposals.trans h₁.proposals
  jobs id job₃ h_job₃ := by
    obtain ⟨job₂, h_job₂, h_mutation₂, h_leased₂⟩ := h₂.jobs id job₃ h_job₃
    obtain ⟨job₁, h_job₁, h_mutation₁, h_leased₁⟩ := h₁.jobs id job₂ h_job₂
    refine ⟨job₁, h_job₁, h_mutation₂.trans h_mutation₁, fun h_status => ?_⟩
    obtain rfl := h_leased₂ h_status
    exact h_leased₁ h_status
  audit := by
    obtain ⟨added₁, h_audit₁, h_none₁⟩ := h₁.audit
    obtain ⟨added₂, h_audit₂, h_none₂⟩ := h₂.audit
    refine ⟨added₁ ++ added₂, by rw [h_audit₂, h_audit₁, List.append_assoc], ?_⟩
    intro row h_row
    rcases List.mem_append.mp h_row with h_row | h_row
    · exact h_none₁ row h_row
    · exact h_none₂ row h_row

/-- A write that leaves the proposals, the jobs and the audit log alone. -/
theorem NoNewWork.of_same {db db' : Db} (h_proposals : db'.proposals = db.proposals)
    (h_jobs : db'.jobs = db.jobs) (h_audit : db'.auditLog = db.auditLog) : NoNewWork db db' where
  proposals := h_proposals
  jobs id job' h := ⟨job', h_jobs ▸ h, rfl, fun _ => rfl⟩
  audit := ⟨[], by rw [h_audit, List.append_nil], fun _ h => (by cases h)⟩

/-- A write that adds one audit record, not of new work. -/
theorem NoNewWork.of_audit {db db' : Db} (row : AuditRow) (h : row.detail.admits = false)
    (h_proposals : db'.proposals = db.proposals) (h_jobs : db'.jobs = db.jobs)
    (h_audit : db'.auditLog = db.auditLog ++ [row]) : NoNewWork db db' where
  proposals := h_proposals
  jobs _ job h_job := ⟨job, h_jobs ▸ h_job, rfl, fun _ => rfl⟩
  audit := ⟨[row], h_audit, fun _ h_row => List.mem_singleton.mp h_row ▸ h⟩

/-- An update of a job that keeps its mutation and does not lease it. -/
theorem NoNewWork.updateJob {db : Db} (id : Uuid) {f : Job → Job}
    (h_mutation : ∀ job, (f job).mutation = job.mutation)
    (h_status : ∀ job, (f job).status ≠ .leased) : NoNewWork db (db.updateJob id f) := by
  unfold Db.updateJob
  split
  · exact .refl db
  · rename_i job h_job
    refine ⟨rfl, fun id' job' h_job' => ?_, [], (List.append_nil _).symm, fun _ h => (by cases h)⟩
    rw [Table.lookup_insert] at h_job'
    split at h_job'
    · rename_i h_eq
      obtain rfl := Option.some.inj h_job'
      exact ⟨job, h_eq ▸ h_job, h_mutation job, fun h => absurd h (h_status job)⟩
    · exact ⟨job', h_job', rfl, fun _ => rfl⟩

/-! ### The postcondition -/

/-- The transaction authorized a dispatch. -/
def Answer.authorizes : Answer → Bool
  | .prepared (.ok (.dispatch _)) => true
  | _ => false

/-- What the coordinator's transactions do to the gate. -/
inductive GateMove (work : Work) (gate : Gate) : Gate → Prop
  | kept (gate' : Gate) (h_mode : gate'.mode = gate.mode)
      (h_session : gate'.sessionId = gate.sessionId) : GateMove work gate gate'
  | begun (now : Time) (coordinator : Recovery.Coordinator) (gate' : Gate)
      (h_work : work = .tx ⟨now, .begin coordinator⟩) (h_open : gate.mode = .opened)
      (h_closed : gate'.mode = .closed) : GateMove work gate gate'
  | resumed (now : Time) (coordinator : Recovery.Coordinator)
      (surroundings : Recovery.Surroundings) (sessionId proofId : Uuid) (gate' : Gate)
      (h_work : work = .tx ⟨now, .resume coordinator surroundings sessionId proofId⟩)
      (h_closed : gate.mode = .closed) (h_session : gate.sessionId = some sessionId)
      (h_open : gate'.mode = .opened) : GateMove work gate gate'

/-- What a business statement may write when the gate is in the given mode. -/
structure Lawful (mode : GateMode) (effect : Db → Db) : Prop where
  coordination : ∀ db, (effect db).coordination = db.coordination
  work : mode = .closed → ∀ db, NoNewWork db (effect db)

/-- **The postcondition of every transaction**, by what it knows of the gate. -/
def Permitted : Guard Gate → (Db → Db) → Ending → Prop
  | none, pending, ending => pending = id ∧ ending.answer.authorizes = false
  | some (.shared, gate), pending, ending =>
    Lawful gate.mode pending ∧ (gate.mode = .closed → ending.answer.authorizes = false)
  | some (.exclusive, gate), pending, ending =>
    (∀ db, (pending db).toBusiness = db.toBusiness) ∧ ending.answer.authorizes = false ∧
      ∀ db, db.gate = gate → GateMove ending.work gate (pending db).gate

/-- The permitted steps are those of a disciplined engine. -/
theorem permitted_disciplined : Engine.Disciplined Db.gate Permitted where
  unlocked _ _ h _ := by rw [h.1]; rfl
  shared _ _ _ h db := (Coordination.mk.inj (h.1.coordination db)).1

/-- Two lawful writes are one. -/
theorem Lawful.comp {mode : GateMode} {f g : Db → Db} (h_f : Lawful mode f)
    (h_g : Lawful mode g) : Lawful mode (f ∘ g) where
  coordination db := (h_f.coordination (g db)).trans (h_g.coordination db)
  work h db := (h_g.work h db).trans (h_f.work h (g db))

/-- Writing nothing is lawful. -/
theorem Lawful.id (mode : GateMode) : Lawful mode id :=
  ⟨fun _ => rfl, fun _ db => .refl db⟩

/-- Nothing is forbidden behind an open gate but the recovery tables. -/
theorem Lawful.opened {effect : Db → Db}
    (h : ∀ db, (effect db).coordination = db.coordination) : Lawful .opened effect :=
  ⟨h, fun h_mode => (by cases h_mode)⟩

/-! ### The rules -/

section Rules

variable (work : Work)

/-- The script keeps the rule from outside the gate on. -/
def Outside (script : Transaction) : Prop :=
  script.Ensures .gate Db.gate (fun guard pending answer =>
    Permitted guard pending ⟨work, answer⟩) (·.authorizes = false) none id

/-- The script keeps the rule behind a gate it shares, which is in the given mode. -/
def Inside (mode : GateMode) (script : Transaction) : Prop :=
  ∀ gate : Gate, gate.mode = mode → ∀ pending, Lawful mode pending →
    script.Ensures .gate Db.gate (fun guard pending answer =>
      Permitted guard pending ⟨work, answer⟩) (·.authorizes = false) (some (.shared, gate)) pending

variable {work} {mode : GateMode}

/-- A commit, which authorizes nothing behind a closed gate. -/
theorem inside_commit {answer : Answer} (h : mode = .closed → answer.authorizes = false) :
    Inside work mode (.commit answer) := by
  rintro gate rfl pending h_pending
  exact ⟨h_pending, h⟩

/-- A rollback authorizes nothing. -/
theorem inside_rollback {answer : Answer} (h : answer.authorizes = false) :
    Inside work mode (.rollback answer) := fun _ _ _ _ => h

/-- A statement that does not lock the gate. -/
theorem inside_select {lock : Db → Option (Resource × LockMode)} {next : Db → Transaction}
    (h_lock : ∀ db mode, lock db ≠ some (.gate, mode)) (h : ∀ db, Inside work mode (next db)) :
    Inside work mode (.select lock next) := by
  intro gate h_mode pending h_pending db _
  have h_after : Guard.after .gate (some (.shared, gate)) (lock (pending db)) db.gate =
      some (.shared, gate) := by
    unfold Guard.after
    split
    · rfl
    · rename_i resource mode h_some
      rw [if_neg]
      rintro rfl
      exact h_lock _ _ h_some
  rw [h_after]
  exact h _ gate h_mode pending h_pending

/-- A lock of another row than the gate. -/
theorem inside_lock {resource : Resource} {next : Db → Transaction} (h_lock : resource ≠ .gate)
    (h : ∀ db, Inside work mode (next db)) : Inside work mode (lock resource next) :=
  inside_select (fun _ _ h_eq => by cases h_eq; exact h_lock rfl) h

/-- A read. -/
theorem inside_read {next : Db → Transaction} (h : ∀ db, Inside work mode (next db)) :
    Inside work mode (read next) :=
  inside_select (fun _ _ h_eq => by cases h_eq) h

/-- The draw of an id. -/
theorem inside_draw {next : Uuid → Transaction} (h : ∀ id, Inside work mode (next id)) :
    Inside work mode (draw next) :=
  fun gate h_mode pending h_pending _ _ => ⟨rfl, h _ gate h_mode pending h_pending⟩

/-- Behind the gate, `execution_open` says what it said before. -/
theorem inside_executionOpen {next : Bool → Transaction}
    (h : Inside work mode (next (decide (mode = .opened)))) :
    Inside work mode (executionOpen next) := by
  rintro gate rfl pending h_pending db h_allows
  have h_gate : db.gate = gate := h_allows _ _ rfl
  have h_same : (pending db).gate = db.gate :=
    (Coordination.mk.inj (h_pending.coordination db)).1
  have h_open : (pending db).executionOpen = decide (gate.mode = .opened) := by
    unfold Db.executionOpen
    rw [h_same, h_gate]
  change Script.Ensures _ _ _ _ (next (pending db).executionOpen)
    (some (.shared, db.gate)) pending
  rw [h_open, h_gate]
  exact h gate rfl pending h_pending

/-- A lawful write. -/
theorem inside_write {effect : Db → Db} {next : Transaction} (h_effect : Lawful mode effect)
    (h : Inside work mode next) : Inside work mode (.write effect next) :=
  fun gate h_mode _ h_pending => h gate h_mode _ (h_effect.comp h_pending)

/-- A lawful write by a statement, which reads the gate again. -/
theorem inside_modify {effect : Db → Db} {next : Transaction} (h_effect : Lawful mode effect)
    (h : Inside work mode next) : Inside work mode (modify effect next) :=
  inside_executionOpen (inside_write h_effect h)

/-- Locks of other rows than the gate. -/
theorem inside_lockAll {resources : List Resource} {next : Transaction}
    (h_lock : .gate ∉ resources) (h : Inside work mode next) :
    Inside work mode (lockAll resources next) := by
  induction resources with
  | nil => exact h
  | cons resource resources ih =>
    refine inside_lock (fun h_eq => h_lock (h_eq ▸ List.mem_cons_self)) fun _ => ?_
    exact ih fun h_mem => h_lock (List.mem_cons_of_mem _ h_mem)

/-- A lawful insert. -/
theorem inside_insertRow {keys : List Resource} {effect : Db → Db} {next : Transaction}
    (h_keys : .gate ∉ keys) (h_effect : Lawful mode effect) (h : Inside work mode next) :
    Inside work mode (insertRow keys effect next) :=
  inside_executionOpen (inside_lockAll h_keys (inside_write h_effect h))

/-- **Nothing is admitted behind a closed gate**: the trigger of the row raises. -/
theorem inside_admitted {key : Resource} {violated : Db → Bool} {effect : Db → Db}
    {next : Transaction} (h_key : key ≠ .gate)
    (h_effect : ∀ db, (effect db).coordination = db.coordination)
    (h : mode = .opened → Inside work mode next) :
    Inside work mode (executionOpen fun isOpen =>
      if isOpen = false then .rollback .raised
      else lock key fun db =>
        if violated db then .rollback .raised else .write effect next) := by
  refine inside_executionOpen ?_
  cases mode with
  | closed => exact inside_rollback rfl
  | opened =>
    refine inside_lock h_key fun db => ?_
    split
    · exact inside_rollback rfl
    · exact inside_write (.opened h_effect) (h rfl)

/-- An admission, which goes on only where the gate is open. -/
theorem inside_insertAdmitted {key : Resource} {violated : Db → Bool} {effect : Db → Db}
    {next : Transaction} (h_key : key ≠ .gate)
    (h_effect : ∀ db, (effect db).coordination = db.coordination)
    (h : mode = .opened → Inside work mode next) :
    Inside work mode (insertAdmitted key violated effect next) :=
  inside_executionOpen (inside_admitted h_key h_effect h)

/-- A test. -/
theorem inside_ite {c : Prop} [Decidable c] {yes no : Transaction}
    (h_yes : c → Inside work mode yes) (h_no : ¬ c → Inside work mode no) :
    Inside work mode (if c then yes else no) := by
  split
  · exact h_yes ‹c›
  · exact h_no ‹¬ c›

/-- A commit without having read the gate authorizes nothing and writes nothing. -/
theorem outside_commit {answer : Answer} (h : answer.authorizes = false) :
    Outside work (.commit answer) := ⟨rfl, h⟩

/-- So does a rollback. -/
theorem outside_rollback {answer : Answer} (h : answer.authorizes = false) :
    Outside work (.rollback answer) := h

/-- A lock of another row than the gate, still outside. -/
theorem outside_lock {resource : Resource} {next : Db → Transaction} (h_lock : resource ≠ .gate)
    (h : ∀ db, Outside work (next db)) : Outside work (lock resource next) := by
  intro db _
  have h_after : Guard.after .gate none (some (resource, .exclusive)) db.gate = none :=
    if_neg h_lock
  rw [h_after]
  exact h db

/-- A read, still outside. -/
theorem outside_read {next : Db → Transaction} (h : ∀ db, Outside work (next db)) :
    Outside work (read next) := fun db _ => h db

/-- The statement that passes the gate. -/
theorem outside_executionOpen {next : Bool → Transaction}
    (h : ∀ mode, Inside work mode (next (decide (mode = .opened)))) :
    Outside work (executionOpen next) :=
  fun db _ => h db.gate.mode db.gate rfl id (.id _)

/-- The first write reads the gate, and what follows is inside. -/
theorem outside_modify {effect : Db → Db} {next : Transaction}
    (h_effect : ∀ mode, Lawful mode effect) (h : ∀ mode, Inside work mode next) :
    Outside work (modify effect next) :=
  outside_executionOpen fun mode => inside_write (h_effect mode) (h mode)

/-- So does the first insert. -/
theorem outside_insertRow {keys : List Resource} {effect : Db → Db} {next : Transaction}
    (h_keys : .gate ∉ keys) (h_effect : ∀ mode, Lawful mode effect)
    (h : ∀ mode, Inside work mode next) : Outside work (insertRow keys effect next) :=
  outside_executionOpen fun mode => inside_lockAll h_keys (inside_write (h_effect mode) (h mode))

/-- So does the first admission. -/
theorem outside_insertAdmitted {key : Resource} {violated : Db → Bool} {effect : Db → Db}
    {next : Transaction} (h_key : key ≠ .gate)
    (h_effect : ∀ db, (effect db).coordination = db.coordination)
    (h : ∀ mode, Inside work mode next) : Outside work (insertAdmitted key violated effect next) :=
  outside_executionOpen fun mode => inside_admitted h_key h_effect fun _ => h mode

end Rules

/-! ### The effects -/

section Effects

variable {mode : GateMode} {now : Time}

/-- A write on none of the proposals, the jobs, the audit log and the recovery tables. -/
theorem lawful_same {effect : Db → Db}
    (h_coordination : ∀ db, (effect db).coordination = db.coordination)
    (h_same : ∀ db, (effect db).proposals = db.proposals ∧ (effect db).jobs = db.jobs ∧
      (effect db).auditLog = db.auditLog) : Lawful mode effect :=
  ⟨h_coordination, fun _ db => .of_same (h_same db).1 (h_same db).2.1 (h_same db).2.2⟩

/-- An audit row is lawful unless it records an admission behind a closed gate. -/
theorem lawful_audit {actor : Actor} {subject : Subject} {detail : AuditDetail}
    (h : mode = .closed → detail.admits = false) :
    Lawful mode fun db => db.audit now actor subject detail :=
  ⟨fun _ => rfl, fun h_mode _ =>
    .of_audit ⟨now, actor, subject, policyHash, detail⟩ (h h_mode) rfl rfl rfl⟩

/-- An exception is always lawful. -/
theorem lawful_exception {category : Category} {subject : Subject} {detail : ExceptionDetail} :
    Lawful mode fun db => db.exception now category subject detail :=
  lawful_same (fun _ => rfl) fun _ => ⟨rfl, rfl, rfl⟩

/-- An exception with its audit record, which names it. -/
theorem lawful_reported {category : Category} {subject subject' : Subject}
    {detail : ExceptionDetail} {actor : Actor} {record : ℕ → AuditDetail}
    (h : ∀ id, (record id).admits = false) :
    Lawful mode fun db => (db.exception now category subject detail).audit now actor subject'
      (record db.nextException) :=
  ⟨fun _ => rfl, fun _ db =>
    .of_audit ⟨now, actor, subject', policyHash, record db.nextException⟩ (h _) rfl rfl rfl⟩

/-- An update of a job, which behind a closed gate neither leases it nor intends anything. -/
theorem lawful_updateJob {id : Uuid} {f : Job → Job}
    (h : mode = .closed → (∀ job, (f job).mutation = job.mutation) ∧
      ∀ job, (f job).status ≠ .leased) : Lawful mode (Db.updateJob id f) where
  coordination db := by
    unfold Db.updateJob
    split <;> rfl
  work h_mode db := .updateJob id (h h_mode).1 (h h_mode).2

/-- An event on an identified customer is no new work. -/
theorem lawful_process {source : Source} {event : SourceEvent} {id : Uuid} {row : Customer} :
    Lawful mode fun db =>
      let processed := Service.process now source event id row db
      Service.record now source event processed.1 processed.2 where
  coordination db := (Service.observed_frame now source event id row db).2.1
  work _ db := by
    unfold Service.process Service.record
    dsimp only
    split
    · exact .of_audit ⟨now, source.actor, .id id, policyHash, _⟩ rfl rfl rfl rfl
    · exact .of_audit ⟨now, source.actor, .id id, policyHash, _⟩ rfl rfl rfl rfl

end Effects

/-! ### The scripts -/

section Scripts

variable (work : Work) (now : Time) {mode : GateMode}

namespace Capacity

variable {work}

/-- The check of the backlog writes nothing. -/
theorem checkBacklog_inside {name : String} {route : Destination} {next : Transaction}
    (h : Inside work mode next) : Inside work mode (checkBacklogScript now name route next) := by
  refine inside_lock (by rintro ⟨⟩) fun _ => inside_read fun db => ?_
  split
  · exact inside_rollback rfl
  · exact h

/-- Nor does an admission. -/
theorem admission_inside {owner : Option String} {next : Option String → Transaction}
    (h : ∀ destination, Inside work mode (next destination)) :
    Inside work mode (admissionScript now owner next) := by
  refine inside_read fun db => ?_
  split
  · exact h none
  refine inside_read fun db => ?_
  split
  · exact inside_rollback rfl
  split
  · exact inside_rollback rfl
  · exact checkBacklog_inside now (h _)

/-- Nor does a readmission. -/
theorem readmission_outside {key : Uuid} {next : Transaction} (h : Outside work next) :
    Outside work (readmissionScript now key next) := by
  refine outside_read fun db => ?_
  split
  · exact h
  split
  · exact h
  refine outside_lock (by rintro ⟨⟩) fun _ => outside_read fun db => ?_
  split
  · exact outside_rollback rfl
  · exact h

end Capacity

/-- `acquire` reads the gate before it writes. -/
theorem acquire_outside (name : String) (route : Destination) (kind : RequestKind) :
    Outside work (Capacity.acquireScript now name route kind) := by
  refine outside_executionOpen fun mode => inside_lock (by rintro ⟨⟩) fun _ =>
    inside_write (lawful_same (fun _ => rfl) fun _ => ⟨rfl, rfl, rfl⟩) <| inside_read fun db =>
    inside_executionOpen <| inside_read fun db => inside_lockAll ?_ <|
    inside_write (lawful_same (fun _ => rfl) fun _ => ⟨rfl, rfl, rfl⟩) <| inside_read fun db =>
    inside_ite (fun _ => ?_) fun _ => inside_draw fun token =>
    inside_insertRow (by simp) (lawful_same (fun _ => rfl) fun _ => ⟨rfl, rfl, rfl⟩) ?_
  · simp
  · exact inside_commit fun _ => rfl
  · exact inside_commit fun _ => rfl

/-- `release` reads the gate before it writes. -/
theorem release_outside (name : String) (token : Uuid) (failed : Bool) (cooldown : ℕ) :
    Outside work (Capacity.releaseScript now name token failed cooldown) := by
  refine outside_executionOpen fun mode => inside_select (fun db mode h_lock => ?_) fun _ =>
    inside_write (lawful_same (fun _ => rfl) fun _ => ⟨rfl, rfl, rfl⟩) <|
    inside_executionOpen <| inside_lock (by rintro ⟨⟩) fun db => inside_ite (fun _ => ?_) fun _ =>
    inside_write (lawful_same (fun _ => rfl) fun _ => ⟨rfl, rfl, rfl⟩) <|
    inside_ite (fun _ => ?_) fun _ =>
    inside_executionOpen (inside_lock (by rintro ⟨⟩) fun db => ?_)
  · obtain ⟨permit, -, h_lock⟩ := Option.map_eq_some_iff.mp h_lock
    cases h_lock
  · exact inside_rollback rfl
  · exact inside_commit fun _ => rfl
  · split
    · exact inside_commit fun _ => rfl
    · exact inside_write (lawful_same (fun _ => rfl) fun _ => ⟨rfl, rfl, rfl⟩)
        (inside_commit fun _ => rfl)

/-- A deferred job is not leased. -/
theorem defer_outside (id : Uuid) (token : Option Uuid) (attempted : Bool) :
    Outside work (Capacity.deferScript now id token attempted) := by
  refine outside_executionOpen fun mode => inside_lock (by rintro ⟨⟩) fun db => ?_
  split
  · exact inside_commit fun _ => rfl
  refine inside_ite (fun _ => inside_ite (fun _ => ?_) fun _ => ?_) fun _ => ?_
  · exact inside_rollback rfl
  · refine inside_write (lawful_updateJob fun _ => ⟨fun _ => rfl, fun _ => ?_⟩)
      (inside_commit fun _ => rfl)
    change JobStatus.retry ≠ .leased
    decide
  · exact inside_commit fun _ => rfl

/-- `ingest` reads the gate before it writes. -/
theorem ingest_outside (source : Source) (event : SourceEvent) :
    Outside work (Service.ingestScript now source event) := by
  have h_process : ∀ mode customerId,
      Inside work mode (Service.processScript now source event customerId) := by
    refine fun mode customerId => inside_lock (by rintro ⟨⟩) fun db => ?_
    split
    · exact inside_rollback rfl
    · exact inside_insertRow (by simp) lawful_process (inside_commit fun _ => rfl)
  refine outside_executionOpen fun mode => inside_lock (by rintro ⟨⟩) fun _ =>
    inside_read fun db => ?_
  split
  · refine inside_ite (fun _ => ?_) fun _ => ?_
    · exact inside_modify (lawful_reported fun _ => rfl) (inside_commit fun _ => rfl)
    · exact inside_modify (lawful_audit fun _ => rfl) (inside_commit fun _ => rfl)
  refine inside_read fun db => ?_
  split
  · exact h_process mode _
  refine inside_read fun db => inside_ite (fun _ => ?_) fun _ => inside_draw fun id => ?_
  · refine inside_insertRow (by simp) ⟨fun _ => rfl, fun _ db => ?_⟩ (inside_commit fun _ => rfl)
    exact .of_audit ⟨now, source.actor, .text event.subject, policyHash, _⟩ rfl rfl rfl rfl
  · exact inside_insertRow (by simp) (lawful_same (fun _ => rfl) fun _ => ⟨rfl, rfl, rfl⟩)
      (h_process mode id)

/-- `link` reads the gate before it writes. -/
theorem link_outside (actor : Actor) (command : Contract.Link) :
    Outside work (Service.linkScript now actor command) := by
  refine outside_lock (by rintro ⟨⟩) fun _ => outside_lock (by rintro ⟨⟩) fun db => ?_
  split
  · exact outside_rollback rfl
  split
  · exact outside_rollback rfl
  refine outside_read fun db => ?_
  split
  · exact outside_rollback rfl
  refine outside_read fun db => ?_
  split
  · exact outside_rollback rfl
  refine outside_insertRow (by simp) (fun mode => lawful_same (fun db => ?_) fun db => ?_)
    fun mode => inside_modify (lawful_audit fun _ => rfl) (inside_commit fun _ => rfl)
  · split <;> rfl
  · split <;> exact ⟨rfl, rfl, rfl⟩

/-- `propose` reads the gate before it writes. -/
theorem propose_outside (actor : Actor) (command : Contract.Proposal) :
    Outside work (Service.proposeScript now actor command) := by
  refine outside_executionOpen fun mode => ?_
  cases mode with
  -- the mode that was read stays as it is, since the gate is locked from there on
  | closed => exact inside_commit fun _ => rfl
  | opened =>
    have h_audited : Inside work .opened (.commit .done) := inside_commit fun _ => rfl
    have h_enqueue : ∀ row decision destination, Inside work .opened
        (Service.enqueueScript now actor command row decision destination) := by
      intro row decision destination
      refine inside_insertAdmitted (by rintro ⟨⟩) (fun _ => rfl) fun _ => ?_
      have h_rest : ∀ next, Inside work .opened next →
          Inside work .opened (Capacity.bindScript command.requestId destination next) := by
        intro next h_next
        cases destination with
        | none => exact h_next
        | some name => exact inside_insertRow (by simp) (.opened fun _ => rfl) h_next
      refine h_rest _ ?_
      cases decision.1 with
      | approval => exact inside_modify (.opened fun _ => rfl) h_audited
      | deny =>
        exact inside_modify lawful_exception (inside_modify (.opened fun _ => rfl) h_audited)
      | allow =>
        exact inside_insertAdmitted (by rintro ⟨⟩) (fun _ => rfl) fun _ =>
          inside_modify (.opened fun _ => rfl) h_audited
    refine inside_lock (by rintro ⟨⟩) fun db => ?_
    split
    · exact inside_rollback rfl
    refine inside_lock (by rintro ⟨⟩) fun _ => inside_read fun db => ?_
    split
    · exact inside_ite (fun _ => inside_modify (.opened fun _ => rfl) h_audited) fun _ => h_audited
    · exact inside_ite (fun _ => Capacity.admission_inside now (h_enqueue _ _)) fun _ =>
        h_enqueue _ _ none

/-- `approve` reads the gate before it writes. -/
theorem approve_outside (utc utc' : Time) (actor : Actor) (id : Uuid)
    (command : Contract.Approval) :
    Outside work (Service.approveScript now utc utc' actor id command) := by
  refine outside_executionOpen fun mode => ?_
  cases mode with
  | closed => exact inside_commit fun _ => rfl
  | opened =>
    refine inside_read fun db => ?_
    split
    · exact inside_rollback rfl
    refine inside_lock (by rintro ⟨⟩) fun db => ?_
    split
    · exact inside_rollback rfl
    refine inside_lock (by rintro ⟨⟩) fun db => ?_
    split
    · exact inside_rollback rfl
    split
    · exact inside_modify (.opened fun _ => rfl) <| inside_modify lawful_exception <|
        inside_commit fun _ => rfl
    refine inside_ite (fun _ => inside_commit fun _ => rfl) fun _ => ?_
    refine inside_modify (.opened fun db => ?_) <|
      inside_insertAdmitted (by rintro ⟨⟩) (fun db => ?_) fun _ =>
      inside_modify (.opened fun _ => rfl) <| inside_commit fun _ => rfl
    · unfold Db.updateProposal
      split <;> rfl
    · split <;> rfl

/-- `resolve` reads the gate before it writes. -/
theorem resolve_outside (actor : Actor) (id : ℕ) (command : Contract.Resolution) :
    Outside work (Service.resolveScript now actor id command) := by
  refine outside_lock (by rintro ⟨⟩) fun db => ?_
  split
  · exact outside_rollback rfl
  rename_i row h_row
  -- the trigger of the first update passes the gate
  have h_audit : ∀ mode, Inside work mode (modify (fun db => db.audit now actor (.exception id)
      (.exceptionResolution command)) (.commit .done)) := fun mode =>
    inside_modify (lawful_audit fun _ => rfl) (inside_commit fun _ => rfl)
  have h_close : ∀ mode status, Lawful mode (Service.closeException id row status) :=
    fun mode status => lawful_same (fun _ => rfl) fun _ => ⟨rfl, rfl, rfl⟩
  split
  · exact outside_rollback rfl
  dsimp only
  split
  · exact outside_modify (fun mode => h_close mode _) h_audit
  unfold Service.requeueScript
  split
  · exact outside_rollback rfl
  split
  · exact outside_rollback rfl
  · exact outside_rollback rfl
  refine outside_lock (by rintro ⟨⟩) fun db => ?_
  split
  · exact outside_rollback rfl
  split
  · exact outside_rollback rfl
  refine Capacity.readmission_outside now (outside_modify (fun mode => ?_) fun mode =>
    inside_modify (h_close mode _) (h_audit mode))
  -- a requeue leases nothing
  refine lawful_updateJob fun _ => ⟨fun _ => rfl, fun _ => ?_⟩
  change JobStatus.retry ≠ .leased
  decide

/-- `claim` reads the gate before it writes. -/
theorem claim_outside (leaseSeconds : ℤ) (locked : List Uuid) :
    Outside work (Worker.claimScript now leaseSeconds locked) := by
  refine outside_executionOpen fun mode => ?_
  cases mode with
  | closed => exact inside_commit fun _ => rfl
  | opened =>
    have h_opened : ∀ h : GateMode.opened = .closed, ∀ answer : Answer,
        answer.authorizes = false := fun h => by cases h
    refine inside_select (fun db mode h_lock => ?_) fun db => ?_
    · obtain ⟨candidate, -, h_lock⟩ := Option.map_eq_some_iff.mp h_lock
      cases h_lock
    split
    · exact inside_commit fun h => h_opened h _
    · exact inside_draw fun token =>
        inside_modify (lawful_updateJob fun h => (by cases h)) <|
        inside_modify (.opened fun _ => rfl) <| inside_commit fun h => h_opened h _

/-- A finished job is not leased. -/
theorem finish_outside (jitter : Time) (id : Uuid) (token : Option Uuid)
    (verdict : Worker.Verdict) :
    Outside work (Worker.finishScript now jitter id token verdict) := by
  refine outside_lock (by rintro ⟨⟩) fun db => ?_
  split
  · exact outside_rollback rfl
  rename_i current h_current
  split
  · exact outside_commit rfl
  refine outside_modify (fun mode => ?_) fun mode => inside_ite (fun _ => ?_) fun _ => ?_
  · refine lawful_updateJob fun _ => ⟨fun _ => rfl, fun _ => ?_⟩
    exact budgeted_ne_leased verdict current
  · exact inside_modify lawful_exception <| inside_modify (lawful_audit fun _ => rfl) <|
      inside_commit fun _ => rfl
  · exact inside_modify (lawful_audit fun _ => rfl) (inside_commit fun _ => rfl)

/-- **Behind a closed gate `prepare` authorizes nothing.** -/
theorem prepare_outside (utc : Time) (id : Uuid) (token : Option Uuid) :
    Outside work (Worker.prepareScript now utc id token) := by
  unfold Worker.prepareScript
  dsimp only
  refine outside_executionOpen fun mode => ?_
  cases mode with
  | closed => exact inside_commit fun _ => rfl
  | opened =>
    -- an answer is only bound by a closed gate
    have h_opened : ∀ h : GateMode.opened = .closed, ∀ answer : Answer,
        answer.authorizes = false := fun h => by cases h
    refine inside_read fun db => ?_
    split
    · exact inside_rollback rfl
    refine inside_lock (by rintro ⟨⟩) fun db => ?_
    split
    · exact inside_rollback rfl
    refine inside_lock (by rintro ⟨⟩) fun db => ?_
    split
    · exact inside_rollback rfl
    split
    · exact inside_commit fun h => h_opened h _
    split
    · exact inside_commit fun h => h_opened h _
    split
    · exact inside_rollback rfl
    split
    · exact inside_commit fun h => h_opened h _
    · exact inside_modify (lawful_updateJob fun h => (by cases h)) <|
        inside_modify (.opened fun _ => rfl) <| inside_commit fun h => h_opened h _

/-! ### The coordinator -/

/-- The script keeps the rule from a point on where it holds the gate exclusively and has
written nothing. -/
def Holding (gate : Gate) (script : Transaction) : Prop :=
  script.Ensures .gate Db.gate (fun guard pending answer =>
    Permitted guard pending ⟨work, answer⟩) (·.authorizes = false) (some (.exclusive, gate)) id

variable {work}

/-- The lock of the gate itself, under which a command of recovery holds it. -/
theorem outside_lock_gate {next : Db → Transaction}
    (h : ∀ db, Holding work db.gate (next db)) : Outside work (lock .gate next) :=
  fun db _ => h db

/-- A rollback under the gate. -/
theorem holding_rollback {gate : Gate} : Holding work gate (.rollback .raised) := rfl

/-- A read under the gate. -/
theorem holding_read {gate : Gate} {next : Db → Transaction}
    (h : ∀ db, db.gate = gate → Holding work gate (next db)) : Holding work gate (read next) :=
  fun db h_allows => h db (h_allows _ _ rfl)

/-- A lock under the gate. -/
theorem holding_lock {gate : Gate} {resource : Resource} {next : Db → Transaction}
    (h_lock : resource ≠ .gate) (h : ∀ db, db.gate = gate → Holding work gate (next db)) :
    Holding work gate (lock resource next) := by
  intro db h_allows
  have h_gate : db.gate = gate := h_allows _ _ rfl
  have h_after : Guard.after .gate (some (.exclusive, gate)) (some (resource, .exclusive))
      db.gate = some (.exclusive, gate) := if_neg h_lock
  change Script.Ensures _ _ _ _ (next db)
    (Guard.after .gate (some (.exclusive, gate)) (some (resource, .exclusive)) db.gate) id
  rw [h_after]
  exact h db h_gate

/-- A draw under the gate. -/
theorem holding_draw {gate : Gate} {next : Uuid → Transaction}
    (h : ∀ id, Holding work gate (next id)) : Holding work gate (draw next) :=
  fun db _ => ⟨rfl, h db.supply⟩

/-- A write under the gate, which leaves the business tables and moves the gate as it may. -/
theorem holding_write {gate : Gate} {effect : Db → Db}
    (h_business : ∀ db, (effect db).toBusiness = db.toBusiness)
    (h_gate : ∀ db, db.gate = gate → GateMove work gate (effect db).gate) :
    Holding work gate (.write effect (.commit .done)) := ⟨h_business, rfl, h_gate⟩

/-- Marking a session leaves the business tables. -/
theorem markSession_business (sessionId : Uuid) (status : SessionStatus) (db : Db) :
    (Recovery.markSession sessionId status db).toBusiness = db.toBusiness := by
  unfold Recovery.markSession
  split <;> rfl

/-- `begin` closes the gate under its lock. -/
theorem begin_outside (coordinator : Recovery.Coordinator) :
    Outside (.tx ⟨now, .begin coordinator⟩) (Recovery.beginScript now coordinator) := by
  refine outside_lock_gate fun db => ?_
  split
  · exact holding_rollback
  rename_i h_mode
  have h_open : db.gate.mode = .opened := by
    cases h : db.gate.mode with
    | opened => rfl
    | closed => exact absurd h h_mode
  refine holding_draw fun key => holding_lock (by rintro ⟨⟩) fun db' h_gate => ?_
  split
  · exact holding_rollback
  · exact holding_write (fun _ => rfl) fun _ _ => .begun now coordinator _ rfl h_open rfl

/-- `verify` leaves it. -/
theorem verify_outside (coordinator : Recovery.Coordinator)
    (surroundings : Recovery.Surroundings) (sessionId : Uuid) :
    Outside work (Recovery.verifyScript now coordinator surroundings sessionId) := by
  refine outside_lock_gate fun db => holding_read fun db' h_gate => ?_
  split
  · exact holding_rollback
  refine holding_read fun db' h_gate => ?_
  split
  · exact holding_rollback
  refine holding_draw fun key => holding_lock (by rintro ⟨⟩) fun db' h_gate => ?_
  split
  · exact holding_rollback
  · exact holding_write (fun _ => rfl) fun db' h => .kept _ (by rw [← h]) (by rw [← h])

/-- `approve` leaves its mode. -/
theorem approveRecovery_outside (coordinator : Recovery.Coordinator)
    (surroundings : Recovery.Surroundings) (sessionId proofId : Uuid) :
    Outside work (Recovery.approveScript now coordinator surroundings sessionId proofId) := by
  refine outside_lock_gate fun db => holding_read fun db' h_gate => ?_
  split
  · exact holding_rollback
  · refine holding_lock (by rintro ⟨⟩) fun _ _ => ⟨fun db' => ?_, rfl, fun db' h => ?_⟩
    · exact markSession_business sessionId _ _
    · have h_mark := (Recovery.markSession_frame sessionId .approved { db' with
        gate := { db'.gate with approvedProof := some proofId, approvedAt := some now } })
        |>.2.2.2.2.2.1
      have h_mode := congrArg Gate.mode h_mark
      have h_session := congrArg Gate.sessionId h_mark
      rw [← h]
      exact .kept _ h_mode h_session

/-- Only the session of the closed gate is resumed. -/
theorem resume_outside (coordinator : Recovery.Coordinator)
    (surroundings : Recovery.Surroundings) (sessionId proofId : Uuid) :
    Outside (.tx ⟨now, .resume coordinator surroundings sessionId proofId⟩)
      (Recovery.resumeScript coordinator surroundings sessionId proofId) := by
  refine outside_lock_gate fun db => holding_read fun db' h_gate => ?_
  split
  · exact holding_rollback
  rename_i fresh h_fresh
  obtain ⟨session, proof, h_fresh⟩ := Recovery.freshApproval_cases h_fresh
  split
  · exact holding_rollback
  · refine holding_lock (by rintro ⟨⟩) fun _ _ => ⟨fun db' => ?_, rfl, fun db' h => ?_⟩
    · exact markSession_business sessionId _ _
    · have h_mark := (Recovery.markSession_frame sessionId .resumed { db' with
        gate := { db'.gate with mode := .opened, approvedProof := none } }) |>.2.2.2.2.2.1
      refine .resumed now coordinator surroundings sessionId proofId _ rfl ?_ ?_
        (congrArg Gate.mode h_mark)
      · rw [← h_gate]
        exact h_fresh.h_current.h_closed
      · rw [← h_gate]
        exact h_fresh.h_current.h_gate

/-! ### All scripts -/

/-- **Every transaction keeps the gate discipline**, and so does an `INSERT` by hand. -/
theorem Work.disciplined (work : Work) : Outside work work.script := by
  cases work with
  | insertProposal | insertJob =>
    exact outside_insertAdmitted (by rintro ⟨⟩) (fun _ => rfl) fun _ => inside_commit fun _ => rfl
  | tx entry =>
    obtain ⟨now, tx⟩ := entry
    cases tx with
    | ingest source event => exact ingest_outside _ now source event
    | link actor command => exact link_outside _ now actor command
    | propose actor command => exact propose_outside _ now actor command
    | approve utc utc' actor id command => exact approve_outside _ now utc utc' actor id command
    | resolve actor id command => exact resolve_outside _ now actor id command
    | claim leaseSeconds locked => exact claim_outside _ now leaseSeconds locked
    | prepare utc id token => exact prepare_outside _ now utc id token
    | finish jitter id token verdict => exact finish_outside _ now jitter id token verdict
    | defer id token attempted => exact defer_outside _ now id token attempted
    | acquire name route kind => exact acquire_outside _ now name route kind
    | release name token failed cooldown => exact release_outside _ now name token failed cooldown
    | begin coordinator => exact begin_outside now coordinator
    | verify coordinator surroundings sessionId =>
      exact verify_outside now coordinator surroundings sessionId
    | approveRecovery coordinator surroundings sessionId proofId =>
      exact approveRecovery_outside now coordinator surroundings sessionId proofId
    | resume coordinator surroundings sessionId proofId =>
      exact resume_outside now coordinator surroundings sessionId proofId

end Scripts

end ControlPlane
