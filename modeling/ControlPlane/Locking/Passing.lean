import ControlPlane.Locking.Alone
import ControlPlane.Locking.Steps

/-!
# What still commits behind a closed gate

Source events, links, results, deferrals and resolutions (`Tx.passesGate`) do not look at
the gate, and ask for the gate row in shared mode only. So such a transaction that nobody
stands in the way of runs to its end, with the effect it has alone, and that effect is the
same under every gate.
-/

namespace ControlPlane

open Framework

/-- The transactions that do not look at the gate. -/
def Tx.passesGate : Tx → Bool
  | .ingest .. | .link .. | .finish .. | .defer .. | .resolve .. => true
  | _ => false

/-! ### The gate is not read -/

/-- The same database, with this gate. -/
def Db.withGate (db : Db) (gate : Gate) : Db := { db with gate }

/-- The outcome is the same under another gate, which stays. -/
def Outcome.under {α : Type} (outcome : Outcome α) (gate : Gate) : Outcome α :=
  outcome.map fun (a, db) => (a, db.withGate gate)

/-- What the client sees of such an outcome is the same, the gate apart. -/
theorem Outcome.seen_under {α : Type} {answer : Except Fault α → Answer}
    {outcome outcome' : Outcome α} {db : Db} {gate : Gate} (h : outcome' = outcome.under gate) :
    outcome'.seen answer (db.withGate gate) =
      ((outcome.seen answer db).1, (outcome.seen answer db).2.withGate gate) := by
  subst h
  cases outcome <;> rfl

/-- A test that does not read the gate. -/
theorem Outcome.under_ite {α : Type} {c c' : Prop} [Decidable c] [Decidable c']
    {yes yes' no no' : Outcome α} {gate : Gate} (h : c' ↔ c) (h_yes : yes' = yes.under gate)
    (h_no : no' = no.under gate) :
    (if c' then yes' else no') = (if c then yes else no).under gate := by
  by_cases h_c : c
  · rw [if_pos h_c, if_pos (h.mpr h_c), h_yes]
  · rw [if_neg h_c, if_neg (h_c ∘ h.mp), h_no]

section Gate

variable (now : Time) (db : Db) (gate : Gate)

@[simp] theorem Db.withGate_business : (db.withGate gate).toBusiness = db.toBusiness := rfl

@[simp] theorem Db.withGate_supply : (db.withGate gate).supply = db.supply := rfl

namespace Service

/-- `candidates` reads customers only. -/
theorem candidates_withGate (event : SourceEvent) :
    candidates event (db.withGate gate) = candidates event db := rfl

/-- `enroll` writes a customer and its identities. -/
theorem enroll_withGate (source : Source) (event : SourceEvent) :
    enroll source event (db.withGate gate) = (enroll source event db).withGate gate := rfl

/-- `process` does not read the gate. -/
theorem process_withGate (source : Source) (event : SourceEvent) (id : Uuid) (row : Customer) :
    process now source event id row (db.withGate gate) =
      ((process now source event id row db).1,
        (process now source event id row db).2.withGate gate) := by
  unfold process
  dsimp only
  -- the decision is made from the row, so its value does not matter here
  generalize anyDecision _ _ = refused
  cases refused <;> rfl

/-- A source event has the same outcome under every gate. -/
theorem ingest_withGate (source : Source) (event : SourceEvent) :
    ingest now source event (db.withGate gate) = (ingest now source event db).under gate := by
  unfold ingest
  simp only [Db.withGate_business, Db.withGate_supply, candidates_withGate, enroll_withGate,
    process_withGate]
  cases db.events.lookup (source, event.eventId) with
  -- the event is known: it is repeated or conflicts
  | some previous =>
    dsimp only
    split <;> rfl
  | none =>
    cases db.identities.lookup (source, event.subject) with
    -- the subject is known, and the event goes to its customer
    | some customerId =>
      dsimp only
      cases db.customers.lookup customerId <;> rfl
    | none =>
      dsimp only
      split <;> rfl

/-- A link has the same outcome under every gate. -/
theorem link_withGate (actor : Actor) (command : Contract.Link) :
    link now actor command (db.withGate gate) = (link now actor command db).under gate := by
  unfold link
  have h_row : (db.withGate gate).customers.lookup command.customerId =
      db.customers.lookup command.customerId := rfl
  have h_known : (db.withGate gate).identities.lookup (command.source, command.subject) =
      db.identities.lookup (command.source, command.subject) := rfl
  rw [h_row, h_known]
  cases db.customers.lookup command.customerId with
  | none => rfl
  | some row =>
    refine Outcome.under_ite Iff.rfl rfl (Outcome.under_ite Iff.rfl rfl
      (Outcome.under_ite Iff.rfl rfl ?_))
    generalize (db.identities.lookup (command.source, command.subject)).isSome = known
    cases known <;> rfl

/-- An exception is read without the gate. -/
theorem exceptionRow_withGate (id : ℕ) :
    exceptionRow (db.withGate gate) id = exceptionRow db id := rfl

/-- `readmission` reads routes, destinations and the backlog. -/
theorem readmission_withGate (key : Uuid) :
    Capacity.readmission now key (db.withGate gate) = Capacity.readmission now key db := rfl

/-- A job is requeued in the same way under every gate. -/
theorem requeue_withGate (row : ExceptionRow) :
    requeue now row (db.withGate gate) = (requeue now row db).map (·.withGate gate) := by
  unfold requeue
  simp only [Db.withGate_business, readmission_withGate]
  split
  · rfl
  cases row.subject with
  | text | exception => rfl
  | id key =>
    dsimp only
    cases db.jobs.lookup key with
    | none => rfl
    | some job =>
      dsimp only
      split
      · rfl
      · cases Capacity.readmission now key db <;> rfl

/-- The resolution of an exception has the same outcome under every gate. -/
theorem resolve_withGate (actor : Actor) (id : ℕ) (command : Contract.Resolution) :
    resolve now actor id command (db.withGate gate) =
      (resolve now actor id command db).under gate := by
  unfold resolve
  simp only [exceptionRow_withGate, requeue_withGate]
  cases exceptionRow db id with
  | none => rfl
  | some row =>
    dsimp only
    split
    · rfl
    cases command.disposition with
    | acknowledge => rfl
    | requeue => cases requeue now row db <;> rfl

end Service

/-- The result of a request is recorded in the same way under every gate. -/
theorem Worker.settle_withGate (jitter : Time) (id : Uuid) (token : Option Uuid)
    (verdict : Worker.Verdict) :
    Worker.settle now jitter id token verdict (db.withGate gate) =
      (Worker.settle now jitter id token verdict db).under gate := by
  unfold Worker.settle Worker.finish Worker.conclude
  simp only [Db.withGate_business]
  cases db.jobs.lookup id with
  | none => rfl
  | some current =>
    dsimp only
    split
    · rfl
    -- both sides end with the same status
    · generalize Worker.budgeted verdict.status verdict.reason current = final
      by_cases h_dead : final.1 = .dead ∨ final.1 = .blocked
      · simp only [if_pos h_dead]
        rfl
      · simp only [if_neg h_dead]
        rfl

/-- A deferral has the same outcome under every gate. -/
theorem Capacity.defer_withGate (id : Uuid) (token : Option Uuid) (attempted : Bool) :
    Capacity.defer now id token attempted (db.withGate gate) =
      (Capacity.defer now id token attempted db).under gate := by
  unfold Capacity.defer
  simp only [Db.withGate_business]
  cases db.jobs.lookup id with
  | none => rfl
  | some job =>
    dsimp only
    split
    · generalize (if attempted then 0 else 1) = refund
      split <;> rfl
    · rfl

/-- **The gate makes no difference to them.** -/
theorem Tx.seen_withGate {tx : Tx} (h : tx.passesGate = true) :
    tx.seen now (db.withGate gate) = ((tx.seen now db).1, (tx.seen now db).2.withGate gate) := by
  cases tx with
  | ingest source event =>
    exact Outcome.seen_under (Service.ingest_withGate now db gate source event)
  | link actor command => exact Outcome.seen_under (Service.link_withGate now db gate actor command)
  | resolve actor id command =>
    exact Outcome.seen_under (Service.resolve_withGate now db gate actor id command)
  | finish jitter id token verdict =>
    exact Outcome.seen_under (Worker.settle_withGate now db gate jitter id token verdict)
  | defer id token attempted =>
    exact Outcome.seen_under (Capacity.defer_withGate now db gate id token attempted)
  | _ => cases h

end Gate

/-- Alone, the statements of such a transaction are the transaction over any database. -/
theorem Tx.passing_alone (now : Time) (db : Db) {tx : Tx} (h : tx.passesGate = true) :
    (tx.script now).alone db id = tx.seen now db := by
  cases tx with
  | ingest source event => exact Service.ingest_alone source event
  | link actor command => exact Service.link_alone actor command
  | resolve actor id command => exact Service.resolve_alone actor id command
  | finish jitter id token verdict => exact Worker.finish_alone jitter id token verdict
  | defer id token attempted => exact Capacity.defer_alone id token attempted
  | _ => cases h

/-! ### The gate row is only shared -/

/-- What such a transaction may ask for: any lock but the gate row exclusively. -/
def SharesGate (resource : Resource) (mode : LockMode) : Prop := resource = .gate → mode = .shared

/-- A statement that reads the gate asks for its row in shared mode. -/
theorem requests_executionOpen {next : Bool → Transaction}
    (h : ∀ isOpen, (next isOpen).Requests SharesGate) :
    (executionOpen next).Requests SharesGate := by
  refine fun db => ⟨fun resource mode h_lock _ => ?_, h db.executionOpen⟩
  cases h_lock
  rfl

/-- A lock of another row. -/
theorem requests_lock {resource : Resource} {next : Db → Transaction}
    (h_resource : resource ≠ .gate) (h : ∀ db, (next db).Requests SharesGate) :
    (lock resource next).Requests SharesGate := by
  refine fun db => ⟨fun resource' mode h_lock h_gate => ?_, h db⟩
  cases h_lock
  exact absurd h_gate h_resource

/-- A read takes no lock. -/
theorem requests_read {next : Db → Transaction} (h : ∀ db, (next db).Requests SharesGate) :
    (read next).Requests SharesGate :=
  fun db => ⟨fun _ _ h_lock => (by cases h_lock), h db⟩

/-- A write by a trigger-guarded statement reads the gate. -/
theorem requests_modify {effect : Db → Db} {next : Transaction}
    (h : next.Requests SharesGate) : (modify effect next).Requests SharesGate :=
  requests_executionOpen fun _ => h

/-- An insert locks the keys that it sets, none of which is the gate. -/
theorem requests_insertRow {keys : List Resource} {effect : Db → Db} {next : Transaction}
    (h_keys : .gate ∉ keys) (h : next.Requests SharesGate) :
    (insertRow keys effect next).Requests SharesGate := by
  refine requests_executionOpen fun _ => ?_
  -- the keys are locked one by one
  induction keys with
  | nil => exact h
  | cons key keys ih =>
    refine requests_lock (fun h_eq => h_keys (h_eq ▸ List.mem_cons_self)) fun _ => ?_
    exact ih fun h_mem => h_keys (List.mem_cons_of_mem _ h_mem)

/-- A test between two such scripts. -/
theorem requests_ite {c : Prop} [Decidable c] {yes no : Transaction}
    (h_yes : yes.Requests SharesGate) (h_no : no.Requests SharesGate) :
    (if c then yes else no).Requests SharesGate := by
  split
  · exact h_yes
  · exact h_no

section Scripts

variable (now : Time)

namespace Service

/-- The inserts of a source event read the gate, its other statements do not. -/
theorem ingest_requests (source : Source) (event : SourceEvent) :
    (ingestScript now source event).Requests SharesGate := by
  -- what is done for the customer, found or enrolled
  have h_process : ∀ customerId, (processScript now source event customerId).Requests SharesGate :=
    fun customerId => requests_lock (by rintro ⟨⟩) fun db => by
      cases db.customers.lookup customerId with
      | none => trivial
      | some row => exact requests_insertRow (by simp) trivial
  refine requests_executionOpen fun _ => requests_lock (by rintro ⟨⟩) fun _ =>
    requests_read fun db => ?_
  split
  · exact requests_ite (requests_modify trivial) (requests_modify trivial)
  refine requests_read fun db => ?_
  split
  · exact h_process _
  · exact requests_read fun db => requests_ite (requests_insertRow (by simp) trivial) fun db =>
      requests_insertRow (by simp) (h_process _)

/-- So it is with a link. -/
theorem link_requests (actor : Actor) (command : Contract.Link) :
    (linkScript now actor command).Requests SharesGate := by
  refine requests_lock (by rintro ⟨⟩) fun _ => requests_lock (by rintro ⟨⟩) fun db => ?_
  split
  · trivial
  exact requests_ite trivial <| requests_read fun db => requests_ite trivial <|
    requests_read fun db => requests_ite trivial <| requests_insertRow (by simp) <|
    requests_modify trivial

/-- A readmission locks the row of its destination. -/
theorem readmission_requests (key : Uuid) {next : Transaction} (h : next.Requests SharesGate) :
    (Capacity.readmissionScript now key next).Requests SharesGate := by
  refine requests_read fun db => ?_
  split
  · exact h
  split
  · exact h
  · exact requests_lock (by rintro ⟨⟩) fun _ => requests_read fun db => requests_ite trivial h

/-- A resolution locks the exception, and a job that it requeues. -/
theorem resolve_requests (actor : Actor) (id : ℕ) (command : Contract.Resolution) :
    (resolveScript now actor id command).Requests SharesGate := by
  refine requests_lock (by rintro ⟨⟩) fun db => ?_
  split
  · trivial
  refine requests_ite trivial ?_
  dsimp only
  split
  · exact requests_modify (requests_modify trivial)
  unfold requeueScript
  refine requests_ite trivial ?_
  split
  · trivial
  · trivial
  refine requests_lock (by rintro ⟨⟩) fun db => ?_
  split
  · trivial
  · exact requests_ite trivial <| readmission_requests now _ <| requests_modify <|
      requests_modify (requests_modify trivial)

end Service

/-- The result of a request locks its job. -/
theorem finish_requests (jitter : Time) (id : Uuid) (token : Option Uuid)
    (verdict : Worker.Verdict) :
    (Worker.finishScript now jitter id token verdict).Requests SharesGate := by
  refine requests_lock (by rintro ⟨⟩) fun db => ?_
  split
  · trivial
  · exact requests_ite trivial <| requests_modify <|
      requests_ite (requests_modify (requests_modify trivial)) (requests_modify trivial)

/-- A deferral reads the gate and locks the job. -/
theorem defer_requests (id : Uuid) (token : Option Uuid) (attempted : Bool) :
    (Capacity.deferScript now id token attempted).Requests SharesGate := by
  refine requests_executionOpen fun _ => requests_lock (by rintro ⟨⟩) fun db => ?_
  split
  · trivial
  · exact requests_ite (requests_ite trivial trivial) trivial

/-- All transactions that do not look at the gate ask for its row in shared mode only. -/
theorem Tx.requests {tx : Tx} (h : tx.passesGate = true) :
    (tx.script now).Requests SharesGate := by
  cases tx with
  | ingest source event => exact Service.ingest_requests now source event
  | link actor command => exact Service.link_requests now actor command
  | resolve actor id command => exact Service.resolve_requests now actor id command
  | finish jitter id token verdict => exact finish_requests now jitter id token verdict
  | defer id token attempted => exact defer_requests now id token attempted
  | _ => cases h

end Scripts

/-! ### To the end -/

namespace Server

/-- The statements of one client, up to a point before the end of its transaction. -/
theorem reaches_run {s : Server} {client : Client} {e : Engine Db Resource Client Ending}
    (h : Engine.Reaches client s.engine e) : ∃ actions, s.run actions = { s with engine := e } := by
  generalize h_engine : s.engine = e₀ at h
  induction h generalizing s with
  | here => exact ⟨[], by rw [← h_engine]; rfl⟩
  | @next e₁ _ h_end _ ih =>
    subst h_engine
    obtain ⟨actions, h_run⟩ := ih (s := { s with engine := s.engine.statement client }) rfl
    refine ⟨.statement client :: actions, ?_⟩
    change (s.step (.statement client)).run actions = _
    have h_step : s.step (.statement client) =
        { s with engine := s.engine.statement client } := by
      unfold Server.step
      simp only [h_end]
    rw [h_step]
    exact h_run

/-- The commits a transaction adds when it runs from the given state. -/
def commitsOf (client : Client) (entry : Entry) (db : Db) : List Commit :=
  let seen := entry.tx.seen entry.now db
  if seen.1.1 then [⟨⟨.tx entry, seen.1.2⟩, client⟩] else []

/-- **Nobody waits for the gate to open**: a transaction that does not look at the gate can
run to its end while the others only share the gate row. -/
theorem passes_run {s : Server} {client : Client} {entry : Entry}
    (h_passes : entry.tx.passesGate = true) (h_admits : s.admits client (.tx entry) = true)
    (h_idle : s.engine.running client = none)
    (h_shared : ∀ hold ∈ s.engine.locks.holds, hold.resource = .gate ∧ hold.mode = .shared) :
    ∃ actions, (s.run actions).engine.running client = none ∧
      (s.run actions).db = s.db.step entry ∧
      (s.run actions).history = s.history ++ commitsOf client entry s.db := by
  obtain ⟨now, tx⟩ := entry
  let work := Work.tx ⟨now, tx⟩
  let script := (tx.script now).map (Ending.mk work)
  have h_started : s.step (.start client work) =
      { s with engine := s.engine.goOn client ⟨script, id⟩ } := by
    unfold Server.step
    dsimp only
    rw [if_pos h_admits, Engine.start_idle h_idle]
    rfl
  -- alone, the script ends as the transaction does
  have h_requests : script.Requests SharesGate := Script.Requests.map (Tx.requests now h_passes)
  have h_alone : script.alone s.db id =
      (((tx.seen now s.db).1.1, ⟨work, (tx.seen now s.db).1.2⟩), (tx.seen now s.db).2) := by
    rw [Script.alone_map, Tx.passing_alone now s.db h_passes]
    rfl
  -- all that is held are shared locks of the gate, which let it through
  have h_clear : (s.engine.goOn client ⟨script, id⟩).Clear SharesGate client := by
    intro hold h_hold _ resource mode h_ask h_resource
    obtain ⟨h_gate, h_mode⟩ := h_shared hold h_hold
    exact .inr ⟨h_ask (h_resource.trans h_gate), h_mode⟩
  obtain ⟨last, h_reaches, h_ending, h_state, h_none⟩ :=
    Engine.completes (Engine.goOn_self s.engine client ⟨script, id⟩) h_requests h_clear
  change last.ending client = some (script.alone s.db id).1 at h_ending
  change (last.statement client).state = (script.alone s.db id).2 at h_state
  rw [h_alone] at h_ending h_state
  have h_reaches : Engine.Reaches client (s.step (.start client work)).engine last := by
    rw [h_started]
    exact h_reaches
  obtain ⟨actions, h_run⟩ := reaches_run h_reaches
  rw [h_started] at h_run
  -- the client starts, goes through its statements and commits
  have h_end : s.run (.start client work :: (actions ++ [.statement client])) =
      Server.step { s with engine := last } (.statement client) := by
    have h_concat : s.run (.start client work :: (actions ++ [.statement client])) =
        ((s.step (.start client work)).run actions).step (.statement client) :=
      run_concat actions _
    rw [h_concat, h_started, h_run]
  refine ⟨.start client work :: (actions ++ [.statement client]), ?_⟩
  have h_db : s.db.step ⟨now, tx⟩ = (tx.seen now s.db).2 := (Tx.seen_state now s.db tx).symm
  rw [h_end, h_db]
  unfold commitsOf Server.step
  dsimp only
  rw [h_ending]
  cases (tx.seen now s.db).1.1 with
  | false =>
    dsimp only
    rw [move_engine, move_db, move_history]
    exact ⟨h_none, h_state, (List.append_nil _).symm⟩
  | true =>
    refine ⟨?_, (move_db _ _ _).trans h_state, rfl⟩
    change (Server.move _ client _).engine.running client = none
    rw [move_engine]
    exact h_none

end Server
end ControlPlane
