import ControlPlane.Dispatch.Intent
import ControlPlane.Governance.Provenance
import ControlPlane.Recovery.Compare
import ControlPlane.Recovery.Gate

/-!
# Consent freshness across a recovery

`authorityFindings` asks of every customer that the current `consent` and `suppressed` were
asserted by their owner in an event received since the session began (`Asserted`). A
`resume` observes this once more in its own transaction, so it covers the customers that
were created or updated after the proof was recorded.

From then on every step keeps it (`PermissionsSince`): a permission only changes with an
accepted event, which is received later, and a customer that is created later has no
permission at first. This needs nothing of the database the run started from, so a restored
database may contain what it likes. When the clock readings of events and sessions increase, an
event that was received since the `begin` was stored after it (`StoredSince`).

Every transaction is one step here, with one reading of the clock. For the order of a source
event and a `begin` this loses nothing: both read the clock while they hold the gate row.
-/

namespace ControlPlane

open Framework

/-- The transaction keeps its reading of the clock, as the time of an event or of a session. -/
def Tx.stamps : Tx → Bool
  | .ingest .. | .begin .. => true
  | _ => false

/-- The fields that a recovery wants asserted anew. -/
def permissions : List Field := [.consent, .suppressed]

/-- The current value of the field was asserted by its owner in an event received since
`t`. -/
structure Asserted (events : Table (Source × String) Event) (t : Time) (row : Customer)
    (field : Field) (p : Provenance) (event : Event) : Prop where
  h_entry : row.provenance.get field = some p
  h_owner : p.source = owner field
  h_event : events.lookup (p.source, p.eventId) = some event
  h_received : t ≤ event.receivedAt
  h_present : (row.state.get field).isSome
  h_value : event.body.attributes.get field = row.state.get field

/-! ### What `authority_findings` finds -/

/-- A field is fresh if an event received since asserts it. -/
theorem authorityFresh_iff {db : Db} {t : Time} {row : Customer} {field : Field} :
    Recovery.authorityFresh db t row field = true ↔
      ∃ p event, Asserted db.events t row field p event := by
  unfold Recovery.authorityFresh
  constructor
  · intro h
    split at h
    · cases h
    rename_i p h_entry
    split at h
    · cases h
    rename_i event h_event
    simp only [Bool.and_eq_true, decide_eq_true_eq] at h
    obtain ⟨⟨⟨h_owner, h_received⟩, h_present⟩, h_value⟩ := h
    exact ⟨p, event, h_entry, h_owner, h_event, h_received, h_value ▸ h_present, h_value⟩
  · rintro ⟨p, event, h⟩
    rw [h.h_entry]
    dsimp only
    rw [h.h_event]
    simp only [Bool.and_eq_true, decide_eq_true_eq]
    exact ⟨⟨⟨h.h_owner, h.h_received⟩, h.h_value ▸ h.h_present⟩, h.h_value⟩

/-- **No findings** means that every permission of every customer was asserted since. -/
theorem authorityFindings_eq_nil {db : Db} {t : Time} :
    Recovery.authorityFindings db t = [] ↔
      ∀ id row, db.customers.lookup id = some row → ∀ field ∈ permissions,
        ∃ p event, Asserted db.events t row field p event := by
  refine (flatMap_sortedItems_eq_nil fun id row => permissions.filterMap fun field =>
    if Recovery.authorityFresh db t row field then none
    else some ⟨id, .currentAuthorityRefreshMissing, some field⟩).trans ?_
  refine forall_congr' fun id => forall_congr' fun row => imp_congr_right fun _ => ?_
  rw [List.filterMap_eq_nil_iff]
  refine forall_congr' fun field => imp_congr_right fun _ => ?_
  rw [← authorityFresh_iff]
  split
  · rename_i h
    exact iff_of_true rfl h
  · rename_i h
    exact iff_of_false (fun h_none => by cases h_none) h

/-! ### The events -/

/-- An event is stored with its time. -/
theorem Entry.Stores.stamps {entry : Entry} {source : Source} {event : Event}
    (h : entry.Stores source event) : entry.tx.stamps = true := by
  rw [h.1]
  rfl

/-- In the run `as`, the event was stored under the key after the moment `pre`. -/
def StoredSince (db₀ : Db) (pre as : List Entry) (key : Source × String) (event : Event) : Prop :=
  ∃ mid entry, pre <+: mid ∧ mid ++ [entry] <+: as ∧ entry.Stores key.1 event ∧
    event.body.eventId = key.2 ∧ (db₀.run mid).events.lookup key = none

/-- **An event was in the database at first, or a step of the run stored it.** -/
theorem event_origin (db₀ : Db) (as : List Entry) {key : Source × String} {event : Event}
    (h : (db₀.run as).events.lookup key = some event) :
    db₀.events.lookup key = some event ∨ StoredSince db₀ [] as key event := by
  induction as using List.reverseRecOn with
  | nil => exact .inl h
  | append_singleton as entry ih =>
    have h_run : db₀.run (as ++ [entry]) = (db₀.run as).step entry := run_concat as entry
    rw [h_run] at h
    have h_old : (db₀.run as).events.lookup key = some event →
        db₀.events.lookup key = some event ∨ StoredSince db₀ [] (as ++ [entry]) key event :=
      fun h => by
        rcases ih h with h | ⟨mid, e, h_pre, h_mid, h_stores⟩
        · exact .inl h
        · exact .inr ⟨mid, e, h_pre, h_mid.trans (List.prefix_append as [entry]), h_stores⟩
    rcases events_move (db₀.run as) entry with
      h_same | ⟨source, stored, h_stores, -, h_new, h_insert⟩
    · exact h_old (h_same ▸ h)
    · rw [h_insert, Table.lookup_insert] at h
      split at h
      · rename_i h_key
        obtain rfl := Option.some.inj h
        subst h_key
        exact .inr ⟨as, entry, List.nil_prefix, List.prefix_refl _, h_stores, rfl, h_new⟩
      · exact h_old h

/-! ### One step keeps what was asserted -/

/-- How the row of a customer after a step came about. -/
inductive RowMove (db : Db) (entry : Entry) (id : Uuid) (row' : Customer) : Prop
  | kept (h_row : db.customers.lookup id = some row')
  | observed (source : Source) (event : Event) (row : Customer)
      (h_base : db.customers.lookup id = some row ∨ id = db.supply ∧ row = Customer.initial)
      (h_row : row' = Service.observed source event.body row)
      (h_stores : entry.Stores source event)
      (h_event : (db.step entry).events.lookup (source, event.body.eventId) = some event)

/-- An event observed on one customer, over the state before or after the enrolment. -/
theorem RowMove.of_observed {db db₁ : Db} {now : Time} {source : Source} {event : SourceEvent}
    {id id' : Uuid} {row row' : Customer}
    (h_others : ∀ row', id ≠ id' → db₁.customers.lookup id = some row' →
      db.customers.lookup id = some row')
    (h_base : db.customers.lookup id' = some row ∨ id' = db.supply ∧ row = Customer.initial)
    (h_step : (db.step ⟨now, .ingest source event⟩).sources =
      (Service.record now source event (Service.process now source event id' row db₁).1
        (Service.process now source event id' row db₁).2).sources)
    (h : (db.step ⟨now, .ingest source event⟩).customers.lookup id = some row') :
    RowMove db ⟨now, .ingest source event⟩ id row' := by
  rw [(Service.observed_frame now source event id' row db₁).1] at h_step
  have h_customers := congrArg Sources.customers h_step
  have h_events := congrArg Sources.events h_step
  change (db.step _).customers = _ at h_customers
  change (db.step _).events = _ at h_events
  -- the row of the event, or one that was there
  rw [h_customers, Table.lookup_insert] at h
  split at h
  · rename_i h_id
    subst h_id
    refine .observed source
      ⟨digest event, event, (Service.process now source event id row db₁).1, now⟩ row h_base
      (Option.some.inj h).symm ⟨rfl, rfl⟩ ?_
    rw [h_events]
    exact Table.lookup_insert_self _ _ _
  · rename_i h_id
    exact .kept (h_others row' h_id h)

/-- A customer is as before, enrolled, or updated by an event. -/
theorem row_move {db : Db} {entry : Entry} {id : Uuid} {row' : Customer}
    (h : (db.step entry).customers.lookup id = some row') : RowMove db entry id row' := by
  obtain ⟨now, tx⟩ := entry
  -- a transaction on other tables, a link, or an event
  by_cases h_source : tx.isSource = false
  · refine .kept ?_
    rw [← h]
    exact congrArg (fun s : Sources => s.customers.lookup id) (sources_apply now db h_source).symm
  have h_committed := tx.committed now db
  obtain ⟨db', h_step⟩ : ∃ db', db.step ⟨now, tx⟩ = db' := ⟨_, rfl⟩
  change tx.apply now db = db' at h_step
  rw [h_step] at h_committed
  cases h_committed with
  | rolledBack => exact .kept ((congrArg (·.customers.lookup id) h_step).symm.trans h)
  | link h_case =>
    cases h_case <;> exact .kept ((congrArg (·.customers.lookup id) h_step).symm.trans h)
  | @ingest source event _ _ h_case =>
    cases h_case with
    | conflict | duplicate | reviewed =>
      exact .kept ((congrArg (·.customers.lookup id) h_step).symm.trans h)
    | known id' row _ _ h_row =>
      exact .of_observed (fun _ _ h => h) (.inl h_row) (congrArg Db.sources h_step) h
    | enrolled =>
      refine .of_observed (fun row' h_ne h_row' => ?_) (.inr ⟨rfl, rfl⟩)
        (congrArg Db.sources h_step) h
      exact (Table.lookup_insert_of_ne _ _ h_ne).symm.trans h_row'
  | _ => exact absurd rfl h_source

/-- What was asserted stays so. -/
theorem Asserted.step {db : Db} {t : Time} {row : Customer} {field : Field} {p : Provenance}
    {event : Event} (h : Asserted db.events t row field p event) (entry : Entry) :
    Asserted (db.step entry).events t row field p event :=
  { h with h_event := event_persists h.h_event entry }

/-- An event leaves a field as it is, or asserts it when the step stores the event. -/
theorem asserted_observed {db : Db} {entry : Entry} {t : Time} {source : Source} {event : Event}
    (h_now : t ≤ entry.now) (h_stores : entry.Stores source event)
    (h_event : (db.step entry).events.lookup (source, event.body.eventId) = some event)
    (row : Customer) (field : Field) :
    ((Service.observed source event.body row).state.get field = row.state.get field ∧
      (Service.observed source event.body row).provenance.get field = row.provenance.get field) ∨
    ∃ p, Asserted (db.step entry).events t (Service.observed source event.body row) field p
      event := by
  cases Service.Observation.of source event.body row field with
  | kept _ h_state h_prov => exact .inl ⟨h_state, h_prov⟩
  | accepted value _ h_attr h_owner _ _ h_state h_prov =>
    refine .inr ⟨Service.entry source event.body, h_prov, h_owner.symm, h_event, ?_, ?_, ?_⟩
    · rw [h_stores.2]
      exact h_now
    · rw [h_state]
      rfl
    · rw [h_attr, h_state]

/-- What was asserted of a row holds of every row with the same entry and value. -/
theorem Asserted.of_same {events : Table (Source × String) Event} {t : Time}
    {row row' : Customer} {field : Field} {p : Provenance} {event : Event}
    (h : Asserted events t row field p event)
    (h_state : row'.state.get field = row.state.get field)
    (h_prov : row'.provenance.get field = row.provenance.get field) :
    Asserted events t row' field p event :=
  ⟨h_prov.trans h.h_entry, h.h_owner, h.h_event, h.h_received, h_state ▸ h.h_present,
    h.h_value.trans h_state.symm⟩

/-- Every permission that a customer has was asserted since `t`. -/
def PermissionsSince (t : Time) (db : Db) : Prop :=
  ∀ id row, db.customers.lookup id = some row → ∀ field ∈ permissions,
    row.state.get field = none ∨ ∃ p event, Asserted db.events t row field p event

/-- **One step keeps the permissions asserted**, of old customers and of new ones. -/
theorem PermissionsSince.step {db : Db} {t : Time} (h : PermissionsSince t db) {entry : Entry}
    (h_now : entry.tx.stamps = true → t ≤ entry.now) : PermissionsSince t (db.step entry) := by
  intro id row' h_row' field h_field
  have h_later : ∀ row, (row.state.get field = none ∨ ∃ p event,
      Asserted db.events t row field p event) → row.state.get field = none ∨ ∃ p event,
        Asserted (db.step entry).events t row field p event := by
    rintro row (h_none | ⟨p, event, h_asserted⟩)
    · exact .inl h_none
    · exact .inr ⟨p, event, h_asserted.step entry⟩
  -- what was asserted stays asserted, and an event of now asserts what it sets
  cases row_move h_row' with
  | kept h_row => exact h_later row' (h id row' h_row field h_field)
  | observed source event row h_base h_eq h_stores h_event =>
    subst h_eq
    -- a customer that is enrolled by the step has no permission yet
    have h_before : row.state.get field = none ∨ ∃ p event,
        Asserted db.events t row field p event := by
      rcases h_base with h_row | ⟨-, rfl⟩
      · exact h id row h_row field h_field
      · refine .inl ?_
        rcases List.mem_cons.mp h_field with rfl | h_field
        · rfl
        · rw [List.mem_singleton.mp h_field]
          rfl
    rcases asserted_observed (h_now h_stores.stamps) h_stores h_event row field with
      ⟨h_state, h_prov⟩ | ⟨p, h_asserted⟩
    · rcases h_later row h_before with h_none | ⟨p, event', h_asserted⟩
      · exact .inl (h_state.trans h_none)
      · exact .inr ⟨p, event', h_asserted.of_same h_state h_prov⟩
    · exact .inr ⟨p, event, h_asserted⟩

/-! ### The clock -/

/-- Successive readings of the database clock increase, as far as they are kept. -/
def Clocked (as : List Entry) : Prop :=
  as.Pairwise fun a b => a.tx.stamps = true → b.tx.stamps = true → a.now < b.now

/-- A later reading is a later time. -/
theorem Clocked.lt {pre mid as : List Entry} {a b : Entry} (h : Clocked as)
    (h_pre : pre ++ [a] <+: mid) (h_mid : mid ++ [b] <+: as) (h_a : a.tx.stamps = true)
    (h_b : b.tx.stamps = true) : a.now < b.now := by
  have h_mid' : Clocked (mid ++ [b]) := h.sublist h_mid.sublist
  refine (List.pairwise_append.mp h_mid').2.2 a ?_ b (List.mem_singleton_self b) h_a h_b
  exact h_pre.subset (List.mem_append_right pre (List.mem_singleton_self a))

/-- Of two steps of a run, the one with the later reading is the later one. -/
theorem Clocked.prefix_of_le {pre mid as : List Entry} {a b : Entry} (h : Clocked as)
    (h_pre : pre ++ [a] <+: as) (h_mid : mid ++ [b] <+: as) (h_a : a.tx.stamps = true)
    (h_b : b.tx.stamps = true) (h_le : a.now ≤ b.now) (h_ne : a ≠ b) : pre ++ [a] <+: mid := by
  rcases List.prefix_or_prefix_of_prefix h_pre h_mid with h_first | h_first
  · rcases concat_prefix_concat_cases h_first with ⟨-, h_eq⟩ | h_first
    · exact absurd h_eq h_ne
    · exact h_first
  · rcases concat_prefix_concat_cases h_first with ⟨-, h_eq⟩ | h_first
    · exact absurd h_eq.symm h_ne
    · exact absurd (h.lt h_first h_pre h_b h_a) h_le.not_gt

/-! ### The session -/

/-- A session keeps its beginning. -/
theorem markSession_created {db : Db} {s id : Uuid} {status : SessionStatus} {session : Session}
    (h : db.sessions.lookup s = some session) :
    ∃ session', (Recovery.markSession id status db).sessions.lookup s = some session' ∧
      session'.createdAt = session.createdAt := by
  unfold Recovery.markSession
  split
  · exact ⟨session, h, rfl⟩
  · rename_i marked h_marked
    by_cases h_id : s = id
    · subst h_id
      obtain rfl := Option.some.inj (h_marked.symm.trans h)
      exact ⟨_, Table.lookup_insert_self _ _ _, rfl⟩
    · exact ⟨session, (Table.lookup_insert_of_ne _ _ h_id).trans h, rfl⟩

/-- A session keeps the time it was created at. -/
theorem session_created {db : Db} {s : Uuid} {session : Session}
    (h : db.sessions.lookup s = some session) (entry : Entry) :
    ∃ session', (db.step entry).sessions.lookup s = some session' ∧
      session'.createdAt = session.createdAt := by
  obtain ⟨now, tx⟩ := entry
  by_cases h_tx : tx.isCoordination = false
  · obtain ⟨-, h_sessions, -⟩ := Coordination.mk.inj (coordination_apply now db h_tx)
    exact ⟨session, (congrArg (AList.lookup s) h_sessions).trans h, rfl⟩
  have h_committed := tx.committed now db
  change ∃ session', (tx.apply now db).sessions.lookup s = _ ∧ _
  generalize tx.apply now db = db' at h_committed ⊢
  cases h_committed with
  | rolledBack => exact ⟨session, h, rfl⟩
  | begin h_case =>
    rw [h_case.h_state]
    exact ⟨session, Table.lookup_insert_of_none h_case.h_fresh h, rfl⟩
  | verify h_case =>
    rw [h_case.h_state]
    exact ⟨session, h, rfl⟩
  | approveRecovery | resume => exact markSession_created h
  | _ => exact absurd rfl h_tx

/-- A session begins with its time. -/
theorem Entry.Begins.stamps {entry : Entry} {db : Db} {s : Uuid} (h : entry.Begins db s) :
    entry.tx.stamps = true := by
  obtain ⟨coordinator, db', h_tx, -⟩ := h
  rw [h_tx]
  rfl

/-- A session is created at the reading of its `begin`. -/
theorem Entry.Begins.created {entry : Entry} {db : Db} {s : Uuid} (h : entry.Begins db s) :
    ∃ session, (db.step entry).sessions.lookup s = some session ∧
      session.createdAt = entry.now := by
  obtain ⟨coordinator, db', h_tx, h_ok⟩ := h
  obtain ⟨now, tx⟩ := entry
  subst h_tx
  obtain ⟨-, -, rfl, rfl⟩ := Recovery.begin_cases h_ok
  have h_step : db.step ⟨now, .begin coordinator⟩ = _ :=
    congrArg (fun outcome => Outcome.commit outcome db) h_ok
  rw [h_step]
  exact ⟨_, Table.lookup_insert_self _ _ _, rfl⟩

/-- A safe report has no finding of authority. -/
theorem observe_safe {coordinator : Recovery.Coordinator} {surroundings : Recovery.Surroundings}
    {session : Session} {db : Db} {report : Report}
    (h : Recovery.observe coordinator surroundings session db = .ok report)
    (h_safe : report.safeToResume = true) :
    Recovery.authorityFindings db session.createdAt = [] := by
  unfold Recovery.observe at h
  split at h
  · cases h
  split at h
  · cases h
  split at h
  · cases h
  split at h
  · cases h
  · cases h
    exact (List.append_eq_nil_iff.mp (List.isEmpty_iff.mp h_safe)).2

/-- **A `resume` finds every permission asserted** since its session was created. -/
theorem Entry.Resumes.asserted {entry : Entry} {db : Db} {s proofId : Uuid} {fresh : Report}
    (h : entry.Resumes db s proofId fresh) :
    ∃ session, db.sessions.lookup s = some session ∧
      Recovery.authorityFindings db session.createdAt = [] := by
  obtain ⟨coordinator, surroundings, db', -, h_ok⟩ := h
  obtain ⟨⟨session, proof, h_fresh⟩, -⟩ := Recovery.resume_cases h_ok
  exact ⟨session, h_fresh.h_current.h_session, observe_safe h_fresh.h_observed h_fresh.h_freshSafe⟩

/-! ### Dispatches after a `resume` -/

/-- The events stored at first were received before every reading that the run keeps. -/
def ReceivedBefore (db₀ : Db) (as : List Entry) : Prop :=
  ∀ key event, db₀.events.lookup key = some event → ∀ entry ∈ as, entry.tx.stamps = true →
    event.receivedAt < entry.now

/-- An authorized marketing contact is permitted by the current row. -/
theorem prepare_permission {db db' : Db} {now utc : Time} {id : Uuid} {token : Option Uuid}
    {mutation : Mutation}
    (h : Worker.prepare now utc id token db = .ok (.dispatch mutation, db'))
    (h_action : mutation.action = .sendMarketing) :
    ∃ row, db.customers.lookup mutation.customerId = some row ∧
      row.state.consent = some true ∧ row.state.suppressed = some false := by
  generalize h_reply : Worker.Prepared.dispatch mutation = reply at h
  cases Worker.prepare_cases h with
  | closed | fenced | invalid | changed => cases h_reply
  | authorized p row job mutation' _ _ h_row _ _ h_valid h_mutation =>
    cases h_reply
    obtain ⟨h_customer, h_same, -⟩ := mutationOf_ok h_mutation
    obtain ⟨-, -, h_send, -⟩ :=
      actionDecision_ne_deny (Service.validProposal_eq_none h_valid).2.2.1
    obtain ⟨h_suppressed, h_consent, -⟩ :=
      marketingDenial_eq_none.mp (h_send (h_same.symm.trans h_action))
    exact ⟨row, h_customer ▸ h_row, h_consent, h_suppressed⟩

/-- From a `resume` on, the permissions of the session count. -/
theorem permissions_since_resume {db₀ : Db} {as begun resumed : List Entry} {e₀ e₁ : Entry}
    {s proofId : Uuid} {fresh : Report} (h_clock : Clocked as)
    (h_begun : begun ++ [e₀] <+: resumed) (h_resumed : resumed ++ [e₁] <+: as)
    (h_begins : e₀.Begins (db₀.run begun) s)
    (h_resumes : e₁.Resumes (db₀.run resumed) s proofId fresh) :
    PermissionsSince e₀.now (db₀.run as) := by
  -- the session is the one that `begin` created
  obtain ⟨session₀, h_session₀, h_now⟩ := h_begins.created
  obtain ⟨session, h_session, h_findings⟩ := h_resumes.asserted
  have h_created : session.createdAt = e₀.now := by
    obtain ⟨session', h_session', h_created⟩ := run_stable
      (P := fun db : Db => ∃ session, db.sessions.lookup s = some session ∧
        session.createdAt = e₀.now)
      (fun db entry ⟨session, h_some, h_at⟩ => by
        obtain ⟨session', h_some', h_at'⟩ := session_created h_some entry
        exact ⟨session', h_some', h_at'.trans h_at⟩)
      h_begun (by rw [run_concat]; exact ⟨session₀, h_session₀, h_now⟩)
    obtain rfl := Option.some.inj (h_session'.symm.trans h_session)
    exact h_created
  rw [h_created, authorityFindings_eq_nil] at h_findings
  obtain ⟨rest, rfl⟩ := (List.prefix_append resumed [e₁]).trans h_resumed
  -- from the resume on, every event is received after the session began
  rw [Db.run, run_append]
  refine Meets.invariant
    (fun id row h_row field h_field => .inr (h_findings id row h_row field h_field))
    (fun db entry (h_now : entry.tx.stamps = true → e₀.now ≤ entry.now)
      (h : PermissionsSince e₀.now db) => h.step h_now)
    (meets_iff.mpr fun pre entry h_pre h_stamps => ?_)
  -- the clock is strict, and the begin is behind the entry
  have h_mid := h_begun.trans (List.prefix_append resumed pre)
  refine (h_clock.lt h_mid ?_ h_begins.stamps h_stamps).le
  rw [List.append_assoc]
  exact List.prefix_append_right_inj resumed |>.mpr h_pre

/-- **Each permission a later dispatch relies on was asserted, and stored, after the
`begin`.** -/
theorem dispatch_freshness {db₀ : Db} {as begun resumed : List Entry} {e₀ e₁ : Entry}
    {s proofId : Uuid} {fresh : Report} (h_clock : Clocked as) (h_past : ReceivedBefore db₀ as)
    (h_begun : begun ++ [e₀] <+: resumed) (h_resumed : resumed ++ [e₁] <+: as)
    (h_begins : e₀.Begins (db₀.run begun) s)
    (h_resumes : e₁.Resumes (db₀.run resumed) s proofId fresh) {now utc : Time} {id : Uuid}
    {token : Option Uuid} {mutation : Mutation} {db' : Db}
    (h : Worker.prepare now utc id token (db₀.run as) = .ok (.dispatch mutation, db'))
    (h_action : mutation.action = .sendMarketing) :
    ∃ row, (db₀.run as).customers.lookup mutation.customerId = some row ∧
      row.state.consent = some true ∧ row.state.suppressed = some false ∧
      ∀ field ∈ permissions, ∃ p event,
        Asserted (db₀.run as).events e₀.now row field p event ∧
        StoredSince db₀ (begun ++ [e₀]) as (p.source, p.eventId) event := by
  obtain ⟨row, h_row, h_consent, h_suppressed⟩ := prepare_permission h h_action
  refine ⟨row, h_row, h_consent, h_suppressed, fun field h_field => ?_⟩
  -- the permission that `prepare` has read was asserted since the session began
  have h_since := permissions_since_resume h_clock h_begun h_resumed h_begins h_resumes
    mutation.customerId row h_row field h_field
  obtain ⟨p, event, h_asserted⟩ := h_since.resolve_left fun h_none => by
    rcases List.mem_cons.mp h_field with rfl | h_field
    · cases h_consent.symm.trans h_none
    · obtain rfl := List.mem_singleton.mp h_field
      cases h_suppressed.symm.trans h_none
  refine ⟨p, event, h_asserted, ?_⟩
  have h_begun' := h_begun.trans ((List.prefix_append resumed [e₁]).trans h_resumed)
  rcases event_origin db₀ as h_asserted.h_event with h_old | ⟨mid, entry, -, h_mid, h_stores, h_new⟩
  · -- an event of the restored database was received too early
    have h_early := h_past _ event h_old e₀
      (h_begun'.subset (List.mem_append_right begun (List.mem_singleton_self e₀))) h_begins.stamps
    exact absurd h_asserted.h_received h_early.not_ge
  · refine ⟨mid, entry, h_clock.prefix_of_le h_begun' h_mid h_begins.stamps h_stores.stamps ?_ ?_,
      h_mid, h_stores, h_new⟩
    · rw [← h_stores.2]
      exact h_asserted.h_received
    · rintro rfl
      obtain ⟨_, _, h_tx, -⟩ := h_begins
      cases h_tx.symm.trans h_stores.1

/-! ### Accepted events -/

/-- An accepted event is stored by the step that accepts it. -/
theorem Entry.Accepts.stored {db : Db} {entry : Entry} {id : Uuid} {field : Field}
    (h : entry.Accepts db id field) : ∃ source event, entry.Stores source event ∧
      (db.step entry).events.lookup (source, event.body.eventId) = some event := by
  obtain ⟨source, event, revision, decisions, exceptionId, db', h_tx, h_ok, -⟩ := h
  obtain ⟨now, tx⟩ := entry
  subst h_tx
  have h_step : db.step ⟨now, .ingest source event⟩ = db' :=
    congrArg (fun outcome => Outcome.commit outcome db) h_ok
  rw [h_step]
  generalize h_reply : Service.IngestReply.recorded _ = reply at h_ok
  cases Service.ingest_cases h_ok with
  | conflict | duplicate | reviewed => cases h_reply
  | known id' row =>
    exact ⟨source, ⟨digest event, event, (Service.process now source event id' row db).1, now⟩,
      ⟨rfl, rfl⟩, Table.lookup_insert_self _ _ _⟩
  | enrolled =>
    exact ⟨source, ⟨digest event, event, (Service.process now source event db.supply
      Customer.initial (Service.enroll source event db)).1, now⟩, ⟨rfl, rfl⟩,
      Table.lookup_insert_self _ _ _⟩

/-- An acceptance asserts its field. -/
theorem Entry.Accepts.asserted {db : Db} {entry : Entry} {id : Uuid} {field : Field} {t : Time}
    (h : entry.Accepts db id field) (h_drawn : CustomersDrawn db) (h_now : t ≤ entry.now) :
    ∃ row p event, (db.step entry).customers.lookup id = some row ∧
      Asserted (db.step entry).events t row field p event ∧ entry.Stores p.source event := by
  obtain ⟨source, event, h_stores, h_event⟩ := h.stored
  cases customer_move h_drawn entry id with
  | kept _ h_none => exact absurd h (h_none field)
  | observed source' event' h_tx h_row h_accepts =>
    cases h_tx.symm.trans h_stores.1
    cases Service.Observation.of source event.body (db.customerRow id) field with
    | kept h_not => exact absurd ((h_accepts field).mp h) h_not
    | accepted value _ h_attr h_owner _ _ h_state h_prov =>
      refine ⟨_, Service.entry source event.body, event, h_row,
        ⟨h_prov, h_owner.symm, h_event, h_stores.2 ▸ h_now, ?_, ?_⟩, h_stores⟩
      · rw [h_state]
        rfl
      · rw [h_attr, h_state]

section Histories

variable (registry : Table String Destination) (owners : Table String String)

/-- In the run `as`, the event was stored by a step that accepted the field of the
customer. -/
inductive AcceptedIn (as : List Entry) (id : Uuid) (field : Field) (source : Source)
    (event : Event) : Prop
  | intro (pre : List Entry) (entry : Entry) (h_step : pre ++ [entry] <+: as)
      (h_accepts : entry.Accepts ((Db.migrated registry owners).run pre) id field)
      (h_stores : entry.Stores source event)

variable {registry owners}

/-- What was accepted was accepted in any longer run. -/
theorem AcceptedIn.later {as as' : List Entry} {id : Uuid} {field : Field} {source : Source}
    {event : Event} (h : AcceptedIn registry owners as id field source event) (h_as : as <+: as') :
    AcceptedIn registry owners as' id field source event := by
  obtain ⟨pre, entry, h_step, h_accepts, h_stores⟩ := h
  exact ⟨pre, entry, h_step.trans h_as, h_accepts, h_stores⟩

/-- **Every provenance entry is that of an accepted event.** -/
theorem accepted_origin (as : List Entry) {id : Uuid} {row : Customer} {field : Field}
    {p : Provenance}
    (h_row : ((Db.migrated registry owners).run as).customers.lookup id = some row)
    (h_p : row.provenance.get field = some p) :
    ∃ event, AcceptedIn registry owners as id field p.source event ∧
      ((Db.migrated registry owners).run as).events.lookup (p.source, p.eventId) = some event := by
  -- on the transactions, from the last one back
  induction as using List.reverseRecOn generalizing row with
  | nil => cases h_row
  | append_singleton as entry ih =>
    have h_drawn := customers_drawn registry owners as
    have h_run : (Db.migrated registry owners).run (as ++ [entry]) =
        ((Db.migrated registry owners).run as).step entry := run_concat as entry
    rw [h_run] at h_row ⊢
    have h_old : ∀ row, ((Db.migrated registry owners).run as).customers.lookup id = some row →
        row.provenance.get field = some p → ∃ event,
          AcceptedIn registry owners (as ++ [entry]) id field p.source event ∧
          (((Db.migrated registry owners).run as).step entry).events.lookup
            (p.source, p.eventId) = some event := fun row h_row h_p => by
      obtain ⟨event, h_accepted, h_event⟩ := ih h_row h_p
      exact ⟨event, h_accepted.later (List.prefix_append as [entry]), event_persists h_event entry⟩
    cases customer_move h_drawn entry id with
    | kept h_kept => exact h_old row (h_kept ▸ h_row) h_p
    | observed source event h_tx h_observed h_accepts =>
      obtain rfl := Option.some.inj (h_observed.symm.trans h_row)
      cases Service.Observation.of source event
        (((Db.migrated registry owners).run as).customerRow id) field with
      -- the field is as before, whether the customer was there or is new
      | kept _ _ h_prov =>
        rw [h_prov] at h_p
        unfold Db.customerRow at h_p
        cases h_before : ((Db.migrated registry owners).run as).customers.lookup id with
        | none =>
          rw [h_before] at h_p
          cases field <;> cases h_p
        | some row =>
          rw [h_before] at h_p
          exact h_old row h_before h_p
      | accepted _ h_accepted =>
        have h_accepted := (h_accepts field).mpr h_accepted
        obtain ⟨row, p', stored, h_row', h_asserted, h_stores⟩ := h_accepted.asserted h_drawn le_rfl
        obtain rfl := Option.some.inj (h_row'.symm.trans h_observed)
        obtain rfl := Option.some.inj (h_asserted.h_entry.symm.trans h_p)
        exact ⟨stored, ⟨as, entry, List.prefix_refl _, h_accepted, h_stores⟩, h_asserted.h_event⟩

/-- A later step keeps a field of a customer asserted. -/
theorem asserted_step {db : Db} (h_drawn : CustomersDrawn db) {entry : Entry} {t : Time}
    (h_now : entry.tx.stamps = true → t ≤ entry.now) {id : Uuid} {field : Field}
    (h : ∃ row p event, db.customers.lookup id = some row ∧
      Asserted db.events t row field p event) :
    ∃ row p event, (db.step entry).customers.lookup id = some row ∧
      Asserted (db.step entry).events t row field p event := by
  obtain ⟨row, p, event, h_row, h_asserted⟩ := h
  obtain ⟨row', h_row', -⟩ := customer_advances h_drawn entry h_row
  cases row_move h_row' with
  | kept h_kept =>
    obtain rfl := Option.some.inj (h_kept.symm.trans h_row)
    exact ⟨_, p, event, h_row', h_asserted.step entry⟩
  | observed source stored row₀ h_base h_eq h_stores h_event =>
    obtain rfl : row₀ = row := by
      rcases h_base with h_base | ⟨h_id, -⟩
      · exact Option.some.inj (h_base.symm.trans h_row)
      · exact absurd (h_id ▸ h_drawn id row h_row) (lt_irrefl _)
    subst h_eq
    rcases asserted_observed (h_now h_stores.stamps) h_stores h_event row₀ field with
      ⟨h_state, h_prov⟩ | ⟨p', h_new⟩
    · exact ⟨_, p, event, h_row', (h_asserted.step entry).of_same h_state h_prov⟩
    · exact ⟨_, p', stored, h_row', h_new⟩

/-- A field accepted since `t` is asserted since `t` at every later moment. -/
theorem asserted_of_accepted {as pre : List Entry} {entry : Entry} {id : Uuid} {field : Field}
    {t : Time} (h_clock : Clocked as) (h_pre : pre ++ [entry] <+: as)
    (h_accepts : entry.Accepts ((Db.migrated registry owners).run pre) id field)
    (h_now : t ≤ entry.now) :
    ∃ row p event, ((Db.migrated registry owners).run as).customers.lookup id = some row ∧
      Asserted ((Db.migrated registry owners).run as).events t row field p event := by
  obtain ⟨rest, rfl⟩ := h_pre
  induction rest using List.reverseRecOn with
  | nil =>
    obtain ⟨row, p, event, h_row, h_asserted, -⟩ :=
      h_accepts.asserted (customers_drawn registry owners pre) h_now
    rw [List.append_nil, Db.run, run_concat]
    exact ⟨row, p, event, h_row, h_asserted⟩
  | append_singleton rest later ih =>
    rw [← List.append_assoc] at h_clock ⊢
    have h_old := ih (h_clock.sublist (List.sublist_append_left _ [later]))
    rw [Db.run, run_concat]
    refine asserted_step (customers_drawn registry owners _) (fun h_stamps => ?_) h_old
    obtain ⟨source, event, h_stores, -⟩ := h_accepts.stored
    have h_later := h_clock.lt (List.prefix_append (pre ++ [entry]) rest) (List.prefix_refl _)
      h_stores.stamps h_stamps
    exact h_now.trans h_later.le

end Histories

/-- **Consent freshness across a recovery.** In every reachable state and for every time
`t`, such as the creation of a session, (1) when there are no findings since `t`, each of the
two permissions of each customer was asserted by an event of its owner that was accepted for
the customer and received since `t`; (2) when each has been accepted since `t`, on an
increasing clock, there are none. (3) Whatever the database contained at first, each
marketing contact that `prepare` authorizes after a `resume` relies on permissions that were
asserted by events stored after the `begin` of the session. -/
theorem consent_freshness :
    (∀ registry owners as t,
      let db := (Db.migrated registry owners).run as
      (Recovery.authorityFindings db t = [] →
        ∀ id row, db.customers.lookup id = some row → ∀ field ∈ permissions,
          ∃ p event, Asserted db.events t row field p event ∧
            AcceptedIn registry owners as id field p.source event) ∧
      (Clocked as →
        (∀ id row, db.customers.lookup id = some row → ∀ field ∈ permissions,
          ∃ pre entry, pre ++ [entry] <+: as ∧ t ≤ entry.now ∧
            entry.Accepts ((Db.migrated registry owners).run pre) id field) →
        Recovery.authorityFindings db t = [])) ∧
    (∀ registry owners history as, Clocked (history ++ as) →
      ReceivedBefore ((Db.migrated registry owners).run history) as) ∧
    ∀ db₀ as begun resumed e₀ e₁ s proofId fresh, Clocked as → ReceivedBefore db₀ as →
      begun ++ [e₀] <+: resumed → resumed ++ [e₁] <+: as →
      e₀.Begins (db₀.run begun) s → e₁.Resumes (db₀.run resumed) s proofId fresh →
      ∀ now utc id token mutation db',
        Worker.prepare now utc id token (db₀.run as) = .ok (.dispatch mutation, db') →
        mutation.action = .sendMarketing →
        ∃ row, (db₀.run as).customers.lookup mutation.customerId = some row ∧
          row.state.consent = some true ∧ row.state.suppressed = some false ∧
          ∀ field ∈ permissions, ∃ p event,
            Asserted (db₀.run as).events e₀.now row field p event ∧
            StoredSince db₀ (begun ++ [e₀]) as (p.source, p.eventId) event := by
  refine ⟨fun registry owners as t => ⟨fun h_none id row h_row field h_field => ?_,
    fun h_clock h_accepted => ?_⟩, fun registry owners history as h_clock key event h_event
    entry h_entry h_stamps => ?_, ?_⟩
  · obtain ⟨p, event, h_asserted⟩ :=
      authorityFindings_eq_nil.mp h_none id row h_row field h_field
    -- the provenance names an event, and the run has accepted that one
    obtain ⟨event', h_accepted, h_event⟩ := accepted_origin as h_row h_asserted.h_entry
    obtain rfl := Option.some.inj (h_event.symm.trans h_asserted.h_event)
    exact ⟨p, event', h_asserted, h_accepted⟩
  · refine authorityFindings_eq_nil.mpr fun id row h_row field h_field => ?_
    obtain ⟨pre, entry, h_pre, h_now, h_accepts⟩ := h_accepted id row h_row field h_field
    obtain ⟨row', p, event, h_row', h_asserted⟩ :=
      asserted_of_accepted h_clock h_pre h_accepts h_now
    obtain rfl := Option.some.inj (h_row'.symm.trans h_row)
    exact ⟨p, event, h_asserted⟩
  · rcases event_origin (Db.migrated registry owners) history h_event with
      h_old | ⟨mid, stored, -, h_mid, h_stores, -⟩
    · cases h_old
    · rw [h_stores.2]
      -- the event was stored by an earlier transaction, which read the clock earlier
      refine (List.pairwise_append.mp h_clock).2.2 stored ?_ entry h_entry h_stores.stamps h_stamps
      exact h_mid.subset (List.mem_append_right mid (List.mem_singleton_self stored))
  · intro db₀ as begun resumed e₀ e₁ s proofId fresh h_clock h_past h_begun h_resumed h_begins
      h_resumes now utc id token mutation db' h h_action
    exact dispatch_freshness h_clock h_past h_begun h_resumed h_begins h_resumes h h_action

/-! ### A contact after a recovery -/

namespace Reopened

/-- The coordinator of the restored database. -/
def coordinator : Recovery.Coordinator := ⟨⟨"env", "r1", "source", "restored", "point"⟩, "ledger"⟩

/-- What it finds around it: an empty ledger that is safe to resume with. -/
def surroundings (utc : Time) : Recovery.Surroundings :=
  ⟨"restored", "ledger", ⟨true, some utc, []⟩, utc, [], ⟨[], [], []⟩⟩

/-- What the database was restored with: a customer whose subjects are linked, without any
permission. -/
def history : List Entry :=
  [⟨1, .ingest .crm ⟨"a", "k", 1, { (FieldMap.empty : FieldMap Field.Value)
      with email := some "a@example.test" }⟩⟩,
    ⟨2, .link .operator ⟨.consent, "k", 0, 1, "same person"⟩⟩,
    ⟨3, .link .operator ⟨.privacy, "k", 0, 1, "same person"⟩⟩]

/-- The restored database. -/
def restored : Db := (Db.migrated ∅ ∅).run history

/-- The owners assert both permissions anew, and behind the `resume` a contact is proposed,
approved and claimed. -/
def entries : List Entry :=
  [⟨4, .begin coordinator⟩,
    ⟨5, .ingest .consent ⟨"b", "k", 1, { (FieldMap.empty : FieldMap Field.Value)
      with consent := some true }⟩⟩,
    ⟨6, .ingest .privacy ⟨"c", "k", 1, { (FieldMap.empty : FieldMap Field.Value)
      with suppressed := some false }⟩⟩,
    ⟨7, .verify coordinator (surroundings 7) 1⟩,
    ⟨8, .approveRecovery coordinator (surroundings 8) 1 2⟩,
    ⟨9, .resume coordinator (surroundings 9) 1 2⟩,
    ⟨10, .propose .agent ⟨100, 0, 3, .sendMarketing, "greet", .welcome⟩⟩,
    ⟨11, .approve 11 11 .approver 100 ⟨3⟩⟩,
    ⟨12, .claim 60 []⟩]

/-- The recovery resumes on the approved proof. -/
theorem resumes : ∃ fresh, (⟨9, .resume coordinator (surroundings 9) 1 2⟩ : Entry).Resumes
    (restored.run (entries.take 5)) 1 2 fresh := by
  have h_some : (Recovery.resume 9 coordinator (surroundings 9) 1 2
      (restored.run (entries.take 5))).toOption.isSome = true := by decide +kernel
  cases h_resume : Recovery.resume 9 coordinator (surroundings 9) 1 2
      (restored.run (entries.take 5)) with
  | error fault =>
    rw [h_resume] at h_some
    cases h_some
  | ok answer => exact ⟨answer.1, coordinator, surroundings 9, answer.2, rfl, h_resume⟩

/-- The action that is prepared for dispatch, if one is. -/
def dispatched (answer : Except Fault (Worker.Prepared × Db)) : Option Action :=
  answer.toOption.bind fun prepared =>
    match prepared.1 with
    | .dispatch mutation => some mutation.action
    | .refused _ => none

/-- Behind it a contact is dispatched. -/
theorem dispatches : ∃ mutation db', Worker.prepare 13 13 100 (some 3) (restored.run entries) =
    .ok (.dispatch mutation, db') ∧ mutation.action = .sendMarketing := by
  have h_send : dispatched (Worker.prepare 13 13 100 (some 3) (restored.run entries)) =
      some .sendMarketing := by decide +kernel
  generalize Worker.prepare 13 13 100 (some 3) (restored.run entries) = answer at h_send ⊢
  cases answer with
  | error fault => cases h_send
  | ok answer =>
    obtain ⟨prepared, db'⟩ := answer
    cases prepared with
    | refused reason => cases h_send
    | dispatch mutation => exact ⟨mutation, db', rfl, Option.some.inj h_send⟩

end Reopened

open Reopened in
/-- There both permissions of the contact were stored behind the `begin`. -/
theorem consent_freshness_contact :
    ∃ (mutation : Mutation) (row : Customer), mutation.action = .sendMarketing ∧
      (restored.run entries).customers.lookup mutation.customerId = some row ∧
      ∀ field ∈ permissions, ∃ p event,
        Asserted (restored.run entries).events 4 row field p event ∧
        StoredSince restored (entries.take 1) entries (p.source, p.eventId) event := by
  obtain ⟨fresh, h_resumes⟩ := resumes
  obtain ⟨mutation, db', h_prepare, h_action⟩ := dispatches
  have h_clock : Clocked (history ++ entries) := by
    unfold Clocked
    decide
  have h_past : ReceivedBefore restored entries :=
    consent_freshness.2.1 ∅ ∅ history entries h_clock
  have h_begins : (⟨4, .begin coordinator⟩ : Entry).Begins (restored.run []) 1 :=
    ⟨coordinator, _, rfl, rfl⟩
  obtain ⟨row, h_row, -, -, h_fresh⟩ := consent_freshness.2.2 restored entries []
    (entries.take 5) ⟨4, .begin coordinator⟩ ⟨9, .resume coordinator (surroundings 9) 1 2⟩ 1 2 fresh
    (h_clock.sublist (List.sublist_append_right history entries)) h_past ⟨_, rfl⟩ ⟨_, rfl⟩ h_begins
    h_resumes 13 13 100 (some 3) mutation db' h_prepare h_action
  exact ⟨mutation, row, h_action, h_row, h_fresh⟩

end ControlPlane
