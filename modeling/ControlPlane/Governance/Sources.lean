import ControlPlane.Governance.Observation
import ControlPlane.Transactions.Frames
import Mathlib.Logic.Relation

/-!
# The source tables as a machine of their own

Customers, identities and events change in four ways only: an identity is linked, a new
customer is enrolled with its first identity, an event is stored for review, and an event
is observed on the customer its identity names. `SourceStep` is this machine, and
`sources_step` projects every transaction of the control plane onto it: most stutter,
and the first event of a new customer takes two steps, `enroll` and `observe`.

The projection needs one fact about the ids the program draws: `enroll` overwrites no
customer (`CustomersDrawn`).
-/

namespace ControlPlane

open Framework Relation

/-- One write of the source tables, at the clock reading `now`. -/
inductive SourceStep (now : Time) (s : Sources) : Sources → Prop
  | link (source : Source) (subject : String) (id : Uuid) (row : Customer)
      (h_row : s.customers.lookup id = some row)
      (h_new : s.identities.lookup (source, subject) = none)
      (h_other : ∀ other, s.identities.lookup (source, other) ≠ some id) :
      SourceStep now s { s with identities := s.identities.insert (source, subject) id }
  | enroll (source : Source) (subject : String) (id : Uuid)
      (h_fresh : s.customers.lookup id = none)
      (h_new : s.identities.lookup (source, subject) = none) :
      SourceStep now s { s with
        customers := s.customers.insert id Customer.initial
        identities := s.identities.insert (source, subject) id }
  | store (source : Source) (event : SourceEvent) (stored : Event)
      (h_new : s.events.lookup (source, event.eventId) = none) (h_body : stored.body = event)
      (h_received : stored.receivedAt = now) :
      SourceStep now s { s with events := s.events.insert (source, event.eventId) stored }
  | observe (source : Source) (event : SourceEvent) (stored : Event) (id : Uuid)
      (row : Customer) (h_row : s.customers.lookup id = some row)
      (h_identity : s.identities.lookup (source, event.subject) = some id)
      (h_new : s.events.lookup (source, event.eventId) = none) (h_body : stored.body = event)
      (h_received : stored.receivedAt = now) :
      SourceStep now s { s with
        customers := s.customers.insert id (Service.observed source event row)
        events := s.events.insert (source, event.eventId) stored }

/-! ### The ids of customers are drawn -/

/-- Every customer's id has been drawn from the supply. -/
def CustomersDrawn (db : Db) : Prop :=
  ∀ id row, db.customers.lookup id = some row → id < db.supply

/-- What a transaction does to the customers: nothing, an observation of one of them, or
the enrolment and first observation of a new one. -/
theorem customers_apply (now : Time) (db : Db) (tx : Tx) :
    (tx.apply now db).customers = db.customers ∨
    (∃ source event id row, tx = .ingest source event ∧ db.customers.lookup id = some row ∧
      (tx.apply now db).customers =
        db.customers.insert id (Service.observed source event row)) ∨
    (∃ source event, tx = .ingest source event ∧ db.supply < (tx.apply now db).supply ∧
      (tx.apply now db).customers = (db.customers.insert db.supply Customer.initial).insert
        db.supply (Service.observed source event Customer.initial)) := by
  by_cases h_source : tx.isSource = false
  · exact .inl (congrArg Sources.customers (sources_apply now db h_source))
  have h_committed := tx.committed now db
  generalize tx.apply now db = db' at h_committed ⊢
  cases h_committed with
  | rolledBack => exact .inl rfl
  | link h_case => cases h_case <;> exact .inl rfl
  | ingest h_case =>
    cases h_case with
    | conflict | duplicate | reviewed => exact .inl rfl
    | known id row _ _ h_row =>
      exact .inr (.inl ⟨_, _, id, row, rfl, h_row,
        congrArg Sources.customers (Service.observed_frame ..).1⟩)
    | enrolled =>
      refine .inr (.inr ⟨_, _, rfl, ?_, congrArg Sources.customers
        (Service.observed_frame _ _ _ _ _ (Service.enroll _ _ db)).1⟩)
      -- the id of the new customer is drawn
      exact (Nat.lt_succ_self db.supply).trans_eq
        (Service.observed_frame _ _ _ _ _ (Service.enroll _ _ db)).2.2.1.symm
  | _ => exact absurd rfl h_source

theorem CustomersDrawn.step {db : Db} (entry : Entry) (h : CustomersDrawn db) :
    CustomersDrawn (db.step entry) := by
  have h_supply := supply_le_apply entry.now db entry.tx
  intro id row h_row
  change (entry.tx.apply entry.now db).customers.lookup id = some row at h_row
  change id < (entry.tx.apply entry.now db).supply
  rcases customers_apply entry.now db entry.tx with
    h_eq | ⟨_, _, id', row', -, h_row', h_eq⟩ | ⟨_, _, -, h_drawn, h_eq⟩ <;>
    rw [h_eq] at h_row
  · exact (h id row h_row).trans_le h_supply
  · by_cases h_id : id = id'
    · subst h_id
      exact (h id row' h_row').trans_le h_supply
    · rw [Table.lookup_insert_of_ne _ _ h_id] at h_row
      exact (h id row h_row).trans_le h_supply
  · by_cases h_id : id = db.supply
    · rwa [h_id]
    · rw [Table.lookup_insert_of_ne _ _ h_id, Table.lookup_insert_of_ne _ _ h_id] at h_row
      exact (h id row h_row).trans_le h_supply

/-! ### The projection -/

theorem otherSubject_eq_false {command : Contract.Link} {db : Db}
    (h : Service.otherSubject command db = false)
    (h_new : db.identities.lookup (command.source, command.subject) = none) (other : String) :
    db.identities.lookup (command.source, other) ≠ some command.customerId := by
  intro h_other
  by_cases h_subject : other = command.subject
  · rw [h_subject, h_new] at h_other
    cases h_other
  · have h_any : Service.otherSubject command db = true := by
      refine List.any_eq_true.mpr ⟨_, Table.mem_entries.mpr h_other, ?_⟩
      simp [h_subject]
    rw [h] at h_any
    cases h_any

/-- **Every transaction is a run of the source machine.** -/
theorem sources_step {db : Db} (h_drawn : CustomersDrawn db) (entry : Entry) :
    ReflTransGen (SourceStep entry.now) db.sources (db.step entry).sources := by
  change ReflTransGen _ _ (entry.tx.apply entry.now db).sources
  by_cases h_source : entry.tx.isSource = false
  · rw [sources_apply entry.now db h_source]
  have h_committed := entry.tx.committed entry.now db
  generalize entry.tx.apply entry.now db = db' at h_committed ⊢
  generalize entry.tx = tx at h_committed h_source
  cases h_committed with
  | rolledBack => exact .refl
  | link h_case =>
    cases h_case with
    | known => exact .refl
    | added row h_row h_revision h_identity h_other =>
      exact .single (.link _ _ _ row h_row h_identity (otherSubject_eq_false h_other h_identity))
  | @ingest source event reply db' h_case =>
    cases h_case with
    | conflict | duplicate => exact .refl
    | reviewed reason h_event => exact .single (.store _ _ _ h_event rfl rfl)
    | known id row h_event h_identity h_row =>
      rw [(Service.observed_frame _ source event id row _).1]
      exact .single (.observe source event _ id row h_row h_identity h_event rfl rfl)
    | enrolled h_event h_identity =>
      have h_fresh : db.customers.lookup db.supply = none := by
        cases h_row : db.customers.lookup db.supply with
        | none => rfl
        | some row => exact absurd (h_drawn _ row h_row) (lt_irrefl db.supply)
      rw [(Service.observed_frame _ _ _ _ _ (Service.enroll source event db)).1]
      -- the customer and its link first, then the event on the new row
      refine .head (.enroll source event.subject db.supply h_fresh h_identity) (.single ?_)
      exact .observe source event _ db.supply Customer.initial (Table.lookup_insert_self _ _ _)
        (Table.lookup_insert_self _ _ _) h_event rfl rfl
  | _ => exact absurd rfl h_source

/-! ### Stored events -/

/-- The step stores the event under its source and id, at its reading of the clock. -/
def Entry.Stores (entry : Entry) (source : Source) (event : Event) : Prop :=
  entry.tx = .ingest source event.body ∧ event.receivedAt = entry.now

/-- An event is stored once and for all. -/
theorem events_move (db : Db) (entry : Entry) :
    (db.step entry).events = db.events ∨
      ∃ source event, entry.Stores source event ∧ event.hash = digest event.body ∧
        db.events.lookup (source, event.body.eventId) = none ∧
        (db.step entry).events = db.events.insert (source, event.body.eventId) event := by
  obtain ⟨now, tx⟩ := entry
  by_cases h_source : tx.isSource = false
  · exact .inl (congrArg Sources.events (sources_apply now db h_source))
  have h_committed := tx.committed now db
  change (tx.apply now db).events = _ ∨ ∃ source event, _ ∧ _ ∧ _ ∧ (tx.apply now db).events = _
  generalize tx.apply now db = db' at h_committed ⊢
  cases h_committed with
  | rolledBack => exact .inl rfl
  | link h_case => cases h_case <;> exact .inl rfl
  | @ingest source event _ _ h_case =>
    cases h_case with
    | conflict | duplicate => exact .inl rfl
    -- the event is stored whatever becomes of it
    | reviewed reason h_event =>
      exact .inr ⟨source, ⟨digest event, event, .exception reason db.nextException, now⟩,
        ⟨rfl, rfl⟩, rfl, h_event, rfl⟩
    | known id row h_event =>
      exact .inr ⟨source, ⟨digest event, event, _, now⟩, ⟨rfl, rfl⟩, rfl, h_event,
        congrArg Sources.events (Service.observed_frame now source event id row db).1⟩
    | enrolled h_event =>
      exact .inr ⟨source, ⟨digest event, event, _, now⟩, ⟨rfl, rfl⟩, rfl, h_event,
        congrArg Sources.events (Service.observed_frame now source event db.supply
          Customer.initial (Service.enroll source event db)).1⟩
  | _ => exact absurd rfl h_source

theorem event_persists {db : Db} {key : Source × String} {event : Event}
    (h : db.events.lookup key = some event) (entry : Entry) :
    (db.step entry).events.lookup key = some event := by
  rcases events_move db entry with h_same | ⟨source, stored, -, -, h_new, h_insert⟩
  · rw [h_same]
    exact h
  · rw [h_insert]
    exact Table.lookup_insert_of_none h_new h

/-- A stored event carries the digest of its body. -/
def EventsHashed (db : Db) : Prop :=
  ∀ key event, db.events.lookup key = some event → event.hash = digest event.body

theorem EventsHashed.step {db : Db} (h : EventsHashed db) (entry : Entry) :
    EventsHashed (db.step entry) := by
  intro key event h_event
  rcases events_move db entry with h_same | ⟨source, stored, -, h_hash, -, h_insert⟩
  · rw [h_same] at h_event
    exact h key event h_event
  · rw [h_insert, Table.lookup_insert] at h_event
    split at h_event
    · rw [← Option.some.inj h_event]
      exact h_hash
    · exact h key event h_event

end ControlPlane
