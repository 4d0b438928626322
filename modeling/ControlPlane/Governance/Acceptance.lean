import ControlPlane.Governance.Sources

/-!
# Accepted observations, step by step

`Entry.Accepts` reads an acceptance off the answer of `ingest`: the transaction recorded
a result for the customer, and the result's decision for the field is `accepted`. What a
step does to one customer is then one of two things (`customer_move`): the step observes
an event on the row the customer has (or is enrolled with), and the event's own decisions
are the acceptances; or the step leaves the row alone and accepts nothing.
-/

namespace ControlPlane

open Framework

/-- The step is a source event that has the field of the customer accepted. -/
def Entry.Accepts (db : Db) (entry : Entry) (id : Uuid) (field : Field) : Prop :=
  ∃ source event revision decisions exceptionId db',
    entry.tx = .ingest source event ∧
    Service.ingest entry.now source event db =
      .ok (.recorded (.processed id revision decisions exceptionId), db') ∧
    decisions.get field = some .accepted

/-- The step has some field of the customer accepted. -/
def Entry.AcceptsSome (db : Db) (entry : Entry) (id : Uuid) : Prop :=
  ∃ field, entry.Accepts db id field

/-- The row a customer has, or would be enrolled with. -/
def Db.customerRow (db : Db) (id : Uuid) : Customer :=
  (db.customers.lookup id).getD Customer.initial

/-- What one step does to one customer. -/
inductive CustomerMove (db : Db) (entry : Entry) (id : Uuid) : Prop
  | kept (h_row : (db.step entry).customers.lookup id = db.customers.lookup id)
      (h_none : ∀ field, ¬ entry.Accepts db id field)
  | observed (source : Source) (event : SourceEvent) (h_tx : entry.tx = .ingest source event)
      (h_row : (db.step entry).customers.lookup id =
        some (Service.observed source event (db.customerRow id)))
      (h_accepts : ∀ field, entry.Accepts db id field ↔
        Service.Accepts source event (db.customerRow id) field)
      (h_known : (db.customers.lookup id).isSome ∨
        Service.Accepts source event Customer.initial .email)

/-- The acceptances of an `ingest` that recorded a result for a customer are the
decisions of that result. -/
theorem accepts_iff_of_processed {db db' : Db} {now : Time} {source : Source}
    {event : SourceEvent} {id : Uuid} {revision : ℕ} {decisions : Decisions}
    {exceptionId : Option ℕ}
    (h : Service.ingest now source event db =
      .ok (.recorded (.processed id revision decisions exceptionId), db')) (id' : Uuid)
    (field : Field) :
    Entry.Accepts db ⟨now, .ingest source event⟩ id' field ↔
      id' = id ∧ decisions.get field = some .accepted := by
  constructor
  · rintro ⟨_, _, _, _, _, _, h_tx, h_ok, h_accepted⟩
    cases h_tx
    rw [h] at h_ok
    cases h_ok
    exact ⟨rfl, h_accepted⟩
  · rintro ⟨rfl, h_accepted⟩
    exact ⟨_, _, _, _, _, _, rfl, h, h_accepted⟩

/-- A transaction that records no result for a customer accepts nothing. -/
theorem not_accepts_of_reply {db : Db} {entry : Entry} {source : Source} {event : SourceEvent}
    {reply : Service.IngestReply} {db' : Db} (h_tx : entry.tx = .ingest source event)
    (h : Service.ingest entry.now source event db = .ok (reply, db'))
    (h_reply : ∀ id revision decisions exceptionId,
      reply ≠ .recorded (.processed id revision decisions exceptionId)) (id : Uuid)
    (field : Field) : ¬ entry.Accepts db id field := by
  rintro ⟨_, _, _, _, _, _, h_tx', h_ok, -⟩
  rw [h_tx] at h_tx'
  cases h_tx'
  rw [h] at h_ok
  cases h_ok
  exact h_reply _ _ _ _ rfl

/-- A step that is no source event accepts nothing. -/
theorem not_accepts_of_ne {db : Db} {entry : Entry}
    (h : ∀ source event, entry.tx ≠ .ingest source event) (id : Uuid) (field : Field) :
    ¬ entry.Accepts db id field := by
  rintro ⟨source, event, _, _, _, _, h_tx, -⟩
  exact h source event h_tx

theorem customers_link (now : Time) (actor : Actor) (command : Contract.Link) (db : Db) :
    ((Service.link now actor command db).commit db).customers = db.customers := by
  refine Outcome.commit_of (P := fun db' => db'.customers = db.customers) (fun _ _ h => ?_) rfl
  cases Service.link_cases h <;> rfl

/-- **The inversion of one step, for one customer.** -/
theorem customer_move {db : Db} (h_drawn : CustomersDrawn db) (entry : Entry) (id : Uuid) :
    CustomerMove db entry id := by
  obtain ⟨now, tx⟩ := entry
  -- only `ingest` and `link` write what the sources know
  by_cases h_source : tx.isSource = false
  · refine .kept ?_ (not_accepts_of_ne (fun _ _ h_tx => ?_) id)
    · exact congrArg (fun s : Sources => s.customers.lookup id) (sources_apply now db h_source)
    · cases h_tx
      cases h_source
  cases tx with
  | link actor command =>
    refine .kept ?_ (not_accepts_of_ne (fun _ _ h_tx => by cases h_tx) id)
    exact congrArg (AList.lookup id) (customers_link now actor command db)
  | ingest source event =>
    -- an event that was rolled back decides nothing
    cases h_ok : Service.ingest now source event db with
    | error fault =>
      refine .kept ?_ ?_
      · change ((Service.ingest now source event db).commit db).customers.lookup id = _
        rw [h_ok]
        rfl
      · rintro field ⟨_, _, _, _, _, _, h_tx, h_ok', -⟩
        cases h_tx
        rw [h_ok] at h_ok'
        cases h_ok'
    | ok answer =>
      obtain ⟨reply, db'⟩ := answer
      have h_step : db.step ⟨now, .ingest source event⟩ = db' := by
        change (Service.ingest now source event db).commit db = db'
        rw [h_ok]
        rfl
      cases Service.ingest_cases h_ok with
      | conflict | duplicate | reviewed =>
        refine .kept ?_ (not_accepts_of_reply rfl h_ok (fun _ _ _ _ h => by cases h) id)
        rw [h_step]
        rfl
      | known id' row h_event h_identity h_row =>
        have h_customers := congrArg Sources.customers
          (Service.observed_frame now source event id' row db).1
        -- the customer of the event, or another one
        by_cases h_id : id = id'
        · subst h_id
          have h_before : db.customerRow id = row := by
            rw [Db.customerRow, h_row]
            rfl
          refine .observed source event rfl ?_ (fun field => ?_) (.inl (by rw [h_row]; rfl))
          · rw [h_step, h_before]
            exact (congrArg (AList.lookup id) h_customers).trans (Table.lookup_insert_self ..)
          · rw [accepts_iff_of_processed h_ok, h_before]
            exact ⟨fun h => h.2, fun h => ⟨rfl, h⟩⟩
        · refine .kept ?_ (fun field h => h_id ((accepts_iff_of_processed h_ok id field).mp h).1)
          rw [h_step]
          exact (congrArg (AList.lookup id) h_customers).trans
            (Table.lookup_insert_of_ne _ _ h_id)
      | enrolled h_event h_identity h_crm h_email =>
        have h_customers := congrArg Sources.customers (Service.observed_frame now source event
          db.supply Customer.initial (Service.enroll source event db)).1
        -- the id of the new customer is the one that was drawn
        by_cases h_id : id = db.supply
        · subst h_id
          have h_before : db.customerRow db.supply = Customer.initial := by
            unfold Db.customerRow
            cases h_row : db.customers.lookup db.supply with
            | none => rfl
            | some row => exact absurd (h_drawn _ row h_row) (lt_irrefl db.supply)
          refine .observed source event rfl ?_ (fun field => ?_) (.inr ?_)
          · rw [h_step, h_before]
            exact (congrArg (AList.lookup db.supply) h_customers).trans
              (Table.lookup_insert_self ..)
          · rw [accepts_iff_of_processed h_ok, h_before]
            exact ⟨fun h => h.2, fun h => ⟨rfl, h⟩⟩
          · -- a first event always has its email accepted
            obtain ⟨email, h_email⟩ := Option.ne_none_iff_exists'.mp h_email
            refine (Service.accepts_iff source event Customer.initial).mpr ⟨email, h_email, ?_⟩
            subst h_crm
            rfl
        · refine .kept ?_ (fun field h => h_id ((accepts_iff_of_processed h_ok id field).mp h).1)
          rw [h_step]
          exact (congrArg (AList.lookup id) h_customers).trans
            ((Table.lookup_insert_of_ne _ _ h_id).trans (Table.lookup_insert_of_ne _ _ h_id))
  | _ => exact absurd rfl h_source

end ControlPlane
