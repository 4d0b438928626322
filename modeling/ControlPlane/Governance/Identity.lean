import ControlPlane.Governance.Provenance

/-!
# Identity

A person is found by the mapping of a source's subject to a customer, and by nothing else.
The email of a `crm` event only decides whether a customer is created: if no customer has it,
the event gets a customer of its own, and otherwise an operator looks at it.

So a customer's history begins with one `crm` event (`Creation`), whose subject stays its only
one for `crm`, and `link` is the one way to attach the subjects of other sources. What is
mapped once stays mapped (`identity_persists`): each of the two writers of the mapping has
looked the subject up before, under the lock that every other one needs.
-/

namespace ControlPlane

open Framework Relation

/-! ### The mapping -/

theorem SourceStep.identity_persists {now : Time} {s s' : Sources} (h_step : SourceStep now s s')
    {key : Source × String} {id : Uuid} (h : s.identities.lookup key = some id) :
    s'.identities.lookup key = some id := by
  cases h_step with
  | link source subject id row h_row h_new => exact Table.lookup_insert_of_none h_new h
  | enroll source subject id h_fresh h_new => exact Table.lookup_insert_of_none h_new h
  | store | observe => exact h

theorem identity_persists {db : Db} (h_drawn : CustomersDrawn db) (entry : Entry)
    {key : Source × String} {id : Uuid} (h : db.identities.lookup key = some id) :
    (db.step entry).identities.lookup key = some id :=
  sources_invariant (I := fun s => s.identities.lookup key = some id)
    (fun _ _ _ h_key h_step => h_step.identity_persists h_key) h_drawn entry h

theorem SourceStep.customer_kept {now : Time} {s s' : Sources} (h_step : SourceStep now s s')
    {id : Uuid} (h : (s.customers.lookup id).isSome) : (s'.customers.lookup id).isSome := by
  cases h_step with
  | link | store => exact h
  | enroll source subject id' | observe source event stored id' =>
    show ((s.customers.insert id' _).lookup id).isSome
    rw [Table.lookup_insert]
    split
    · rfl
    · exact h

/-- No customer is deleted. -/
theorem customer_kept {db : Db} (h_drawn : CustomersDrawn db) (entry : Entry) {id : Uuid}
    (h : (db.customers.lookup id).isSome) : ((db.step entry).customers.lookup id).isSome :=
  sources_invariant (I := fun s => (s.customers.lookup id).isSome)
    (fun _ _ _ h_row h_step => h_step.customer_kept h_row) h_drawn entry h

/-! ### Candidates -/

/-- The candidates of an event are the customers that have its email. -/
theorem mem_candidates {event : SourceEvent} {db : Db} {email : String}
    (h_email : event.attributes.email = some email) (h_named : email ≠ "") {id : Uuid} :
    id ∈ Service.candidates event db ↔
      ∃ row, db.customers.lookup id = some row ∧ row.state.email = some email := by
  unfold Service.candidates
  simp only [h_email, if_neg h_named, List.mem_map, List.mem_filter, decide_eq_true_eq]
  constructor
  · rintro ⟨⟨id', row⟩, ⟨h_mem, h_row⟩, rfl⟩
    exact ⟨row, Table.mem_entries.mp h_mem, h_row⟩
  · rintro ⟨row, h_lookup, h_row⟩
    exact ⟨⟨id, row⟩, ⟨Table.mem_entries.mpr h_lookup, h_row⟩, rfl⟩

/-! ### The creation of a customer -/

/-- **Creation.** The step is the `crm` event that creates the customer, for a subject that is
not linked and an email that no customer has. -/
structure Creation (db : Db) (entry : Entry) (id : Uuid) (event : SourceEvent) : Prop where
  call : entry.tx = .ingest .crm event
  absent : db.customers.lookup id = none
  created : ((db.step entry).customers.lookup id).isSome
  unlinked : db.identities.lookup (.crm, event.subject) = none
  linked : (db.step entry).identities.lookup (.crm, event.subject) = some id
  email : ∃ email, event.attributes.email = some email ∧ email ≠ "" ∧
    ∀ other row, db.customers.lookup other = some row → row.state.email ≠ some email

/-- A customer that was not there before the step is created by it. -/
theorem creation_of_new {db : Db} (entry : Entry) {id : Uuid}
    (h_absent : db.customers.lookup id = none)
    (h_created : ((db.step entry).customers.lookup id).isSome) :
    ∃ event, Creation db entry id event := by
  obtain ⟨now, tx⟩ := entry
  have h_step : db.step ⟨now, tx⟩ = tx.apply now db := rfl
  -- the step has changed the table of customers
  have h_same : (tx.apply now db).customers ≠ db.customers := by
    intro h
    rw [h_step, h, h_absent] at h_created
    cases h_created
  -- so it is one of the two on the sources
  by_cases h_source : tx.isSource = false
  · exact absurd (congrArg Sources.customers (sources_apply now db h_source)) h_same
  have h_committed := tx.committed now db
  generalize h_apply : tx.apply now db = db' at h_committed h_same
  rw [h_step, h_apply] at h_created
  cases h_committed with
  | rolledBack => exact absurd rfl h_same
  | link h_case => cases h_case <;> exact absurd rfl h_same
  | @ingest source event reply _ h_case =>
    cases h_case with
    | conflict | duplicate | reviewed => exact absurd rfl h_same
    | known id' row h_event h_identity h_row =>
      -- `process` writes a row that is there already
      rw [Service.observed_customers, Table.lookup_insert] at h_created
      split at h_created
      · rename_i h_id
        rw [h_id, h_row] at h_absent
        cases h_absent
      · rw [h_absent] at h_created
        cases h_created
    | enrolled h_event h_identity h_crm h_email h_named h_unknown =>
      subst h_crm
      have h_id : id = db.supply := by
        -- every other row is as it was
        by_contra h_ne
        have h_enrolled : ((db.customers.insert db.supply Customer.initial).lookup id).isSome := by
          rw [Service.observed_customers, Table.lookup_insert_of_ne _ _ h_ne] at h_created
          exact h_created
        rw [Table.lookup_insert_of_ne _ _ h_ne, h_absent] at h_enrolled
        cases h_enrolled
      obtain ⟨email, h_some⟩ := Option.ne_none_iff_exists'.mp h_email
      refine ⟨event, rfl, h_absent, ?_, h_identity, ?_, email, h_some, ?_, ?_⟩
      · rw [h_step, h_apply]
        exact h_created
      · rw [h_step, h_apply, h_id, Service.observed_identities]
        exact Table.lookup_insert_self db.identities _ _
      · rintro rfl
        exact h_named h_some
      -- a customer with this address would have been a candidate
      · intro other row h_other h_row
        have h_mem := (mem_candidates h_some (by rintro rfl; exact h_named h_some)).mpr
          ⟨row, h_other, h_row⟩
        rw [h_unknown] at h_mem
        cases h_mem
  | _ => exact absurd rfl h_source

/-! ### Events of unlinked subjects, and links -/

/-- An event of an unlinked subject changes no customer there is. -/
theorem unlinked_keeps {db : Db} (h_drawn : CustomersDrawn db) (now : Time) {source : Source}
    {event : SourceEvent} (h_unlinked : db.identities.lookup (source, event.subject) = none)
    {id : Uuid} {row : Customer} (h_row : db.customers.lookup id = some row) :
    (db.step ⟨now, .ingest source event⟩).customers.lookup id = some row := by
  have h_committed := (Tx.ingest source event).committed now db
  show ((Tx.ingest source event).apply now db).customers.lookup id = some row
  generalize (Tx.ingest source event).apply now db = db' at h_committed ⊢
  cases h_committed with
  | rolledBack => exact h_row
  | ingest h_case =>
    cases h_case with
    | conflict | duplicate | reviewed => exact h_row
    | known id' row' h_event h_identity =>
      rw [h_unlinked] at h_identity
      cases h_identity
    | enrolled =>
      -- the new customer has an id of its own
      have h_ne : id ≠ db.supply := (h_drawn id row h_row).ne
      rw [Service.observed_customers, Table.lookup_insert_of_ne _ _ h_ne]
      show (db.customers.insert db.supply Customer.initial).lookup id = some row
      rw [Table.lookup_insert_of_ne _ _ h_ne]
      exact h_row

/-- `link` returns when the requested mapping holds. -/
theorem linked_of_answer {db : Db} {now : Time} {actor : Actor} {command : Contract.Link}
    (h : (Service.link now actor command db).answer = .ok ()) :
    (db.step ⟨now, .link actor command⟩).identities.lookup (command.source, command.subject) =
      some command.customerId := by
  obtain ⟨db', h_ok⟩ := Outcome.answer_eq_ok.mp h
  show ((Service.link now actor command db).commit db).identities.lookup _ = _
  rw [h_ok, Outcome.commit_ok]
  cases Service.link_cases h_ok with
  | known row h_row h_revision h_identity => exact h_identity
  | added => exact Table.lookup_insert_self db.identities _ _

/-- A `link` that raises leaves the whole state as it is. -/
theorem unchanged_of_fault {db : Db} {now : Time} {actor : Actor} {command : Contract.Link}
    {fault : Fault} (h : (Service.link now actor command db).answer = .error fault) :
    db.step ⟨now, .link actor command⟩ = db := by
  show (Service.link now actor command db).commit db = db
  cases h_outcome : Service.link now actor command db with
  | error fault' => exact Outcome.commit_error fault' db
  | ok answered =>
    rw [h_outcome] at h
    cases h

/-! ### Over runs -/

/-- The identity invariants of every run. -/
structure IdentityInvariants (registry : Table String Destination)
    (owners : Table String String) : Prop where
  /-- A subject is never mapped to another customer, and never unmapped. -/
  mapped : ∀ pre entries key id, pre <+: entries →
    ((Db.migrated registry owners).run pre).identities.lookup key = some id →
      ((Db.migrated registry owners).run entries).identities.lookup key = some id
  /-- A customer has at most one subject for a source. -/
  single : ∀ entries source subject subject' id,
    ((Db.migrated registry owners).run entries).identities.lookup (source, subject) = some id →
      ((Db.migrated registry owners).run entries).identities.lookup (source, subject') = some id →
        subject' = subject
  /-- Identities name customers. -/
  named : ∀ entries key id,
    ((Db.migrated registry owners).run entries).identities.lookup key = some id →
      (((Db.migrated registry owners).run entries).customers.lookup id).isSome
  /-- No customer is deleted. -/
  kept : ∀ pre entries id, pre <+: entries →
    (((Db.migrated registry owners).run pre).customers.lookup id).isSome →
      (((Db.migrated registry owners).run entries).customers.lookup id).isSome
  /-- A customer was created by one `crm` event, whose subject is its only one for `crm`. -/
  created : ∀ entries id,
    (((Db.migrated registry owners).run entries).customers.lookup id).isSome →
      ∃ pre entry event, pre ++ [entry] <+: entries ∧
        Creation ((Db.migrated registry owners).run pre) entry id event ∧
        ∀ subject, ((Db.migrated registry owners).run entries).identities.lookup (.crm, subject) =
          some id ↔ subject = event.subject
  /-- An event of an unlinked subject changes no customer. -/
  unlinked : ∀ entries now source event,
    ((Db.migrated registry owners).run entries).identities.lookup (source, event.subject) = none →
      ∀ id row, ((Db.migrated registry owners).run entries).customers.lookup id = some row →
        ((Db.migrated registry owners).run
          (entries ++ [⟨now, .ingest source event⟩])).customers.lookup id = some row
  /-- From a `link` that returns on, the requested mapping holds. -/
  linked : ∀ pre now actor command entries,
    (Service.link now actor command ((Db.migrated registry owners).run pre)).answer = .ok () →
      pre ++ [⟨now, .link actor command⟩] <+: entries →
        ((Db.migrated registry owners).run entries).identities.lookup
          (command.source, command.subject) = some command.customerId
  /-- A `link` that raises changes nothing. -/
  raised : ∀ pre now actor command fault,
    (Service.link now actor command ((Db.migrated registry owners).run pre)).answer =
      .error fault →
        (Db.migrated registry owners).run (pre ++ [⟨now, .link actor command⟩]) =
          (Db.migrated registry owners).run pre

section Runs

variable {registry : Table String Destination} {owners : Table String String}

theorem run_mapped {pre entries : List Entry} (h : pre <+: entries) {key : Source × String}
    {id : Uuid} (h_key : ((Db.migrated registry owners).run pre).identities.lookup key = some id) :
    ((Db.migrated registry owners).run entries).identities.lookup key = some id :=
  run_stable_of Db.step (Db.migrated registry owners) (I := CustomersDrawn)
    (P := fun db : Db => db.identities.lookup key = some id)
    (customers_drawn registry owners)
    (fun _ entry h_drawn h_key => identity_persists h_drawn entry h_key) h h_key

theorem run_kept {pre entries : List Entry} (h : pre <+: entries) {id : Uuid}
    (h_row : (((Db.migrated registry owners).run pre).customers.lookup id).isSome) :
    (((Db.migrated registry owners).run entries).customers.lookup id).isSome :=
  run_stable_of Db.step (Db.migrated registry owners) (I := CustomersDrawn)
    (P := fun db : Db => (db.customers.lookup id).isSome)
    (customers_drawn registry owners)
    (fun _ entry h_drawn h_row => customer_kept h_drawn entry h_row) h h_row

/-- Every customer has a creation in the run. -/
theorem run_creation (entries : List Entry) (id : Uuid)
    (h_row : (((Db.migrated registry owners).run entries).customers.lookup id).isSome) :
    ∃ pre entry event, pre ++ [entry] <+: entries ∧
      Creation ((Db.migrated registry owners).run pre) entry id event := by
  induction entries using List.reverseRecOn with
  | nil => cases h_row
  | append_singleton entries entry ih =>
    cases h_before : ((Db.migrated registry owners).run entries).customers.lookup id with
    | some row =>
      obtain ⟨pre, entry', event, h_pre_as, h_creation⟩ := ih (by rw [h_before]; rfl)
      exact ⟨pre, entry', event, h_pre_as.trans (List.prefix_append entries [entry]), h_creation⟩
    | none =>
      have h_run : (Db.migrated registry owners).run (entries ++ [entry]) =
          ((Db.migrated registry owners).run entries).step entry := run_concat entries entry
      rw [h_run] at h_row
      obtain ⟨event, h_creation⟩ := creation_of_new entry h_before h_row
      exact ⟨entries, entry, event, List.prefix_refl _, h_creation⟩

end Runs

/-- **The identity invariants** of all runs of the control plane. -/
theorem identity_invariants (registry : Table String Destination) (owners : Table String String) :
    IdentityInvariants registry owners := by
  have h_sound : ∀ entries, IdentitySound ((Db.migrated registry owners).run entries).sources :=
    fun entries => (sources_sound registry owners entries).1
  have h_run : ∀ entries entry, (Db.migrated registry owners).run (entries ++ [entry]) =
      ((Db.migrated registry owners).run entries).step entry := fun entries => run_concat entries
  constructor
  · exact fun pre entries key id h => run_mapped h
  · exact fun entries source subject subject' id =>
      (h_sound entries).single source subject subject' id
  · intro entries key id h_key
    obtain ⟨row, h_row⟩ := (h_sound entries).named key id h_key
    exact Option.isSome_iff_exists.mpr ⟨row, h_row⟩
  · exact fun pre entries id h => run_kept h
  · intro entries id h_row
    -- the transaction that has created the customer links it to its subject
    obtain ⟨pre, entry, event, h_pre_as, h_creation⟩ := run_creation entries id h_row
    refine ⟨pre, entry, event, h_pre_as, h_creation, fun subject => ?_⟩
    have h_linked := h_creation.linked
    rw [← h_run] at h_linked
    replace h_linked := run_mapped h_pre_as h_linked
    constructor
    · intro h_subject
      exact (h_sound entries).single .crm event.subject subject id h_linked h_subject
    · rintro rfl
      exact h_linked
  · intro entries now source event h_unlinked id row h_row
    rw [h_run]
    exact unlinked_keeps (customers_drawn registry owners entries) now h_unlinked h_row
  · intro pre now actor command entries h_answer h_pre_as
    have h_linked := linked_of_answer h_answer
    rw [← h_run] at h_linked
    exact run_mapped h_pre_as h_linked
  · intro pre now actor command fault h_answer
    rw [h_run]
    exact unchanged_of_fault h_answer

end ControlPlane
