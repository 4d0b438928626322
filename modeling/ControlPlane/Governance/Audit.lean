import ControlPlane.Framework.Rely
import ControlPlane.Governance.Replay
import ControlPlane.Model.Chronicle
import ControlPlane.Transactions.Frames
import ControlPlane.Transactions.Writes

/-!
# The audit records reconstruct the customers

The ids of the audit records ascend in the order of the draws, and the decisions on a customer
follow each other in the order of the commits. The two agree on the records of one customer,
since an id is drawn while the customer is locked: nobody else has recorded a decision on it
between the draw and the commit, and what was recorded before has a smaller id.

`audit_chain` says that the records of a customer, in the order of their ids, lead from the
initial state to the row as it is, whatever interleaves.
-/

namespace ControlPlane

open Framework

/-! ### The records of a customer -/

namespace Annals

variable {a a' : Annals} {value : ℕ}

/-- Every record has an id. -/
def Aligned (a : Annals) : Prop := a.ids.length = a.db.auditLog.length

/-- A row that is added is a decision of its customer, or of none. -/
theorem decisions_append {record : AuditRow} (h : a.Aligned) (h_ids : a'.ids = a.ids ++ [value])
    (h_log : a'.db.auditLog = a.db.auditLog ++ [record]) (id : Uuid) :
    a'.decisions id = a.decisions id ++ [(value, record)].filter fun entry =>
      entry.2.isDecision && entry.2.subject = .id id := by
  unfold decisions
  rw [h_ids, h_log, List.zip_append h, List.filter_append]
  rfl

/-- The ids stay in step with the log. -/
theorem Aligned.append {record : AuditRow} (h : a.Aligned) (h_ids : a'.ids = a.ids ++ [value])
    (h_log : a'.db.auditLog = a.db.auditLog ++ [record]) : a'.Aligned := by
  unfold Aligned at h ⊢
  rw [h_ids, h_log, List.length_append, List.length_append, h]
  rfl

/-- Records whose ids ascend are in the order of their ids. -/
theorem history_eq {id : Uuid} (h : (a.decisions id).Pairwise fun entry entry' =>
    entry.1 < entry'.1) : a.history id = (a.decisions id).map (·.2) := by
  have h_sorted : (a.decisions id).Pairwise fun entry entry' =>
      decide (entry.1 ≤ entry'.1) = true := h.imp fun h_lt => decide_eq_true h_lt.le
  unfold history
  rw [List.mergeSort_of_pairwise h_sorted]

/-- A write without an audit row takes no id. -/
theorem stamp_ids_of_same {effect : Db → Db} (h : (effect a.db).auditLog = a.db.auditLog) :
    (stamp value effect a).ids = a.ids := if_pos (congrArg List.length h)

/-- A write with an audit row takes one. -/
theorem stamp_ids_of_append {effect : Db → Db} {record : AuditRow}
    (h : (effect a.db).auditLog = a.db.auditLog ++ [record]) :
    (stamp value effect a).ids = a.ids ++ [value] := by
  refine if_neg fun h_length => ?_
  rw [h, List.length_append] at h_length
  exact absurd h_length (Nat.succ_ne_self _)

/-- The customers and the decisions on them are the same. -/
structure Quiet (a a' : Annals) : Prop where
  supply : a'.db.supply = a.db.supply
  customers : a'.db.customers = a.db.customers
  aligned : a.Aligned → a'.Aligned
  decisions : a.Aligned → ∀ id, a'.decisions id = a.decisions id

/-- Nothing has changed. -/
theorem Quiet.refl : Quiet a a := ⟨rfl, rfl, fun h => h, fun _ _ => rfl⟩

/-- Two quiet changes. -/
theorem Quiet.trans {a₁ a₂ : Annals} (h₁ : Quiet a a₁) (h₂ : Quiet a₁ a₂) : Quiet a a₂ where
  supply := h₂.supply.trans h₁.supply
  customers := h₂.customers.trans h₁.customers
  aligned h := h₂.aligned (h₁.aligned h)
  decisions h id := (h₂.decisions (h₁.aligned h) id).trans (h₁.decisions h id)

/-- A record of another kind. -/
theorem quiet_of_append {record : AuditRow} (h_record : record.isDecision = false)
    (h_supply : a'.db.supply = a.db.supply) (h_customers : a'.db.customers = a.db.customers)
    (h_ids : a'.ids = a.ids ++ [value]) (h_log : a'.db.auditLog = a.db.auditLog ++ [record]) :
    Quiet a a' := by
  refine ⟨h_supply, h_customers, fun h => h.append h_ids h_log, fun h id => ?_⟩
  rw [decisions_append h h_ids h_log, List.filter_singleton, h_record]
  exact List.append_nil _

/-- A write that leaves the sources is quiet. -/
theorem quiet_stamp {effect : Db → Db} (h : LeavesSources effect) (value : ℕ) (a : Annals) :
    Quiet a (stamp value effect a) := by
  rcases h.log with h_log | h_log
  · have h_ids : (stamp value effect a).ids = a.ids := stamp_ids_of_same (h_log a.db)
    have h_same : (stamp value effect a).db.auditLog = a.db.auditLog := h_log a.db
    refine ⟨h.supply a.db, h.customers a.db, fun h_aligned => ?_, fun _ id => ?_⟩
    · unfold Aligned
      rw [h_ids, h_same]
      exact h_aligned
    · unfold decisions
      rw [h_ids, h_same]
  · obtain ⟨record, h_record, h_append⟩ := h_log a.db
    exact quiet_of_append h_record (h.supply a.db) (h.customers a.db)
      (stamp_ids_of_append h_append) h_append

end Annals

namespace Chronicle

/-! ### The contract -/

/-- The record is the decision on the event. -/
def Reports (source : Source) (stored : Event) (record : AuditRow) : Prop :=
  record.actor = source.actor ∧
    ∃ before after provenance customerId revision decisions exceptionId,
      stored.result = .processed customerId revision decisions exceptionId ∧
      record.detail = .sourceDecision before after stored.body.attributes stored.body.eventId
        provenance decisions revision

/-- The records of every customer, as they were committed, lead to its row, and their ids
ascend. -/
structure Chained (a : Annals) : Prop where
  aligned : a.Aligned
  fresh : ∀ id, a.db.supply ≤ id → a.db.customers.lookup id = none
  bounded : ∀ id, ∀ entry ∈ a.decisions id, entry.1 < a.db.supply
  ascending : ∀ id, (a.decisions id).Pairwise fun entry entry' => entry.1 < entry'.1
  absent : ∀ id, a.db.customers.lookup id = none → a.decisions id = []
  present : ∀ id row, a.db.customers.lookup id = some row → a.decisions id ≠ []
  chain : ∀ id row, a.db.customers.lookup id = some row →
    Leads (Decides a.db.events) Customer.initial ((a.decisions id).map (·.2)) row
  reported : ∀ source eventId stored, a.db.events.lookup (source, eventId) = some stored →
    ∀ id revision decisions exceptionId,
      stored.result = .processed id revision decisions exceptionId →
        ∃ entry ∈ a.decisions id, Reports source stored entry.2

/-- An event that is kept stays kept. -/
def Keeps (a a' : Annals) : Prop :=
  ∀ key stored, a.db.events.lookup key = some stored → a'.db.events.lookup key = some stored

/-- A customer and the decisions on it change under its lock, and events and customers appear
under the lock of the identity discovery. -/
def contract : Contract Annals Resource where
  Inv := Chained
  Keeps
    | .always, a, a' => a.db.supply ≤ a'.db.supply ∧ Keeps a a'
    | .locked .identities, a, a' => a'.db.events = a.db.events ∧
        ∀ id, a.db.customers.lookup id = none → a'.db.customers.lookup id = none
    | .locked (.customer id), a, a' => a'.db.customers.lookup id = a.db.customers.lookup id ∧
        a'.decisions id = a.decisions id
    | _, _, _ => True
  refl part a := by
    split
    · exact ⟨le_refl _, fun _ _ h => h⟩
    · exact ⟨rfl, fun _ h => h⟩
    · exact ⟨rfl, rfl⟩
    · trivial
  trans part a₁ a₂ a₃ h₁ h₂ := by
    split at h₁
    · exact ⟨h₁.1.trans h₂.1, fun key stored h => h₂.2 key stored (h₁.2 key stored h)⟩
    · exact ⟨h₂.1.trans h₁.1, fun id h => h₂.2 id (h₁.2 id h)⟩
    · exact ⟨h₂.1.trans h₁.1, h₂.2.trans h₁.2⟩
    · trivial
  value_le _ _ h := h.1
  advance a h := by
    refine ⟨⟨h.aligned, fun id h_le => h.fresh id ((Nat.le_succ _).trans h_le),
      fun id entry h_entry => Nat.lt_succ_of_lt (h.bounded id entry h_entry), h.ascending,
      h.absent, h.present, h.chain, h.reported⟩, fun part => ?_⟩
    split
    · exact ⟨Nat.le_succ _, fun _ _ h => h⟩
    · exact ⟨rfl, fun _ h => h⟩
    · exact ⟨rfl, rfl⟩
    · trivial

variable {held : List (Resource × LockMode)} {own : List ℕ} {a a' : Annals}

/-- What a chained change guarantees to those who hold no lock of it. -/
theorem guarantees_of_chained (h : Chained a') (h_supply : a'.db.supply = a.db.supply)
    (h_keeps : Keeps a a') (h_identities : (.identities, .exclusive) ∈ held ∨
      (a'.db.events = a.db.events ∧ a'.db.customers = a.db.customers))
    (h_customer : ∀ id, (.customer id, .exclusive) ∈ held ∨
      (a'.db.customers.lookup id = a.db.customers.lookup id ∧ a'.decisions id = a.decisions id)) :
    contract.Guarantees held own a a' := by
  refine ⟨h, fun part h_part => ?_⟩
  unfold contract
  dsimp only
  split
  · exact ⟨h_supply.ge, h_keeps⟩
  · obtain ⟨h_events, h_customers⟩ := h_identities.resolve_left h_part
    refine ⟨h_events, fun id h_none => ?_⟩
    rw [h_customers]
    exact h_none
  · exact (h_customer _).resolve_left h_part
  · trivial

/-- Events may be kept that concern no customer. -/
theorem Chained.quiet (h : Chained a) (h_quiet : Annals.Quiet a a') (h_keeps : Keeps a a')
    (h_events : ∀ key stored, a'.db.events.lookup key = some stored →
      a.db.events.lookup key = some stored ∨ ∀ id revision decisions exceptionId,
        stored.result ≠ .processed id revision decisions exceptionId) : Chained a' where
  aligned := h_quiet.aligned h.aligned
  fresh id h_le := by
    rw [h_quiet.supply] at h_le
    rw [h_quiet.customers]
    exact h.fresh id h_le
  bounded id entry h_entry := by
    rw [h_quiet.decisions h.aligned] at h_entry
    rw [h_quiet.supply]
    exact h.bounded id entry h_entry
  ascending id := by
    rw [h_quiet.decisions h.aligned]
    exact h.ascending id
  absent id h_none := by
    rw [h_quiet.customers] at h_none
    rw [h_quiet.decisions h.aligned]
    exact h.absent id h_none
  present id row h_row := by
    rw [h_quiet.customers] at h_row
    rw [h_quiet.decisions h.aligned]
    exact h.present id row h_row
  chain id row h_row := by
    rw [h_quiet.customers] at h_row
    rw [h_quiet.decisions h.aligned]
    exact (h.chain id row h_row).imp fun _ _ _ h_decides => h_decides.mono h_keeps
  reported source eventId stored h_stored id revision decisions exceptionId h_result := by
    rw [h_quiet.decisions h.aligned]
    -- an event that is new was not processed
    rcases h_events _ stored h_stored with h_old | h_other
    · exact h.reported source eventId stored h_old id revision decisions exceptionId h_result
    · exact absurd h_result (h_other id revision decisions exceptionId)

/-! ### A decision -/

/-- The event has been decided on the customer `id`, which was `before`, and the record got
the id `value`. -/
structure Decided (source : Source) (event : SourceEvent) (id : Uuid) (before : Customer)
    (value : ℕ) (a a' : Annals) : Prop where
  supply : a'.db.supply = a.db.supply
  customers : ∀ id', a'.db.customers.lookup id' =
    if id' = id then some (Service.observed source event before) else a.db.customers.lookup id'
  events : ∃ stored exceptionId,
    a'.db.events = a.db.events.insert (source, event.eventId) stored ∧ stored.body = event ∧
      stored.result = .processed id (Service.observed source event before).revision
        (Service.decideFields source event before).decisions exceptionId
  ids : a'.ids = a.ids ++ [value]
  log : ∃ record : AuditRow, a'.db.auditLog = a.db.auditLog ++ [record] ∧
    record.subject = .id id ∧ record.actor = source.actor ∧
    record.detail = .sourceDecision before.state (Service.observed source event before).state
      event.attributes event.eventId (Service.observed source event before).provenance
      (Service.decideFields source event before).decisions
      (Service.observed source event before).revision

section Decision

variable {source : Source} {event : SourceEvent} {id : Uuid} {before : Customer} {value : ℕ}

/-- A decision about a new event keeps what was recorded. -/
theorem Decided.keeps (h : Decided source event id before value a a')
    (h_new : a.db.events.lookup (source, event.eventId) = none) : Keeps a a' := by
  obtain ⟨stored, exceptionId, h_events, -⟩ := h.events
  intro key stored' h_stored
  rw [h_events]
  exact Table.lookup_insert_of_none h_new h_stored

/-- The record is the last one of the customer, and of no other. -/
theorem Decided.decisions (h : Decided source event id before value a a') (h_aligned : a.Aligned) :
    ∃ record, Decides a'.db.events before record (Service.observed source event before) ∧
      (∀ stored, a'.db.events.lookup (source, event.eventId) = some stored →
        Reports source stored record) ∧
      a'.decisions id = a.decisions id ++ [(value, record)] ∧
      ∀ id', id' ≠ id → a'.decisions id' = a.decisions id' := by
  obtain ⟨stored, exceptionId, h_events, h_body, h_result⟩ := h.events
  obtain ⟨record, h_log, h_subject, h_actor, h_detail⟩ := h.log
  have h_stored : a'.db.events.lookup (source, event.eventId) = some stored := by
    rw [h_events]
    exact Table.lookup_insert_self _ _ _
  have h_decision : record.isDecision = true := by
    unfold AuditRow.isDecision
    rw [h_detail]
  subst h_body
  -- the record is the one decision the transaction adds, and it is on this customer
  refine ⟨record, ?_, fun stored' h_stored' => ?_, ?_, fun id' h_ne => ?_⟩
  · refine ⟨source, stored, _, h_stored, h_actor, h_detail, ?_⟩
    exact (Service.replay_decided source stored.body before).symm
  · obtain rfl := Option.some.inj (h_stored.symm.trans h_stored')
    exact ⟨h_actor, _, _, _, _, _, _, _, h_result, h_detail⟩
  · rw [Annals.decisions_append h_aligned h.ids h_log, List.filter_singleton, h_decision, h_subject,
      decide_eq_true rfl]
    rfl
  · have h_other : decide (record.subject = .id id') = false := by
      refine decide_eq_false fun h_eq => h_ne ?_
      exact (Subject.id.inj (h_subject.symm.trans h_eq)).symm
    rw [Annals.decisions_append h_aligned h.ids h_log, List.filter_singleton, h_other,
      Bool.and_false]
    exact List.append_nil _

/-- **A decision extends the chain of its customer**, when its id is the latest. -/
theorem Chained.decided (h : Chained a) (h_decided : Decided source event id before value a a')
    (h_new : a.db.events.lookup (source, event.eventId) = none)
    (h_before : a.db.customers.lookup id = some before ∨
      (a.db.customers.lookup id = none ∧ before = Customer.initial))
    (h_id : id < a.db.supply) (h_value : value < a.db.supply)
    (h_latest : ∀ entry ∈ a.decisions id, entry.1 < value) : Chained a' := by
  obtain ⟨record, h_decides, h_reports, h_self, h_others⟩ := h_decided.decisions h.aligned
  obtain ⟨stored, exceptionId, h_events, h_body, h_result⟩ := h_decided.events
  obtain ⟨_, h_log, -⟩ := h_decided.log
  have h_keeps : Keeps a a' := h_decided.keeps h_new
  have h_customers := h_decided.customers
  -- each part is the old one for the others, and grows by one record for `id`
  refine ⟨h.aligned.append h_decided.ids h_log, fun id' h_le => ?_, fun id' entry h_entry => ?_,
    fun id' => ?_, fun id' h_none => ?_, fun id' row h_row => ?_, fun id' row h_row => ?_,
    fun source' eventId stored' h_stored id' revision decisions exceptionId' h_processed => ?_⟩
  · rw [h_decided.supply] at h_le
    rw [h_customers, if_neg (h_id.trans_le h_le).ne']
    exact h.fresh id' h_le
  · rw [h_decided.supply]
    by_cases h_eq : id' = id
    · subst h_eq
      rw [h_self] at h_entry
      rcases List.mem_append.mp h_entry with h_old | h_last
      · exact h.bounded id' entry h_old
      · obtain rfl := List.mem_singleton.mp h_last
        exact h_value
    · rw [h_others id' h_eq] at h_entry
      exact h.bounded id' entry h_entry
  · by_cases h_eq : id' = id
    · subst h_eq
      rw [h_self, List.pairwise_append]
      refine ⟨h.ascending id', List.pairwise_singleton _ _, fun entry h_entry last h_last => ?_⟩
      obtain rfl := List.mem_singleton.mp h_last
      exact h_latest entry h_entry
    · rw [h_others id' h_eq]
      exact h.ascending id'
  · rw [h_customers] at h_none
    split at h_none
    · cases h_none
    · rename_i h_ne
      rw [h_others id' h_ne]
      exact h.absent id' h_none
  · by_cases h_eq : id' = id
    · subst h_eq
      rw [h_self]
      exact List.append_ne_nil_of_right_ne_nil _ (List.cons_ne_nil _ _)
    · rw [h_customers, if_neg h_eq] at h_row
      rw [h_others id' h_eq]
      exact h.present id' row h_row
  · by_cases h_eq : id' = id
    · subst h_eq
      rw [h_customers, if_pos rfl] at h_row
      obtain rfl := Option.some.inj h_row
      -- what was recorded before leads to the row that the decision has read
      have h_old : Leads (Decides a.db.events) Customer.initial ((a.decisions id').map (·.2))
          before := by
        rcases h_before with h_row | ⟨h_none, rfl⟩
        · exact h.chain id' before h_row
        · rw [h.absent id' h_none]
          rfl
      rw [h_self, List.map_append]
      exact (h_old.imp fun _ _ _ h_decides => h_decides.mono h_keeps).concat
        h_decides
    · rw [h_customers, if_neg h_eq] at h_row
      rw [h_others id' h_eq]
      exact (h.chain id' row h_row).imp fun _ _ _ h_decides => h_decides.mono h_keeps
  -- an event that was reported before still is; the new one has the new record
  · have h_grown : ∀ entry ∈ a.decisions id', entry ∈ a'.decisions id' := by
      intro entry h_entry
      by_cases h_eq : id' = id
      · subst h_eq
        rw [h_self]
        exact List.mem_append_left _ h_entry
      · rw [h_others id' h_eq]
        exact h_entry
    by_cases h_key : (source', eventId) = (source, event.eventId)
    · obtain ⟨rfl, rfl⟩ := Prod.mk.inj h_key
      have h_same := h_stored
      rw [h_events, Table.lookup_insert_self] at h_same
      obtain rfl := Option.some.inj h_same
      obtain rfl : id = id' := by
        rw [h_result] at h_processed
        exact (IngestResult.processed.inj h_processed).1
      refine ⟨(value, record), ?_, h_reports stored h_stored⟩
      rw [h_self]
      exact List.mem_append_right _ (List.mem_singleton_self _)
    · rw [h_events, Table.lookup_insert_of_ne _ _ h_key] at h_stored
      obtain ⟨entry, h_entry, h_report⟩ := h.reported source' eventId stored' h_stored id' revision
        decisions exceptionId' h_processed
      exact ⟨entry, h_grown entry h_entry, h_report⟩

/-- It is committed under the locks of the identity discovery and of the customer. -/
theorem guarantees_of_decided (h : Chained a)
    (h_decided : Decided source event id before value a a')
    (h_identities : (.identities, .exclusive) ∈ held)
    (h_customer : (.customer id, .exclusive) ∈ held)
    (h_new : a.db.events.lookup (source, event.eventId) = none)
    (h_before : a.db.customers.lookup id = some before ∨
      (a.db.customers.lookup id = none ∧ before = Customer.initial))
    (h_id : id < a.db.supply) (h_value : value < a.db.supply)
    (h_latest : ∀ entry ∈ a.decisions id, entry.1 < value) :
    contract.Guarantees held own a a' := by
  refine guarantees_of_chained (h.decided h_decided h_new h_before h_id h_value h_latest)
    h_decided.supply (h_decided.keeps h_new) (.inl h_identities) fun id' => ?_
  by_cases h_eq : id' = id
  · subst h_eq
    exact .inl h_customer
  · obtain ⟨record, -, -, -, h_others⟩ := h_decided.decisions h.aligned
    refine .inr ⟨?_, h_others id' h_eq⟩
    rw [h_decided.customers, if_neg h_eq]

end Decision

/-! ### The scripts -/

section Scripts

variable (now : Time)

/-- The effect is on neither the customers nor the events, and records no decision. -/
def OutsideSources (effect : Annals → Annals) : Prop :=
  ∀ a, Annals.Quiet a (effect a) ∧ (effect a).db.events = a.db.events

/-- Whatever leaves the sources keeps the chains. -/
theorem leavesSources_safe {transaction : Transaction} (h : transaction.Writes LeavesSources) :
    (transaction.stamped Annals.data Annals.stamp).Safe contract Spec.any held own a id := by
  have h_writes : (transaction.stamped Annals.data Annals.stamp).Writes OutsideSources :=
    h.stamped fun value f h_f a => ⟨Annals.quiet_stamp h_f value a, h_f.events a.db⟩
  refine h_writes.safe (fun f g h_f h_g a => ?_) (fun f h_f held own a h_chained => ?_)
    (fun _ _ _ _ _ => trivial) (fun _ _ => trivial) fun a => ⟨.refl, rfl⟩
  · exact ⟨(h_g a).1.trans (h_f (g a)).1, (h_f (g a)).2.trans (h_g a).2⟩
  · obtain ⟨h_quiet, h_events⟩ := h_f a
    have h_keeps : Keeps a (f a) := by
      intro key stored h_stored
      rw [h_events]
      exact h_stored
    refine guarantees_of_chained (h_chained.quiet h_quiet h_keeps fun key stored h_stored => ?_)
      h_quiet.supply h_keeps (.inr ⟨h_events, h_quiet.customers⟩) fun id => .inr ⟨?_, ?_⟩
    · rw [h_events] at h_stored
      exact .inl h_stored
    · rw [h_quiet.customers]
    · exact h_quiet.decisions h_chained.aligned id

/-- The event is decided on the customer that `pending` has left there. -/
theorem process_safe {source : Source} {event : SourceEvent} {id : Uuid}
    {pending : Annals → Annals} (h_identities : (.identities, .exclusive) ∈ held)
    (h_new : a.db.events.lookup (source, event.eventId) = none)
    (h_before : ∀ a', contract.Relies held own a a' → ∀ row,
      (pending a').db.customers.lookup id = some row →
        (a'.db.customers.lookup id = some row ∨
          (a'.db.customers.lookup id = none ∧ row = Customer.initial)) ∧ id < a'.db.supply)
    (h_decided : ∀ a' row value, Decided source event id row value a' (Annals.stamp value
      (fun db =>
        let processed := Service.process now source event id row db
        Service.record now source event processed.1 processed.2) (pending a'))) :
    ((Service.processScript now source event id).stamped Annals.data Annals.stamp).Safe contract
      Spec.any held own a pending := by
  refine fun a₁ h₁ => ⟨trivial, ?_⟩
  dsimp only
  split
  · trivial
  rename_i row h_row
  obtain ⟨h_row₁, h_id₁⟩ := h_before a₁ h₁ row h_row
  -- the statements after the read: the customer, the gate, the event and the id
  refine fun a₂ h₂ => ⟨trivial, fun a₃ h₃ => ⟨trivial, fun a₄ h₄ => ⟨trivial, fun a₅ h₅ _ => ?_⟩⟩⟩
  -- nobody has decided anything on the customer since it was locked
  have h_since := (h₂.since.lock (.gate, .shared)).trans <|
    (h₃.since.lock (.event source event.eventId, .exclusive)).trans h₄.since
  have h_held₄ := h_since.holds
  have h_customer : (.customer id, .exclusive) ∈
      (Resource.customer id, LockMode.exclusive) :: held := List.mem_cons_self
  have h_row₄ := (h_since.relies.locked h_customer).1
  obtain ⟨h_row₅, h_decisions₅⟩ := h₅.locked (h_held₄ h_customer)
  have h_events₄ := (h_since.relies.locked (List.mem_cons_of_mem _ h_identities)).1
  have h_events₅ := (h₅.locked (h_held₄ (List.mem_cons_of_mem _ h_identities))).1
  have h_new₅ : a₅.db.events.lookup (source, event.eventId) = none := by
    rw [h_events₅]
    change a₄.db.events.lookup _ = none
    rw [h_events₄, (h₁.locked h_identities).1]
    exact h_new
  have h_supply₄ : a₁.db.supply ≤ a₄.db.supply := h_since.relies.always.1
  have h_supply₅ : a₄.db.supply < a₅.db.supply := h₅.always.1
  refine guarantees_of_decided h₅.inv (h_decided a₅ row a₄.db.supply)
    (h_held₄ (List.mem_cons_of_mem _ h_identities)) (h_held₄ h_customer) h_new₅ ?_
    (h_id₁.trans_le (h_supply₄.trans h_supply₅.le)) h_supply₅ fun entry h_entry => ?_
  · rw [h_row₅]
    change a₄.db.customers.lookup id = _ ∨ a₄.db.customers.lookup id = none ∧ _
    rw [h_row₄]
    exact h_row₁
  · -- the id is the next one, and the records that are there have smaller ones
    rw [h_decisions₅] at h_entry
    exact h₄.inv.bounded id entry h_entry

/-- The decision on what `pending` has left there. -/
theorem decided_process {source : Source} {event : SourceEvent} {id : Uuid} {row : Customer}
    {value : ℕ} (h_supply : a'.db.supply = a.db.supply) (h_events : a'.db.events = a.db.events)
    (h_ids : a'.ids = a.ids) (h_log : a'.db.auditLog = a.db.auditLog)
    (h_customers : ∀ id', id' ≠ id →
      a'.db.customers.lookup id' = a.db.customers.lookup id') :
    Decided source event id row value a (Annals.stamp value (fun db =>
      let processed := Service.process now source event id row db
      Service.record now source event processed.1 processed.2) a') := by
  obtain ⟨h_sources, -, h_supply', -⟩ :=
    Service.observed_frame now source event id row a'.db
  have h_append := Service.observed_log now source event id row a'.db
  refine ⟨h_supply'.trans h_supply, fun id' => ?_, ?_, ?_, ?_⟩
  · refine (congrArg (AList.lookup id') (congrArg Sources.customers h_sources)).trans ?_
    change (a'.db.customers.insert id (Service.observed source event row)).lookup id' = _
    rw [Table.lookup_insert]
    split
    · rfl
    · rename_i h_ne
      exact h_customers id' h_ne
  · refine ⟨⟨digest event, event, (Service.process now source event id row a'.db).1, now⟩, _,
      (congrArg Sources.events h_sources).trans ?_, rfl, rfl⟩
    exact congrArg (AList.insert _ _) h_events
  · rw [← h_ids]
    exact Annals.stamp_ids_of_append h_append
  · rw [← h_log]
    exact ⟨_, h_append, rfl, rfl, rfl⟩

/-- Nobody else takes in an event while the identity discovery is locked. -/
theorem event_new {key : Source × String} (h : a.db.events.lookup key = none)
    (h_relies : contract.Relies held own a a') (h_held : (.identities, .exclusive) ∈ held) :
    a'.db.events.lookup key = none := by
  rw [(h_relies.locked h_held).1]
  exact h

/-- An event that is kept for review. -/
theorem guarantees_of_review {source : Source} {event : SourceEvent} {effect : Db → Db}
    {stored : Event} {record : AuditRow} {value : ℕ} (h : Chained a)
    (h_held : (.identities, .exclusive) ∈ held)
    (h_new : a.db.events.lookup (source, event.eventId) = none)
    (h_stored : ∀ id revision decisions exceptionId,
      stored.result ≠ .processed id revision decisions exceptionId)
    (h_record : record.isDecision = false) (h_supply : (effect a.db).supply = a.db.supply)
    (h_customers : (effect a.db).customers = a.db.customers)
    (h_events : (effect a.db).events = a.db.events.insert (source, event.eventId) stored)
    (h_log : (effect a.db).auditLog = a.db.auditLog ++ [record]) :
    contract.Guarantees held own a (Annals.stamp value effect a) := by
  have h_quiet : Annals.Quiet a (Annals.stamp value effect a) :=
    Annals.quiet_of_append h_record h_supply h_customers (Annals.stamp_ids_of_append h_log) h_log
  have h_keeps : Keeps a (Annals.stamp value effect a) := by
    intro key stored' h_stored'
    change (effect a.db).events.lookup key = _
    rw [h_events]
    exact Table.lookup_insert_of_none h_new h_stored'
  refine guarantees_of_chained (h.quiet h_quiet h_keeps fun key stored' h_stored' => ?_) h_supply
    h_keeps (.inl h_held) fun id => .inr ⟨?_, h_quiet.decisions h.aligned id⟩
  · change (effect a.db).events.lookup key = _ at h_stored'
    -- the new event was not processed, and the others were there
    rw [h_events, Table.lookup_insert] at h_stored'
    split at h_stored'
    · obtain rfl := Option.some.inj h_stored'
      exact .inr h_stored
    · exact .inl h_stored'
  · rw [h_quiet.customers]

/-- `ingest` adds one link to the chain of its customer. -/
theorem ingest_safe (source : Source) (event : SourceEvent) :
    ((Service.ingestScript now source event).stamped Annals.data Annals.stamp).Safe contract
      Spec.any [] own a id := by
  refine fun a₁ h₁ => ⟨trivial, fun a₂ h₂ => ⟨trivial, fun a₃ h₃ => ?_⟩⟩
  have h_identities : (.identities, .exclusive) ∈
    [(Resource.identities, LockMode.exclusive), (.gate, .shared)] := List.mem_cons_self
  dsimp only
  -- a second delivery leaves the sources as they are
  split
  · refine leavesSources_safe (.ite (fun _ => ⟨?_, trivial⟩) fun _ => ⟨?_, trivial⟩) <;>
      exact ⟨fun _ => rfl, fun _ => rfl, fun _ => rfl, .inr fun _ => ⟨_, rfl, rfl⟩⟩
  rename_i h_new₃
  refine fun a₄ h₄ => ?_
  have h_new₄ := event_new h_new₃ h₄ h_identities
  dsimp only
  split
  · -- a known customer, which was there before the transaction
    refine process_safe now h_identities h_new₄ (fun a' h' row h_row => ⟨.inl h_row, ?_⟩)
      fun a' row value => decided_process now rfl rfl rfl rfl fun _ _ => rfl
    refine lt_of_not_ge fun h_le => ?_
    cases (h'.inv.fresh _ h_le).symm.trans h_row
  refine fun a₅ h₅ => ?_
  have h_new₅ := event_new h_new₄ h₅ h_identities
  dsimp only
  rw [Script.stamped_ite]
  refine .ite (fun _ a₆ h₆ => ⟨trivial, fun a₇ h₇ => ⟨trivial, fun a₈ h₈ => ⟨trivial,
    fun a₉ h₉ _ => ?_⟩⟩⟩) fun _ a₆ h₆ => ?_
  · -- the event is kept for review, with a record of another kind
    have h_new₇ := event_new (event_new h_new₅ h₆ h_identities) h₇ (by simp)
    have h_new₈ := event_new h_new₇ h₈ (by simp)
    have h_new₉ := event_new (a := Sequence.advance a₈) h_new₈ h₉ (by simp)
    refine guarantees_of_review h₉.inv (by simp) h_new₉ (fun _ _ _ _ h_result => ?_) rfl rfl rfl
      rfl rfl
    cases h_result
  · -- a new customer, under the id that was drawn
    have h_absent : a₆.db.customers.lookup a₆.db.supply = none := h₆.inv.fresh _ (le_refl _)
    have h_new₆ := event_new h_new₅ h₆ h_identities
    refine fun a₇ h₇ => ⟨trivial, fun a₈ h₈ => ⟨trivial, fun a₉ h₉ => ⟨trivial,
      fun a₁₀ h₁₀ => ⟨trivial, fun a₁₁ h₁₁ => ?_⟩⟩⟩⟩
    have h_since := (h₇.since.lock (.gate, .shared)).trans <|
      (h₈.since.lock (.customer a₆.db.supply, .exclusive)).trans <|
      (h₉.since.lock (.identity source event.subject, .exclusive)).trans <|
      (h₁₀.since.lock (.identityOf source a₆.db.supply, .exclusive)).trans h₁₁.since
    have h_new₁₁ := event_new (a := Sequence.advance a₆) h_new₆ h_since.relies h_identities
    have h_held := h_since.holds h_identities
    refine process_safe now h_held h_new₁₁ (fun a' h' row h_row => ⟨.inr ⟨?_, ?_⟩, ?_⟩)
      fun a' row value => decided_process now rfl rfl (Annals.stamp_ids_of_same rfl) rfl
        fun id' h_ne => Table.lookup_insert_of_ne _ _ h_ne
    · have h_absent₁₁ := (h_since.relies.locked h_identities).2 _ h_absent
      exact (h'.locked h_held).2 _ h_absent₁₁
    · change (a'.db.customers.insert a₆.db.supply Customer.initial).lookup a₆.db.supply =
        some row at h_row
      rw [Table.lookup_insert_self] at h_row
      exact (Option.some.inj h_row).symm
    · have h_le₁₁ : a₆.db.supply + 1 ≤ a₁₁.db.supply := h_since.relies.always.1
      have h_le : a₁₁.db.supply + 1 ≤ a'.db.supply := h'.always.1
      exact h_le₁₁.trans ((Nat.le_succ _).trans h_le)

/-- **Every transaction keeps the contract.** -/
theorem recorded_safe (tx : Tx) : (tx.recorded now).Safe contract Spec.any [] own a id := by
  cases tx with
  | ingest source event => exact ingest_safe now source event
  | _ => exact leavesSources_safe (Tx.writes_sources now fun _ _ => nofun)

end Scripts

/-! ### Runs -/

/-- In the beginning there is no customer. -/
theorem chained_migrated (registry : Table String Destination) (owners : Table String String) :
    Chained ⟨Db.migrated registry owners, []⟩ where
  aligned := rfl
  fresh _ _ := rfl
  bounded _ _ h_entry := absurd h_entry List.not_mem_nil
  ascending _ := .nil
  absent _ _ := rfl
  present _ _ h_row := by cases h_row
  chain _ _ h_row := by cases h_row
  reported _ _ _ h_stored := by cases h_stored

/-- The transactions of a run keep the contract. -/
def Sound (c : Chronicle) : Prop := ∃ own, c.engine.Honors contract (fun _ => Spec.any) own

/-- Every action keeps the chains. -/
theorem Sound.step {c : Chronicle} (action : Action) (h : Sound c) : Sound (c.step action) := by
  obtain ⟨own, h_engine⟩ := h
  cases action with
  | start n now tx =>
    exact ⟨own, h_engine.start_any (recorded_safe now tx)⟩
  | statement n =>
    obtain ⟨own', -, h_next⟩ := h_engine.statement (o := n) fun _ _ _ => trivial
    exact ⟨own', h_next⟩
  | abort n => exact ⟨own, h_engine.abort n⟩

/-- **The audit records of a customer reconstruct it.** Taken in the order of their ids, they
lead from the initial state to the row as it is, each by the decisions it names on an event
that is kept; a customer has records as soon as it is there and none before; and every event
that was decided on a customer has its record. -/
theorem audit_chain (registry : Table String Destination) (owners : Table String String)
    (actions : List Action) (customerId : Uuid) :
    let a := ((initial (Db.migrated registry owners)).run actions).annals
    (a.db.customers.lookup customerId = none → a.history customerId = []) ∧
    (∀ row, a.db.customers.lookup customerId = some row → a.history customerId ≠ [] ∧
      Leads (Decides a.db.events) Customer.initial (a.history customerId) row) ∧
    ∀ source eventId stored revision decisions exceptionId,
      a.db.events.lookup (source, eventId) = some stored →
      stored.result = .processed customerId revision decisions exceptionId →
        ∃ record ∈ a.history customerId, Reports source stored record := by
  -- no transaction is open at first, and nobody owns anything
  have h_initial : Sound (initial (Db.migrated registry owners)) :=
    ⟨fun _ => [], Engine.initial_honors (chained_migrated registry owners)⟩
  have h_sound : Sound ((initial (Db.migrated registry owners)).run actions) :=
    run_invariant h_initial (fun _ action h => h.step action) actions
  obtain ⟨own, h_engine⟩ := h_sound
  have h_chained : Chained ((initial (Db.migrated registry owners)).run actions).annals :=
    h_engine.inv
  dsimp only
  generalize ((initial (Db.migrated registry owners)).run actions).annals = a at h_chained
  -- the ids ascend, so the query returns the records in the order of commit
  rw [Annals.history_eq (h_chained.ascending customerId)]
  refine ⟨fun h_none => ?_, fun row h_row =>
      ⟨fun h_nil => ?_, h_chained.chain customerId row h_row⟩,
    fun source eventId stored revision decisions exceptionId h_stored h_result => ?_⟩
  · rw [h_chained.absent customerId h_none]
    rfl
  · exact h_chained.present customerId row h_row (List.map_eq_nil_iff.mp h_nil)
  · obtain ⟨entry, h_entry, h_reports⟩ := h_chained.reported source eventId stored h_stored
      customerId revision decisions exceptionId h_result
    exact ⟨entry.2, List.mem_map_of_mem h_entry, h_reports⟩

end Chronicle
end ControlPlane
