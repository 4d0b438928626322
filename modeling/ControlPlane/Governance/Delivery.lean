import ControlPlane.Framework.Register
import ControlPlane.Governance.Provenance

/-!
# The order of delivery

Sources deliver their events over networks of their own, so the control plane sees them in
any order. For subjects that are linked already, the order makes no difference to what a
field ends with: the value and the provenance of a field form a register in the sense of
`Framework.Register`, an event that the field's owner sends for the customer is an offer, and
its sequence is the rank.

The one field that reads more than the sequence is the lifecycle, which refuses to move
backward. An event that was refused for it may have been let in by a different order, unless
the stages that the owner asserts never move backward along the sequences
(`Progressive`).
-/

namespace ControlPlane

open Framework

/-! ### One field of one customer -/

/-- The value of a field and its provenance. -/
abbrev Cell (field : Field) : Type := Option field.Value × Option Provenance

/-- A field of the customer, with where it comes from. -/
def Customer.cell (row : Customer) (field : Field) : Cell field :=
  (row.state.get field, row.provenance.get field)

/-- What a source sends: the credential it is sent under, and the event. -/
abbrev Observed : Type := Source × SourceEvent

/-- The identity of an event. -/
def eventKey (o : Observed) : Source × String := (o.1, o.2.eventId)

/-- The identity of an event's subject. -/
def subjectKey (o : Observed) : Source × String := (o.1, o.2.subject)

/-- The value does not move the field backward from the current one. -/
def Forward : (field : Field) → field.Value → Option field.Value → Prop
  | .lifecycle, value, current => stages.idxOf (current.getD .lead) ≤ stages.idxOf value
  | _, _, _ => True

/-- A value goes forward where it does not regress. -/
theorem forward_iff (field : Field) (value : field.Value) (state : CustomerState) :
    Forward field value (state.get field) ↔ regresses field value state = false := by
  cases field with
  | lifecycle =>
    show stages.idxOf (state.lifecycle.getD .lead) ≤ stages.idxOf value ↔
      decide (stages.idxOf value < stages.idxOf (state.lifecycle.getD .lead)) = false
    rw [decide_eq_false_iff_not, not_lt]
  | _ => exact iff_of_true trivial rfl

/-- The field of the customer as a register. An event is let in when it comes from the
field's owner for a subject of the customer, is newer than the recorded one, and does not
move the lifecycle backward. -/
def fieldRegister (identities : Table (Source × String) Uuid) (id : Uuid) (field : Field) :
    Register (Cell field) Observed where
  Accepts c o := identities.lookup (subjectKey o) = some id ∧ owner field = o.1 ∧
    (∀ p, c.2 = some p → p.sequence < o.2.sequence) ∧
    ∃ value, o.2.attributes.get field = some value ∧ Forward field value c.1
  written o := (o.2.attributes.get field, some (Service.entry o.1 o.2))
  rank o := o.2.sequence

/-- The register lets in what `ingest` accepts for the customer of the subject. -/
theorem register_accepts_iff {identities : Table (Source × String) Uuid} {id : Uuid}
    {field : Field} {row : Customer} {source : Source} {event : SourceEvent}
    (h_identity : identities.lookup (source, event.subject) = some id) :
    (fieldRegister identities id field).Accepts (row.cell field) (source, event) ↔
      Service.Accepts source event row field := by
  rw [Service.accepts_iff]
  constructor
  · rintro ⟨-, h_owner, h_newer, value, h_value, h_forward⟩
    refine ⟨value, h_value, fieldDecision_accepted.mpr ⟨h_owner, h_newer, ?_⟩⟩
    exact (forward_iff field value row.state).mp h_forward
  · rintro ⟨value, h_value, h_decision⟩
    obtain ⟨h_owner, h_newer, h_forward⟩ := fieldDecision_accepted.mp h_decision
    exact ⟨h_identity, h_owner, h_newer, value, h_value,
      (forward_iff field value row.state).mpr h_forward⟩

/-- An event observed on the customer is put into each of its registers. -/
theorem register_puts {identities : Table (Source × String) Uuid} {id : Uuid}
    {source : Source} {event : SourceEvent} (row : Customer) (field : Field)
    (h_identity : identities.lookup (source, event.subject) = some id) :
    (fieldRegister identities id field).Puts (row.cell field) (source, event)
      ((Service.observed source event row).cell field) := by
  cases Service.Observation.of source event row field with
  | kept h_not h_state h_prov =>
    have h_cell : (Service.observed source event row).cell field = row.cell field :=
      Prod.ext h_state h_prov
    rw [h_cell]
    exact .refused (mt (register_accepts_iff h_identity).mp h_not)
  | accepted value h_accepts h_attr h_owner h_newer h_forward h_state h_prov =>
    have h_cell : (Service.observed source event row).cell field =
        (fieldRegister identities id field).written (source, event) :=
      Prod.ext (h_state.trans h_attr.symm) h_prov
    rw [h_cell]
    exact .taken ((register_accepts_iff h_identity).mpr h_accepts)

/-! ### Deliveries -/

/-- An event, and the clock reading at which it is ingested. -/
structure Delivery where
  now : Time
  source : Source
  event : SourceEvent

namespace Delivery

/-- Its source and event. -/
def observed (d : Delivery) : Observed := (d.source, d.event)

/-- The transaction that delivers it. -/
def entry (d : Delivery) : Entry := ⟨d.now, .ingest d.source d.event⟩

end Delivery

/-- The state after the deliveries, in their order. -/
def Db.deliver (db : Db) (ds : List Delivery) : Db := db.run (ds.map Delivery.entry)

/-- One more delivery. -/
theorem deliver_concat (db : Db) (ds : List Delivery) (d : Delivery) :
    db.deliver (ds ++ [d]) = (db.deliver ds).step d.entry := by
  unfold Db.deliver
  rw [List.map_append, List.map_singleton]
  exact run_concat (ds.map Delivery.entry) d.entry

/-- Events of linked subjects that were not seen before, with distinct sequences from the
owner of a field for one customer. -/
structure Deliverable (db : Db) (os : List Observed) : Prop where
  linked : ∀ o ∈ os, ∃ id, db.identities.lookup (subjectKey o) = some id
  unseen : ∀ o ∈ os, db.events.lookup (eventKey o) = none
  distinct : (os.map eventKey).Nodup
  sequences : ∀ o ∈ os, ∀ o' ∈ os, o ≠ o' →
    db.identities.lookup (subjectKey o) = db.identities.lookup (subjectKey o') →
    ∀ field, owner field = o.1 → owner field = o'.1 → (o.2.attributes.get field).isSome →
      (o'.2.attributes.get field).isSome → o.2.sequence ≠ o'.2.sequence

/-- The lifecycle stages that the owner asserts for one customer do not move backward along
the sequences. -/
def Progressive (db : Db) (os : List Observed) : Prop :=
  ∀ o ∈ os, ∀ o' ∈ os,
    db.identities.lookup (subjectKey o) = db.identities.lookup (subjectKey o') →
    owner .lifecycle = o.1 → owner .lifecycle = o'.1 → ∀ stage stage',
      o.2.attributes.lifecycle = some stage → o'.2.attributes.lifecycle = some stage' →
      o.2.sequence < o'.2.sequence → stages.idxOf stage ≤ stages.idxOf stage'

/-- What the deliveries so far have done to the source tables. -/
structure DeliveredTo (db db' : Db) (os : List Observed) : Prop where
  identities : db'.identities = db.identities
  events : ∀ key, db.events.lookup key = none → key ∉ os.map eventKey →
    db'.events.lookup key = none
  absent : ∀ id, db.customers.lookup id = none → db'.customers.lookup id = none
  filled : ∀ id row, db.customers.lookup id = some row →
    ∃ row', db'.customers.lookup id = some row' ∧
      ∀ field, (fieldRegister db.identities id field).Fills (row.cell field) os (row'.cell field)

/-- A new event of a known subject updates its customer. -/
theorem ingest_known_sources {db : Db} (now : Time) {source : Source} {event : SourceEvent}
    {id : Uuid} {row : Customer} (h_event : db.events.lookup (source, event.eventId) = none)
    (h_identity : db.identities.lookup (source, event.subject) = some id)
    (h_row : db.customers.lookup id = some row) :
    (db.step ⟨now, .ingest source event⟩).sources = { db.sources with
      customers := db.customers.insert id (Service.observed source event row)
      events := db.events.insert (source, event.eventId)
        ⟨digest event, event, (Service.process now source event id row db).1, now⟩ } := by
  have h_step : db.step ⟨now, .ingest source event⟩ =
      Service.record now source event (Service.process now source event id row db).1
        (Service.process now source event id row db).2 := by
    show (Service.ingest now source event db).commit db = _
    rw [Service.ingest_known now h_event h_identity h_row, Outcome.commit_ok]
  rw [h_step]
  exact (Service.observed_frame now source event id row db).1

/-- **One more delivery is one more offer.** -/
theorem DeliveredTo.deliver {db db' : Db} {os : List Observed} (h : DeliveredTo db db' os)
    (h_sound : IdentitySound db.sources) {d : Delivery}
    (h_linked : ∃ id, db.identities.lookup (subjectKey d.observed) = some id)
    (h_unseen : db.events.lookup (eventKey d.observed) = none)
    (h_new : eventKey d.observed ∉ os.map eventKey) :
    DeliveredTo db (db'.step d.entry) (os ++ [d.observed]) := by
  obtain ⟨now, source, event⟩ := d
  obtain ⟨id, h_id⟩ := h_linked
  have h_event : db'.events.lookup (source, event.eventId) = none := h.events _ h_unseen h_new
  have h_identity : db'.identities.lookup (source, event.subject) = some id := by
    rw [h.identities]
    exact h_id
  -- the customer of the subject has a row, to begin with and now
  obtain ⟨row₀, h_named⟩ := h_sound.named (source, event.subject) id h_id
  have h_row₀ : db.customers.lookup id = some row₀ := h_named
  obtain ⟨row, h_row, h_fills⟩ := h.filled id row₀ h_row₀
  have h_sources := ingest_known_sources now h_event h_identity h_row
  have h_customers := congrArg Sources.customers h_sources
  change (db'.step ⟨now, .ingest source event⟩).customers = _ at h_customers
  -- of the rows, only that of the subject moves, and it is offered the event
  refine ⟨?_, fun key h_key h_notMem => ?_, fun other h_other => ?_,
    fun other row' h_other => ?_⟩
  · have h_identities := congrArg Sources.identities h_sources
    exact h_identities.trans h.identities
  · have h_events : (db'.step ⟨now, .ingest source event⟩).events = _ :=
      congrArg Sources.events h_sources
    rw [List.map_append, List.mem_append, not_or] at h_notMem
    show (db'.step ⟨now, .ingest source event⟩).events.lookup key = none
    rw [h_events, Table.lookup_insert_of_ne _ _ ?_]
    · exact h.events key h_key h_notMem.1
    · rintro rfl
      exact h_notMem.2 List.mem_cons_self
  · show (db'.step ⟨now, .ingest source event⟩).customers.lookup other = none
    rw [h_customers, Table.lookup_insert_of_ne _ _ ?_]
    · exact h.absent other h_other
    · rintro rfl
      rw [h_row₀] at h_other
      cases h_other
  · show ∃ row'', (db'.step ⟨now, .ingest source event⟩).customers.lookup other = some row'' ∧ _
    rw [h_customers]
    by_cases h_same : other = id
    · subst h_same
      obtain rfl : row₀ = row' := Option.some.inj (h_row₀.symm.trans h_other)
      refine ⟨_, Table.lookup_insert_self _ _ _, fun field => ?_⟩
      exact .offered _ (h_fills field) (register_puts row field h_id)
    · obtain ⟨row'', h_row'', h_other_fills⟩ := h.filled other row' h_other
      refine ⟨row'', (Table.lookup_insert_of_ne _ _ h_same).trans h_row'', fun field => ?_⟩
      -- the offer is not for this customer
      refine .offered _ (h_other_fills field) (.refused fun h_accepts => h_same ?_)
      exact (Option.some.inj (h_id.symm.trans h_accepts.1)).symm

/-- **Deliveries fill the registers of every customer.** -/
theorem deliver_fills {db : Db} (h_sound : IdentitySound db.sources) (ds : List Delivery)
    (h_linked : ∀ d ∈ ds, ∃ id, db.identities.lookup (subjectKey d.observed) = some id)
    (h_unseen : ∀ d ∈ ds, db.events.lookup (eventKey d.observed) = none)
    (h_distinct : (ds.map fun d => eventKey d.observed).Nodup) :
    DeliveredTo db (db.deliver ds) (ds.map Delivery.observed) := by
  induction ds using List.reverseRecOn with
  | nil =>
    refine ⟨rfl, fun _ h _ => h, fun _ h => h, fun id row h_row => ⟨row, h_row, fun field => ?_⟩⟩
    exact .empty
  | append_singleton ds d ih =>
    rw [List.map_append, List.map_singleton, List.nodup_append] at h_distinct
    obtain ⟨h_nodup, -, h_disjoint⟩ := h_distinct
    have h_before := ih (fun d' h => h_linked d' (List.mem_append_left _ h))
      (fun d' h => h_unseen d' (List.mem_append_left _ h)) h_nodup
    have h_last : d ∈ ds ++ [d] := List.mem_append_right ds List.mem_cons_self
    rw [deliver_concat, List.map_append, List.map_singleton]
    refine h_before.deliver h_sound (h_linked d h_last) (h_unseen d h_last) fun h_mem => ?_
    rw [List.map_map] at h_mem
    exact h_disjoint _ h_mem _ List.mem_cons_self rfl

/-! ### Ranks -/

/-- The sequences rank the events of the owner, as far as the lifecycle lets them. -/
theorem field_ranked {db : Db} {os : List Observed} {field : Field}
    (h_field : field ≠ .lifecycle ∨ Progressive db os) (id : Uuid) (c : Cell field) :
    (fieldRegister db.identities id field).Ranked c os where
  -- of two that the old value lets in, the later one takes the field from the other
  rank o h_o o' h_o' := by
    rintro ⟨h_id, h_owner, -, value, h_value, -⟩ ⟨h_id', h_owner', -, value', h_value', -⟩
    constructor
    · rintro ⟨-, -, h_newer, -⟩
      exact h_newer _ rfl
    · intro h_lt
      refine ⟨h_id', h_owner', fun p h_p => ?_, value', h_value', ?_⟩
      · obtain rfl := Option.some.inj h_p
        exact h_lt
      · show Forward field value' (o.2.attributes.get field)
        rw [h_value]
        cases field with
        | lifecycle =>
          have h_progressive := h_field.resolve_left (fun h => h rfl)
          exact h_progressive o h_o o' h_o' (h_id.trans h_id'.symm) h_owner h_owner' value value'
            h_value h_value' h_lt
        | _ => trivial
  -- what is taken from the first is taken from the old value too
  first o h_o o' h_o' := by
    rintro ⟨-, -, h_newer, value, h_value, h_forward⟩ ⟨h_id', h_owner', h_newer', value', h_value',
      h_forward'⟩
    have h_lt : o.2.sequence < o'.2.sequence := h_newer' _ rfl
    refine ⟨h_id', h_owner', fun p h_p => (h_newer p h_p).trans h_lt, value', h_value', ?_⟩
    have h_forward' : Forward field value' (o.2.attributes.get field) := h_forward'
    rw [h_value] at h_forward'
    cases field with
    | lifecycle => exact le_trans h_forward h_forward'
    | _ => trivial

/-- No two events that are accepted for a field have one sequence. -/
theorem Deliverable.distinct_ranks {db : Db} {os : List Observed} (h : Deliverable db os)
    (id : Uuid) (field : Field) (c : Cell field) :
    ∀ o ∈ os, ∀ o' ∈ os, (fieldRegister db.identities id field).Accepts c o →
      (fieldRegister db.identities id field).Accepts c o' → o.2.sequence = o'.2.sequence →
      o = o' := by
  rintro o h_o o' h_o' ⟨h_id, h_owner, -, value, h_value, -⟩
    ⟨h_id', h_owner', -, value', h_value', -⟩ h_sequence
  by_contra h_ne
  exact h.sequences o h_o o' h_o' h_ne (h_id.trans h_id'.symm) field h_owner h_owner'
    (by rw [h_value]; rfl) (by rw [h_value']; rfl) h_sequence

/-! ### The law -/

/-- What a field of a customer ends with: the observation of the highest sequence among the
accepted ones, or the old value when no event outranks it. -/
inductive FinalValue (db : Db) (ds : List Delivery) (id : Uuid) (field : Field)
    (row row' : Customer) : Prop
  | won (pre post : List Delivery) (d : Delivery) (h_split : ds = pre ++ d :: post)
      (h_accepts : d.entry.Accepts (db.deliver pre) id field)
      (h_highest : ∀ pre' post' d', ds = pre' ++ d' :: post' →
        d'.entry.Accepts (db.deliver pre') id field → d'.event.sequence ≤ d.event.sequence)
      (h_state : row'.state.get field = d.event.attributes.get field)
      (h_prov : row'.provenance.get field = some (Service.entry d.source d.event))
  | kept (h_none : ∀ pre post d, ds = pre ++ d :: post →
        ¬ d.entry.Accepts (db.deliver pre) id field)
      (h_outranked : ∀ d ∈ ds,
        ¬ (fieldRegister db.identities id field).Accepts (row.cell field) d.observed)
      (h_state : row'.state.get field = row.state.get field)
      (h_prov : row'.provenance.get field = row.provenance.get field)

/-- The order of delivery makes no difference. -/
structure OrderIndependence (db : Db) : Prop where
  /-- Two orders leave the same customers, with the same values and provenance. -/
  agree : ∀ ds ds' : List Delivery, Deliverable db (ds.map Delivery.observed) →
    (ds.map Delivery.observed).Perm (ds'.map Delivery.observed) →
    ∀ id field, field ≠ .lifecycle ∨ Progressive db (ds.map Delivery.observed) →
      ((db.deliver ds).customers.lookup id).map (fun row => row.cell field) =
        ((db.deliver ds').customers.lookup id).map fun row => row.cell field
  /-- And they are those of the highest accepted observation. -/
  final : ∀ ds : List Delivery, Deliverable db (ds.map Delivery.observed) →
    ∀ id row, db.customers.lookup id = some row →
      ∃ row', (db.deliver ds).customers.lookup id = some row' ∧
        ∀ field, field ≠ .lifecycle ∨ Progressive db (ds.map Delivery.observed) →
          FinalValue db ds id field row row'

/-- The deliveries before one of them. -/
theorem Deliverable.before {db : Db} (h_sound : IdentitySound db.sources)
    {pre post : List Delivery} {d : Delivery}
    (h : Deliverable db ((pre ++ d :: post).map Delivery.observed)) :
    DeliveredTo db (db.deliver pre) (pre.map Delivery.observed) ∧
      (db.deliver pre).events.lookup (eventKey d.observed) = none := by
  have h_mem : ∀ d' ∈ pre ++ d :: post, d'.observed ∈ (pre ++ d :: post).map Delivery.observed :=
    fun d' => List.mem_map_of_mem
  have h_distinct := h.distinct
  rw [List.map_map, List.map_append, List.map_cons, List.nodup_append] at h_distinct
  obtain ⟨h_nodup, -, h_disjoint⟩ := h_distinct
  have h_pre : ∀ d' ∈ pre, d' ∈ pre ++ d :: post := fun d' => List.mem_append_left _
  have h_before := deliver_fills h_sound pre
    (fun d' h_d' => h.linked _ (h_mem d' (h_pre d' h_d')))
    (fun d' h_d' => h.unseen _ (h_mem d' (h_pre d' h_d'))) h_nodup
  have h_d : d ∈ pre ++ d :: post := List.mem_append_right pre List.mem_cons_self
  refine ⟨h_before, h_before.events _ (h.unseen _ (h_mem d h_d)) fun h_in => ?_⟩
  rw [List.map_map] at h_in
  exact h_disjoint _ h_in _ List.mem_cons_self rfl

/-- `ingest` accepts a delivery for the customer's field exactly when the register, as the
deliveries before it have filled it, lets it in. -/
theorem Deliverable.accepts_iff {db : Db} (h_sound : IdentitySound db.sources)
    {pre post : List Delivery} {d : Delivery}
    (h : Deliverable db ((pre ++ d :: post).map Delivery.observed)) {id : Uuid} {row : Customer}
    (h_row : (db.deliver pre).customers.lookup id = some row) (field : Field) :
    d.entry.Accepts (db.deliver pre) id field ↔
      (fieldRegister db.identities id field).Accepts (row.cell field) d.observed := by
  obtain ⟨h_before, h_unseen⟩ := h.before h_sound
  obtain ⟨now, source, event⟩ := d
  have h_event : (db.deliver pre).events.lookup (source, event.eventId) = none := h_unseen
  have h_mem : (source, event) ∈ (pre ++ ⟨now, source, event⟩ :: post).map Delivery.observed :=
    List.mem_map_of_mem (List.mem_append_right pre List.mem_cons_self)
  obtain ⟨id', h_id'⟩ := h.linked (source, event) h_mem
  have h_identity : (db.deliver pre).identities.lookup (source, event.subject) = some id' := by
    rw [h_before.identities]
    exact h_id'
  obtain ⟨row₀, h_row₀⟩ := h_sound.named (source, event.subject) id' h_id'
  obtain ⟨row', h_row', -⟩ := h_before.filled id' row₀ h_row₀
  have h_reply := Service.ingest_known now h_event h_identity h_row'
  show Entry.Accepts (db.deliver pre) ⟨now, .ingest source event⟩ id field ↔ _
  -- the row has changed since, but only in cells that earlier deliveries put there
  rw [accepts_iff_of_processed h_reply]
  constructor
  · rintro ⟨rfl, h_accepted⟩
    obtain rfl : row = row' := Option.some.inj (h_row.symm.trans h_row')
    exact (register_accepts_iff h_id').mpr h_accepted
  · intro h_accepts
    obtain rfl : id' = id := Option.some.inj (h_id'.symm.trans h_accepts.1)
    obtain rfl : row = row' := Option.some.inj (h_row.symm.trans h_row')
    exact ⟨rfl, (register_accepts_iff h_id').mp h_accepts⟩

/-- The whole list of deliveries, as far as it fills the registers. -/
theorem Deliverable.fills {db : Db} (h_sound : IdentitySound db.sources) {ds : List Delivery}
    (h : Deliverable db (ds.map Delivery.observed)) :
    DeliveredTo db (db.deliver ds) (ds.map Delivery.observed) := by
  have h_distinct := h.distinct
  rw [List.map_map] at h_distinct
  refine deliver_fills h_sound ds (fun d h_d => ?_) (fun d h_d => ?_) h_distinct
  · exact h.linked _ (List.mem_map_of_mem h_d)
  · exact h.unseen _ (List.mem_map_of_mem h_d)

/-- The order does not matter to this. -/
theorem Deliverable.perm {db : Db} {os os' : List Observed} (h : Deliverable db os)
    (h_perm : os.Perm os') : Deliverable db os' where
  linked o h_o := h.linked o (h_perm.mem_iff.mpr h_o)
  unseen o h_o := h.unseen o (h_perm.mem_iff.mpr h_o)
  distinct := (h_perm.map eventKey).nodup_iff.mp h.distinct
  sequences o h_o o' h_o' := h.sequences o (h_perm.mem_iff.mpr h_o) o' (h_perm.mem_iff.mpr h_o')

theorem order_independent {db : Db} (h_sound : IdentitySound db.sources) :
    OrderIndependence db where
  -- both orders make the same offers to a register that ranks them
  agree ds ds' h_ds h_perm id field h_field := by
    have h_fills := h_ds.fills h_sound
    have h_fills' := (h_ds.perm h_perm).fills h_sound
    cases h_row : db.customers.lookup id with
    | none => rw [h_fills.absent id h_row, h_fills'.absent id h_row]
    | some row =>
      obtain ⟨row₁, h_row₁, h_cell₁⟩ := h_fills.filled id row h_row
      obtain ⟨row₂, h_row₂, h_cell₂⟩ := h_fills'.filled id row h_row
      have h_ranked := field_ranked h_field id (row.cell field)
      rw [h_row₁, h_row₂]
      exact congrArg some (h_ranked.perm h_perm (h_cell₁ field) (h_cell₂ field)
        (h_ds.distinct_ranks id field (row.cell field)))
  final ds h_ds id row h_row := by
    obtain ⟨row', h_row', h_cell⟩ := (h_ds.fills h_sound).filled id row h_row
    refine ⟨row', h_row', fun field h_field => ?_⟩
    have h_ranked := field_ranked h_field id (row.cell field)
    -- an accepted delivery outranks the old value
    have h_outranks : ∀ pre post d, ds = pre ++ d :: post →
        d.entry.Accepts (db.deliver pre) id field →
        (fieldRegister db.identities id field).Accepts (row.cell field) d.observed := by
      rintro pre post d rfl h_accepts
      obtain ⟨h_before, -⟩ := h_ds.before h_sound
      obtain ⟨row'', h_row'', h_fills⟩ := h_before.filled id row h_row
      rw [List.map_append, List.map_cons] at h_ranked
      exact h_ranked.accepted rfl (h_fills field)
        ((h_ds.accepts_iff h_sound h_row'' field).mp h_accepts)
    have h_settled := h_ranked.settled (h_cell field)
    generalize h_end : row'.cell field = c' at h_settled
    cases h_settled with
    | won o h_o h_in h_highest =>
      obtain ⟨d, h_d, rfl⟩ := List.mem_map.mp h_o
      obtain ⟨pre, post, rfl⟩ := List.append_of_mem h_d
      refine .won pre post d rfl ?_ ?_ (congrArg Prod.fst h_end) (congrArg Prod.snd h_end)
      · obtain ⟨h_before, -⟩ := h_ds.before h_sound
        obtain ⟨row'', h_row'', h_fills⟩ := h_before.filled id row h_row
        refine (h_ds.accepts_iff h_sound h_row'' field).mpr ?_
        have h_pre : ∀ o' ∈ pre.map Delivery.observed,
            o' ∈ (pre ++ d :: post).map Delivery.observed := by
          intro o' h_o'
          rw [List.map_append]
          exact List.mem_append_left _ h_o'
        -- a winner of the same rank would be the same event, which comes once
        refine h_ranked.wins (by rw [List.map_append, List.map_cons]) (h_fills field) h_in
          h_highest fun o' h_o' h_in' h_rank => ?_
        have h_same := h_ds.distinct_ranks id field (row.cell field) o' (h_pre o' h_o') _ h_o h_in'
          h_in h_rank
        have h_distinct := h_ds.distinct
        rw [List.map_append, List.map_cons, List.map_append, List.map_cons,
          List.nodup_append] at h_distinct
        subst h_same
        exact h_distinct.2.2 _ (List.mem_map_of_mem h_o') _ List.mem_cons_self rfl
      -- whatever was accepted on the way is ranked no higher
      · intro pre' post' d' h_split h_accepts
        have h_d' : d' ∈ pre ++ d :: post := by
          rw [h_split]
          exact List.mem_append_right pre' List.mem_cons_self
        exact h_highest _ (List.mem_map_of_mem h_d') (h_outranks pre' post' d' h_split h_accepts)
    | kept h_none =>
      refine .kept (fun pre post d h_split h_accepts => ?_)
        (fun d h_d => h_none _ (List.mem_map_of_mem h_d)) (congrArg Prod.fst h_end)
        (congrArg Prod.snd h_end)
      have h_d : d ∈ ds := by
        rw [h_split]
        exact List.mem_append_right pre List.mem_cons_self
      exact h_none _ (List.mem_map_of_mem h_d) (h_outranks pre post d h_split h_accepts)

/-- **Order independence of source delivery**, from every reachable state. -/
theorem order_independence (registry : Table String Destination) (owners : Table String String)
    (entries : List Entry) : OrderIndependence ((Db.migrated registry owners).run entries) :=
  order_independent (sources_sound registry owners entries).1

end ControlPlane
