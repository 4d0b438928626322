import ControlPlane.Governance.Revision

/-!
# Provenance soundness

Every field of every customer is either as the customer was enrolled, or was asserted by
an accepted event of the field's owner: its provenance entry names the source, the
subject linked to the customer for that source, and a stored event of that subject and
sequence whose value for the field is the current one (`ProvenanceSound`). This ties the
three source tables together, so it is proved for the source machine of
`Governance.Sources`, one constructor of `SourceStep` at a time, under the structure of
the identities alone (`IdentitySound`): a customer has one subject for each source, and
every identity names a customer.

`no_regress` is the part about runs: the sequence of a field strictly increases at each
acceptance and never decreases, and the lifecycle stage never moves backward.
-/

namespace ControlPlane

open Framework Relation

/-! ### The invariants -/

/-- Identities name customers, and no customer has two subjects for one source. -/
structure IdentitySound (s : Sources) : Prop where
  named : ∀ key id, s.identities.lookup key = some id →
    ∃ row, s.customers.lookup id = some row
  single : ∀ source subject subject' id, s.identities.lookup (source, subject) = some id →
    s.identities.lookup (source, subject') = some id → subject' = subject

/-- One field of one customer's row, as the provenance entry `p` explains it. -/
structure Explained (s : Sources) (id : Uuid) (row : Customer) (field : Field)
    (p : Provenance) (event : Event) : Prop where
  /-- The source is the policy owner of the field. -/
  h_owner : p.source = owner field
  /-- The subject is the one linked to the customer for that source. -/
  h_subject : s.identities.lookup (p.source, p.subject) = some id
  /-- The event is the stored one with that source and event id. -/
  h_event : s.events.lookup (p.source, p.eventId) = some event
  h_carried : event.body.subject = p.subject
  h_sequence : event.body.sequence = p.sequence
  h_present : (row.state.get field).isSome
  /-- The event's value for the field is the current one. -/
  h_value : event.body.attributes.get field = row.state.get field

/-- Every field of every customer is either as enrolled or explained by its entry. -/
structure ProvenanceSound (s : Sources) : Prop where
  absent : ∀ id row field, s.customers.lookup id = some row →
    row.provenance.get field = none → row.state.get field = Customer.initial.state.get field
  explained : ∀ id row field p, s.customers.lookup id = some row →
    row.provenance.get field = some p → ∃ event, Explained s id row field p event

/-! ### The identities -/

theorem IdentitySound.step {now : Time} {s s' : Sources} (h : IdentitySound s)
    (h_step : SourceStep now s s') : IdentitySound s' := by
  cases h_step with
  | link source subject id row h_row h_new h_other =>
    refine ⟨fun key id' h_key => ?_, fun source' a b id' h_a h_b => ?_⟩
    · rw [Table.lookup_insert] at h_key
      split at h_key
      · obtain rfl := Option.some.inj h_key
        exact ⟨row, h_row⟩
      · exact h.named key id' h_key
    · rw [Table.lookup_insert] at h_a h_b
      -- two keys of one source: the new one and an old one differ in the customer
      split at h_a <;> rename_i h_a' <;> split at h_b <;> rename_i h_b'
      · cases h_a'
        cases h_b'
        rfl
      · cases h_a'
        obtain rfl := Option.some.inj h_a
        exact absurd h_b (h_other b)
      · cases h_b'
        obtain rfl := Option.some.inj h_b
        exact absurd h_a (h_other a)
      · exact h.single source' a b id' h_a h_b
  | enroll source subject id h_fresh h_new =>
    -- nothing is linked to an id that no customer has
    have h_unused : ∀ key, s.identities.lookup key ≠ some id := fun key h_key => by
      obtain ⟨row, h_row⟩ := h.named key id h_key
      rw [h_fresh] at h_row
      cases h_row
    refine ⟨fun key id' h_key => ?_, fun source' a b id' h_a h_b => ?_⟩
    · rw [Table.lookup_insert] at h_key
      split at h_key
      · obtain rfl := Option.some.inj h_key
        exact ⟨Customer.initial, Table.lookup_insert_self _ _ _⟩
      · obtain ⟨row, h_row⟩ := h.named key id' h_key
        have h_ne : id' ≠ id := fun h_eq => h_unused key (h_eq ▸ h_key)
        exact ⟨row, (Table.lookup_insert_of_ne _ _ h_ne).trans h_row⟩
    -- the new customer is linked to the one subject of the event
    · rw [Table.lookup_insert] at h_a h_b
      split at h_a <;> rename_i h_a' <;> split at h_b <;> rename_i h_b'
      · cases h_a'
        cases h_b'
        rfl
      · obtain rfl := Option.some.inj h_a
        exact absurd h_b (h_unused _)
      · obtain rfl := Option.some.inj h_b
        exact absurd h_a (h_unused _)
      · exact h.single source' a b id' h_a h_b
  | store => exact ⟨h.named, h.single⟩
  | observe source event stored id row h_row =>
    refine ⟨fun key id' h_key => ?_, h.single⟩
    obtain ⟨row', h_row'⟩ := h.named key id' h_key
    by_cases h_id : id' = id
    · subst h_id
      exact ⟨_, Table.lookup_insert_self _ _ _⟩
    · exact ⟨row', (Table.lookup_insert_of_ne _ _ h_id).trans h_row'⟩

/-! ### The provenance -/

/-- An explanation survives as long as the identity and the event it names do. -/
theorem Explained.mono {s s' : Sources} {id : Uuid} {row row' : Customer} {field : Field}
    {p : Provenance} {event : Event} (h : Explained s id row field p event)
    (h_identity : ∀ key id, s.identities.lookup key = some id →
      s'.identities.lookup key = some id)
    (h_events : ∀ key event, s.events.lookup key = some event →
      s'.events.lookup key = some event)
    (h_state : row'.state.get field = row.state.get field) :
    Explained s' id row' field p event where
  h_owner := h.h_owner
  h_subject := h_identity _ _ h.h_subject
  h_event := h_events _ _ h.h_event
  h_carried := h.h_carried
  h_sequence := h.h_sequence
  h_present := h_state ▸ h.h_present
  h_value := h.h_value.trans h_state.symm

theorem ProvenanceSound.step {now : Time} {s s' : Sources} (h : ProvenanceSound s)
    (h_step : SourceStep now s s') : ProvenanceSound s' := by
  cases h_step with
  | link source subject id row h_row h_new h_other =>
    -- links and events only grow, so that an explanation stays one
    refine ⟨h.absent, fun id' row' field p h_row' h_p => ?_⟩
    obtain ⟨event, h_explained⟩ := h.explained id' row' field p h_row' h_p
    exact ⟨event, h_explained.mono (fun _ _ => Table.lookup_insert_of_none h_new)
      (fun _ _ h => h) rfl⟩
  | enroll source subject id h_fresh h_new =>
    -- a new customer has no provenance at all
    refine ⟨fun id' row field h_row h_p => ?_, fun id' row field p h_row h_p => ?_⟩ <;>
      rw [Table.lookup_insert] at h_row <;> split at h_row
    · obtain rfl := Option.some.inj h_row
      rfl
    · exact h.absent id' row field h_row h_p
    · obtain rfl := Option.some.inj h_row
      rw [show Customer.initial.provenance = FieldMap.empty from rfl, FieldMap.get_empty] at h_p
      cases h_p
    · obtain ⟨event, h_explained⟩ := h.explained id' row field p h_row h_p
      exact ⟨event, h_explained.mono (fun _ _ => Table.lookup_insert_of_none h_new)
        (fun _ _ h => h) rfl⟩
  | store source event stored h_new =>
    refine ⟨h.absent, fun id row field p h_row h_p => ?_⟩
    obtain ⟨event', h_explained⟩ := h.explained id row field p h_row h_p
    exact ⟨event', h_explained.mono (fun _ _ h => h)
      (fun _ _ => Table.lookup_insert_of_none h_new) rfl⟩
  | observe source event stored id row h_row h_identity h_new h_body h_received =>
    refine ⟨fun id' row' field h_row' h_p => ?_, fun id' row' field p h_row' h_p => ?_⟩ <;>
      rw [Table.lookup_insert] at h_row' <;> split at h_row'
    · rename_i h_id
      obtain rfl := Option.some.inj h_row'
      -- a field is decided by the event, or left with the provenance it had
      cases Service.Observation.of source event row field with
      | kept _ h_state h_prov =>
        exact h_state.trans (h.absent id row field h_row (h_prov ▸ h_p))
      | accepted _ _ _ _ _ _ _ h_prov =>
        rw [h_prov] at h_p
        cases h_p
    · exact h.absent id' row' field h_row' h_p
    · rename_i h_id
      obtain rfl := Option.some.inj h_row'
      subst h_id
      cases Service.Observation.of source event row field with
      | kept _ h_state h_prov =>
        obtain ⟨event', h_explained⟩ := h.explained id' row field p h_row (h_prov ▸ h_p)
        exact ⟨event', h_explained.mono (fun _ _ h => h)
          (fun _ _ => Table.lookup_insert_of_none h_new) h_state⟩
      | accepted value _ h_attr h_owner _ _ h_state h_prov =>
        obtain rfl : Service.entry source event = p :=
          Option.some.inj (h_prov.symm.trans h_p)
        subst h_body
        exact ⟨stored, h_owner.symm, h_identity, Table.lookup_insert_self _ _ _, rfl, rfl,
          by rw [h_state]; rfl, h_attr.trans h_state.symm⟩
    · obtain ⟨event', h_explained⟩ := h.explained id' row' field p h_row' h_p
      exact ⟨event', h_explained.mono (fun _ _ h => h)
        (fun _ _ => Table.lookup_insert_of_none h_new) rfl⟩

/-! ### Over runs -/

/-- A property of the sources that every source step keeps is kept by every transaction. -/
theorem sources_invariant {I : Sources → Prop}
    (h_step : ∀ now s s', I s → SourceStep now s s' → I s') {db : Db}
    (h_drawn : CustomersDrawn db) (entry : Entry) (h : I db.sources) :
    I (db.step entry).sources := by
  have h_steps := sources_step h_drawn entry
  generalize (db.step entry).sources = s' at h_steps ⊢
  induction h_steps with
  | refl => exact h
  | tail _ h_last ih => exact h_step _ _ _ ih h_last

/-- The two invariants of the sources in every reachable state. -/
theorem sources_sound (registry : Table String Destination) (owners : Table String String)
    (entries : List Entry) :
    IdentitySound ((Db.migrated registry owners).run entries).sources ∧
      ProvenanceSound ((Db.migrated registry owners).run entries).sources := by
  have h_inv := run_invariant (s := Db.migrated registry owners)
    (I := fun db : Db => CustomersDrawn db ∧ IdentitySound db.sources ∧ ProvenanceSound db.sources)
    ⟨fun _ _ h => (by cases h), ⟨fun _ _ h => (by cases h), fun _ _ _ _ h => (by cases h)⟩,
      ⟨fun _ _ _ h => (by cases h), fun _ _ _ _ h => (by cases h)⟩⟩
    (fun db entry ⟨h_drawn, h_identity, h_prov⟩ => ⟨h_drawn.step entry,
      sources_invariant (fun _ _ _ => IdentitySound.step) h_drawn entry h_identity,
      sources_invariant (fun _ _ _ => ProvenanceSound.step) h_drawn entry h_prov⟩) entries
  exact h_inv.2

/-! ### No regress -/

/-- The later row is at least as far as the earlier one, for one field: a provenance
entry of the earlier row has a successor, which is the same entry or a later one. -/
def Advances (field : Field) (row row' : Customer) : Prop :=
  ∀ p, row.provenance.get field = some p → ∃ p', row'.provenance.get field = some p' ∧
    (p' = p ∨ p.sequence < p'.sequence)

/-- The position of the row's lifecycle stage. -/
def stageIndex (row : Customer) : ℕ := stages.idxOf (row.state.lifecycle.getD .lead)

theorem observed_advances (source : Source) (event : SourceEvent) (row : Customer)
    (field : Field) : Advances field row (Service.observed source event row) := by
  intro p h_p
  cases Service.Observation.of source event row field with
  | kept _ _ h_prov => exact ⟨p, h_prov.trans h_p, .inl rfl⟩
  | accepted _ _ _ _ h_newer _ _ h_prov => exact ⟨_, h_prov, .inr (h_newer p h_p)⟩

theorem observed_stageIndex (source : Source) (event : SourceEvent) (row : Customer) :
    stageIndex row ≤ stageIndex (Service.observed source event row) := by
  unfold stageIndex
  cases Service.Observation.of source event row .lifecycle with
  | kept _ h_state =>
    have h_state : (Service.observed source event row).state.lifecycle = row.state.lifecycle :=
      h_state
    rw [h_state]
  | accepted value _ _ _ _ h_forward h_state =>
    have h_state : (Service.observed source event row).state.lifecycle = some value := h_state
    rw [h_state]
    simpa [regresses] using h_forward

/-- One step moves no customer backward. -/
theorem customer_advances {db : Db} (h_drawn : CustomersDrawn db) (entry : Entry) {id : Uuid}
    {row : Customer} (h_row : db.customers.lookup id = some row) :
    ∃ row', (db.step entry).customers.lookup id = some row' ∧
      (∀ field, Advances field row row') ∧ stageIndex row ≤ stageIndex row' := by
  cases customer_move h_drawn entry id with
  | kept h_kept =>
    exact ⟨row, h_kept.trans h_row, fun _ p h_p => ⟨p, h_p, .inl rfl⟩, le_rfl⟩
  | observed source event _ h_observed =>
    rw [Db.customerRow, h_row] at h_observed
    exact ⟨_, h_observed, observed_advances source event row, observed_stageIndex source event row⟩

/-- Between two moments of a run no customer moves backward. -/
theorem run_advances (registry : Table String Destination) (owners : Table String String)
    {pre as : List Entry} (h : pre <+: as) {id : Uuid} {row : Customer}
    (h_row : ((Db.migrated registry owners).run pre).customers.lookup id = some row) :
    ∃ row', ((Db.migrated registry owners).run as).customers.lookup id = some row' ∧
      (∀ field, Advances field row row') ∧ stageIndex row ≤ stageIndex row' := by
  refine run_stable_of Db.step (Db.migrated registry owners) (I := CustomersDrawn)
    (P := fun db => ∃ row', db.customers.lookup id = some row' ∧
      (∀ field, Advances field row row') ∧ stageIndex row ≤ stageIndex row')
    (customers_drawn registry owners) ?_ h ⟨row, h_row, fun _ p h_p => ⟨p, h_p, .inl rfl⟩, le_rfl⟩
  rintro db entry h_drawn ⟨row', h_row', h_adv, h_stage⟩
  obtain ⟨row'', h_row'', h_adv', h_stage'⟩ := customer_advances h_drawn entry h_row'
  refine ⟨row'', h_row'', fun field p h_p => ?_, h_stage.trans h_stage'⟩
  obtain ⟨p', h_p', h_or⟩ := h_adv field p h_p
  obtain ⟨p'', h_p'', h_or'⟩ := h_adv' field p' h_p'
  refine ⟨p'', h_p'', ?_⟩
  rcases h_or with rfl | h_lt
  · exact h_or'
  · rcases h_or' with rfl | h_lt'
    · exact .inr h_lt
    · exact .inr (h_lt.trans h_lt')

/-- An acceptance raises the sequence of its field. -/
theorem accepts_sequence {db : Db} (h_drawn : CustomersDrawn db) {entry : Entry} {id : Uuid}
    {field : Field} (h : entry.Accepts db id field) :
    ∃ row p, (db.step entry).customers.lookup id = some row ∧
      row.provenance.get field = some p ∧
      ∀ row₀ p₀, db.customers.lookup id = some row₀ → row₀.provenance.get field = some p₀ →
        p₀.sequence < p.sequence := by
  cases customer_move h_drawn entry id with
  | kept _ h_none => exact absurd h (h_none field)
  | observed source event _ h_row h_accepts =>
    cases Service.Observation.of source event (db.customerRow id) field with
    | kept h_not => exact absurd ((h_accepts field).mp h) h_not
    | accepted _ _ _ _ h_newer _ _ h_prov =>
      refine ⟨_, _, h_row, h_prov, fun row₀ p₀ h_row₀ h_p₀ => h_newer p₀ ?_⟩
      rwa [Db.customerRow, h_row₀]

/-- **Provenance soundness and no-regress.** In every reachable state every provenance
entry explains its field, by the one subject linked to the customer for its source, and
a field without an entry is absent or the initial lifecycle. Along the run an acceptance
strictly raises the sequence of its field, no other step changes an entry's sequence
downward, and the lifecycle never moves backward. -/
theorem provenance_law (registry : Table String Destination) (owners : Table String String)
    (as : List Entry) :
    let db := (Db.migrated registry owners).run as
    (∀ id row, db.customers.lookup id = some row →
      (∀ field p, row.provenance.get field = some p →
        (∃ event, Explained db.sources id row field p event) ∧
        ∀ other, db.identities.lookup (p.source, other) = some id → other = p.subject) ∧
      (∀ field, field ≠ .lifecycle →
        ((row.state.get field).isSome ↔ (row.provenance.get field).isSome)) ∧
      row.state.lifecycle.isSome ∧
      (row.provenance.lifecycle = none → row.state.lifecycle = some .lead)) ∧
    (∀ entry id field, entry.Accepts db id field →
      ∃ row p, ((Db.migrated registry owners).run (as ++ [entry])).customers.lookup id =
          some row ∧ row.provenance.get field = some p ∧
        ∀ row₀ p₀, db.customers.lookup id = some row₀ →
          row₀.provenance.get field = some p₀ → p₀.sequence < p.sequence) ∧
    ∀ pre id row, pre <+: as →
      ((Db.migrated registry owners).run pre).customers.lookup id = some row →
      ∃ row', db.customers.lookup id = some row' ∧ (∀ field, Advances field row row') ∧
        stageIndex row ≤ stageIndex row' := by
  obtain ⟨h_identity, h_prov⟩ := sources_sound registry owners as
  refine ⟨fun id row h_row => ?_, fun entry id field h => ?_, fun pre id row h h_row =>
    run_advances registry owners h h_row⟩
  · have h_lifecycle : row.provenance.lifecycle = none → row.state.lifecycle = some .lead :=
      h_prov.absent id row .lifecycle h_row
    -- a field with provenance has the value of the event that explains it
    have h_present : ∀ field, (row.provenance.get field).isSome →
        (row.state.get field).isSome := fun field h_some => by
      obtain ⟨p, h_p⟩ := Option.isSome_iff_exists.mp h_some
      obtain ⟨event, h_explained⟩ := h_prov.explained id row field p h_row h_p
      exact h_explained.h_present
    refine ⟨fun field p h_p => ?_, fun field h_field => ⟨fun h_some => ?_, h_present field⟩, ?_,
      h_lifecycle⟩
    · obtain ⟨event, h_explained⟩ := h_prov.explained id row field p h_row h_p
      exact ⟨⟨event, h_explained⟩, fun other h_other =>
        h_identity.single _ _ _ id h_explained.h_subject h_other⟩
    · cases h_p : row.provenance.get field with
      | some p => rfl
      | none =>
        rw [h_prov.absent id row field h_row h_p] at h_some
        cases field with
        -- the lifecycle alone starts with a value that no source gave
        | lifecycle => exact absurd rfl h_field
        | _ => cases h_some
    · cases h_p : row.provenance.lifecycle with
      | none => rw [h_lifecycle h_p]; rfl
      | some p =>
        refine h_present .lifecycle ?_
        change row.provenance.lifecycle.isSome = true
        rw [h_p]
        rfl
  · rw [Db.run, run_concat]
    exact accepts_sequence (customers_drawn registry owners as) h

end ControlPlane
