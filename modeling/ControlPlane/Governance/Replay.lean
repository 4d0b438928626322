import ControlPlane.Framework.Run
import ControlPlane.Governance.Observation

/-!
# Decisions replayed

An audit record of a source event says what was decided on each field, and the event itself
is kept in `cp.events`. `replay` is what these decisions do to a customer, with no policy and
no comparison: an accepted field takes the incoming value and the provenance of the event, and
the revision goes up when a field is accepted. It gives the row that `ingest` has written
(`replay_decided`).
-/

namespace ControlPlane

open Framework

namespace Service

/-- What the decisions on the `incoming` attributes do to a customer; `origin` is the
provenance of the event. -/
def replay (incoming : FieldMap Field.Value) (origin : Provenance) (decisions : Decisions)
    (row : Customer) : Customer where
  revision := row.revision + (if anyDecision (· = .accepted) decisions then 1 else 0)
  state := .tabulate fun field =>
    if decisions.get field = some .accepted then incoming.get field else row.state.get field
  provenance := .tabulate fun field =>
    if decisions.get field = some .accepted then some origin else row.provenance.get field

theorem anyDecision_accepted {decisions : Decisions} :
    anyDecision (· = .accepted) decisions = true ↔
      ∃ field, decisions.get field = some .accepted := by
  unfold anyDecision
  rw [List.any_eq_true]
  constructor
  · rintro ⟨field, -, h_field⟩
    refine ⟨field, ?_⟩
    cases h_decision : decisions.get field with
    | none =>
      rw [h_decision] at h_field
      cases h_field
    | some decision =>
      rw [h_decision] at h_field
      obtain rfl : decision = .accepted := of_decide_eq_true h_field
      rfl
  · rintro ⟨field, h_field⟩
    refine ⟨field, field.mem_all, ?_⟩
    rw [h_field]
    rfl

/-- **The decisions of an event say all of what it does.** -/
theorem replay_decided (source : Source) (event : SourceEvent) (row : Customer) :
    replay event.attributes (entry source event) (decideFields source event row).decisions row =
      observed source event row := by
  have h_revision : row.revision + (if anyDecision (· = .accepted)
      (decideFields source event row).decisions then 1 else 0) =
        (observed source event row).revision := by
    by_cases h : ∃ field, Accepts source event row field
    · rw [if_pos (anyDecision_accepted.mpr h), observed_revision_of_some source event row h]
    · rw [if_neg (mt anyDecision_accepted.mp h), observed_of_none source event row h,
        Nat.add_zero]
  refine (Customer.mk.injEq ..).mpr ⟨h_revision, FieldMap.ext_get fun field => ?_,
    FieldMap.ext_get fun field => ?_⟩
  · rw [FieldMap.get_tabulate]
    cases Observation.of source event row field with
    | kept h_not h_state => exact (if_neg h_not).trans h_state.symm
    | accepted value h_accepts h_attr _ _ _ h_state =>
      exact (if_pos h_accepts).trans (h_attr.trans h_state.symm)
  · rw [FieldMap.get_tabulate]
    cases Observation.of source event row field with
    | kept h_not _ h_prov => exact (if_neg h_not).trans h_prov.symm
    | accepted _ h_accepts _ _ _ _ _ h_prov => exact (if_pos h_accepts).trans h_prov.symm

end Service

/-! ### The chain -/

/-- The record is a decision that takes the customer from `before` to `after`: its `after`,
`provenance` and `revision` are what its decisions do to the customer, with the attributes
and the provenance of an event that has been kept. -/
def Decides (events : Table (Source × String) Event) (before : Customer) (record : AuditRow)
    (after : Customer) : Prop :=
  ∃ source stored decisions,
    events.lookup (source, stored.body.eventId) = some stored ∧
    record.actor = source.actor ∧
    record.detail = .sourceDecision before.state after.state stored.body.attributes
      stored.body.eventId after.provenance decisions after.revision ∧
    after = Service.replay stored.body.attributes (Service.entry source stored.body) decisions
      before

/-- An event that is kept stays kept. -/
theorem Decides.mono {events events' : Table (Source × String) Event}
    (h_events : ∀ key stored, events.lookup key = some stored → events'.lookup key = some stored)
    {before after : Customer} {record : AuditRow} (h : Decides events before record after) :
    Decides events' before record after := by
  obtain ⟨source, stored, decisions, h_stored, h_record⟩ := h
  exact ⟨source, stored, decisions, h_events _ stored h_stored, h_record⟩

end ControlPlane
