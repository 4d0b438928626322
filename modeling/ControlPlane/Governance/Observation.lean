import ControlPlane.Model.Service

/-!
# One source event on one customer

What the loop of `ingest` over the supplied attributes does to each field. The loop
decides every field against the state and provenance accumulated so far, but a round
only writes the field it decides, and `fieldDecision` only reads the field it is asked
about (`fieldDecision_congr`). So each field is decided against the row as it was
before the event, whatever the other fields do: `Observation.of` gives the three
possible outcomes for a field of the row after the event.

The revision is computed by comparing the provenance before and after.
`accepted_iff_provenance_ne` says that this is the right test: an accepted field always
leaves a provenance entry of a later sequence, equal value or not, so the comparison
notices every acceptance (`observed_revision_of_some`).
-/

namespace ControlPlane
namespace Service

/-! ### A decision reads one field -/

theorem regresses_congr {field : Field} {value : field.Value} {state state' : CustomerState}
    (h : state.get field = state'.get field) :
    regresses field value state = regresses field value state' := by
  cases field with
  | lifecycle =>
    have h' : state.lifecycle = state'.lifecycle := h
    simp only [regresses, h']
  | _ => rfl

theorem fieldDecision_congr {source : Source} {field : Field} {value : field.Value}
    {state state' : CustomerState} {provenance provenance' : ProvenanceMap} {sequence : ℕ}
    (h_state : state.get field = state'.get field)
    (h_prov : provenance.get field = provenance'.get field) :
    fieldDecision source field value state provenance sequence =
      fieldDecision source field value state' provenance' sequence := by
  simp only [fieldDecision, h_prov, regresses_congr h_state]

/-! ### The loop -/

section Loop

variable (source : Source) (event : SourceEvent)

/-- The provenance entry an accepted field gets. -/
def entry : Provenance := ⟨source, event.subject, event.eventId, event.sequence⟩

/-- The outcome of a part of the loop for one field, between what had been accumulated
before and after it. -/
inductive Round (before after : Folded) (field : Field) : Prop
  | absent (h_attr : event.attributes.get field = none)
      (h_state : after.state.get field = before.state.get field)
      (h_prov : after.provenance.get field = before.provenance.get field)
      (h_decision : after.decisions.get field = before.decisions.get field)
  | accepted (value : field.Value) (h_attr : event.attributes.get field = some value)
      (h_accept : fieldDecision source field value before.state before.provenance
        event.sequence = .accepted)
      (h_state : after.state.get field = some value)
      (h_prov : after.provenance.get field = some (entry source event))
      (h_decision : after.decisions.get field = some .accepted)
  | refused (value : field.Value) (h_attr : event.attributes.get field = some value)
      (h_refuse : fieldDecision source field value before.state before.provenance
        event.sequence ≠ .accepted)
      (h_state : after.state.get field = before.state.get field)
      (h_prov : after.provenance.get field = before.provenance.get field)
      (h_decision : after.decisions.get field ≠ some .accepted)

/-- A round writes only the field it decides. -/
theorem decideField_of_ne (acc : Folded) {field other : Field} (h : other ≠ field) :
    (decideField source event acc field).state.get other = acc.state.get other ∧
      (decideField source event acc field).provenance.get other = acc.provenance.get other ∧
      (decideField source event acc field).decisions.get other = acc.decisions.get other := by
  unfold decideField
  cases event.attributes.get field with
  | none => exact ⟨rfl, rfl, rfl⟩
  | some value =>
    dsimp only
    split
    · exact ⟨FieldMap.get_set_of_ne _ _ h, FieldMap.get_set_of_ne _ _ h,
        FieldMap.get_set_of_ne _ _ h⟩
    · exact ⟨rfl, rfl, FieldMap.get_set_of_ne _ _ h⟩

theorem decideField_self (acc : Folded) (field : Field) :
    Round source event acc (decideField source event acc field) field := by
  unfold decideField
  cases h_attr : event.attributes.get field with
  | none => exact .absent h_attr rfl rfl rfl
  | some value =>
    dsimp only
    split
    · rename_i h_accept
      refine .accepted value h_attr h_accept (FieldMap.get_set_self _ _ _)
        (FieldMap.get_set_self _ _ _) ?_
      rw [FieldMap.get_set_self, h_accept]
    · rename_i h_refuse
      refine .refused value h_attr h_refuse rfl rfl fun h_decision => h_refuse ?_
      rw [FieldMap.get_set_self] at h_decision
      exact Option.some.inj h_decision

/-- The rounds over other fields leave a field alone. -/
theorem foldl_decideField_of_notMem {field : Field} (fields : List Field) :
    ∀ acc : Folded, field ∉ fields →
      (fields.foldl (decideField source event) acc).state.get field = acc.state.get field ∧
      (fields.foldl (decideField source event) acc).provenance.get field =
        acc.provenance.get field ∧
      (fields.foldl (decideField source event) acc).decisions.get field =
        acc.decisions.get field := by
  induction fields with
  | nil => exact fun acc _ => ⟨rfl, rfl, rfl⟩
  | cons f rest ih =>
    intro acc h
    obtain ⟨h_ne, h_rest⟩ := not_or.mp (mt List.mem_cons.mpr h)
    obtain ⟨h₁, h₂, h₃⟩ := ih (decideField source event acc f) h_rest
    obtain ⟨h₁', h₂', h₃'⟩ := decideField_of_ne source event acc h_ne
    exact ⟨h₁.trans h₁', h₂.trans h₂', h₃.trans h₃'⟩

/-- The loop decides each of its fields once, against what was there before the loop. -/
theorem foldl_decideField_of_mem {field : Field} (fields : List Field) (h_nodup : fields.Nodup) :
    ∀ acc : Folded, field ∈ fields →
      Round source event acc (fields.foldl (decideField source event) acc) field := by
  induction fields with
  | nil => exact fun acc h => absurd h List.not_mem_nil
  | cons f rest ih =>
    intro acc h
    obtain ⟨h_notMem, h_nodup⟩ := List.nodup_cons.mp h_nodup
    rw [List.foldl_cons]
    -- each field has a round of its own
    by_cases h_eq : field = f
    · -- decided by this round, untouched by the later ones
      subst h_eq
      obtain ⟨h₁, h₂, h₃⟩ := foldl_decideField_of_notMem source event rest
        (decideField source event acc field) h_notMem
      cases decideField_self source event acc field with
      | absent h_attr h_state h_prov h_decision =>
        exact .absent h_attr (h₁.trans h_state) (h₂.trans h_prov) (h₃.trans h_decision)
      | accepted value h_attr h_accept h_state h_prov h_decision =>
        exact .accepted value h_attr h_accept (h₁.trans h_state) (h₂.trans h_prov)
          (h₃.trans h_decision)
      | refused value h_attr h_refuse h_state h_prov h_decision =>
        refine .refused value h_attr h_refuse (h₁.trans h_state) (h₂.trans h_prov) ?_
        rwa [h₃]
    · -- decided by a later round, against a field that this round leaves alone
      have h_mem : field ∈ rest := (List.mem_cons.mp h).resolve_left h_eq
      obtain ⟨h₁, h₂, h₃⟩ := decideField_of_ne source event acc h_eq
      cases ih h_nodup (decideField source event acc f) h_mem with
      | absent h_attr h_state h_prov h_decision =>
        exact .absent h_attr (h_state.trans h₁) (h_prov.trans h₂) (h_decision.trans h₃)
      | accepted value h_attr h_accept h_state h_prov h_decision =>
        rw [fieldDecision_congr h₁ h₂] at h_accept
        exact .accepted value h_attr h_accept h_state h_prov h_decision
      | refused value h_attr h_refuse h_state h_prov h_decision =>
        rw [fieldDecision_congr h₁ h₂] at h_refuse
        exact .refused value h_attr h_refuse (h_state.trans h₁) (h_prov.trans h₂) h_decision

end Loop

/-! ### The row after the event -/

section Observed

variable (source : Source) (event : SourceEvent) (row : Customer)

/-- Whether the event has the field accepted for the customer. -/
def Accepts (field : Field) : Prop :=
  (decideFields source event row).decisions.get field = some .accepted

/-- The outcome of an event for one field of the customer's row. -/
inductive Observation (field : Field) : Prop
  | kept (h_not : ¬ Accepts source event row field)
      (h_state : (observed source event row).state.get field = row.state.get field)
      (h_prov : (observed source event row).provenance.get field = row.provenance.get field)
  | accepted (value : field.Value) (h_accepts : Accepts source event row field)
      (h_attr : event.attributes.get field = some value) (h_owner : owner field = source)
      (h_newer : ∀ p, row.provenance.get field = some p → p.sequence < event.sequence)
      (h_forward : regresses field value row.state = false)
      (h_state : (observed source event row).state.get field = some value)
      (h_prov : (observed source event row).provenance.get field = some (entry source event))

theorem decideFields_round (field : Field) :
    Round source event ⟨row.state, row.provenance, FieldMap.empty⟩
      (decideFields source event row) field :=
  foldl_decideField_of_mem source event Field.all Field.all_nodup _ field.mem_all

/-- A field is accepted when the event supplies it and the decision against the row as
it was accepts it. -/
theorem accepts_iff {field : Field} :
    Accepts source event row field ↔ ∃ value, event.attributes.get field = some value ∧
      fieldDecision source field value row.state row.provenance event.sequence =
        .accepted := by
  cases decideFields_round source event row field with
  | absent h_attr _ _ h_decision =>
    refine iff_of_false (fun h => ?_) fun ⟨value, h, _⟩ => ?_
    · rw [Accepts, h_decision, FieldMap.get_empty] at h
      cases h
    · rw [h_attr] at h
      cases h
  | accepted value h_attr h_accept _ _ h_decision =>
    exact iff_of_true h_decision ⟨value, h_attr, h_accept⟩
  | refused value h_attr h_refuse _ _ h_decision =>
    refine iff_of_false h_decision fun ⟨value', h_attr', h_accept⟩ => h_refuse ?_
    obtain rfl : value = value' := Option.some.inj (h_attr.symm.trans h_attr')
    exact h_accept

theorem Observation.of (field : Field) : Observation source event row field := by
  cases decideFields_round source event row field with
  | absent h_attr h_state h_prov h_decision =>
    refine .kept (fun h => ?_) h_state h_prov
    rw [Accepts, h_decision, FieldMap.get_empty] at h
    cases h
  | accepted value h_attr h_accept h_state h_prov h_decision =>
    obtain ⟨h_owner, h_newer, h_forward⟩ := fieldDecision_accepted.mp h_accept
    exact .accepted value h_decision h_attr h_owner h_newer h_forward h_state h_prov
  | refused value h_attr h_refuse h_state h_prov h_decision =>
    exact .kept h_decision h_state h_prov

/-- An accepted field is noticed in the provenance, since its sequence is newer. -/
theorem accepted_iff_provenance_ne :
    (∃ field, Accepts source event row field) ↔
      (observed source event row).provenance ≠ row.provenance := by
  constructor
  · rintro ⟨field, h⟩ h_eq
    cases Observation.of source event row field with
    | kept h_not => exact h_not h
    | accepted value _ _ _ h_newer _ _ h_prov =>
      rw [h_eq] at h_prov
      exact absurd (h_newer _ h_prov) (lt_irrefl event.sequence)
  · intro h_ne
    by_contra h_none
    refine h_ne (FieldMap.ext_get fun field => ?_)
    cases Observation.of source event row field with
    | kept _ _ h_prov => exact h_prov
    | accepted _ h => exact absurd ⟨field, h⟩ h_none

/-- Without an acceptance the event leaves the whole row as it is. -/
theorem observed_of_none (h : ¬ ∃ field, Accepts source event row field) :
    observed source event row = row := by
  have h_prov : (observed source event row).provenance = row.provenance :=
    not_not.mp (mt (accepted_iff_provenance_ne source event row).mpr h)
  have h_state : (observed source event row).state = row.state := by
    refine FieldMap.ext_get fun field => ?_
    cases Observation.of source event row field with
    | kept _ h_state => exact h_state
    | accepted _ h' => exact absurd ⟨field, h'⟩ h
  have h_rev : (observed source event row).revision = row.revision := by
    have h_prov' : (decideFields source event row).provenance = row.provenance := h_prov
    simp only [observed, h_prov', ne_eq, not_true_eq_false, if_false, Nat.add_zero]
  cases row
  exact (Customer.mk.injEq ..).mpr ⟨h_rev, h_state, h_prov⟩

/-- **The revision of one event.** It is raised by exactly one when a field is accepted,
even with an equal value, and stays as it is otherwise. -/
theorem observed_revision_of_some (h : ∃ field, Accepts source event row field) :
    (observed source event row).revision = row.revision + 1 := by
  have h_ne : (decideFields source event row).provenance ≠ row.provenance :=
    (accepted_iff_provenance_ne source event row).mp h
  simp only [observed, if_pos h_ne]

end Observed

end Service
end ControlPlane
