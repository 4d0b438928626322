import Mathlib.Data.Nat.Notation
import Mathlib.Logic.Basic

/-!
# Policy

The versioned policy of `policy.py`: which source owns which field, the order of the
lifecycle stages, the action decisions and the TTL and budget constants, with the
two pure decision functions `fieldDecision` and `actionDecision`.

A customer's `state` and `provenance` and the `attributes` of a source event are JSON
objects over the closed set of field names. `FieldMap β` is such an object: one
optional member per field, of the type the contract gives that field. Two of them are
equal when their members are (`FieldMap.ext_get`), as Python dictionaries are.

`digest` is the SHA-256 of the canonical JSON of a document. The program only ever
compares digests for equality, and every property below is stated for collision-free
digests, so a digest is a sealed copy of its document; `digest_inj` is all that is
ever used about it.
-/

namespace ControlPlane

/-! ### Digests -/

/-- The digest of a document of type `α`. -/
structure Digest (α : Type) where
  /-- Sealed: proofs go through `digest_inj`. -/
  document : α
deriving DecidableEq

/-- The digest of a value, which no other value has. -/
def digest {α : Type} (value : α) : Digest α := ⟨value⟩

/-- Digests are collision free. -/
@[simp] theorem digest_inj {α : Type} {a b : α} : digest a = digest b ↔ a = b := by
  unfold digest
  rw [Digest.mk.injEq]

/-! ### Fields -/

/-- `Stage` of the contracts, in the order of `STAGES`. -/
inductive Stage
  | lead | mql | sql | opportunity | customer
deriving DecidableEq

/-- `STAGES`. -/
def stages : List Stage := [.lead, .mql, .sql, .opportunity, .customer]

/-- The fields a source event may carry, in declaration order. -/
inductive Field
  | email | phone | owner | lifecycle | score | consent | suppressed
deriving DecidableEq

/-- The values a field takes once the contract has validated it. -/
abbrev Field.Value : Field → Type
  | .email | .phone | .owner => String
  | .lifecycle => Stage
  | .score => ℕ
  | .consent | .suppressed => Bool

instance : (field : Field) → DecidableEq field.Value
  | .email | .phone | .owner => inferInstanceAs (DecidableEq String)
  | .lifecycle => inferInstanceAs (DecidableEq Stage)
  | .score => inferInstanceAs (DecidableEq ℕ)
  | .consent | .suppressed => inferInstanceAs (DecidableEq Bool)

/-- The order in which `attrs.items()` lists the members of `Attributes`. -/
def Field.all : List Field :=
  [.email, .phone, .owner, .lifecycle, .score, .consent, .suppressed]

/-- Every field is listed. -/
theorem Field.mem_all (field : Field) : field ∈ Field.all := by
  cases field <;> decide

/-- No field is listed twice. -/
theorem Field.all_nodup : Field.all.Nodup := by decide

/-- A JSON object whose members are fields: each member is absent or has a value. -/
structure FieldMap (β : Field → Type) where
  email : Option (β .email)
  phone : Option (β .phone)
  owner : Option (β .owner)
  lifecycle : Option (β .lifecycle)
  score : Option (β .score)
  consent : Option (β .consent)
  suppressed : Option (β .suppressed)

namespace FieldMap

variable {β : Field → Type}

/-- The object with no member. -/
def empty : FieldMap β := ⟨none, none, none, none, none, none, none⟩

/-- `object.get(field)`. -/
def get (m : FieldMap β) : (field : Field) → Option (β field)
  | .email => m.email
  | .phone => m.phone
  | .owner => m.owner
  | .lifecycle => m.lifecycle
  | .score => m.score
  | .consent => m.consent
  | .suppressed => m.suppressed

/-- `object[field] = value`. -/
def set (m : FieldMap β) : (field : Field) → β field → FieldMap β
  | .email, v => { m with email := some v }
  | .phone, v => { m with phone := some v }
  | .owner, v => { m with owner := some v }
  | .lifecycle, v => { m with lifecycle := some v }
  | .score, v => { m with score := some v }
  | .consent, v => { m with consent := some v }
  | .suppressed, v => { m with suppressed := some v }

@[simp] theorem get_empty (field : Field) : (empty : FieldMap β).get field = none := by
  cases field <;> rfl

@[simp] theorem get_set_self (m : FieldMap β) (field : Field) (v : β field) :
    (m.set field v).get field = some v := by
  cases field <;> rfl

/-- The other fields keep what they have. -/
theorem get_set_of_ne (m : FieldMap β) {field field' : Field} (v : β field)
    (h : field' ≠ field) : (m.set field v).get field' = m.get field' := by
  cases field <;> cases field' <;> first | rfl | exact absurd rfl h

/-- Maps that agree on every field are equal. -/
theorem ext_get {m m' : FieldMap β} (h : ∀ field, m.get field = m'.get field) : m = m' := by
  obtain ⟨a, b, c, d, e, f, g⟩ := m
  obtain ⟨a', b', c', d', e', f', g'⟩ := m'
  obtain rfl : a = a' := h .email
  obtain rfl : b = b' := h .phone
  obtain rfl : c = c' := h .owner
  obtain rfl : d = d' := h .lifecycle
  obtain rfl : e = e' := h .score
  obtain rfl : f = f' := h .consent
  obtain rfl : g = g' := h .suppressed
  rfl

/-- Maps are equal exactly if they agree on the listed fields. -/
theorem eq_iff_get {m m' : FieldMap β} :
    (∀ field ∈ Field.all, m.get field = m'.get field) ↔ m = m' :=
  ⟨fun h => ext_get fun field => h field field.mem_all, fun h _ _ => by rw [h]⟩

/-- The object with these members. -/
def tabulate (f : (field : Field) → Option (β field)) : FieldMap β :=
  ⟨f .email, f .phone, f .owner, f .lifecycle, f .score, f .consent, f .suppressed⟩

@[simp] theorem get_tabulate (f : (field : Field) → Option (β field)) (field : Field) :
    (tabulate f).get field = f field := by
  cases field <;> rfl

instance [∀ field, DecidableEq (β field)] : DecidableEq (FieldMap β) :=
  fun m m' => decidable_of_iff (∀ field ∈ Field.all, m.get field = m'.get field) eq_iff_get

end FieldMap

/-! ### Ownership of fields -/

/-- The upstream credentials that may assert fields. -/
inductive Source
  | crm | consent | scoring | privacy
deriving DecidableEq

/-- Everyone who acts on the control plane: the API credentials and the executor. -/
inductive Actor
  | crm | consent | scoring | privacy | agent | approver | operator | executor
deriving DecidableEq

/-- A source acts under its own credential. -/
def Source.actor : Source → Actor
  | .crm => .crm
  | .consent => .consent
  | .scoring => .scoring
  | .privacy => .privacy

/-- `POLICY["owners"]`. -/
def owner : Field → Source
  | .email | .phone | .owner | .lifecycle => .crm
  | .score => .scoring
  | .consent => .consent
  | .suppressed => .privacy

/-- One entry of a customer's provenance. -/
structure Provenance where
  source : Source
  subject : String
  eventId : String
  sequence : ℕ
deriving DecidableEq

/-- The column `state` of a customer: a value for each field it has. -/
abbrev CustomerState : Type := FieldMap Field.Value
/-- The column `provenance`: where each field was last taken from. -/
abbrev ProvenanceMap : Type := FieldMap fun _ => Provenance

/-- What `field_decision` answers. -/
inductive FieldDecision
  | accepted | sourceNotAuthoritative | staleSourceSequence | lifecycleRegression
deriving DecidableEq

/-- Whether the value moves the lifecycle backward from the current state. Fields other
than `lifecycle` never do. -/
def regresses : (field : Field) → field.Value → CustomerState → Bool
  | .lifecycle, value, state =>
    stages.idxOf value < stages.idxOf (state.lifecycle.getD .lead)
  | _, _, _ => false

/-- `field_decision`, the refusals in the order of the code. -/
def fieldDecision (source : Source) (field : Field) (value : field.Value)
    (state : CustomerState) (provenance : ProvenanceMap) (sequence : ℕ) : FieldDecision :=
  if owner field ≠ source then .sourceNotAuthoritative
  else if (provenance.get field).any fun previous => sequence ≤ previous.sequence then
    .staleSourceSequence
  else if regresses field value state then .lifecycleRegression
  else .accepted

/-- Acceptance, inverted: the owner speaks, the sequence is newer than the recorded one
and the lifecycle does not move backward. -/
theorem fieldDecision_accepted {source : Source} {field : Field} {value : field.Value}
    {state : CustomerState} {provenance : ProvenanceMap} {sequence : ℕ} :
    fieldDecision source field value state provenance sequence = .accepted ↔
      owner field = source ∧ (∀ p, provenance.get field = some p → p.sequence < sequence) ∧
        regresses field value state = false := by
  unfold fieldDecision
  constructor
  · intro h
    split at h
    · cases h
    split at h
    · cases h
    split at h
    · cases h
    rename_i h_owner h_seq h_reg
    refine ⟨not_not.mp h_owner, fun p hp => ?_, by simpa using h_reg⟩
    rw [hp] at h_seq
    simpa using h_seq
  · rintro ⟨h_owner, h_seq, h_reg⟩
    rw [if_neg (not_not.mpr h_owner), if_neg ?_, if_neg (by simp [h_reg])]
    cases hp : provenance.get field with
    | none => simp
    | some p => simpa using h_seq p hp

/-! ### Action decisions -/

/-- The actions a proposal can ask for. -/
inductive Action
  | syncProfile | sendMarketing | setConsent
deriving DecidableEq

/-- What the policy decides about a proposal. -/
inductive Decision
  | allow | approval | deny
deriving DecidableEq

/-- The reasons of `action_decision`, `valid_proposal`, `approve` and `prepare`. -/
inductive Reason
  | policyAllowed | protectedWrite | suppressedOrUnknown | consentMissingOrRevoked
  | missingEmail | staleContext | policyChanged | proposalExpired | approvalMissing
  | approvalExpired | notApprovable | approvalRevisionMismatch | selfApprovalForbidden
  | recoveryClosed | leaseLost | mutationChanged
deriving DecidableEq

/-- `POLICY["actions"]`. -/
def Action.decision : Action → Decision
  | .syncProfile => .allow
  | .sendMarketing => .approval
  | .setConsent => .deny

/-- The permission to contact: what `send_marketing` requires of the current state. -/
def marketingDenial (state : CustomerState) : Option Reason :=
  if state.suppressed.getD true = true then some .suppressedOrUnknown
  else if state.consent ≠ some true then some .consentMissingOrRevoked
  else if state.email = none ∨ state.email = some "" then some .missingEmail
  else none

/-- `action_decision`, with the reason. -/
def actionDecision (action : Action) (state : CustomerState)
    (revision expectedRevision : ℕ) : Decision × Reason :=
  if action = .setConsent then (.deny, .protectedWrite)
  else match (if action = .sendMarketing then marketingDenial state else none) with
    | some reason => (.deny, reason)
    | none =>
      if revision ≠ expectedRevision then (.deny, .staleContext)
      else (action.decision, .policyAllowed)

/-- A marketing permission, spelled out. -/
theorem marketingDenial_eq_none {state : CustomerState} :
    marketingDenial state = none ↔ state.suppressed = some false ∧ state.consent = some true ∧
      ∃ email, state.email = some email ∧ email ≠ "" := by
  unfold marketingDenial
  constructor
  · intro h
    split at h
    · cases h
    split at h
    · cases h
    split at h
    · cases h
    rename_i h_sup h_con h_mail
    rw [not_or] at h_mail
    refine ⟨?_, not_not.mp h_con, ?_⟩
    · cases hs : state.suppressed with
      | none => simp [hs] at h_sup
      | some b => simpa [hs] using h_sup
    · obtain ⟨email, h_email⟩ := Option.ne_none_iff_exists'.mp h_mail.1
      exact ⟨email, h_email, fun h_nil => h_mail.2 (by rw [h_email, h_nil])⟩
  · rintro ⟨h_sup, h_con, email, h_email, h_ne⟩
    simp [h_sup, h_con, h_email, h_ne]

/-- **A decision other than denial, inverted.** The revision is the expected one, the
action is not the protected write, and a marketing action has its permission. -/
theorem actionDecision_ne_deny {action : Action} {state : CustomerState}
    {revision expectedRevision : ℕ}
    (h : (actionDecision action state revision expectedRevision).1 ≠ .deny) :
    revision = expectedRevision ∧ action ≠ .setConsent ∧
      (action = .sendMarketing → marketingDenial state = none) ∧
      actionDecision action state revision expectedRevision =
        (action.decision, .policyAllowed) := by
  unfold actionDecision at h ⊢
  split at h
  · exact absurd rfl h
  · rename_i h_set
    rw [if_neg h_set]
    split at h
    · exact absurd rfl h
    · rename_i h_none
      split at h
      · exact absurd rfl h
      · rename_i h_rev
        refine ⟨not_not.mp h_rev, h_set, fun h_send => by rwa [if_pos h_send] at h_none, ?_⟩
        exact if_neg h_rev

/-! ### The policy document -/

/-- `POLICY`, as the document whose digest every proposal is bound to. -/
structure Policy where
  version : String
  owners : List (Field × Source)
  stages : List Stage
  proposalTtlSeconds : ℕ
  approvalTtlSeconds : ℕ
  maxAttempts : ℕ
  actions : List (Action × Decision)
deriving DecidableEq

/-- The document that the policy is published as. -/
def policy : Policy where
  version := "customer-control/1"
  owners := Field.all.map fun field => (field, owner field)
  stages := stages
  proposalTtlSeconds := 900
  approvalTtlSeconds := 300
  maxAttempts := 4
  actions := [.syncProfile, .sendMarketing, .setConsent].map fun action =>
    (action, action.decision)

/-- `POLICY_HASH`. -/
def policyHash : Digest Policy := digest policy

end ControlPlane
