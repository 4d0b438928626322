import ControlPlane.Model.Diagnostics
import Mathlib.Data.List.Dedup

/-!
# No credential in a published log

Each replacement of `sanitized` puts a marker in brackets into the text and copies the rest. A
credential without brackets that is part of neither marker is gone once its own turn is over
(`not_infix_redact`), and no later turn brings it back (`infix_redact`, `infix_hide`), whatever
the other credentials and the patterns are.
-/

namespace ControlPlane.Diagnostics

open Framework

/-- A credential that the markers cannot show. -/
structure Redactable (value : Text) : Prop where
  nonempty : value ≠ []
  credential : redactedCredential.Apart value
  privateValue : redactedPrivateValue.Apart value

variable {value : Text}

/-- No brackets, and no part of the interior of a marker. -/
theorem redactable_iff : Redactable value ↔ value ≠ [] ∧ '[' ∉ value ∧ ']' ∉ value ∧
    ¬ value <:+: "redacted-credential".toList ∧ ¬ value <:+: "redacted-private-value".toList := by
  constructor
  · rintro ⟨h_ne, h_credential, h_private⟩
    exact ⟨h_ne, h_credential.opening, h_credential.closing, h_credential.interior,
      h_private.interior⟩
  · rintro ⟨h_ne, h_open, h_close, h_credential, h_private⟩
    exact ⟨h_ne, ⟨h_open, h_close, h_credential⟩, ⟨h_open, h_close, h_private⟩⟩

/-- The turn of the credential itself. -/
theorem Redactable.not_infix_redact (h : Redactable value) (text : Text) :
    ¬ value <:+: redact text value := by
  unfold redact
  rw [if_neg h.nonempty]
  exact h.credential.not_infix_replace h.nonempty text

/-- The turn of another credential. -/
theorem Redactable.infix_redact (h : Redactable value) {text other : Text}
    (h_within : value <:+: redact text other) : value <:+: text := by
  unfold redact at h_within
  split at h_within
  · exact h_within
  · exact h.credential.infix_replace h.nonempty h_within

/-- The turn of a pattern. -/
theorem Redactable.infix_hide (h : Redactable value) {py : Interpreter} {text : Text}
    {pattern : String} (h_within : value <:+: hide py text pattern) : value <:+: text := by
  have h_source := Splitting.infix_mark h.privateValue h.nonempty
    (fun _ => List.nil_prefix) h_within
  rwa [py.source_search] at h_source

/-- What no turn of a loop creates is not in the text after the loop. -/
theorem not_infix_foldl {ι : Type} {turn : Text → ι → Text}
    (h_turn : ∀ text i, value <:+: turn text i → value <:+: text) {text : Text} (turns : List ι)
    (h : ¬ value <:+: text) : ¬ value <:+: turns.foldl turn text := by
  induction turns generalizing text with
  | nil => exact h
  | cons i turns ih => exact ih (mt (h_turn text i) h)

/-- After the loop over the credentials. -/
theorem Redactable.not_infix_credentials (h : Redactable value) {values : List Text}
    (h_mem : value ∈ values) (text : Text) : ¬ value <:+: values.foldl redact text := by
  obtain ⟨before, after, rfl⟩ := List.append_of_mem h_mem
  rw [List.foldl_append, List.foldl_cons]
  exact not_infix_foldl (fun _ _ => h.infix_redact) after (h.not_infix_redact _)

theorem mem_sortedCredentials {py : Interpreter} {credentials : List Text} :
    value ∈ sortedCredentials py credentials ↔ value ∈ credentials := by
  unfold sortedCredentials
  rw [List.mem_insertionSort, py.mem_set]

/-- **Every credential is redacted**, unless it has a bracket or is part of a marker. -/
theorem credential_redacted (py : Interpreter) (text : Text) {credentials : List Text}
    (h_mem : value ∈ credentials) (h_ne : value ≠ []) (h_open : '[' ∉ value)
    (h_close : ']' ∉ value) (h_credential : ¬ value <:+: "redacted-credential".toList)
    (h_private : ¬ value <:+: "redacted-private-value".toList) :
    ¬ value <:+: sanitized py text credentials := by
  have h := redactable_iff.mpr ⟨h_ne, h_open, h_close, h_credential, h_private⟩
  have h_sorted : value ∈ sortedCredentials py credentials := mem_sortedCredentials.mpr h_mem
  have h_patterns := not_infix_foldl
    (fun text pattern (h_within : value <:+: hide py text pattern) => h.infix_hide h_within)
    patterns (h.not_infix_credentials h_sorted text)
  intro h_within
  have h_source := Splitting.infix_mark h.credential h.nonempty
    (fun found => List.prefix_append found.group found.rest) h_within
  rw [py.source_search] at h_source
  exact h_patterns h_source

/-- The interpreter on texts in which no pattern matches. -/
def literal : Interpreter where
  set := List.dedup
  mem_set _ _ := List.mem_dedup
  search _ text := ⟨text, []⟩
  source_search _ text := List.append_nil text

/-- A credential that is part of another one. -/
theorem nested_credential_redacted : ¬ "s3cret".toList <:+:
    sanitized literal "start s3cret, then s3cret-token".toList
      ["s3cret".toList, "s3cret-token".toList] :=
  credential_redacted literal _ (by decide) (by decide) (by decide) (by decide) (by decide)
    (by decide)

end ControlPlane.Diagnostics
