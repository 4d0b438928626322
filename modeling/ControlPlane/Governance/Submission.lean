import ControlPlane.Governance.Provenance
import ControlPlane.Model.Api

/-!
# What becomes of a submission

`submission_durable_iff` says which requests to `POST /events` have a durable outcome, in every
state the service can reach: those whose body the decoder reads, whose header and tokens can be
compared, and whose texts the database takes where they are stored. Every other one is answered
503 or 400, and leaves no trace.

The contract keeps U+0000 out of the ids and the phone number, but not out of the email, the
owner (`carried_storable_iff`) and the names of unknown members, which are all that the report
of a violation quotes of the body (`body_quotes`). Header and tokens are compared as strings,
which works for ASCII only (`authenticate_cases`).
-/

namespace ControlPlane.Api

open Framework

/-! ### The contract -/

section Contract

variable {casefold : String → String} {document : Json Text}

/-- A character that is not U+0000. -/
theorem storable_of_all {p : Char → Bool} (h_zero : p (Char.ofNat 0) = false) {s : String}
    (h : s.toList.all p = true) : storable s = true := by
  refine List.all_eq_true.mpr fun c h_c => ?_
  refine decide_eq_true fun h_eq => ?_
  obtain rfl : c = Char.ofNat 0 := by rw [← h_eq, Char.ofNat_toNat]
  rw [List.all_eq_true.mp h _ h_c] at h_zero
  cases h_zero

/-- An identifier can be stored. -/
theorem storable_of_identifier {s : String} (h : Contract.identifierPattern s.toList = true) :
    storable s = true := by
  unfold Contract.identifierPattern at h
  rw [Bool.and_eq_true] at h
  exact storable_of_all (by decide) h.2

/-- A telephone number can be stored. -/
theorem storable_of_phone {s : String} (h : Contract.phonePattern s.toList = true) :
    storable s = true := by
  refine storable_of_all (p := fun c => c.isDigit || c = '+') (by decide) ?_
  unfold Contract.phonePattern at h
  split at h
  next first rest h_list =>
    simp only [Bool.and_eq_true] at h
    rw [h_list]
    simp only [List.all_cons, h.1.1.1.1, Bool.true_or, Bool.true_and, decide_true, Bool.or_true]
    refine List.all_eq_true.mpr fun c h_c => ?_
    rw [List.all_eq_true.mp h.1.1.2 c h_c, Bool.true_or]
  next => cases h

/-- A telephone number that is accepted matches its pattern. -/
theorem attributes_phone {attributes : FieldMap Field.Value} {phone : String}
    (h : Contract.attributes casefold document = .ok attributes)
    (h_phone : attributes.phone = some phone) : Contract.phonePattern phone.toList = true := by
  unfold Contract.attributes at h
  split at h
  case h_2 => cases h
  next members =>
    split at h
    case h_2 => cases h
    split at h
    case isFalse => cases h
    obtain rfl := Except.ok.inj h
    have h_value : Contract.value casefold members .phone = some phone := h_phone
    unfold Contract.value at h_value
    split at h_value
    case h_2 => cases h_value
    next value h_supplied =>
      unfold Contract.supplied at h_supplied
      obtain ⟨member, -, h_check⟩ := Option.map_eq_some_iff.mp h_supplied
      subst h_value
      exact Check.string_pattern (Check.nullable_eq_some h_check)

/-- What the contract accepts has no U+0000 in its ids and its phone number. -/
structure Clean (event : SourceEvent) : Prop where
  eventId : storable event.eventId = true
  subject : storable event.subject = true
  phone : ∀ phone, event.attributes.phone = some phone → storable phone = true

/-- All texts of an event that is accepted but owner and email can be stored. -/
theorem sourceEvent_clean {event : SourceEvent}
    (h : Contract.sourceEvent casefold document = .ok event) : Clean event := by
  unfold Contract.sourceEvent at h
  split at h
  case h_2 => cases h
  next members =>
    dsimp only at h
    split at h
    case h_2 => cases h
    next eventId subject sequence attributes _ h_eventId h_subject _ h_attributes =>
      obtain rfl := Except.ok.inj h
      have h_identifier : ∀ {name s}, Checked.required name
          (Check.single Contract.identifier) members = .ok s → storable s = true := by
        intro name s h_required
        obtain ⟨value, h_value⟩ := Checked.required_eq_ok h_required
        exact storable_of_identifier (Check.string_pattern (Check.single_eq_ok h_value))
      refine ⟨h_identifier h_eventId, h_identifier h_subject, fun phone h_phone => ?_⟩
      obtain ⟨value, h_value⟩ := Checked.required_eq_ok h_attributes
      exact storable_of_phone (attributes_phone h_value h_phone)

/-- So it is for a body. -/
theorem body_clean {event : SourceEvent} (h : Contract.body casefold document = .ok event) :
    Clean event := by
  unfold Contract.body at h
  split at h
  · cases h
  · exact sourceEvent_clean (mapError_eq_ok.mp h)

/-- Only the email and the owner of an event that is not known can be rejected. -/
def Storable (event : SourceEvent) : Prop :=
  (∀ email, event.attributes.email = some email → storable email = true) ∧
    ∀ owner, event.attributes.owner = some owner → storable owner = true

/-- What an event carries can be stored if it is known, or if its owner and email can. -/
theorem carried_storable_iff {event : SourceEvent} (h : Clean event) (source : Source) (db : Db) :
    (carried source event db).all storable = true ↔
      (db.events.lookup (source, event.eventId)).isSome ∨ Storable event := by
  unfold carried Storable
  split
  next h_known =>
    refine iff_of_true ?_ (.inl h_known)
    simp only [List.all_cons, List.all_nil, h.eventId, Bool.and_self]
  next h_unknown =>
    rw [or_iff_right h_unknown]
    have h_phone : event.attributes.phone.toList.all storable = true := by
      refine List.all_eq_true.mpr fun phone h_mem => ?_
      exact h.phone phone (Option.mem_toList.mp h_mem)
    simp only [List.all_append, List.all_cons, List.all_nil, h.eventId, h.subject, h_phone,
      Bool.and_true, Bool.true_and, Bool.and_eq_true, List.all_eq_true, Option.mem_toList]

/-- The names of members that a violation of the document can quote. -/
def quotable : Json Text → List String
  | .object members => Checked.names (.object members) ++
      ((members.lookup (Text.ofString "attributes")).map Checked.names).getD []
  | _ => []

/-- A violation quotes a declared name, or one of the document. -/
theorem attributes_quotes {violation : Violation}
    (h : violation ∈ (Contract.attributes casefold document).violations) {name : String}
    (h_name : name ∈ violation.loc) : storable name = true ∨ name ∈ Checked.names document := by
  unfold Contract.attributes at h
  split at h
  next members =>
    -- an attribute that is not declared is quoted as it came
    have h_closed : violation ∈ Checked.closed (Field.all.map Contract.fieldName) members
        (Contract.wrongFields casefold members) → storable name = true ∨
          name ∈ Checked.names (.object members) := by
      intro h_mem
      rcases Checked.mem_closed h_mem with h_wrong | h_quoted
      · -- the name of a declared field
        obtain ⟨field, -, h_field⟩ := List.mem_filterMap.mp h_wrong
        split at h_field
        · cases h_field
          rw [List.mem_singleton.mp h_name]
          exact .inl (by cases field <;> decide)
        · cases h_field
      · exact .inr (h_quoted name h_name)
    split at h
    · split at h
      · cases h
      · rw [List.mem_singleton.mp h] at h_name
        cases h_name
    · exact h_closed h
  next =>
    rw [List.mem_singleton.mp h] at h_name
    cases h_name

/-- A violation names a declared member, or quotes one that is there. -/
theorem sourceEvent_quotes {violation : Violation}
    (h : violation ∈ (Contract.sourceEvent casefold document).violations) {name : String}
    (h_name : name ∈ violation.loc) : storable name = true ∨ name ∈ quotable document := by
  unfold Contract.sourceEvent at h
  split at h
  next members =>
    -- a member that holds a single value is quoted by its own name
    have h_single : ∀ {α : Type} {check : Check α} {member : String}, storable member = true →
        violation ∈ (Checked.required member (Check.single check) members).violations →
          storable name = true := by
      intro α check member h_member h_mem
      have h_loc : violation.loc = [member] := by
        rcases Checked.mem_required h_mem with h_loc | ⟨value, inner, -, h_inner, h_loc⟩
        · exact h_loc
        · rw [h_loc, Checked.mem_single h_inner]
      rw [h_loc] at h_name
      rwa [List.mem_singleton.mp h_name]
    -- a violation inside `attributes` is quoted with both names
    have h_attributes : violation ∈ (Checked.required "attributes"
        (Contract.attributes casefold) members).violations →
          storable name = true ∨ name ∈ quotable (.object members) := by
      intro h_mem
      rcases Checked.mem_required h_mem with h_loc | ⟨value, inner, h_lookup, h_inner, h_loc⟩
      · rw [h_loc] at h_name
        rw [List.mem_singleton.mp h_name]
        exact .inl (by decide)
      · rw [h_loc] at h_name
        rcases List.mem_cons.mp h_name with rfl | h_name
        · exact .inl (by decide)
        · refine (attributes_quotes h_inner h_name).imp_right fun h_quoted => ?_
          refine List.mem_append_right _ ?_
          rw [h_lookup]
          exact h_quoted
    dsimp only at h
    split at h
    · cases h
    · rcases Checked.mem_closed h with h_found | h_quoted
      · simp only [List.mem_append] at h_found
        rcases h_found with ((h_found | h_found) | h_found) | h_found
        · exact .inl (h_single (by decide) h_found)
        · exact .inl (h_single (by decide) h_found)
        · exact .inl (h_single (by decide) h_found)
        · exact h_attributes h_found
      · exact .inr (List.mem_append_left _ (h_quoted name h_name))
  next =>
    rw [List.mem_singleton.mp h] at h_name
    cases h_name

/-- A body whose names have no U+0000 is reported without one. -/
theorem body_quotes {errors : List Violation}
    (h : Contract.body casefold document = .error errors)
    (h_names : ∀ name ∈ quotable document, storable name = true) {violation : Violation}
    (h_mem : violation ∈ errors) {name : String} (h_name : name ∈ violation.loc) :
    storable name = true := by
  unfold Contract.body at h
  split at h
  · cases h
    rw [List.mem_singleton.mp h_mem] at h_name
    rw [List.mem_singleton.mp h_name]
    decide
  · obtain ⟨found, h_found, rfl⟩ := mapError_eq_error.mp h
    obtain ⟨inner, h_inner, rfl⟩ := List.mem_map.mp h_mem
    rcases List.mem_cons.mp h_name with rfl | h_name
    · decide
    · have h_quotes := sourceEvent_quotes (Checked.mem_violations.mpr ⟨found, h_found, h_inner⟩)
        h_name
      exact h_quotes.elim id (h_names name)

end Contract

/-! ### Credentials -/

section Credentials

variable {token : String} {entries : List (Actor × String)}

/-- The token is compared with others up to the first that is the same; both must be ASCII. -/
def Comparable (token : String) (entries : List (Actor × String)) : Prop :=
  ∀ before entry after, entries = before ++ entry :: after →
    (∀ other ∈ before, other.2 ≠ token) → isAscii token = true ∧ isAscii entry.2 = true

/-- The tokens are compared one by one, up to the right one. -/
theorem comparable_cons {entry : Actor × String} :
    Comparable token (entry :: entries) ↔
      (isAscii token = true ∧ isAscii entry.2 = true) ∧
        (entry.2 ≠ token → Comparable token entries) := by
  constructor
  · intro h
    refine ⟨h [] entry entries rfl (fun _ h_mem => absurd h_mem List.not_mem_nil), ?_⟩
    intro h_ne before other after h_split h_before
    refine h (entry :: before) other after (congrArg (entry :: ·) h_split) fun other' h_mem => ?_
    rcases List.mem_cons.mp h_mem with rfl | h_mem
    · exact h_ne
    · exact h_before other' h_mem
  · rintro ⟨h_head, h_rest⟩ before other after h_split h_before
    cases before with
    | nil =>
      obtain rfl : entry = other := (List.cons.inj h_split).1
      exact h_head
    | cons first before =>
      obtain ⟨rfl, h_tail⟩ := List.cons.inj h_split
      exact h_rest (h_before entry List.mem_cons_self) before other after h_tail
        fun other' h_mem => h_before other' (List.mem_cons_of_mem _ h_mem)

/-- What `principal` makes of a token. -/
inductive Authenticated (token : String) (entries : List (Actor × String)) :
    Except Refusal Actor → Prop
  | incomparable (h : ¬Comparable token entries) : Authenticated token entries (.error .typeError)
  | unknown (h : Comparable token entries) (h_unknown : ∀ actor, (actor, token) ∉ entries) :
      Authenticated token entries (.error .authenticationRequired)
  | known (actor : Actor) (h : Comparable token entries) (h_mem : (actor, token) ∈ entries) :
      Authenticated token entries (.ok actor)

/-- The cases of `authenticate`. -/
theorem authenticate_cases (h_named : ∀ entry ∈ entries, entry.2 ≠ "") :
    Authenticated token entries (authenticate token entries) := by
  induction entries with
  | nil =>
    refine .unknown (fun before entry after h_split => ?_) fun actor => List.not_mem_nil
    simp at h_split
  | cons entry rest ih =>
    obtain ⟨actor, configured⟩ := entry
    -- an entry without a token would be passed over
    have h_configured : configured ≠ "" := h_named _ List.mem_cons_self
    have h_rest := ih fun other h_mem => h_named other (List.mem_cons_of_mem _ h_mem)
    unfold authenticate
    rw [if_neg h_configured]
    unfold compareDigest
    by_cases h_ascii : (isAscii token && isAscii configured) = true
    · rw [if_pos h_ascii]
      rw [Bool.and_eq_true] at h_ascii
      by_cases h_same : token = configured
      · -- the first token that is the same
        subst h_same
        rw [decide_eq_true rfl]
        exact .known actor (comparable_cons.mpr ⟨h_ascii, fun h_ne => absurd rfl h_ne⟩)
          List.mem_cons_self
      · rw [decide_eq_false h_same]
        have h_comparable : Comparable token ((actor, configured) :: rest) ↔
            Comparable token rest := by
          rw [comparable_cons, and_iff_right h_ascii]
          exact ⟨fun h => h (Ne.symm h_same), fun h _ => h⟩
        -- the entry is not the one: the rest decides, and its exceptions are ours
        show Authenticated token ((actor, configured) :: rest) (authenticate token rest)
        generalize authenticate token rest = result at h_rest
        cases h_rest with
        | incomparable h => exact .incomparable (mt h_comparable.mp h)
        | known actor' h h_mem =>
          exact .known actor' (h_comparable.mpr h) (List.mem_cons_of_mem _ h_mem)
        | unknown h h_unknown =>
          refine .unknown (h_comparable.mpr h) fun actor' h_mem => ?_
          rcases List.mem_cons.mp h_mem with h_eq | h_mem
          · exact h_same (congrArg Prod.snd h_eq)
          · exact h_unknown actor' h_mem
    · rw [if_neg h_ascii]
      -- `compare_digest` raises on a text that is not ASCII
      refine .incomparable fun h => h_ascii ?_
      rw [Bool.and_eq_true]
      exact (comparable_cons.mp h).1

/-- A service that has started has a token for every role, and no two roles share one. -/
theorem Tokens.sound (tokens : Tokens) :
    (∀ entry ∈ tokens.entries, entry.2 ≠ "") ∧
      ∀ actor actor' token, (actor, token) ∈ tokens.entries → (actor', token) ∈ tokens.entries →
        actor = actor' := by
  obtain ⟨entries, h_valid⟩ := tokens
  simp only [lifespan, Bool.and_eq_true, decide_eq_true_eq] at h_valid
  refine ⟨fun entry h_mem h_empty => ?_, fun actor actor' token h_mem h_mem' => ?_⟩
  · have h_length := of_decide_eq_true (List.all_eq_true.mp h_valid.1.2 entry h_mem)
    rw [h_empty] at h_length
    exact absurd h_length (by decide)
  · exact congrArg Prod.fst (List.inj_on_of_nodup_map h_valid.2 h_mem h_mem' rfl)

end Credentials

/-! ### Durable outcomes -/

/-- One exception and one audit record report the violations. -/
structure Reported (now : Time) (actor : Actor) (errors : List Violation) (db : Db)
    (outcome : Answer × Db) : Prop where
  answer : outcome.1 = .invalidContract db.nextException
  exceptions : outcome.2.exceptions = db.exceptions ++
    [⟨.invalidContract, .text path, .invalidContract errors, .opened, now⟩]
  audit : outcome.2.auditLog = db.auditLog ++
    [⟨now, actor, .text path, policyHash, .invalidContract db.nextException errors⟩]

/-- The event is stored, or audited as a duplicate, or a conflict with the stored one. -/
inductive Recorded (now : Time) (source : Source) (event : SourceEvent) (db : Db)
    (outcome : Answer × Db) : Prop
  | stored (result : IngestResult) (h_answer : outcome.1 = .ingested (.recorded result))
      (h_new : db.events.lookup (source, event.eventId) = none)
      (h_event : outcome.2.events.lookup (source, event.eventId) =
        some ⟨digest event, event, result, now⟩)
  | duplicate (previous : Event) (h_answer : outcome.1 = .ingested (.duplicate previous.result))
      (h_event : db.events.lookup (source, event.eventId) = some previous)
      (h_audit : outcome.2.auditLog = db.auditLog ++
        [⟨now, source.actor, .text event.eventId, policyHash, .sourceDuplicate (digest event)⟩])
  | conflict (previous : Event) (h_answer : outcome.1 = .ingested (.conflict db.nextException))
      (h_event : db.events.lookup (source, event.eventId) = some previous)
      (h_exception : outcome.2.exceptions = db.exceptions ++
        [⟨.idempotencyConflict, .text event.eventId,
          .idempotencyConflict source previous.hash (digest event), .opened, now⟩])

/-- What is to become of the body of a source. One that cannot be read is no event. -/
def Accounted (casefold : String → String) (now : Time) (actor : Actor) (source : Source)
    (body : Body) (db : Db) (outcome : Answer × Db) : Prop :=
  match body with
  | .unreadable => ∃ errors, Reported now actor errors db outcome
  | .document value =>
    match Contract.body casefold value with
    | .error errors => Reported now actor errors db outcome
    | .ok event => Recorded now source event db outcome

/-- The request has a durable outcome; `entries` are the tokens. -/
structure Durable (tokens : Tokens) (casefold : String → String) (now : Time) (request : Request)
    (db : Db) (outcome : Answer × Db) : Prop where
  available : outcome.1 ≠ .unavailable
  unauthenticated : (∀ actor, (actor, supplied request.authorization) ∉ tokens.entries) →
    outcome = (.authenticationRequired, db)
  forbidden : ∀ actor, (actor, supplied request.authorization) ∈ tokens.entries →
    sourceOf actor = none → outcome = (.roleNotAllowed, db)
  submitted : ∀ actor source, (actor, supplied request.authorization) ∈ tokens.entries →
    sourceOf actor = some source →
      Accounted casefold now actor source request.body db outcome

/-- What the request must not hold. -/
structure Harmless (tokens : Tokens) (casefold : String → String) (request : Request) (db : Db) :
    Prop where
  readable : request.body ≠ .unreadable
  comparable : Comparable (supplied request.authorization) tokens.entries
  /-- The report of a violation quotes no U+0000. -/
  quotable : ∀ actor source value errors,
    (actor, supplied request.authorization) ∈ tokens.entries → sourceOf actor = some source →
      request.body = .document value → Contract.body casefold value = .error errors →
        ∀ violation ∈ errors, ∀ name ∈ violation.loc, storable name = true
  /-- The email and the owner have no U+0000, unless the id is known. -/
  storable : ∀ actor source value event,
    (actor, supplied request.authorization) ∈ tokens.entries → sourceOf actor = some source →
      request.body = .document value → Contract.body casefold value = .ok event →
        (db.events.lookup (source, event.eventId)).isSome ∨ Storable event

/-! ### The database of the service -/

/-- What `ingest` needs of the source tables: every identity has its customer. -/
structure Ready (db : Db) : Prop where
  drawn : CustomersDrawn db
  identities : IdentitySound db.sources

/-- Every transaction keeps the database ready. -/
theorem Ready.step {db : Db} (h : Ready db) (entry : Entry) : Ready (db.step entry) where
  drawn := h.drawn.step entry
  identities :=
    sources_invariant (fun _ _ _ => IdentitySound.step) h.drawn entry h.identities

section Service

variable {tokens : Tokens} {casefold : String → String} {now : Time} {request : Request} {db : Db}

/-- A submission leaves the sources alone, or is the transaction `ingest`. -/
theorem Ready.post (h : Ready db) : Ready (post tokens casefold now request db).2 := by
  unfold Api.post
  -- the body, the credentials and the source can only end the request
  split
  · exact h
  split
  · exact h
  · exact h
  split
  · exact h
  next source _ =>
  split
  · -- the report is written to other tables
    unfold invalid
    split
    · exact h
    · exact h
    split
    · exact ⟨h.drawn, h.identities⟩
    · exact h
  next event _ =>
    unfold ingest
    split
    · have h_step := h.step ⟨now, .ingest source event⟩
      change Ready ((Service.ingest now source event db).commit db) at h_step
      split
      next reply db' h_ingest =>
        rw [h_ingest] at h_step
        exact h_step
      next => exact h
    · exact h

/-- So it is ready in every run. -/
theorem ready (tokens : Tokens) (casefold : String → String) (registry : Table String Destination)
    (owners : Table String String) (happenings : List Happening) :
    Ready (database tokens casefold registry owners happenings) := by
  refine run_invariant (I := Ready) ⟨fun _ _ h => (by cases h), fun _ _ h => (by cases h),
    fun _ _ _ _ h => (by cases h)⟩ (fun db happening h => ?_) happenings
  cases happening with
  | commit entry => exact h.step entry
  | post now request => exact h.post

/-- An event that the database takes is recorded. -/
theorem ingest_recorded {source : Source} {event : SourceEvent} (h : Ready db)
    (h_storable : (carried source event db).all storable = true) :
    Recorded now source event db (ingest now source event db) := by
  unfold ingest
  rw [if_pos h_storable]
  cases h_ingest : Service.ingest now source event db with
  | error fault =>
    -- the customer of an identity would be missing
    unfold Service.ingest at h_ingest
    split at h_ingest
    · split at h_ingest <;> cases h_ingest
    split at h_ingest
    next customerId h_identity =>
      obtain ⟨row, h_row⟩ := h.identities.named _ customerId h_identity
      have h_row : db.customers.lookup customerId = some row := h_row
      rw [h_row] at h_ingest
      cases h_ingest
    next =>
      split at h_ingest <;> cases h_ingest
  | ok recorded =>
    obtain ⟨reply, db'⟩ := recorded
    cases Service.ingest_cases h_ingest with
    | conflict previous h_event => exact .conflict previous rfl h_event rfl
    | duplicate previous h_event => exact .duplicate previous rfl h_event rfl
    | reviewed reason h_event h_reason =>
      exact .stored _ rfl h_event (Table.lookup_insert_self _ _ _)
    | known customerId row h_event h_identity h_row =>
      exact .stored _ rfl h_event (Table.lookup_insert_self _ _ _)
    | enrolled h_event h_identity h_source h_email h_named h_unknown =>
      exact .stored _ rfl h_event (Table.lookup_insert_self _ _ _)

/-- The tokens and the header as `principal` sees them. -/
theorem principal_cases (tokens : Tokens) (authorization : String) :
    Authenticated (supplied authorization) tokens.entries (principal tokens authorization) :=
  authenticate_cases tokens.sound.1

/-- No role has the token, and nothing is asked of the body. -/
theorem durable_of_unknown {outcome : Answer × Db}
    (h_unknown : ∀ actor, (actor, supplied request.authorization) ∉ tokens.entries) :
    Durable tokens casefold now request db outcome ↔
      outcome = (.authenticationRequired, db) := by
  constructor
  · exact fun h => h.unauthenticated h_unknown
  · rintro rfl
    exact ⟨by simp, fun _ => rfl, fun actor h_mem => absurd h_mem (h_unknown actor),
      fun actor _ h_mem => absurd h_mem (h_unknown actor)⟩

/-- The token is that of a role that may not submit events. -/
theorem durable_of_role {actor : Actor} {outcome : Answer × Db}
    (h_mem : (actor, supplied request.authorization) ∈ tokens.entries)
    (h_source : sourceOf actor = none) :
    Durable tokens casefold now request db outcome ↔ outcome = (.roleNotAllowed, db) := by
  constructor
  · exact fun h => h.forbidden actor h_mem h_source
  · rintro rfl
    refine ⟨by simp, fun h_unknown => absurd h_mem (h_unknown actor), fun _ _ _ => rfl,
      fun actor' source h_mem' h_source' => ?_⟩
    obtain rfl := tokens.sound.2 _ _ _ h_mem h_mem'
    rw [h_source] at h_source'
    cases h_source'

/-- For a source, durable is answered and accounted for. -/
theorem durable_of_source {actor : Actor} {source : Source} {outcome : Answer × Db}
    (h_mem : (actor, supplied request.authorization) ∈ tokens.entries)
    (h_source : sourceOf actor = some source) :
    Durable tokens casefold now request db outcome ↔ outcome.1 ≠ .unavailable ∧
      Accounted casefold now actor source request.body db outcome := by
  constructor
  · exact fun h => ⟨h.available, h.submitted actor source h_mem h_source⟩
  · rintro ⟨h_available, h_accounted⟩
    refine ⟨h_available, fun h_unknown => absurd h_mem (h_unknown actor),
      fun actor' h_mem' h_none => ?_, fun actor' source' h_mem' h_source' => ?_⟩
    · obtain rfl := tokens.sound.2 _ _ _ h_mem h_mem'
      rw [h_source] at h_none
      cases h_none
    · obtain rfl := tokens.sound.2 _ _ _ h_mem h_mem'
      obtain rfl := Option.some.inj (h_source.symm.trans h_source')
      exact h_accounted

/-- A body that breaks the contract is reported, where the report can be stored. -/
theorem invalid_accounted_iff {actor : Actor} {source : Source} {value : Json Text}
    {errors : List Violation} (h_principal : principal tokens request.authorization = .ok actor)
    (h_body : request.body = .document value)
    (h_contract : Contract.body casefold value = .error errors) :
    ((invalid tokens now request.authorization errors db).1 ≠ .unavailable ∧
      Accounted casefold now actor source request.body db
        (invalid tokens now request.authorization errors db)) ↔
      ∀ violation ∈ errors, ∀ name ∈ violation.loc, storable name = true := by
  have h_all : errors.all (·.loc.all storable) = true ↔
      ∀ violation ∈ errors, ∀ name ∈ violation.loc, storable name = true := by
    simp only [List.all_eq_true]
  unfold Accounted invalid
  simp only [h_body, h_contract, h_principal]
  rw [← h_all]
  split
  next h_storable => exact iff_of_true ⟨by simp, ⟨rfl, rfl, rfl⟩⟩ h_storable
  next h_not => exact iff_of_false (fun h => h.1 rfl) h_not

/-- An event is recorded, where the database takes it. -/
theorem ingest_accounted_iff {actor : Actor} {source : Source} {value : Json Text}
    {event : SourceEvent} (h : Ready db) (h_body : request.body = .document value)
    (h_contract : Contract.body casefold value = .ok event) :
    ((ingest now source event db).1 ≠ .unavailable ∧
      Accounted casefold now actor source request.body db (ingest now source event db)) ↔
      (db.events.lookup (source, event.eventId)).isSome ∨ Storable event := by
  rw [← carried_storable_iff (body_clean h_contract)]
  unfold Accounted
  simp only [h_body, h_contract]
  by_cases h_storable : (carried source event db).all storable = true
  · have h_recorded : Recorded now source event db (ingest now source event db) :=
      ingest_recorded h h_storable
    refine iff_of_true ⟨?_, h_recorded⟩ h_storable
    cases h_recorded with
    | stored _ h_answer | duplicate _ h_answer | conflict _ h_answer =>
      rw [h_answer]
      simp
  · refine iff_of_false (fun h => h.1 ?_) h_storable
    unfold ingest
    rw [if_neg h_storable]

/-- For a known source, harmless is that nothing has a zero in it. -/
theorem harmless_of_known {actor : Actor} {source : Source} {value : Json Text}
    (h_comparable : Comparable (supplied request.authorization) tokens.entries)
    (h_mem : (actor, supplied request.authorization) ∈ tokens.entries)
    (h_source : sourceOf actor = some source) (h_body : request.body = .document value) :
    Harmless tokens casefold request db ↔
      (∀ errors, Contract.body casefold value = .error errors →
        ∀ violation ∈ errors, ∀ name ∈ violation.loc, Api.storable name = true) ∧
      ∀ event, Contract.body casefold value = .ok event →
        (db.events.lookup (source, event.eventId)).isSome ∨ Storable event := by
  constructor
  · exact fun h => ⟨fun errors => h.quotable actor source value errors h_mem h_source h_body,
      fun event => h.storable actor source value event h_mem h_source h_body⟩
  · rintro ⟨h_quotable, h_storable⟩
    refine ⟨?_, h_comparable, fun actor' source' value' errors h_mem' h_source' h_body' => ?_,
      fun actor' source' value' event h_mem' h_source' h_body' => ?_⟩
    · rw [h_body]
      exact Body.noConfusion
    · obtain rfl := Body.document.inj (h_body.symm.trans h_body')
      exact h_quotable errors
    · obtain rfl := Body.document.inj (h_body.symm.trans h_body')
      obtain rfl := tokens.sound.2 _ _ _ h_mem h_mem'
      obtain rfl := Option.some.inj (h_source.symm.trans h_source')
      exact h_storable event

/-- A body that cannot be read is answered 400, whoever sends it. -/
theorem unreadable_not_durable (h_body : request.body = .unreadable) :
    ¬Durable tokens casefold now request db (post tokens casefold now request db) := by
  intro h
  have h_post : post tokens casefold now request db = (.unreadable, db) := by
    unfold post
    rw [h_body]
  rw [h_post] at h
  by_cases h_unknown : ∀ actor, (actor, supplied request.authorization) ∉ tokens.entries
  · cases (durable_of_unknown h_unknown).mp h
  · obtain ⟨actor, h_mem⟩ := not_forall_not.mp h_unknown
    cases h_source : sourceOf actor with
    | none => cases (durable_of_role h_mem h_source).mp h
    | some source =>
      obtain ⟨-, h_accounted⟩ := (durable_of_source h_mem h_source).mp h
      unfold Accounted at h_accounted
      rw [h_body] at h_accounted
      obtain ⟨errors, h_reported⟩ := h_accounted
      cases h_reported.answer

/-- A submission has a durable outcome exactly if it is harmless. -/
theorem durable_iff (h : Ready db) :
    Durable tokens casefold now request db (post tokens casefold now request db) ↔
      Harmless tokens casefold request db := by
  -- one case per exit of the route, in its order
  cases h_body : request.body with
  -- the body is read before anything else, and nothing catches what that raises
  | unreadable =>
    exact iff_of_false (unreadable_not_durable h_body) fun h => h.readable h_body
  | document value =>
    have h_readable : request.body ≠ .unreadable := by
      rw [h_body]
      exact Body.noConfusion
    have h_cases := principal_cases tokens request.authorization
    cases h_principal : principal tokens request.authorization with
    | error refusal =>
      rw [h_principal] at h_cases
      cases h_cases with
      | incomparable h_not =>
        refine iff_of_false (fun h => h.available ?_) fun h => h_not h.comparable
        simp only [post, h_body, h_principal]
      | unknown h_comparable h_unknown =>
        have h_post : post tokens casefold now request db = (.authenticationRequired, db) := by
          simp only [post, h_body, h_principal]
        refine iff_of_true ((durable_of_unknown h_unknown).mpr h_post) ⟨h_readable, h_comparable,
          fun actor _ _ _ h_mem => absurd h_mem (h_unknown actor),
          fun actor _ _ _ h_mem => absurd h_mem (h_unknown actor)⟩
    | ok actor =>
      rw [h_principal] at h_cases
      cases h_cases with
      | known _ h_comparable h_mem =>
        -- the actor is known: it speaks for a source, or is refused
        cases h_source : sourceOf actor with
        | none =>
          have h_post : post tokens casefold now request db = (.roleNotAllowed, db) := by
            simp only [post, h_body, h_principal, h_source]
          refine iff_of_true ((durable_of_role h_mem h_source).mpr h_post) ⟨h_readable,
            h_comparable, fun actor' source _ _ h_mem' h_source' => ?_,
              fun actor' source _ _ h_mem' h_source' => ?_⟩ <;>
          · obtain rfl := tokens.sound.2 _ _ _ h_mem h_mem'
            rw [h_source] at h_source'
            cases h_source'
        | some source =>
          rw [durable_of_source h_mem h_source,
            harmless_of_known h_comparable h_mem h_source h_body]
          -- the report quotes what came; the event carries it
          cases h_contract : Contract.body casefold value with
          | error errors =>
            have h_post : post tokens casefold now request db =
                invalid tokens now request.authorization errors db := by
              simp only [post, h_body, h_principal, h_source, h_contract]
            rw [h_post, invalid_accounted_iff h_principal h_body h_contract]
            simp
          | ok event =>
            have h_post : post tokens casefold now request db = ingest now source event db := by
              simp only [post, h_body, h_principal, h_source, h_contract]
            rw [h_post, ingest_accounted_iff h h_body h_contract]
            simp

end Service

/-- **A submission has a durable outcome exactly if it is harmless**, in every state that the
service reaches. -/
theorem submission_durable_iff (tokens : Tokens) (casefold : String → String)
    (registry : Table String Destination) (owners : Table String String)
    (happenings : List Happening) (now : Time) (request : Request) :
    let db := database tokens casefold registry owners happenings
    Durable tokens casefold now request db (post tokens casefold now request db) ↔
      Harmless tokens casefold request db :=
  durable_iff (ready tokens casefold registry owners happenings)

/-- A token for each role. -/
def credentials : Tokens where
  entries := [(.crm, "crm-token-0123"), (.consent, "consent-token-0"),
    (.scoring, "scoring-token-0"), (.privacy, "privacy-token-0"), (.agent, "agent-token-012"),
    (.approver, "approver-token"), (.operator, "operator-token")]
  valid := by decide +kernel

/-- An event of `crm` whose owner is U+0000. -/
def nullOwner : Request where
  authorization := "Bearer crm-token-0123"
  body := .document (.object [(Text.ofString "event_id", .string (Text.ofString "event")),
    (Text.ofString "subject", .string (Text.ofString "subject")),
    (Text.ofString "sequence", .integer 1),
    (Text.ofString "attributes",
      .object [(Text.ofString "owner", .string [.scalar (Char.ofNat 0)])])])

/-- The contract accepts the event, and the database does not. -/
theorem null_owner_unavailable :
    ¬ ∀ (tokens : Tokens) (casefold : String → String) (registry : Table String Destination)
      (owners : Table String String) (happenings : List Happening) (now : Time)
      (request : Request),
      let db := database tokens casefold registry owners happenings
      Durable tokens casefold now request db (post tokens casefold now request db) := by
  intro h
  have h_available := (h credentials id ∅ ∅ [] 0 nullOwner).available
  exact h_available (by decide +kernel)

end ControlPlane.Api
