import ControlPlane.Governance.Submission
import ControlPlane.Model.Endpoints

/-!
# What a request is answered

A request asks for the command of its route, which is put together from its path, its query and its
body under the name of a principal (`Asks`). What it is answered is then a matter of five
questions: can the body be read, whose token is it, has that role the route, is the command within
its contract, and does the transaction return. `Answers` has the answer to each, with what is
committed for it: the transaction of the command where it returns, the report of the violations,
and otherwise nothing.

`serve_answers` says that the service answers so, and `Answers.of_performs` that it refuses nothing
without one of the reasons.
-/

namespace ControlPlane.Api

open Framework

/-! ### Commits -/

/-- A change of the database: a transaction, or the report of violations. -/
inductive Commit
  | tx (entry : Entry)
  | report (now : Time) (actor : Actor) (path : String) (errors : List Violation)

/-- What a commit does to the database. -/
def Commit.apply (db : Db) : Commit → Db
  | .tx entry => db.step entry
  | .report now actor path errors =>
    (db.exception now .invalidContract (.text path) (.invalidContract errors)).audit now actor
      (.text path) (.invalidContract db.nextException errors)

/-! ### Commands -/

/-- A transaction, or the rows that are to be read. -/
inductive Command
  | tx (tx : Tx)
  | customer (id : Uuid)
  | proposal (id : Uuid)
  | exceptions (after : ℤ)
  | audit (after : ℤ)

/-- What is committed for a command that is accepted. -/
def Command.commits (now : Time) : Command → List Commit
  | .tx transaction => [.tx ⟨now, transaction⟩]
  | .customer _ | .proposal _ | .exceptions _ | .audit _ => []

/-- The texts of a command; everything else in it is of a type without the character U+0000. -/
def Command.texts : Command → List String
  | .tx (.ingest _ event) => [event.eventId, event.subject] ++ event.attributes.email.toList ++
    event.attributes.phone.toList ++ event.attributes.owner.toList
  | .tx (.link _ command) => [command.subject, command.evidence]
  | .tx (.propose _ command) => [command.rationale]
  | .tx (.resolve _ _ command) => [command.note]
  | _ => []

/-- The roles that have the route; `/health` asks for none. -/
def Route.roles : Route → List Actor
  | .health => []
  | .events => [.crm, .consent, .scoring, .privacy]
  | .identityLinks | .exceptions _ | .resolve _ | .audit _ => [.operator]
  | .proposals => [.agent]
  | .approve _ => [.approver]
  | .customer _ | .proposal _ => [.agent, .operator, .approver]

/-- The routes with a body. -/
def Route.takesBody : Route → Bool
  | .events | .identityLinks | .proposals | .approve _ | .resolve _ => true
  | .health | .customer _ | .proposal _ | .exceptions _ | .audit _ => false

/-- What a request to the route asks for under the name of the principal, if its parameters are
valid, and their violations if not. -/
inductive Asks (parsers : Contract.Parsers) (utc utc' : Time) (actor : Actor) :
    Route → Content → Checked Command → Prop
  | events (value : Json Text) (source : Source) (h_source : source.actor = actor) :
      Asks parsers utc utc' actor .events (.readable (.document value))
        ((Contract.body parsers.casefold value).map fun event => .tx (.ingest source event))
  | link (value : Json Text) :
      Asks parsers utc utc' actor .identityLinks (.readable (.document value))
        ((Contract.parameter (Contract.link parsers) value).map fun command =>
          .tx (.link actor command))
  | customer (text : String) (content : Content) :
      Asks parsers utc utc' actor (.customer text) content
        ((Contract.pathUuid parsers "customer_id" text).map .customer)
  | propose (value : Json Text) :
      Asks parsers utc utc' actor .proposals (.readable (.document value))
        ((Contract.parameter (Contract.proposal parsers) value).map fun command =>
          .tx (.propose actor command))
  | approve (text : String) (value : Json Text) :
      Asks parsers utc utc' actor (.approve text) (.readable (.document value))
        (((Contract.pathUuid parsers "proposal_id" text).both
          (Contract.parameter Contract.approval value)).map fun (id, command) =>
            .tx (.approve utc utc' actor id command))
  | proposal (text : String) (content : Content) :
      Asks parsers utc utc' actor (.proposal text) content
        ((Contract.pathUuid parsers "proposal_id" text).map .proposal)
  | exceptions (text : Option String) (content : Content) :
      Asks parsers utc utc' actor (.exceptions text) content
        ((Contract.after parsers text).map .exceptions)
  | resolve (text : String) (value : Json Text) :
      Asks parsers utc utc' actor (.resolve text) (.readable (.document value))
        (((Contract.integerAt parsers "path" "exception_id" text).both
          (Contract.parameter Contract.resolution value)).map fun (id, command) =>
            .tx (.resolve actor id.toNat command))
  | audit (text : Option String) (content : Content) :
      Asks parsers utc utc' actor (.audit text) content
        ((Contract.after parsers text).map .audit)

/-- What a command comes to at the database: a reply, or what is raised. -/
inductive Performs (now : Time) (db : Db) : Command → Except Fault Reply → Prop
  | ingest (source : Source) (event : SourceEvent) :
      Performs now db (.tx (.ingest source event))
        ((Service.ingest now source event db).answer.map .ingested)
  | link (actor : Actor) (command : Contract.Link) :
      Performs now db (.tx (.link actor command))
        ((Service.link now actor command db).answer.map fun _ => .linked)
  | propose (actor : Actor) (command : Contract.Proposal) :
      Performs now db (.tx (.propose actor command))
        ((Service.propose now actor command db).answer.map .proposed)
  | approve (utc utc' : Time) (actor : Actor) (id : Uuid) (command : Contract.Approval) :
      Performs now db (.tx (.approve utc utc' actor id command))
        ((Service.approve now utc utc' actor id command db).answer.map .approved)
  | resolve (actor : Actor) (id : ℕ) (command : Contract.Resolution) :
      Performs now db (.tx (.resolve actor id command))
        ((Service.resolve now actor id command db).answer.map .resolved)
  | customer (id : Uuid) (row : Customer) (h_row : db.customers.lookup id = some row) :
      Performs now db (.customer id) (.ok (.customer row))
  | noCustomer (id : Uuid) (h_row : db.customers.lookup id = none) :
      Performs now db (.customer id) (.error .customerNotFound)
  | proposal (id : Uuid) (row : Proposal) (h_row : db.proposals.lookup id = some row) :
      Performs now db (.proposal id) (.ok (.proposal row (db.jobs.lookup id)))
  | noProposal (id : Uuid) (h_row : db.proposals.lookup id = none) :
      Performs now db (.proposal id) (.error .proposalNotFound)
  | exceptions (after : ℤ) :
      Performs now db (.exceptions after)
        (.ok (.exceptions (page 100 after.toNat (numbered db.exceptions))))
  | audit (after : ℤ) :
      Performs now db (.audit after)
        (.ok (.audit (page 100 after.toNat (numbered db.auditLog))))

/-! ### Answers -/

/-- The header carries the token of the role. -/
abbrev Carries (tokens : Tokens) (call : Call) (actor : Actor) : Prop :=
  (actor, supplied call.authorization) ∈ tokens.entries

/-- The character that no column holds. -/
def zero : Char := Char.ofNat 0

/-- The status of what is raised: 404 for a `LookupError`, 409 for a `ValueError`, and 503 for
everything else. -/
inductive Refuses (fault : Fault) : Response → Prop
  | missing (h : fault ∈ [.customerNotFound, .proposalNotFound, .exceptionNotFound]) :
      Refuses fault (.missing fault)
  | conflict (h : fault ∈ [.staleContext, .identityRebindingForbidden,
      .multipleAuthoritativeRecordsRequireReviewedMigration, .exceptionAlreadyResolved,
      .requiresNewSourceEventOrProposal, .jobNotDead, .destinationNotAuthorized,
      .destinationOverloaded]) :
      Refuses fault (.conflict fault)
  | unavailable (h : fault ∉ [.customerNotFound, .proposalNotFound, .exceptionNotFound,
      .staleContext, .identityRebindingForbidden,
      .multipleAuthoritativeRecordsRequireReviewedMigration, .exceptionAlreadyResolved,
      .requiresNewSourceEventOrProposal, .jobNotDead, .destinationNotAuthorized,
      .destinationOverloaded]) :
      Refuses fault .unavailable

section Answers

variable (tokens : Tokens) (parsers : Contract.Parsers) (now utc utc' : Time) (call : Call)
  (db : Db)

/-- The body, where the route has one, can be decoded. -/
def Call.Decodable : Prop := call.route.takesBody → call.content ≠ .readable .unreadable

/-- The violations of a request. A body that is no JSON is one for every principal, the parameters
are looked at for the roles of the route. -/
inductive Violates (actor : Actor) : List Violation → Prop
  | malformed (position : ℕ) (h_body : call.route.takesBody)
      (h_content : call.content = .malformed position) :
      Violates actor [⟨["body", toString position], "json_invalid"⟩]
  | parameters (errors : List Violation) (h_role : actor ∈ call.route.roles)
      (h_asks : Asks parsers utc utc' actor call.route call.content (.error errors)) :
      Violates actor errors

/-- Why a request is refused. -/
inductive Refused : Response → Prop
  | unreadable (h_body : call.route.takesBody) (h_content : call.content = .readable .unreadable) :
      Refused .unreadable
  | incomparable (h_route : call.route ≠ .health) (h_decodable : call.Decodable)
      (h_token : ¬Comparable (supplied call.authorization) tokens.entries) :
      Refused .unavailable
  | unauthenticated (h_route : call.route ≠ .health) (h_decodable : call.Decodable)
      (h_unknown : ∀ actor, ¬Carries tokens call actor) :
      Refused .authenticationRequired
  | role (actor : Actor) (h_route : call.route ≠ .health) (h_token : Carries tokens call actor)
      (h_role : actor ∉ call.route.roles)
      (h_body : call.route.takesBody → ∃ value, call.content = .readable (.document value)) :
      Refused .roleNotAllowed
  | fault (actor : Actor) (command : Command) (fault : Fault) (response : Response)
      (h_token : Carries tokens call actor) (h_role : actor ∈ call.route.roles)
      (h_asks : Asks parsers utc utc' actor call.route call.content (.ok command))
      (h_performs : Performs now db command (.error fault)) (h_status : Refuses fault response) :
      Refused response
  | text (actor : Actor) (command : Command) (text : String) (h_token : Carries tokens call actor)
      (h_role : actor ∈ call.route.roles)
      (h_asks : Asks parsers utc utc' actor call.route call.content (.ok command))
      (h_text : text ∈ command.texts) (h_zero : zero ∈ text.toList) :
      Refused .unavailable
  | quoted (actor : Actor) (errors : List Violation) (text : String)
      (h_token : Carries tokens call actor)
      (h_violates : Violates parsers utc utc' call actor errors)
      (h_text : text = call.route.path ∨ ∃ violation ∈ errors, text ∈ violation.loc)
      (h_zero : zero ∈ text.toList) :
      Refused .unavailable

/-- **What a request is answered, and what is committed for it.** -/
inductive Answers : Response → List Commit → Prop
  | health (h_route : call.route = .health) : Answers (.ok .ready) []
  | accepted (actor : Actor) (command : Command) (reply : Reply)
      (h_token : Carries tokens call actor) (h_role : actor ∈ call.route.roles)
      (h_asks : Asks parsers utc utc' actor call.route call.content (.ok command))
      (h_performs : Performs now db command (.ok reply)) :
      Answers (.ok reply) (command.commits now)
  | reported (actor : Actor) (errors : List Violation) (h_token : Carries tokens call actor)
      (h_violates : Violates parsers utc utc' call actor errors) :
      Answers (.invalidContract db.nextException) [.report now actor call.route.path errors]
  | refused (response : Response)
      (h_refused : Refused tokens parsers now utc utc' call db response) :
      Answers response []

end Answers

/-! ### The reasons exclude each other -/

section Exclusion

variable {tokens : Tokens} {parsers : Contract.Parsers} {now utc utc' : Time} {call : Call}
  {db : Db} {actor : Actor}

/-- Every source has a principal of its own. -/
theorem Source.actor_injective : Function.Injective Source.actor := by
  intro source source' h
  cases source <;> cases source' <;> first | rfl | cases h

/-- A request asks for one thing. -/
theorem Asks.unique {route : Route} {content : Content} {asked asked' : Checked Command}
    (h : Asks parsers utc utc' actor route content asked)
    (h' : Asks parsers utc utc' actor route content asked') : asked = asked' := by
  cases h with
  | events value source h_source =>
    cases h' with
    | events _ source' h_source' =>
      rw [Source.actor_injective (h_source.trans h_source'.symm)]
  | _ => cases h'; rfl

/-- What has a body asks for something only with a document. -/
theorem Asks.document {route : Route} {content : Content} {asked : Checked Command}
    (h : Asks parsers utc utc' actor route content asked) (h_body : route.takesBody) :
    ∃ value, content = .readable (.document value) := by
  cases h with
  | events value | link value | propose value | approve _ value | resolve _ value =>
    exact ⟨value, rfl⟩
  | _ => cases h_body

/-- A command comes to one result. -/
theorem Performs.unique {command : Command} {result result' : Except Fault Reply}
    (h : Performs now db command result) (h' : Performs now db command result') :
    result = result' := by
  cases h with
  | customer id row h_row | noCustomer id h_row =>
    cases h' with
    | _ => simp_all
  | proposal id row h_row | noProposal id h_row =>
    cases h' with
    | _ => simp_all
  | _ => cases h'; rfl

/-- A request whose parameters are valid has no violations. -/
theorem Violates.not_asks {command : Command} {errors : List Violation}
    (h : Violates parsers utc utc' call actor errors) :
    ¬Asks parsers utc utc' actor call.route call.content (.ok command) := by
  intro h_asks
  cases h with
  | malformed position h_body h_content =>
    obtain ⟨value, h_value⟩ := h_asks.document h_body
    rw [h_content] at h_value
    cases h_value
  | parameters _ _ h_errors => cases h_asks.unique h_errors

/-- **Nothing is refused without a reason**: where the token, the role, the command and its texts
are in order and the transaction returns, there is one answer. -/
theorem Answers.of_performs {response : Response} {commits : List Commit} {command : Command}
    {reply : Reply} (h : Answers tokens parsers now utc utc' call db response commits)
    (h_comparable : Comparable (supplied call.authorization) tokens.entries)
    (h_token : Carries tokens call actor) (h_role : actor ∈ call.route.roles)
    (h_asks : Asks parsers utc utc' actor call.route call.content (.ok command))
    (h_performs : Performs now db command (.ok reply))
    (h_texts : ∀ text ∈ command.texts, zero ∉ text.toList) :
    response = .ok reply ∧ commits = command.commits now := by
  have h_same : ∀ actor', Carries tokens call actor' → actor' = actor :=
    fun actor' h_token' => tokens.sound.2 _ _ _ h_token' h_token
  cases h with
  | health h_route =>
    rw [h_route] at h_role
    cases h_role
  | accepted actor' command' reply' h_token' _ h_asks' h_performs' =>
    obtain rfl := h_same actor' h_token'
    cases h_asks.unique h_asks'
    cases h_performs.unique h_performs'
    exact ⟨rfl, rfl⟩
  | reported actor' errors h_token' h_violates =>
    obtain rfl := h_same actor' h_token'
    exact absurd h_asks h_violates.not_asks
  -- every refusal contradicts one of the hypotheses
  | refused _ h_refused =>
    exfalso
    cases h_refused with
    | unreadable h_body h_content =>
      obtain ⟨value, h_value⟩ := h_asks.document h_body
      rw [h_content] at h_value
      cases h_value
    | incomparable _ _ h_not => exact h_not h_comparable
    | unauthenticated _ _ h_unknown => exact h_unknown actor h_token
    | role actor' _ h_token' h_not =>
      obtain rfl := h_same actor' h_token'
      exact h_not h_role
    | fault actor' command' fault _ h_token' _ h_asks' h_performs' =>
      obtain rfl := h_same actor' h_token'
      cases h_asks.unique h_asks'
      cases h_performs.unique h_performs'
    | text actor' command' text h_token' _ h_asks' h_text h_zero =>
      obtain rfl := h_same actor' h_token'
      cases h_asks.unique h_asks'
      exact h_texts text h_text h_zero
    | quoted actor' errors text h_token' h_violates =>
      obtain rfl := h_same actor' h_token'
      exact h_violates.not_asks h_asks

end Exclusion

/-! ### The service -/

section Parts

variable {tokens : Tokens} {parsers : Contract.Parsers} {now utc utc' : Time} {call : Call}
  {db : Db} {actor : Actor}

variable (tokens parsers now utc utc' call db) in
/-- The answer with what is left behind is accounted for. -/
def Answered (outcome : Response × Db) : Prop :=
  ∃ commits, Answers tokens parsers now utc utc' call db outcome.1 commits ∧
    outcome.2 = run Commit.apply db commits

/-- A refusal leaves the database as it was. -/
theorem answered_refused {response : Response}
    (h : Refused tokens parsers now utc utc' call db response) :
    Answered tokens parsers now utc utc' call db (response, db) :=
  ⟨[], .refused response h, rfl⟩

/-- A text that cannot be stored has a zero in it. -/
theorem not_storable {text : String} (h : storable text ≠ true) : zero ∈ text.toList := by
  by_contra h_zero
  refine h (List.all_eq_true.mpr fun c h_c => decide_eq_true fun h_eq => h_zero ?_)
  obtain rfl : c = zero := by
    rw [← Char.ofNat_toNat c, h_eq]
    rfl
  exact h_c

/-- The principal comes first: the token is that of nobody, or the rest is up to its actor. -/
theorem principal_answered {outcome : Response × Db} (h_route : call.route ≠ .health)
    (h_decodable : call.Decodable)
    (h_incomparable : principal tokens call.authorization = .error .typeError →
      outcome = (.unavailable, db))
    (h_unknown : principal tokens call.authorization = .error .authenticationRequired →
      outcome = (.authenticationRequired, db))
    (h_known : ∀ actor, principal tokens call.authorization = .ok actor →
      Carries tokens call actor → Answered tokens parsers now utc utc' call db outcome) :
    Answered tokens parsers now utc utc' call db outcome := by
  have h_principal := principal_cases tokens call.authorization
  generalize principal tokens call.authorization = result at *
  cases h_principal with
  | incomparable h =>
    rw [h_incomparable rfl]
    exact answered_refused (.incomparable h_route h_decodable h)
  | unknown _ h_nobody =>
    rw [h_unknown rfl]
    exact answered_refused (.unauthenticated h_route h_decodable h_nobody)
  | known actor _ h_token => exact h_known actor rfl h_token

/-- The report of violations: stored, or refused for its token or its texts. -/
theorem report_answered {errors : List Violation} (h_route : call.route ≠ .health)
    (h_decodable : call.Decodable)
    (h_violates : ∀ actor, Carries tokens call actor →
      Violates parsers utc utc' call actor errors) :
    Answered tokens parsers now utc utc' call db (report tokens now call db errors) := by
  unfold report
  refine principal_answered h_route h_decodable (fun h => ?_) (fun h => ?_)
    fun actor h h_token => ?_
  · rw [h]
  · rw [h]
  rw [h]
  dsimp only
  split
  next => exact ⟨_, .reported actor errors h_token (h_violates actor h_token), rfl⟩
  next h_texts =>
    -- one of the texts that the report would quote cannot be stored
    refine answered_refused ?_
    rw [Bool.and_eq_true, not_and_or] at h_texts
    rcases h_texts with h_path | h_locs
    · exact .quoted actor errors _ h_token (h_violates actor h_token) (.inl rfl)
        (not_storable h_path)
    · rw [List.all_eq_true] at h_locs
      obtain ⟨violation, h_locs⟩ := not_forall.mp h_locs
      obtain ⟨h_violation, h_locs⟩ := Classical.not_imp.mp h_locs
      rw [List.all_eq_true] at h_locs
      obtain ⟨text, h_locs⟩ := not_forall.mp h_locs
      obtain ⟨h_text, h_zero⟩ := Classical.not_imp.mp h_locs
      exact .quoted actor errors text h_token (h_violates actor h_token)
        (.inr ⟨violation, h_violation, h_text⟩) (not_storable h_zero)

/-- A body that is a document can be decoded. -/
theorem decodable_of_document
    (h_body : call.route.takesBody → ∃ value, call.content = .readable (.document value)) :
    call.Decodable := by
  intro h_takes h_content
  obtain ⟨value, h_value⟩ := h_body h_takes
  rw [h_content] at h_value
  cases h_value

/-- The principal is required: unknown, of another role, or answered by the endpoint. -/
theorem require_answered {endpoint : Actor → Response × Db} (h_route : call.route ≠ .health)
    (h_body : call.route.takesBody → ∃ value, call.content = .readable (.document value))
    (h : ∀ actor ∈ call.route.roles, Carries tokens call actor →
      Answered tokens parsers now utc utc' call db (endpoint actor)) :
    Answered tokens parsers now utc utc' call db
      (require tokens call db call.route.roles endpoint) := by
  unfold require
  refine principal_answered h_route (decodable_of_document h_body) (fun h_result => ?_)
    (fun h_result => ?_) fun actor h_result h_token => ?_
  · rw [h_result]
  · rw [h_result]
  rw [h_result]
  dsimp only
  split
  next h_role => exact h actor h_role h_token
  next h_role => exact answered_refused (.role actor h_route h_token h_role h_body)

/-- The parameters of a principal with a role for the route. -/
theorem validated_answered {α : Type} {parameters : Checked α} {command : α → Command}
    {endpoint : α → Response × Db} (h_route : call.route ≠ .health)
    (h_token : Carries tokens call actor) (h_role : actor ∈ call.route.roles)
    (h_asks : Asks parsers utc utc' actor call.route call.content (parameters.map command))
    (h : ∀ parameters,
      Asks parsers utc utc' actor call.route call.content (.ok (command parameters)) →
      Answered tokens parsers now utc utc' call db (endpoint parameters)) :
    Answered tokens parsers now utc utc' call db
      (validated tokens now call db parameters endpoint) := by
  cases parameters with
  | error errors =>
    refine report_answered h_route (decodable_of_document h_asks.document) fun actor' h_token' => ?_
    obtain rfl := tokens.sound.2 _ _ _ h_token' h_token
    exact .parameters errors h_role h_asks
  | ok parameters => exact h parameters h_asks

/-- The body is read: unreadable, no JSON, or given to the endpoint. -/
theorem withBody_answered {endpoint : Json Text → Response × Db} (h_takes : call.route.takesBody)
    (h : ∀ value, call.content = .readable (.document value) →
      Answered tokens parsers now utc utc' call db (endpoint value)) :
    Answered tokens parsers now utc utc' call db (withBody tokens now call db endpoint) := by
  have h_route : call.route ≠ .health := by
    rintro h_health
    rw [h_health] at h_takes
    cases h_takes
  unfold withBody
  split
  next position h_content =>
    refine report_answered h_route ?_ fun actor _ => .malformed position h_takes h_content
    rw [Call.Decodable, h_content]
    exact fun _ => nofun
  next h_content => exact answered_refused (.unreadable h_takes h_content)
  next value h_content => exact h value h_content

/-- What is raised has the status of its kind. -/
theorem refuses_refusal (fault : Fault) : Refuses fault (refusal fault) := by
  cases fault with
  | customerNotFound | proposalNotFound | exceptionNotFound => exact .missing (by decide)
  | staleContext | identityRebindingForbidden | multipleAuthoritativeRecordsRequireReviewedMigration
  | exceptionAlreadyResolved | requiresNewSourceEventOrProposal | jobNotDead
  | destinationNotAuthorized | destinationOverloaded => exact .conflict (by decide)
  | _ => exact .unavailable (by decide)

/-- A transaction that is performed for a principal with a role for the route. -/
theorem respond_answered {α : Type} {reply : α → Reply} {carried : List String} {tx : Tx}
    {outcome : Outcome α} (h_token : Carries tokens call actor) (h_role : actor ∈ call.route.roles)
    (h_asks : Asks parsers utc utc' actor call.route call.content (.ok (.tx tx)))
    (h_performs : Performs now db (.tx tx) (outcome.answer.map reply))
    (h_tx : tx.apply now db = outcome.commit db)
    (h_carried : ∀ text ∈ carried, text ∈ (Command.tx tx).texts) :
    Answered tokens parsers now utc utc' call db (respond db reply carried outcome) := by
  cases outcome with
  | error fault =>
    exact answered_refused (.fault actor _ fault _ h_token h_role h_asks h_performs
      (refuses_refusal fault))
  | ok answer =>
    unfold respond
    dsimp only
    split
    next => exact ⟨_, .accepted actor _ _ h_token h_role h_asks h_performs, h_tx.symm⟩
    next h_texts =>
      rw [List.all_eq_true] at h_texts
      obtain ⟨text, h_texts⟩ := not_forall.mp h_texts
      obtain ⟨h_text, h_zero⟩ := Classical.not_imp.mp h_texts
      exact answered_refused (.text actor _ text h_token h_role h_asks (h_carried text h_text)
        (not_storable h_zero))

/-- `ingest` raises only for a customer that is missing. -/
theorem ingest_fault {source : Source} {event : SourceEvent} {fault : Fault}
    (h : Service.ingest now source event db = .error fault) : fault = .customerNotFound := by
  unfold Service.ingest at h
  split at h
  · split at h <;> cases h
  split at h
  · split at h
    · cases h
      rfl
    · cases h
  · split at h <;> cases h

/-- What an event carries is among its texts. -/
theorem carried_texts {source : Source} {event : SourceEvent} {text : String}
    (h : text ∈ carried source event db) : text ∈ (Command.tx (.ingest source event)).texts := by
  unfold carried at h
  split at h
  · rw [List.mem_singleton.mp h]
    exact List.mem_cons_self
  · exact h

/-- Every source may send events. -/
theorem mem_roles_events {source : Source} : source.actor ∈ Route.roles .events := by
  cases source <;> decide

/-- What the route of the events answers to a valid event. -/
theorem ingest_answered {source : Source} {event : SourceEvent}
    (h_token : Carries tokens call source.actor) (h_role : source.actor ∈ call.route.roles)
    (h_asks : Asks parsers utc utc' source.actor call.route call.content
      (.ok (.tx (.ingest source event)))) :
    Answered tokens parsers now utc utc' call db
      ((ingest now source event db).map Answer.response id) := by
  have h_performs : Performs now db (.tx (.ingest source event)) _ := .ingest source event
  have h_tx : db.step ⟨now, .ingest source event⟩ =
      (Service.ingest now source event db).commit db := rfl
  unfold ingest
  split
  next =>
    split
    next reply db' h_ingest =>
      rw [h_ingest] at h_performs h_tx
      exact ⟨_, .accepted _ _ _ h_token h_role h_asks h_performs, h_tx.symm⟩
    next fault h_ingest =>
      rw [h_ingest] at h_performs
      obtain rfl := ingest_fault h_ingest
      exact answered_refused (.fault _ _ _ _ h_token h_role h_asks h_performs
        (.missing (by decide)))
  next h_texts =>
    rw [List.all_eq_true] at h_texts
    obtain ⟨text, h_texts⟩ := not_forall.mp h_texts
    obtain ⟨h_text, h_zero⟩ := Classical.not_imp.mp h_texts
    exact answered_refused (.text _ _ text h_token h_role h_asks (carried_texts h_text)
      (not_storable h_zero))

/-- Invalid events are reported as other invalid bodies are. -/
theorem invalid_eq_report (h_call : call.route = .events) (errors : List Violation) :
    (invalid tokens now call.authorization errors db).map Answer.response id =
      report tokens now call db errors := by
  have h_path : call.route.path = path := by
    rw [h_call]
    rfl
  have h_storable : storable path = true := by decide
  unfold invalid report
  rw [h_path, h_storable, Bool.true_and]
  cases principal tokens call.authorization with
  | error refusal => cases refusal <;> rfl
  | ok actor =>
    dsimp only
    split <;> rfl

/-- `POST /events`, which is a model of its own. -/
theorem post_answered {body : Body} (h_call : call.route = .events)
    (h_content : call.content = .readable body) :
    Answered tokens parsers now utc utc' call db ((post tokens parsers.casefold now
      ⟨call.authorization, body⟩ db).map Answer.response id) := by
  have h_route : call.route ≠ .health := by
    rw [h_call]
    exact nofun
  cases body with
  | unreadable =>
    refine answered_refused (.unreadable ?_ h_content)
    rw [h_call]
    rfl
  | document value =>
    have h_body : call.route.takesBody → ∃ value, call.content = .readable (.document value) :=
      fun _ => ⟨value, h_content⟩
    have h_decodable : call.Decodable := decodable_of_document h_body
    -- the endpoint looks at the principal first, then at its role, then at the contract
    unfold post
    dsimp only
    refine principal_answered h_route h_decodable (fun h => ?_) (fun h => ?_)
      fun actor h h_token => ?_
    · rw [h]
      rfl
    · rw [h]
      rfl
    rw [h]
    dsimp only
    split
    next h_source =>
      refine answered_refused (.role actor h_route h_token ?_ h_body)
      rw [h_call]
      cases actor <;> cases h_source <;> decide
    next source h_source =>
      obtain rfl : source.actor = actor := by cases actor <;> cases h_source <;> rfl
      have h_role : source.actor ∈ call.route.roles := by
        rw [h_call]
        exact mem_roles_events
      have h_asks : Asks parsers utc utc' source.actor call.route call.content
          ((Contract.body parsers.casefold value).map fun event =>
            .tx (.ingest source event)) := by
        rw [h_call, h_content]
        exact .events value source rfl
      split
      next errors h_errors =>
        rw [h_errors] at h_asks
        rw [invalid_eq_report h_call]
        refine report_answered h_route h_decodable fun actor' h_token' => ?_
        -- no two actors have one token
        obtain rfl := tokens.sound.2 _ _ _ h_token' h_token
        exact .parameters errors h_role h_asks
      next event h_event =>
        rw [h_event] at h_asks
        exact ingest_answered h_token h_role h_asks

end Parts

section Service

variable {tokens : Tokens} {parsers : Contract.Parsers} {now utc utc' : Time} {call : Call}
  {db : Db}

variable (tokens parsers now utc utc' call db) in
/-- **The service answers so.** -/
theorem serve_answers :
    Answered tokens parsers now utc utc' call db (serve tokens parsers now utc utc' call db) := by
  obtain ⟨route, authorization, content⟩ := call
  cases route with
  | health => exact ⟨[], .health rfl, rfl⟩
  | events =>
    cases content with
    | malformed position =>
      exact report_answered nofun (fun _ => nofun) fun actor _ => .malformed position rfl rfl
    | readable body => exact post_answered rfl rfl
  -- the routes that write: body, role, parameters, and then the transaction
  | identityLinks =>
    refine withBody_answered rfl fun value h_content => ?_
    obtain rfl : content = .readable (.document value) := h_content
    refine require_answered nofun (fun _ => ⟨value, rfl⟩) fun actor h_role h_token => ?_
    refine validated_answered nofun h_token h_role (.link value) fun command h_asks => ?_
    exact respond_answered h_token h_role h_asks (.link actor command) rfl
      fun text h_text => List.mem_cons_of_mem _ h_text
  | proposals =>
    refine withBody_answered rfl fun value h_content => ?_
    obtain rfl : content = .readable (.document value) := h_content
    refine require_answered nofun (fun _ => ⟨value, rfl⟩) fun actor h_role h_token => ?_
    refine validated_answered nofun h_token h_role (.propose value) fun command h_asks => ?_
    refine respond_answered h_token h_role h_asks (.propose actor command) rfl fun text h_text => ?_
    unfold proposed at h_text
    split at h_text
    · exact h_text
    · cases h_text
  | approve text =>
    refine withBody_answered rfl fun value h_content => ?_
    obtain rfl : content = .readable (.document value) := h_content
    refine require_answered nofun (fun _ => ⟨value, rfl⟩) fun actor h_role h_token => ?_
    refine validated_answered nofun h_token h_role (.approve text value) ?_
    intro (id, command) h_asks
    exact respond_answered h_token h_role h_asks (.approve utc utc' actor id command) rfl nofun
  | resolve text =>
    refine withBody_answered rfl fun value h_content => ?_
    obtain rfl : content = .readable (.document value) := h_content
    refine require_answered nofun (fun _ => ⟨value, rfl⟩) fun actor h_role h_token => ?_
    refine validated_answered nofun h_token h_role (.resolve text value) ?_
    intro (id, command) h_asks
    exact respond_answered h_token h_role h_asks (.resolve actor id.toNat command) rfl
      fun text h_text => h_text
  -- the routes that read: role, parameters, and then the rows
  | customer text =>
    refine require_answered nofun nofun fun actor h_role h_token => ?_
    refine validated_answered nofun h_token h_role (.customer text content) fun id h_asks => ?_
    split
    next h_row =>
      exact answered_refused (.fault actor _ _ _ h_token h_role h_asks (.noCustomer id h_row)
        (refuses_refusal _))
    next row h_row =>
      exact ⟨[], .accepted actor _ _ h_token h_role h_asks (.customer id row h_row), rfl⟩
  | proposal text =>
    refine require_answered nofun nofun fun actor h_role h_token => ?_
    refine validated_answered nofun h_token h_role (.proposal text content) fun id h_asks => ?_
    split
    next h_row =>
      exact answered_refused (.fault actor _ _ _ h_token h_role h_asks (.noProposal id h_row)
        (refuses_refusal _))
    next row h_row =>
      exact ⟨[], .accepted actor _ _ h_token h_role h_asks (.proposal id row h_row), rfl⟩
  | exceptions text =>
    refine require_answered nofun nofun fun actor h_role h_token => ?_
    refine validated_answered nofun h_token h_role (.exceptions text content) fun id h_asks => ?_
    exact ⟨[], .accepted actor _ _ h_token h_role h_asks (.exceptions id), rfl⟩
  | audit text =>
    refine require_answered nofun nofun fun actor h_role h_token => ?_
    refine validated_answered nofun h_token h_role (.audit text content) fun id h_asks => ?_
    exact ⟨[], .accepted actor _ _ h_token h_role h_asks (.audit id), rfl⟩

end Service

end ControlPlane.Api
