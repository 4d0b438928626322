import ControlPlane.Framework.Page
import ControlPlane.Model.Api

/-!
# The endpoints

All of `api.py`: `POST /events` is `post`, and the other endpoints stand here with their contracts,
their roles and what they answer. A body that is no JSON is reported before anybody is
authenticated; then come the role, the parameters and the body, whose violations are reported
together.

An occurrence is a request, or a transaction of the workers or of the recovery coordinator, which
have credentials of their own for the database.
-/

namespace ControlPlane

open Framework

namespace Contract

/-! ### Contracts -/

/-- What the framework reads out of a text: a value, or the type of the violation. -/
structure Parsers where
  casefold : String → String
  uuid : Text → Except String Uuid
  integer : String → Except String ℤ

/-- The values of `Proposal.action`. -/
def actionNames : List (String × Action) :=
  [("sync_profile", .syncProfile), ("send_marketing", .sendMarketing), ("set_consent", .setConsent)]

/-- The values of `Proposal.template`. -/
def templateNames : List (String × Template) :=
  [("welcome", .welcome), ("product_update", .productUpdate)]

/-- The values of `Resolution.disposition`. -/
def dispositionNames : List (String × Disposition) :=
  [("acknowledge", .acknowledge), ("requeue", .requeue)]

/-- The values of `Link.source`. -/
def sourceNames : List (String × Source) :=
  [("crm", .crm), ("consent", .consent), ("scoring", .scoring), ("privacy", .privacy)]

section Commands

variable (parsers : Parsers)

/-- A `UUID` in a body, which is a string that the parser takes. -/
def uuid : Check Uuid
  | .string text => parsers.uuid text
  | _ => .error "uuid_type"

/-- `Proposal` -/
def proposal : Json Text → Checked Proposal
  | .object members =>
    let requestId := Checked.required "request_id" (Check.single (uuid parsers)) members
    let customerId := Checked.required "customer_id" (Check.single (uuid parsers)) members
    let expectedRevision := Checked.required "expected_revision"
      (Check.single (Check.integer 0 none)) members
    let action := Checked.required "action" (Check.single (Check.oneOf actionNames)) members
    let rationale := Checked.required "rationale"
      (Check.single (Check.string (some 1) (some 500) fun _ => true)) members
    let template := Checked.optional "template" (Check.single (Check.oneOf templateNames)) .welcome
      members
    let found := requestId.violations ++ customerId.violations ++ expectedRevision.violations ++
      action.violations ++ rationale.violations ++ template.violations
    match Checked.closed ["request_id", "customer_id", "expected_revision", "action", "rationale",
      "template"] members found, requestId, customerId, expectedRevision, action, rationale,
      template with
    | [], .ok requestId, .ok customerId, .ok expectedRevision, .ok action, .ok rationale,
      .ok template => .ok ⟨requestId, customerId, expectedRevision, action, rationale, template⟩
    | found, _, _, _, _, _, _ => .error found
  | _ => .error [⟨[], "model_attributes_type"⟩]

/-- `Approval` -/
def approval : Json Text → Checked Approval
  | .object members =>
    let expectedRevision := Checked.required "expected_revision"
      (Check.single (Check.integer 0 none)) members
    match Checked.closed ["expected_revision"] members expectedRevision.violations,
      expectedRevision with
    | [], .ok expectedRevision => .ok ⟨expectedRevision⟩
    | found, _ => .error found
  | _ => .error [⟨[], "model_attributes_type"⟩]

/-- `Resolution` -/
def resolution : Json Text → Checked Resolution
  | .object members =>
    let disposition := Checked.required "disposition" (Check.single (Check.oneOf dispositionNames))
      members
    let note := Checked.required "note"
      (Check.single (Check.string (some 5) (some 500) fun _ => true)) members
    match Checked.closed ["disposition", "note"] members
      (disposition.violations ++ note.violations), disposition, note with
    | [], .ok disposition, .ok note => .ok ⟨disposition, note⟩
    | found, _, _ => .error found
  | _ => .error [⟨[], "model_attributes_type"⟩]

/-- `Link` -/
def link : Json Text → Checked Link
  | .object members =>
    let source := Checked.required "source" (Check.single (Check.oneOf sourceNames)) members
    let subject := Checked.required "subject" (Check.single identifier) members
    let customerId := Checked.required "customer_id" (Check.single (uuid parsers)) members
    let expectedRevision := Checked.required "expected_revision"
      (Check.single (Check.integer 0 none)) members
    let evidence := Checked.required "evidence"
      (Check.single (Check.string (some 10) (some 500) fun _ => true)) members
    let found := source.violations ++ subject.violations ++ customerId.violations ++
      expectedRevision.violations ++ evidence.violations
    match Checked.closed ["source", "subject", "customer_id", "expected_revision", "evidence"]
      members found, source, subject, customerId, expectedRevision, evidence with
    | [], .ok source, .ok subject, .ok customerId, .ok expectedRevision, .ok evidence =>
      .ok ⟨source, subject, customerId, expectedRevision, evidence⟩
    | found, _, _, _, _, _ => .error found
  | _ => .error [⟨[], "model_attributes_type"⟩]

/-- A body parameter; `body` is that of `POST /events`. -/
def parameter {α : Type} (check : Json Text → Checked α) : Json Text → Checked α
  | .null => .error [⟨["body"], "missing"⟩]
  | document => (check document).mapError (·.map (Violation.under "body"))

/-- A UUID in the path. -/
def pathUuid (name text : String) : Checked Uuid :=
  (parsers.uuid (Text.ofString text)).mapError fun type => [⟨["path", name], type⟩]

/-- An integer in the path or the query. -/
def integerAt (place name text : String) : Checked ℤ :=
  (parsers.integer text).mapError fun type => [⟨[place, name], type⟩]

/-- `after: int = 0` -/
def after : Option String → Checked ℤ
  | none => .ok 0
  | some text => integerAt parsers "query" "after" text

end Commands
end Contract

namespace Api

/-! ### Requests and answers -/

/-- The body of a request; one that is no JSON has the position of the error. -/
inductive Content
  | malformed (position : ℕ)
  | readable (body : Body)

/-- The endpoints, with the texts of the path and of the query. -/
inductive Route
  | health
  | events
  | identityLinks
  | customer (customerId : String)
  | proposals
  | approve (proposalId : String)
  | proposal (proposalId : String)
  | exceptions (after : Option String)
  | resolve (exceptionId : String)
  | audit (after : Option String)

/-- The path of a URL that is put together from the decoded path. -/
def urlPath (text : String) : String :=
  String.ofList ((text.toList.filter (· ∉ ['\t', '\r', '\n'])).takeWhile (· ∉ ['?', '#']))

/-- `request.url.path` -/
def Route.path : Route → String
  | health => "/health"
  | events => "/events"
  | identityLinks => "/identity-links"
  | customer customerId => urlPath ("/customers/" ++ customerId)
  | proposals => "/proposals"
  | approve proposalId => urlPath ("/proposals/" ++ proposalId ++ "/approve")
  | proposal proposalId => urlPath ("/proposals/" ++ proposalId)
  | exceptions _ => "/exceptions"
  | resolve exceptionId => urlPath ("/exceptions/" ++ exceptionId ++ "/resolve")
  | audit _ => "/audit"

/-- A request: its route, its header and its body. -/
structure Call where
  route : Route
  authorization : String
  content : Content

/-- What is answered with 200. -/
inductive Reply
  | ready
  | ingested (reply : Service.IngestReply)
  | linked
  | customer (row : Customer)
  | proposed (reply : Service.ProposeReply)
  | approved (reply : Service.ApproveReply)
  | proposal (row : Proposal) (job : Option Job)
  | exceptions (rows : List (ℕ × ExceptionRow))
  | resolved (status : ExceptionStatus)
  | audit (rows : List (ℕ × AuditRow))

/-- The responses, by their status. -/
inductive Response
  /-- 200 -/
  | ok (reply : Reply)
  /-- 400 -/
  | unreadable
  /-- 401 -/
  | authenticationRequired
  /-- 403 -/
  | roleNotAllowed
  /-- 404 -/
  | missing (fault : Fault)
  /-- 409 -/
  | conflict (fault : Fault)
  /-- 422 -/
  | invalidContract (exceptionId : ℕ)
  /-- 503 -/
  | unavailable

/-- The answers of `POST /events` among the responses of the service. -/
def Answer.response : Answer → Response
  | .ingested reply => .ok (.ingested reply)
  | .unreadable => .unreadable
  | .authenticationRequired => .authenticationRequired
  | .roleNotAllowed => .roleNotAllowed
  | .missing fault => .missing fault
  | .invalidContract exceptionId => .invalidContract exceptionId
  | .unavailable => .unavailable

/-- `missing` answers a `LookupError`, `value_error` a `ValueError`, and `observe_errors`
the rest. -/
def refusal : Fault → Response
  | .customerNotFound => .missing .customerNotFound
  | .proposalNotFound => .missing .proposalNotFound
  | .exceptionNotFound => .missing .exceptionNotFound
  | .staleContext => .conflict .staleContext
  | .identityRebindingForbidden => .conflict .identityRebindingForbidden
  | .multipleAuthoritativeRecordsRequireReviewedMigration =>
    .conflict .multipleAuthoritativeRecordsRequireReviewedMigration
  | .exceptionAlreadyResolved => .conflict .exceptionAlreadyResolved
  | .requiresNewSourceEventOrProposal => .conflict .requiresNewSourceEventOrProposal
  | .jobNotDead => .conflict .jobNotDead
  | .destinationNotAuthorized => .conflict .destinationNotAuthorized
  | .destinationOverloaded => .conflict .destinationOverloaded
  | _ => .unavailable

/-! ### The parts of an endpoint -/

section Parts

variable (tokens : Tokens) (now : Time) (call : Call) (db : Db)

/-- `invalid(request, exc)`, for any path -/
def report (errors : List Violation) : Response × Db :=
  match principal tokens call.authorization with
  | .error .typeError => (.unavailable, db)
  | .error .authenticationRequired => (.authenticationRequired, db)
  | .ok actor =>
    if storable call.route.path && errors.all (·.loc.all storable) then
      (.invalidContract db.nextException,
        (db.exception now .invalidContract (.text call.route.path) (.invalidContract errors)).audit
          now actor (.text call.route.path) (.invalidContract db.nextException errors))
    else (.unavailable, db)

/-- The endpoint for a principal with one of the roles, `Depends(require(*roles))`. -/
def require (roles : List Actor) (endpoint : Actor → Response × Db) : Response × Db :=
  match principal tokens call.authorization with
  | .error .typeError => (.unavailable, db)
  | .error .authenticationRequired => (.authenticationRequired, db)
  | .ok actor => if actor ∈ roles then endpoint actor else (.roleNotAllowed, db)

/-- The endpoint with parameters that are valid. -/
def validated {α : Type} (parameters : Checked α) (endpoint : α → Response × Db) : Response × Db :=
  match parameters with
  | .error errors => report tokens now call db errors
  | .ok parameters => endpoint parameters

/-- The endpoint with a body that is JSON. -/
def withBody (endpoint : Json Text → Response × Db) : Response × Db :=
  match call.content with
  | .malformed position =>
    report tokens now call db [⟨["body", toString position], "json_invalid"⟩]
  | .readable .unreadable => (.unreadable, db)
  | .readable (.document value) => endpoint value

/-- What a transaction answers; a statement with a text that is rejected rolls everything back. -/
def respond {α : Type} (reply : α → Reply) (carried : List String) (outcome : Outcome α) :
    Response × Db :=
  match outcome with
  | .error fault => (refusal fault, db)
  | .ok (a, db') => if carried.all storable then (.ok (reply a), db') else (.unavailable, db)

end Parts

/-- The free texts in the statements of `service.propose`; only the row of a new proposal
has any. -/
def proposed (command : Contract.Proposal) (db : Db) : List String :=
  if db.executionOpen && (db.proposals.lookup command.requestId).isNone then [command.rationale]
  else []

/-- Rows under their ids. -/
def numbered {ρ : Type} (rows : List ρ) : List (ℕ × ρ) :=
  rows.zipIdx.map fun row => (row.2 + 1, row.1)

/-- The roles that `customer` and `proposal` require. -/
def readers : List Actor := [.agent, .operator, .approver]

/-! ### The endpoints -/

/-- The application; `utc` and `utc'` are the readings of the process clock. -/
def serve (tokens : Tokens) (parsers : Contract.Parsers) (now utc utc' : Time) (call : Call)
    (db : Db) : Response × Db :=
  match call.route with
  | .health => (.ok .ready, db)
  | .events =>
    match call.content with
    | .malformed position =>
      report tokens now call db [⟨["body", toString position], "json_invalid"⟩]
    | .readable body =>
      (post tokens parsers.casefold now ⟨call.authorization, body⟩ db).map Answer.response id
  | .identityLinks => withBody tokens now call db fun document =>
    require tokens call db [.operator] fun actor =>
      validated tokens now call db (Contract.parameter (Contract.link parsers) document)
        fun command => respond db (fun _ => .linked) [command.evidence]
          (Service.link now actor command db)
  | .customer customerId => require tokens call db readers fun _ =>
    validated tokens now call db (Contract.pathUuid parsers "customer_id" customerId) fun id =>
      match db.customers.lookup id with
      | none => (refusal .customerNotFound, db)
      | some row => (.ok (.customer row), db)
  | .proposals => withBody tokens now call db fun document =>
    require tokens call db [.agent] fun actor =>
      validated tokens now call db (Contract.parameter (Contract.proposal parsers) document)
        fun command => respond db .proposed (proposed command db)
          (Service.propose now actor command db)
  | .approve proposalId => withBody tokens now call db fun document =>
    require tokens call db [.approver] fun actor =>
      validated tokens now call db ((Contract.pathUuid parsers "proposal_id" proposalId).both
        (Contract.parameter Contract.approval document)) fun (id, command) =>
          respond db .approved [] (Service.approve now utc utc' actor id command db)
  | .proposal proposalId => require tokens call db readers fun _ =>
    validated tokens now call db (Contract.pathUuid parsers "proposal_id" proposalId) fun id =>
      match db.proposals.lookup id with
      | none => (refusal .proposalNotFound, db)
      | some row => (.ok (.proposal row (db.jobs.lookup id)), db)
  | .exceptions after => require tokens call db [.operator] fun _ =>
    validated tokens now call db (Contract.after parsers after) fun cursor =>
      (.ok (.exceptions (page 100 cursor.toNat (numbered db.exceptions))), db)
  | .resolve exceptionId => withBody tokens now call db fun document =>
    require tokens call db [.operator] fun actor =>
      validated tokens now call db ((Contract.integerAt parsers "path" "exception_id"
        exceptionId).both (Contract.parameter Contract.resolution document)) fun (id, command) =>
          -- ids are positive
          respond db .resolved [command.note] (Service.resolve now actor id.toNat command db)
  | .audit after => require tokens call db [.operator] fun _ =>
    validated tokens now call db (Contract.after parsers after) fun cursor =>
      (.ok (.audit (page 100 cursor.toNat (numbered db.auditLog))), db)

/-! ### Runs -/

/-- The transactions of the workers and of the recovery coordinator. -/
def internal : Tx → Bool
  | .ingest .. | .link .. | .propose .. | .approve .. | .resolve .. => false
  | _ => true

/-- Work of a part that is no endpoint, or a call of one. -/
inductive Occurrence
  | work (entry : Entry) (h : internal entry.tx = true)
  | call (now utc utc' : Time) (call : Call)

/-- The database after it. -/
def occur (tokens : Tokens) (parsers : Contract.Parsers) (db : Db) : Occurrence → Db
  | .work entry _ => db.step entry
  | .call now utc utc' call => (serve tokens parsers now utc utc' call db).2

/-- The database after a run of the whole service. -/
def service (tokens : Tokens) (parsers : Contract.Parsers) (registry : Table String Destination)
    (owners : Table String String) (occurrences : List Occurrence) : Db :=
  run (occur tokens parsers) (Db.migrated registry owners) occurrences

end Api
end ControlPlane
