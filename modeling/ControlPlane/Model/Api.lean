import ControlPlane.Model.Contracts
import ControlPlane.Model.Transaction

/-!
# The events endpoint

`POST /events` of `api.py`, from the header and the body of a request to the answer and the
state of the database: `principal`, `require`, the contract, `invalid` and `ingest`, with
`observe_errors` around them.

The framework decodes the body first, answers 400 where the decoder refuses it, then resolves
the dependency on the role, and then looks at the contract. An exception that has no handler is
answered by `observe_errors`; it is a `TypeError` of `compare_digest`, or a `DataError` of a
statement that carries U+0000, which neither `text` nor `jsonb` takes. A `String` holds no
unpaired surrogate.
-/

namespace ControlPlane.Api

open Framework

/-! ### Credentials -/

/-- The roles that need a token. -/
def expected : List Actor := [.crm, .consent, .scoring, .privacy, .agent, .approver, .operator]

/-- The check of `lifespan`. -/
def lifespan (tokens : List (Actor × String)) : Bool :=
  (tokens.all fun entry => entry.1 ∈ expected) &&
    (expected.all fun actor => actor ∈ tokens.map Prod.fst) &&
    (tokens.all fun entry => 12 ≤ entry.2.length) && (tokens.map Prod.snd).Nodup

/-- `API_TOKENS` of a service that has started. -/
structure Tokens where
  entries : List (Actor × String)
  valid : lifespan entries = true

/-- Whether `compare_digest` takes the string. -/
def isAscii (s : String) : Bool := s.toList.all fun c => c.toNat < 128

/-- `secrets.compare_digest`; `none` is its `TypeError`. -/
def compareDigest (a b : String) : Option Bool :=
  if isAscii a && isAscii b then some (a = b) else none

/-- The token of a header, which is empty where there is none. -/
def supplied (authorization : String) : String :=
  if "Bearer ".toList <+: authorization.toList then String.ofList (authorization.toList.drop 7)
  else ""

/-- How `principal` can fail. -/
inductive Refusal
  | typeError
  /-- `HTTPException(401)` -/
  | authenticationRequired
deriving DecidableEq

/-- The loop of `principal`. -/
def authenticate (token : String) : List (Actor × String) → Except Refusal Actor
  | [] => .error .authenticationRequired
  | (actor, configured) :: rest =>
    if configured = "" then authenticate token rest
    else
      match compareDigest token configured with
      -- the exception ends the loop, at whichever entry it is raised
      | none => .error .typeError
      | some true => .ok actor
      | some false => authenticate token rest

/-- `principal(authorization)` -/
def principal (tokens : Tokens) (authorization : String) : Except Refusal Actor :=
  authenticate (supplied authorization) tokens.entries

/-- `require("crm", "consent", "scoring", "privacy")` -/
def sourceOf : Actor → Option Source
  | .crm => some .crm
  | .consent => some .consent
  | .scoring => some .scoring
  | .privacy => some .privacy
  | .agent | .approver | .operator | .executor => none

/-! ### Requests and answers -/

/-- A body of well-formed JSON. -/
inductive Body
  | document (value : Json Text)
  /-- The decoder raises: an integer has more than 4300 digits, or the nesting is too deep. -/
  | unreadable

/-- What `POST /events` brings. -/
structure Request where
  authorization : String
  body : Body

/-- The answers of the endpoint, by their status. -/
inductive Answer
  /-- 200 -/
  | ingested (reply : Service.IngestReply)
  /-- 400 -/
  | unreadable
  /-- 401 -/
  | authenticationRequired
  /-- 403 -/
  | roleNotAllowed
  /-- 404, from a `LookupError` -/
  | missing (fault : Fault)
  /-- 422 -/
  | invalidContract (exceptionId : ℕ)
  /-- 503 -/
  | unavailable
deriving DecidableEq

/-! ### Handlers -/

/-- What the columns and the JSON documents of the database hold. -/
def storable (s : String) : Bool := s.toList.all fun c => c.toNat ≠ 0

/-- The path of the endpoint, as a stored exception names it. -/
def path : String := "/events"

/-- `invalid(request, exc)` -/
def invalid (tokens : Tokens) (now : Time) (authorization : String) (errors : List Violation)
    (db : Db) : Answer × Db :=
  match principal tokens authorization with
  | .error .typeError => (.unavailable, db)
  | .error .authenticationRequired => (.authenticationRequired, db)
  | .ok actor =>
    -- the report quotes the names of the body
    if errors.all (·.loc.all storable) then
      (.invalidContract db.nextException,
        (db.exception now .invalidContract (.text path) (.invalidContract errors)).audit now actor
          (.text path) (.invalidContract db.nextException errors))
    else (.unavailable, db)

/-- The texts of the event in the statements of `service.ingest`. With an id that is known,
only the id is used. -/
def carried (source : Source) (event : SourceEvent) (db : Db) : List String :=
  if (db.events.lookup (source, event.eventId)).isSome then [event.eventId]
  else [event.eventId, event.subject] ++ event.attributes.email.toList ++
    event.attributes.phone.toList ++ event.attributes.owner.toList

/-- `ingest(event, actor)`; a statement that is rejected rolls everything back. -/
def ingest (now : Time) (source : Source) (event : SourceEvent) (db : Db) : Answer × Db :=
  if (carried source event db).all storable then
    match Service.ingest now source event db with
    | .ok (reply, db') => (.ingested reply, db')
    | .error fault => (.missing fault, db)
  else (.unavailable, db)

/-- `POST /events` -/
def post (tokens : Tokens) (casefold : String → String) (now : Time) (request : Request)
    (db : Db) : Answer × Db :=
  match request.body with
  | .unreadable => (.unreadable, db)
  | .document value =>
    -- a dependency, which the framework runs before it validates the body
    match principal tokens request.authorization with
    | .error .typeError => (.unavailable, db)
    | .error .authenticationRequired => (.authenticationRequired, db)
    | .ok actor =>
      match sourceOf actor with
      | none => (.roleNotAllowed, db)
      | some source =>
        match Contract.body casefold value with
        | .error errors => invalid tokens now request.authorization errors db
        | .ok event => ingest now source event db

/-! ### Runs -/

/-- Everything that changes the database: a submission, or a transaction. -/
inductive Happening
  | commit (entry : Entry)
  | post (now : Time) (request : Request)

/-- The database after it. -/
def step (tokens : Tokens) (casefold : String → String) (db : Db) : Happening → Db
  | .commit entry => db.step entry
  | .post now request => (post tokens casefold now request db).2

/-- The database after a run of the service. -/
def database (tokens : Tokens) (casefold : String → String) (registry : Table String Destination)
    (owners : Table String String) (happenings : List Happening) : Db :=
  run (step tokens casefold) (Db.migrated registry owners) happenings

end ControlPlane.Api
