import ControlPlane.Framework.Crash
import ControlPlane.Framework.Json
import Mathlib.Data.String.Basic

/-!
# Bootstrap

`cloud.py`: `bootstrap` creates the secrets of the services, rebinds those that are there to the
hosts of the databases, and gives the logins their passwords. The program is a dialogue with
Secrets Manager and the databases in which any call may answer with an error. A secret is the value
that its text decodes to. The two functions of `psycopg.conninfo` are a parameter.
-/

namespace ControlPlane.Bootstrap

open Framework
open Framework.Dialogue hiding call

/-- What a connection string says. -/
abbrev Info : Type := String → Option String

/-- The conninfo functions. -/
structure Conninfo where
  conninfoToDict : String → Option Info
  /-- `make_conninfo(conninfo, **parameters)` -/
  makeConninfo : String → List (String × String) → Option String
  /-- The text of a parameter that is passed; `None` is left out. -/
  str : Json String → Option String

/-- The roles that have a secret. -/
inductive Role
  | api | worker | remote | verifier | observer
deriving DecidableEq

/-- The two databases. -/
inductive Database
  | control | downstream
deriving DecidableEq

/-- `ROLES` -/
def roles : List String :=
  ["crm", "consent", "privacy", "scoring", "agent", "approver", "operator"]

/-- `RUNTIME_KEYS` -/
def runtimeKeys : Role → List String
  | .api => ["CONTROL_DSN", "API_TOKENS"]
  | .worker => ["CONTROL_DSN", "EXECUTOR_TOKEN"]
  | .remote => ["REMOTE_DSN", "EXECUTOR_TOKEN", "INJECTOR_TOKEN"]
  | .verifier => ["CONTROL_DSN", "REMOTE_DSN"]
  | .observer => ["CONTROL_DSN"]

/-- `expected_users[key][field]` -/
def expectedUser : Role → String → Option String
  | .api, "CONTROL_DSN" => some "control_api"
  | .worker, "CONTROL_DSN" => some "control_worker"
  | .remote, "REMOTE_DSN" => some "synthetic_remote"
  | .observer, "CONTROL_DSN" => some "control_observer"
  | .verifier, "CONTROL_DSN" => some "control_audit"
  | .verifier, "REMOTE_DSN" => some "remote_audit"
  | _, _ => none

/-- A decoded object, in the order of its fields. -/
abbrev Document : Type := List (String × Json String)

/-- `document[field] = value` -/
def Document.set (document : Document) (field : String) (value : Json String) : Document :=
  if (document.map Prod.fst).contains field then
    document.map fun entry => if entry.1 = field then (field, value) else entry
  else document ++ [(field, value)]

/-- The secrets of the roles: `RUNTIME_SECRET_ARNS`, without its order. -/
structure Arns where
  arn : Role → String
  injective : Function.Injective arn

/-- What the environment of one run sets. -/
structure Inputs where
  /-- The order of `RUNTIME_SECRET_ARNS`. -/
  order : List Role
  nodup : order.Nodup
  complete : ∀ key, key ∈ order
  /-- `DB_MASTER_SECRET_ARNS` -/
  masters : Database → String
  /-- `DB_HOSTS` -/
  hosts : Database → String
  databaseName : String

/-! ### The dialogue -/

/-- `secrets.token_urlsafe(36)`, which is never empty. -/
abbrev Token : Type := { text : String // text ≠ "" }

/-- The calls of a bootstrap. -/
inductive Question
  | getSecretValue (secretId : String)
  | putSecretValue (secretId : String) (document : Document)
  | tokenUrlsafe
  | connect (dsn : String)
  /-- `SELECT 1 FROM pg_roles WHERE rolname=%s` -/
  | roleExists (dsn name : String)
  /-- `role(c, name, password)` -/
  | role (dsn name password : String)
  | migrate (dsn : String)
  /-- `ALTER ROLE … NOLOGIN` -/
  | nologin (dsn name : String)
  /-- `grants(control_dsn, remote_dsn)` -/
  | grants (controlDsn remoteDsn : String)

/-- What a call answers that does not raise. A secret without a version, a
`ResourceNotFoundException`, is `none`. -/
abbrev Question.Reply : Question → Type
  | .getSecretValue _ => Option (Json String)
  | .tokenUrlsafe => Token
  | .roleExists _ _ => Bool
  | .putSecretValue _ _ | .connect _ | .role _ _ _ | .migrate _ | .nologin _ _ | .grants _ _ => Unit

/-- A program that speaks with Secrets Manager and the databases. -/
abbrev Script (α : Type) : Type := Dialogue Question (Replies Question.Reply) α

abbrev call (q : Question) : Script q.Reply := Dialogue.call q

/-- `isinstance(result, dict) and result` -/
def contents : Json String → Option Document
  | .object (entry :: entries) => some (entry :: entries)
  | _ => none

/-- The contents of a secret, if it has any. -/
def accepted : Option (Json String) → Script (Option Document)
  | none => pure none
  | some value => do
    let document ← ofOption (contents value)
    pure (some document)

/-- `read_secret(client, secret_id)` -/
def readSecret (secretId : String) : Script (Option Document) := do
  let found ← call (.getSecretValue secretId)
  accepted found

section Program

variable (conn : Conninfo) (arns : Arns)

/-- The certificates that the image brings. -/
def rootCertificate : String := "/app/certs/rds-global-bundle.pem"

/-- `host=host, sslmode='verify-full', sslrootcert=…` -/
def binding (host : String) : List (String × String) :=
  [("host", host), ("sslmode", "verify-full"), ("sslrootcert", rootCertificate)]

/-- The parameters of the owner, those that are not `None`. -/
def ownerParameters (inputs : Inputs) (database : Database) (username password : Json String) :
    List (String × String) :=
  [("host", some (inputs.hosts database)), ("dbname", some inputs.databaseName),
    ("user", conn.str username), ("password", conn.str password), ("sslmode", some "verify-full"),
    ("sslrootcert", some rootCertificate)].filterMap fun entry => entry.2.map (entry.1, ·)

/-- `dsns[name]` -/
def ownerDsn (inputs : Inputs) (database : Database) : Script String := do
  let found ← readSecret (inputs.masters database)
  let master ← ofOption found
  let username ← ofOption (master.lookup "username")
  let password ← ofOption (master.lookup "password")
  ofOption (conn.makeConninfo "" (ownerParameters conn inputs database username password))

/-- A value for each database. -/
def both (control downstream : String) : Database → String
  | .control => control
  | .downstream => downstream

/-- `login(database, username, password)` -/
def login (dsns : Database → String) (database : Database) (username : String) (password : Token) :
    Option String :=
  conn.makeConninfo (dsns database) [("user", username), ("password", password.1)]

/-- The passwords, in the order in which they are drawn. -/
structure Passwords where
  api : Token
  worker : Token
  remote : Token
  audit : Token
  remoteAudit : Token
  observer : Token

/-- Six passwords are drawn, whether they are used or not. -/
def passwords : Script Passwords := do
  let api ← call .tokenUrlsafe
  let worker ← call .tokenUrlsafe
  let remote ← call .tokenUrlsafe
  let audit ← call .tokenUrlsafe
  let remoteAudit ← call .tokenUrlsafe
  let observer ← call .tokenUrlsafe
  pure ⟨api, worker, remote, audit, remoteAudit, observer⟩

/-- The token of the first of the roles whose secret is there, else the one at hand. -/
def surviving (executor : Json String) : List Role → Script (Json String)
  | [] => pure executor
  | key :: keys => do
    let found ← readSecret (arns.arn key)
    match found with
    | some document => ofOption (document.lookup "EXECUTOR_TOKEN")
    | none => surviving executor keys

/-- `json.dumps` of texts in which nothing is escaped. -/
def dumps (entries : List (String × String)) : String :=
  "\x7b" ++ ", ".intercalate (entries.map fun entry =>
    "\"" ++ entry.1 ++ "\": \"" ++ entry.2 ++ "\"") ++ "\x7d"

/-- A token for each of the names. -/
def apiTokens : List (String × String) → List String → Script String
  | entries, [] => pure (dumps entries)
  | entries, name :: names => do
    let token ← call .tokenUrlsafe
    apiTokens (entries ++ [(name, token.1)]) names

/-- The values of `initial`. -/
structure Initial where
  api : String
  apiTokens : String
  worker : String
  executor : Json String
  remote : String
  injector : Token
  audit : String
  remoteAudit : String
  observer : String

/-- `initial[key]` -/
def Initial.document (initial : Initial) : Role → Document
  | .api => [("CONTROL_DSN", .string initial.api), ("API_TOKENS", .string initial.apiTokens)]
  | .worker => [("CONTROL_DSN", .string initial.worker), ("EXECUTOR_TOKEN", initial.executor)]
  | .remote => [("REMOTE_DSN", .string initial.remote), ("EXECUTOR_TOKEN", initial.executor),
      ("INJECTOR_TOKEN", .string initial.injector.1)]
  | .verifier => [("CONTROL_DSN", .string initial.audit),
    ("REMOTE_DSN", .string initial.remoteAudit)]
  | .observer => [("CONTROL_DSN", .string initial.observer)]

/-- The contents that a new secret gets. -/
def initial (dsns : Database → String) (passwords : Passwords) (executor : Json String) :
    Script Initial := do
  let api ← ofOption (login conn dsns .control "control_api" passwords.api)
  let tokens ← apiTokens [] roles
  let worker ← ofOption (login conn dsns .control "control_worker" passwords.worker)
  let remote ← ofOption (login conn dsns .downstream "synthetic_remote" passwords.remote)
  let injector ← call .tokenUrlsafe
  let audit ← ofOption (login conn dsns .control "control_audit" passwords.audit)
  let remoteAudit ← ofOption (login conn dsns .downstream "remote_audit" passwords.remoteAudit)
  let observer ← ofOption (login conn dsns .control "control_observer" passwords.observer)
  pure ⟨api, tokens, worker, executor, remote, injector, audit, remoteAudit, observer⟩

/-- `documents`, in the order in which they were put there. -/
abbrev Documents : Type := List (Role × Document)

/-- The document of a role whose secret is not there yet. -/
def missing (initial : Initial) (documents : Documents) (key : Role) : Option Document :=
  match key, documents.lookup .worker with
  | .remote, some worker =>
    (worker.lookup "EXECUTOR_TOKEN").map ((initial.document .remote).set "EXECUTOR_TOKEN")
  | key, _ => some (initial.document key)

/-- `documents[key] = read_secret(client, arn)`, or the first version is put there. -/
def loadOne (initial : Initial) (documents : Documents) (key : Role) : Script Documents := do
  let found ← readSecret (arns.arn key)
  match found with
  | some document => pure (documents ++ [(key, document)])
  | none =>
    let document ← ofOption (missing initial documents key)
    call (.putSecretValue (arns.arn key) document)
    pure (documents ++ [(key, document)])

/-- `documents['remote']['EXECUTOR_TOKEN'] != documents['worker']['EXECUTOR_TOKEN']`, negated -/
def sharesToken (documents : Documents) : Option Bool := do
  let remote ← documents.lookup .remote
  let worker ← documents.lookup .worker
  let theirs ← remote.lookup "EXECUTOR_TOKEN"
  let ours ← worker.lookup "EXECUTOR_TOKEN"
  pure (theirs.same ours)

/-- `isinstance(v, str) and v` -/
def isText : Json String → Bool
  | .string text => text ≠ ""
  | _ => false

/-- The contract of a role's document: its keys, and no value empty. -/
def contract (key : Role) (document : Document) : Bool :=
  (document.map Prod.fst).all (runtimeKeys key).contains &&
    (runtimeKeys key).all (document.map Prod.fst).contains && document.all (isText ·.2)

/-- `field.endswith('_DSN')` -/
def isDsn (field : String) : Bool := "_DSN".toList.isSuffixOf field.toList

/-- `info.get('user') == expected_users[key][field]`, and no other source of parameters. -/
def authorized (key : Role) (field : String) (info : Info) : Bool :=
  (expectedUser key field).isSome && info "user" = expectedUser key field &&
    ["service", "servicefile", "options"].all fun parameter => (info parameter).isNone

/-- `'downstream' if info['user'] in ('synthetic_remote', 'remote_audit') else 'control'` -/
def databaseOf (info : Info) : Database :=
  if info "user" = some "synthetic_remote" ∨ info "user" = some "remote_audit" then .downstream
  else .control

/-- A connection string with the host of its database. -/
def rebound (hosts : Database → String) (key : Role) (field text : String) : Option String := do
  let info ← conn.conninfoToDict text
  if authorized key field info then conn.makeConninfo text (binding (hosts (databaseOf info)))
  else none

/-- A connection string is rebound, and every other member stays. -/
def revisedField (hosts : Database → String) (key : Role) (entry : String × Json String) :
    Option (String × Json String) :=
  match isDsn entry.1, entry.2 with
  | false, value => some (entry.1, value)
  | true, .string text => (rebound conn hosts key entry.1 text).map fun text =>
    (entry.1, .string text)
  | true, _ => none

/-- `revised` -/
def revised (hosts : Database → String) (key : Role) (document : Document) : Option Document :=
  document.mapM (revisedField conn hosts key)

/-- `if revised != document: client.put_secret_value(…)` -/
def store (key : Role) (document revised : Document) : Script Unit :=
  if revised = document then pure () else call (.putSecretValue (arns.arn key) revised)

/-- The contract of a role is checked before its secret is stored. -/
def reviseOne (hosts : Database → String) (documents : Documents) (entry : Role × Document) :
    Script Documents := do
  check (contract entry.1 entry.2)
  let revised ← ofOption (revised conn hosts entry.1 entry.2)
  store arns entry.1 entry.2 revised
  pure (documents ++ [(entry.1, revised)])

/-- `role(c, info['user'], info['password'])` on the database that the string names. -/
def grantLogin (dsn host : String) (info : Info) : Script Unit := do
  let named ← ofOption (info "host")
  if named = host then do
    let user ← ofOption (info "user")
    let password ← ofOption (info "password")
    call (.role dsn user password)
  else pure ()

/-- A connection string has its login granted. -/
def grantField (dsn host : String) (entry : String × Json String) : Script Unit :=
  match isDsn entry.1, entry.2 with
  | false, _ => pure ()
  | true, .string text => do
    let info ← ofOption (conn.conninfoToDict text)
    grantLogin dsn host info
  | true, _ => raise

/-- A login role of the migrations, with a password that nobody knows. -/
def ensureRole (dsn name : String) : Script Unit := do
  let found ← call (.roleExists dsn name)
  if found then pure () else do
    let token ← call .tokenUrlsafe
    call (.role dsn name token.1)

/-- The logins that the migrations need only while they run. -/
def closeLogins (dsn : String) : Database → Script Unit
  | .control => do
    call (.nologin dsn "control_app")
    call (.nologin dsn "synthetic_remote")
  | .downstream => call (.nologin dsn "control_app")

/-- The roles, the logins and the migration of one database. -/
def provision (hosts : Database → String) (documents : Documents) (dsns : Database → String)
    (database : Database) : Script Unit := do
  call (.connect (dsns database))
  each (ensureRole (dsns database)) ["control_app", "synthetic_remote"]
  each (fun entry => each (grantField conn (dsns database) (hosts database)) entry.2) documents
  call (.migrate (dsns database))
  call (.connect (dsns database))
  closeLogins (dsns database) database

/-- `bootstrap(…)`, over the secrets, then over both databases. -/
def bootstrap (inputs : Inputs) : Script Unit := do
  let control ← ownerDsn conn inputs .control
  let downstream ← ownerDsn conn inputs .downstream
  let passwords ← passwords
  let token ← call .tokenUrlsafe
  let executor ← surviving arns (.string token.1) [.worker, .remote]
  let initial ← initial conn (both control downstream) passwords executor
  let documents ← fold (loadOne arns initial) inputs.order []
  let shared ← ofOption (sharesToken documents)
  check shared
  let documents ← fold (reviseOne conn arns inputs.hosts) documents []
  each (provision conn inputs.hosts documents (both control downstream)) [.control, .downstream]
  call (.grants control downstream)

end Program

end ControlPlane.Bootstrap
