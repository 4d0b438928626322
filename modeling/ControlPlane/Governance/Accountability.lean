import ControlPlane.Governance.Answers
import ControlPlane.Transactions.Work

/-!
# Who has done it

A run of the service is a run of commits, each of which is accounted for by an occurrence
(`service_refines`): a request that is accepted commits the transaction of its route with the
command that it carries, a request with violations commits their report, and a request that is
refused commits nothing; everything else is committed by the workers and the coordinator.

A commit is made under the name of the principal whose token the request carries, with a role that
is entitled to it (`Answers.entitled`). So what the audit log says of it is true: each record names
the principal of a request that was made at that time, or the executor, and the principal has a
role for records of that kind; every proposal is the agent's, and every approval the approver's
(`service_accountable`).
-/

namespace ControlPlane.Api

open Framework

/-! ### Entitlement -/

/-- When the database clock is read in it. -/
def Commit.now : Commit → Time
  | .tx entry => entry.now
  | .report now _ _ _ => now

/-- The principal may commit it, under its own name. -/
def Commit.Entitled (actor : Actor) : Commit → Prop
  | .tx ⟨_, .ingest source _⟩ => source.actor = actor
  | .tx ⟨_, .link actor' _⟩ | .tx ⟨_, .resolve actor' _ _⟩ => actor' = actor ∧ actor = .operator
  | .tx ⟨_, .propose actor' _⟩ => actor' = actor ∧ actor = .agent
  | .tx ⟨_, .approve _ _ actor' _ _⟩ => actor' = actor ∧ actor = .approver
  | .tx _ => False
  | .report _ actor' _ _ => actor' = actor ∧ actor ∈ expected

/-- A role with a token is one of those that need one. -/
theorem Tokens.mem_expected (tokens : Tokens) {actor : Actor} {token : String}
    (h : (actor, token) ∈ tokens.entries) : actor ∈ expected := by
  obtain ⟨entries, h_valid⟩ := tokens
  simp only [lifespan, Bool.and_eq_true] at h_valid
  exact of_decide_eq_true (List.all_eq_true.mp h_valid.1.1.1 _ h)

section Entitlement

variable {tokens : Tokens} {parsers : Contract.Parsers} {now utc utc' : Time} {call : Call}
  {db : Db}

/-- The command of a route is one of those its roles are entitled to. -/
theorem Asks.entitled {actor : Actor} {route : Route} {content : Content} {asked : Checked Command}
    {tx : Tx} (h : Asks parsers utc utc' actor route content asked) (h_role : actor ∈ route.roles)
    (h_asked : asked = .ok (.tx tx)) : (Commit.tx ⟨now, tx⟩).Entitled actor := by
  cases h with
  | events value source h_source =>
    obtain ⟨event, _, h_command⟩ := map_eq_ok.mp h_asked
    cases h_command
    exact h_source
  | link | propose | approve | resolve =>
    obtain ⟨command, _, h_command⟩ := map_eq_ok.mp h_asked
    cases h_command
    exact ⟨rfl, List.mem_singleton.mp h_role⟩
  | customer | proposal | exceptions | audit =>
    obtain ⟨_, _, h_command⟩ := map_eq_ok.mp h_asked
    cases h_command

/-- **A request is one entitled commit at most**, for a token that it carries. -/
theorem Answers.entitled {response : Response} {commits : List Commit}
    (h : Answers tokens parsers now utc utc' call db response commits) :
    commits = [] ∨ ∃ actor commit, commits = [commit] ∧ commit.now = now ∧
      Carries tokens call actor ∧ commit.Entitled actor := by
  cases h with
  | health | refused => exact .inl rfl
  | accepted actor command reply h_token h_role h_asks =>
    cases command with
    | tx tx => exact .inr ⟨actor, _, rfl, rfl, h_token, h_asks.entitled h_role rfl⟩
    | _ => exact .inl rfl
  | reported actor errors h_token =>
    exact .inr ⟨actor, _, rfl, rfl, h_token, rfl, tokens.mem_expected h_token⟩

end Entitlement

/-! ### Runs -/

/-- The commits that an occurrence accounts for, at the database that it meets. A request is
answered with them, and not refused where everything about it is in order. -/
inductive Attributed (tokens : Tokens) (parsers : Contract.Parsers) (db : Db) :
    Occurrence → List Commit → Prop
  | work (entry : Entry) (h : internal entry.tx = true) :
      Attributed tokens parsers db (.work entry h) [.tx entry]
  | call (now utc utc' : Time) (call : Call) (commits : List Commit)
      (h_answers : Answers tokens parsers now utc utc' call db
        (serve tokens parsers now utc utc' call db).1 commits)
      (h_accepts : ∀ actor command reply,
        Comparable (supplied call.authorization) tokens.entries → Carries tokens call actor →
        actor ∈ call.route.roles →
        Asks parsers utc utc' actor call.route call.content (.ok command) →
        Performs now db command (.ok reply) → (∀ text ∈ command.texts, zero ∉ text.toList) →
        (serve tokens parsers now utc utc' call db).1 = .ok reply ∧
          commits = command.commits now) :
      Attributed tokens parsers db (.call now utc utc' call) commits

/-- A run with the commits that its occurrences account for, one occurrence after the other. -/
inductive Accounts (tokens : Tokens) (parsers : Contract.Parsers) (db₀ : Db) :
    List Occurrence → List Commit → Prop
  | start : Accounts tokens parsers db₀ [] []
  | next {occurrences : List Occurrence} {commits : List Commit} (occurrence : Occurrence)
      (commits' : List Commit) (h : Accounts tokens parsers db₀ occurrences commits)
      (h_next : Attributed tokens parsers (run Commit.apply db₀ commits) occurrence commits') :
      Accounts tokens parsers db₀ (occurrences ++ [occurrence]) (commits ++ commits')

section Runs

variable {tokens : Tokens} {parsers : Contract.Parsers}

variable (tokens parsers) in
/-- Every occurrence accounts for what it commits. -/
theorem occur_attributed (db : Db) (occurrence : Occurrence) :
    ∃ commits, Attributed tokens parsers db occurrence commits ∧
      occur tokens parsers db occurrence = run Commit.apply db commits := by
  cases occurrence with
  | work entry h_internal => exact ⟨[.tx entry], .work entry h_internal, rfl⟩
  | call now utc utc' call =>
    obtain ⟨commits, h_answers, h_db⟩ := serve_answers tokens parsers now utc utc' call db
    refine ⟨commits, .call now utc utc' call commits h_answers ?_, h_db⟩
    intro actor command reply h_comparable h_token h_role h_asks h_performs h_texts
    exact h_answers.of_performs h_comparable h_token h_role h_asks h_performs h_texts

end Runs

/-! ### The audit log -/

/-- The principals that have a role for records of the kind. -/
def authors : AuditDetail → List Actor
  | .sourceConflict .. | .sourceDuplicate .. | .identityException .. | .sourceDecision .. =>
    [.crm, .consent, .scoring, .privacy]
  | .identityLink .. | .exceptionResolution .. => [.operator]
  | .proposal .. | .proposalConflict => [.agent]
  | .approval .. | .approvalDenied .. => [.approver]
  | .claim .. | .dispatchAuthorized .. | .executionResult .. => [.executor]
  | .invalidContract .. => expected

/-- What was written to the log names the principal, the time, and what the principal may do. -/
def Logs (now : Time) (actor : Actor) (db db' : Db) : Prop :=
  ∃ added, db'.auditLog = db.auditLog ++ added ∧
    ∀ row ∈ added, row.recordedAt = now ∧ row.actor = actor ∧ actor ∈ authors row.detail

section Logs

variable {now : Time} {actor : Actor} {db db' : Db}

/-- Nothing is logged. -/
theorem logs_none (h : db'.auditLog = db.auditLog) : Logs now actor db db' :=
  ⟨[], by rw [h, List.append_nil], fun _ h_row => absurd h_row List.not_mem_nil⟩

/-- A new request logs its proposal. -/
theorem enqueue_log (command : Contract.Proposal) (row : Customer) (decision : Decision × Reason)
    (destination : Option String) :
    (Service.enqueue now actor command row decision destination db).auditLog = db.auditLog ++
      [⟨now, actor, .id command.requestId, policyHash, .proposal command row.state row.provenance
        decision.1 decision.2 (digest command)⟩] := by
  obtain ⟨decision, reason⟩ := decision
  cases destination <;> cases decision <;> rfl

/-- A grant logs its approval. -/
theorem grant_log (id : Uuid) (proposal : Proposal) (utc : Time) :
    (Service.grant now actor id proposal utc db).auditLog = db.auditLog ++
      [⟨now, actor, .id id, policyHash, .approval proposal.hash proposal.revision
        (Service.approvalUntil proposal utc)⟩] := by
  unfold Service.grant
  dsimp only
  split <;> rfl

/-- A result is logged under the executor. -/
theorem conclude_log (backoff : Time) (id : Uuid) (status : JobStatus) (reason : JobReason)
    (remoteResult : Option (RemoteResult (Digest Mutation))) (uncertain : Option Bool)
    (current : Job) :
    (Worker.conclude now backoff id status reason remoteResult uncertain current db).auditLog =
      db.auditLog ++ [⟨now, .executor, .id id, policyHash,
        .executionResult status reason current.attempts remoteResult⟩] := by
  unfold Worker.conclude
  dsimp only
  split <;> rfl

/-- One row is logged, of a kind that the actor may author. -/
theorem logs_one {subject : Subject} {policy : Digest Policy} {detail : AuditDetail}
    (h : db'.auditLog = db.auditLog ++ [⟨now, actor, subject, policy, detail⟩])
    (h_author : actor ∈ authors detail) : Logs now actor db db' := by
  refine ⟨_, h, fun row h_row => ?_⟩
  obtain rfl := List.mem_singleton.mp h_row
  exact ⟨rfl, rfl, h_author⟩

/-- Every source is an actor of its own. -/
theorem author_source (source : Source) :
    source.actor ∈ [Actor.crm, .consent, .scoring, .privacy] := by
  cases source <;> decide

/-- A source logs its events. -/
theorem ingest_logs {source : Source} {event : SourceEvent} {reply : Service.IngestReply}
    (h : Service.Ingested now source event db reply db') : Logs now source.actor db db' := by
  cases h with
  | conflict | duplicate | reviewed => exact logs_one rfl (author_source source)
  | known customerId row =>
    exact logs_one (Service.observed_log now source event customerId row db) (author_source source)
  | enrolled =>
    exact logs_one (Service.observed_log now source event db.supply Customer.initial
      (Service.enroll source event db)) (author_source source)

/-- The agent logs its proposals. -/
theorem propose_logs {command : Contract.Proposal} {reply : Service.ProposeReply}
    (h : Service.Proposed now .agent command db reply db') : Logs now .agent db db' := by
  cases h with
  | closed | repeated => exact logs_none rfl
  | conflict => exact logs_one rfl List.mem_cons_self
  | admitted => exact logs_one (enqueue_log ..) List.mem_cons_self

/-- The approver logs its approvals. -/
theorem approve_logs {utc utc' : Time} {id : Uuid} {command : Contract.Approval}
    {reply : Service.ApproveReply}
    (h : Service.Approved now utc utc' .approver id command db reply db') :
    Logs now .approver db db' := by
  cases h with
  | closed | repeated => exact logs_none rfl
  | refused => exact logs_one rfl List.mem_cons_self
  | granted => exact logs_one (grant_log ..) List.mem_cons_self

/-- The workers and the coordinator write under the name of the executor. -/
theorem internal_logs (entry : Entry) (h : internal entry.tx = true) :
    Logs entry.now .executor db (db.step entry) := by
  obtain ⟨now, tx⟩ := entry
  have h_committed := tx.committed now db
  change Logs now .executor db (tx.apply now db)
  generalize tx.apply now db = db' at h_committed ⊢
  -- a transaction of the workers logs at most one row, where it claims, prepares or finishes
  cases h_committed with
  | rolledBack => exact logs_none rfl
  | ingest | link | propose | approve | resolve => cases h
  | claim h_case =>
    cases h_case with
    | nothing => exact logs_none rfl
    | leased => exact logs_one rfl List.mem_cons_self
  | prepare h_case =>
    cases h_case with
    | authorized => exact logs_one rfl List.mem_cons_self
    | _ => exact logs_none rfl
  | finish h_case =>
    cases h_case with
    | fenced => exact logs_none rfl
    | recorded => exact logs_one (conclude_log ..) List.mem_cons_self
  | defer h_case | acquire h_case | release h_case => cases h_case <;> exact logs_none rfl
  | begin h_case | verify h_case =>
    rw [h_case.h_state]
    exact logs_none rfl
  | approveRecovery | resume =>
    unfold Recovery.markSession
    split <;> exact logs_none rfl

/-- **What an entitled commit logs.** -/
theorem entitled_logs {commit : Commit} (h : commit.Entitled actor) :
    Logs commit.now actor db (commit.apply db) := by
  cases commit with
  | report now actor' path errors =>
    obtain ⟨rfl, h_expected⟩ := h
    exact logs_one rfl h_expected
  | tx entry =>
    obtain ⟨now, tx⟩ := entry
    have h_committed := tx.committed now db
    change Logs now actor db (tx.apply now db)
    generalize tx.apply now db = db' at h_committed ⊢
    cases h_committed with
    | rolledBack => exact logs_none rfl
    | ingest h_case =>
      -- the source writes under its own name
      obtain rfl : Source.actor _ = actor := h
      exact ingest_logs h_case
    | link h_case =>
      obtain ⟨rfl, rfl⟩ := h
      cases h_case <;> exact logs_one rfl List.mem_cons_self
    | propose h_case =>
      obtain ⟨rfl, rfl⟩ := h
      exact propose_logs h_case
    | approve h_case =>
      obtain ⟨rfl, rfl⟩ := h
      exact approve_logs h_case
    | resolve h_case =>
      obtain ⟨rfl, rfl⟩ := h
      cases h_case <;> exact logs_one rfl List.mem_cons_self
    | _ => exact h.elim

end Logs

/-! ### Proposals -/

/-- Every proposal is the agent's, and every approval the approver's. -/
def Separated (db : Db) : Prop :=
  ∀ id proposal, db.proposals.lookup id = some proposal → proposal.actor = .agent ∧
    ∀ actor, proposal.approvedBy = some actor → actor = .approver

/-- A transaction keeps proposals and approvals apart. -/
theorem Separated.step {db : Db} (h : Separated db) (entry : Entry)
    (h_propose : ∀ actor command, entry.tx = .propose actor command → actor = .agent)
    (h_approve : ∀ utc utc' actor id command, entry.tx = .approve utc utc' actor id command →
      actor = .approver) : Separated (db.step entry) := by
  intro id proposal h_proposal
  cases proposal_move db entry id with
  | kept h_after => exact h id proposal (h_after ▸ h_proposal)
  | proposed actor command row h_tx _ _ _ h_after =>
    rw [h_after] at h_proposal
    cases h_proposal
    exact ⟨h_propose actor command h_tx, nofun⟩
  | approved utc utc' actor command before row h_tx h_before _ _ _ h_after =>
    rw [h_after] at h_proposal
    cases h_proposal
    refine ⟨(h id before h_before).1, ?_⟩
    rintro _ ⟨⟩
    exact h_approve utc utc' actor id command h_tx

/-- So does a commit to which its actor is entitled. -/
theorem Separated.entitled {db : Db} {actor : Actor} {commit : Commit} (h : Separated db)
    (h_entitled : commit.Entitled actor) : Separated (commit.apply db) := by
  cases commit with
  | report => exact h
  | tx entry =>
    obtain ⟨now, tx⟩ := entry
    refine h.step ⟨now, tx⟩ ?_ ?_
    · rintro actor' command rfl
      exact h_entitled.1.trans h_entitled.2
    · rintro utc utc' actor' id command rfl
      exact h_entitled.1.trans h_entitled.2

/-! ### Accountability -/

/-- What the database says of who has done something is true of the run. -/
structure Accountable (tokens : Tokens) (occurrences : List Occurrence) (db : Db) : Prop where
  audit : ∀ row ∈ db.auditLog, row.actor ∈ authors row.detail ∧ (row.actor = .executor ∨
    ∃ utc utc' call, .call row.recordedAt utc utc' call ∈ occurrences ∧
      Carries tokens call row.actor)
  separated : Separated db

section Accountability

variable {tokens : Tokens} {occurrences : List Occurrence} {db db' : Db}

/-- One more occurrence, with what it has logged. -/
theorem Accountable.step (h : Accountable tokens occurrences db) {occurrence : Occurrence}
    {now : Time} {actor : Actor} (h_logs : Logs now actor db db') (h_separated : Separated db')
    (h_by : actor = .executor ∨ ∃ utc utc' call, occurrence = .call now utc utc' call ∧
      Carries tokens call actor) : Accountable tokens (occurrences ++ [occurrence]) db' := by
  refine ⟨fun row h_row => ?_, h_separated⟩
  obtain ⟨added, h_log, h_added⟩ := h_logs
  rw [h_log] at h_row
  rcases List.mem_append.mp h_row with h_row | h_row
  · obtain ⟨h_author, h_made⟩ := h.audit row h_row
    refine ⟨h_author, h_made.imp_right ?_⟩
    rintro ⟨utc, utc', call, h_call, h_token⟩
    exact ⟨utc, utc', call, List.mem_append_left _ h_call, h_token⟩
  · obtain ⟨rfl, rfl, h_author⟩ := h_added row h_row
    refine ⟨h_author, h_by.imp_right ?_⟩
    rintro ⟨utc, utc', call, rfl, h_token⟩
    exact ⟨utc, utc', call, List.mem_append_right _ List.mem_cons_self, h_token⟩

/-- **Who has done it.** -/
theorem service_accountable (tokens : Tokens) (parsers : Contract.Parsers)
    (registry : Table String Destination) (owners : Table String String)
    (occurrences : List Occurrence) :
    Accountable tokens occurrences (service tokens parsers registry owners occurrences) := by
  refine run_induction (occur tokens parsers) (Db.migrated registry owners)
    (P := Accountable tokens) ⟨fun _ h_row => absurd h_row List.not_mem_nil,
      fun _ _ h_proposal => by cases h_proposal⟩ ?_ occurrences
  intro occurrences occurrence h
  obtain ⟨commits, h_commits, h_step⟩ :=
    occur_attributed tokens parsers _ occurrence
  rw [h_step]
  generalize run (occur tokens parsers) (Db.migrated registry owners) occurrences = db at h ⊢
  -- a transaction inside the service is the executor's, all others carry a token
  cases h_commits with
  | work entry h_internal =>
    refine h.step (internal_logs entry h_internal) (h.separated.step entry ?_ ?_) (.inl rfl)
    · rintro actor command h_tx
      rw [h_tx] at h_internal
      cases h_internal
    · rintro utc utc' actor id command h_tx
      rw [h_tx] at h_internal
      cases h_internal
  | call now utc utc' call _ h_answers =>
    rcases h_answers.entitled with rfl | ⟨actor, commit, rfl, rfl, h_token, h_entitled⟩
    · have h_logs : Logs now .executor db db := logs_none rfl
      exact h.step h_logs h.separated (.inl rfl)
    · exact h.step (entitled_logs h_entitled) (h.separated.entitled h_entitled)
        (.inr ⟨utc, utc', call, rfl, h_token⟩)

end Accountability

end ControlPlane.Api
