import ControlPlane.Dispatch.Origin
import ControlPlane.Model.Execution
import ControlPlane.Permits.Carried

/-!
# What a receiver can do to a worker

`settled_iff` says which runs of `execute` settle the job: those in which the HTTP client is
built, no request brings a reply that `execute` neither reads nor catches, and no result that
`jsonb` rejects is written under a current lease. In every other run an exception leaves
`execute`, and the worker loop with it.

What the database answers is never the reason. `Backend` has the transactions of a run in its
log, so that the invariants of the database hold at every question (`database_sound`), and the
permit of a request can be given back whatever happened in between (`release_answered`).
-/

namespace ControlPlane.Execution

open Framework Worker
open Dialogue (Yields yields_ask_bind yields_pure)

/-! ### The database of a backend -/

namespace Backend

variable (b : Backend)

/-- The fold goes through the history. -/
theorem foldl_advance_fst (history before : History) (entries : List Entry) :
    (history.foldl b.advance (before, entries)).1 = before ++ history := by
  -- the history is read from the front, with what was read so far beside it
  induction history generalizing before entries with
  | nil => simp
  | cons exchange history ih =>
    rw [List.foldl_cons, advance, ih]
    simp

/-- One more question adds what the others commit, then what it commits itself. -/
theorem log_concat (history : History) (exchange : Exchange Call Call.Answer) :
    b.log (history ++ [exchange]) =
      b.log history ++ b.others history ++ b.entries history exchange.1 := by
  have h_fst := b.foldl_advance_fst history []
    (b.past ++ [⟨b.claimedAt, .claim b.leaseSeconds b.locked⟩])
  rw [log, List.foldl_append, List.foldl_cons, List.foldl_nil, advance, h_fst]
  rfl

/-- The state when the last answer is there. -/
abbrev stored (history : History) : Db := (Db.migrated b.registry b.owners).run (b.log history)

/-- The database of a question is what was stored, with the commits of the others since. -/
theorem database_eq (history : History) :
    b.database history = (b.stored history).run (b.others history) := by
  rw [database, Db.run, run_append]

/-- What is stored after a question is its database with its own commits. -/
theorem stored_concat (history : History) (exchange : Exchange Call Call.Answer) :
    b.stored (history ++ [exchange]) =
      (b.database history).run (b.entries history exchange.1) := by
  rw [stored, log_concat, Db.run, run_append]
  rfl

/-- Every such database is reached by transactions, so its invariants hold. -/
theorem database_sound (history : History) :
    WorkSound (b.database history) ∧ LogSound (b.database history) :=
  ⟨work_sound b.registry b.owners _, log_sound b.registry b.owners _⟩

/-- The job that was claimed is never deleted. -/
theorem job_present (history : History) :
    ∃ job, (b.database history).jobs.lookup b.job.id = some job := by
  -- no transaction deletes a job
  have h_keep : ∀ (db : Db) (entries : List Entry),
      (∃ job, db.jobs.lookup b.job.id = some job) →
        ∃ job, (db.run entries).jobs.lookup b.job.id = some job := by
    intro db entries h
    exact run_invariant (I := fun db : Db => ∃ job, db.jobs.lookup b.job.id = some job) h
      (fun _ entry h => h.elim fun _ h => job_persists entry h) entries
  rw [database_eq]
  refine h_keep _ _ ?_
  induction history using List.reverseRecOn with
  | nil =>
    obtain ⟨db', h_claim⟩ := Outcome.answer_eq_ok.mp b.claimed
    have h_step : b.stored [] = db' := by
      show Framework.run Db.step _ (b.past ++ [_]) = db'
      rw [run_concat]
      show (claim b.claimedAt b.leaseSeconds b.locked _).commit _ = db'
      rw [h_claim, Outcome.commit_ok]
    -- the claim that the backend starts from has left its row
    rw [h_step]
    generalize h_job : b.job = job at h_claim
    cases claim_cases h_claim with
    | leased id job => exact ⟨_, Table.lookup_insert_self _ _ _⟩
  | append_singleton history exchange ih =>
    rw [stored_concat, database_eq]
    exact h_keep _ _ (h_keep _ _ ih)

/-- The permit of the token is logged and not completed. -/
structure Outstanding (token : Uuid) (db : Db) : Prop where
  logged : (db.capacityRequests.lookup token).isSome
  unfinished : db.capacityCompletions.lookup token = none

/-- A permit stays outstanding unless it is released. -/
theorem Outstanding.step {db : Db} {token : Uuid} (h : Outstanding token db) (h_log : LogSound db)
    {entry : Entry} (h_not : ¬Releases token entry.tx) : Outstanding token (db.step entry) where
  -- the log only grows; completions only come from a release of the token
  logged := by
    obtain ⟨row, h_row⟩ := Option.isSome_iff_exists.mp h.logged
    exact Option.isSome_iff_exists.mpr ⟨row, (logs_persist h_log entry).1 row h_row⟩
  unfinished := unfinished_step h.unfinished fun name failed cooldown h_tx =>
    h_not ⟨name, failed, cooldown, h_tx⟩

/-- So it does over any entries without its release. -/
theorem Outstanding.run {db : Db} {token : Uuid} {entries : List Entry}
    (h : Outstanding token db) (h_log : LogSound db)
    (h_not : ∀ entry ∈ entries, ¬Releases token entry.tx) : Outstanding token (db.run entries) := by
  -- what the others commit: none of it releases the token
  induction entries generalizing db with
  | nil => exact h
  | cons entry entries ih =>
    exact ih (h.step h_log (h_not entry List.mem_cons_self)) (h_log.step entry)
      fun other h_mem => h_not other (List.mem_cons_of_mem entry h_mem)

/-- A permit that was granted is outstanding when the grant has committed. -/
theorem granted_outstanding {history : History} {name : String} {route : Destination}
    {kind : RequestKind} {token : Uuid}
    (h : b.answer history (.acquire name route kind) = .ok (some token)) :
    Outstanding token (b.stored (history ++ [⟨.acquire name route kind, .ok (some token)⟩])) := by
  have h_log := (b.database_sound history).2
  obtain ⟨reply, db', h_ok, h_result⟩ :=
    Capacity.acquire_result (b.now history) name route kind (b.database history)
  -- the grant is the last thing in the log
  have h_stored : b.stored (history ++ [⟨.acquire name route kind, .ok (some token)⟩]) = db' := by
    rw [stored_concat]
    show (Capacity.acquire (b.now history) name route kind (b.database history)).commit _ = db'
    rw [h_ok, Outcome.commit_ok]
  have h_reply : reply = some token := by
    change (Capacity.acquire (b.now history) name route kind (b.database history)).answer = _ at h
    rw [h_ok] at h
    exact Except.ok.inj h
  rw [h_stored]
  cases h_result with
  | refused => cases h_reply
  | granted h_granted =>
    obtain rfl := Option.some.inj h_reply
    refine ⟨?_, ?_⟩
    · exact Option.isSome_iff_exists.mpr ⟨_, Table.lookup_insert_self _ _ _⟩
    · -- only logged permits are completed, and this token was not logged before
      show (b.database history).capacityCompletions.lookup _ = none
      cases h_row : (b.database history).capacityCompletions.lookup (b.database history).supply with
      | none => rfl
      | some row =>
        have h_some := h_log.completions _ row h_row
        rw [h_log.requests_free] at h_some
        cases h_some

/-- The permit of a request can be given back, whatever happened since it was granted. -/
theorem release_answered {history : History} {name : String} {route : Destination}
    {kind : RequestKind} {token : Uuid} {request : Request} {reply : Reply} (failed : Bool)
    (cooldown : ℕ) (h : b.answer history (.acquire name route kind) = .ok (some token)) :
    b.answer (history ++ [⟨.acquire name route kind, .ok (some token)⟩] ++
      [⟨.send request, reply⟩]) (.release name token failed cooldown) = .ok () := by
  set granted := history ++ [⟨.acquire name route kind, .ok (some token)⟩] with h_history
  set replied := granted ++ [⟨.send request, reply⟩] with h_replied
  have h_mem : ⟨.acquire name route kind, .ok (some token)⟩ ∈ granted := by simp [h_history]
  have h_granted : Outstanding token (b.database granted) := by
    rw [database_eq]
    exact (b.granted_outstanding h).run (log_sound _ _ _) (b.apart _ _ _ _ _ h_mem)
  -- the send commits nothing, so only the others come in between
  have h_outstanding : Outstanding token (b.database replied) := by
    have h_same : b.stored replied = b.database granted := by rw [h_replied, stored_concat]; rfl
    rw [database_eq, h_same]
    exact h_granted.run (b.database_sound granted).2
      (b.apart _ _ _ _ _ (List.mem_append_left _ h_mem))
  obtain ⟨db', h_ok⟩ := Capacity.release_ok (b.now replied) name failed cooldown
    h_outstanding.logged h_outstanding.unfinished
  show (Capacity.release (b.now replied) name token failed cooldown (b.database replied)).answer = _
  rw [h_ok]
  rfl

/-- `acquire` raises nothing. -/
theorem acquire_answered (history : History) (name : String) (route : Destination)
    (kind : RequestKind) : ∃ token, b.answer history (.acquire name route kind) = .ok token := by
  obtain ⟨reply, db', h_ok, -⟩ :=
    Capacity.acquire_result (b.now history) name route kind (b.database history)
  exact ⟨reply, Outcome.answer_eq_ok.mpr ⟨db', h_ok⟩⟩

/-- `finish` raises nothing but an unstorable result. -/
theorem finish_answered (history : History) (verdict : Verdict) (storable : Bool) :
    ∃ current, b.answer history (.finish verdict storable) = .ok current := by
  obtain ⟨job, h_job⟩ := b.job_present history
  simp only [answer, settle, Worker.finish, h_job]
  -- the lease is lost, or the row is written
  split
  · exact ⟨false, rfl⟩
  · exact ⟨true, rfl⟩

/-- `prepare` finds its rows; only the address of a marketing mail may be missing. -/
theorem prepare_answered {history : History} {fault : Fault}
    (h : b.answer history .prepare = .error fault) : fault = .missingKey := by
  have h_sound := (b.database_sound history).1
  obtain ⟨job, h_job⟩ := b.job_present history
  obtain ⟨proposal, h_proposal, -⟩ := h_sound.job _ _ h_job
  obtain ⟨row, h_row, -⟩ := h_sound.proposal _ _ h_proposal
  simp only [answer, Worker.prepare, h_proposal, h_row, h_job] at h
  -- the gate, the fence and the rules are answers, not faults
  split at h
  · cases h
  split at h
  · cases h
  split at h
  · cases h
  split at h
  next fault' h_mutation =>
    obtain rfl : fault' = fault := Except.error.inj h
    unfold mutationOf at h_mutation
    split at h_mutation
    · split at h_mutation <;> cases h_mutation
      rfl
    · cases h_mutation
  · split at h <;> cases h

end Backend

/-! ### What a run can meet -/

/-- The mutation whose digest a result is compared with. -/
def compared (job : Claimed) : Request → Option Mutation
  | .receipt => job.row.mutation
  | .dispatch mutation => some mutation

/-- The reply raises an exception that `execute` does not name: one of the client, or one of
reading the body, which nests too deeply or is no object while there is a digest to compare. -/
def Reply.breaks (job : Claimed) (request : Request) : Reply → Bool
  | .failed => false
  | .broken => true
  | .received status _ body => reads request status &&
      match body with
      | .tooDeep => true
      | .decoded content _ => content = .other && (compared job request).isSome

/-- The reply carries the result that is expected, and `jsonb` rejects it. -/
def Reply.unstorable (job : Claimed) (request : Request) : Reply → Bool
  | .received status _ body => reads request status &&
      match body with
      | .decoded (.object members) false =>
        (compared job request).any fun mutation => members.hash = some (digest mutation)
      | _ => false
  | _ => false

/-- The request was made in the run, and this is what it brought. -/
def Brought (history : History) (request : Request) (reply : Reply) : Prop :=
  ⟨.send request, reply⟩ ∈ history

/-- What the environment must not do. -/
structure Benign (job : Claimed) (history : History) : Prop where
  client : ∀ route, ⟨.client route, false⟩ ∉ history
  reply : ∀ request reply, Brought history request reply → reply.breaks job request = false
  /-- A result that cannot be stored is not written, since the lease is lost before. -/
  result : ∀ request reply, Brought history request reply →
    reply.unstorable job request = true →
      ∀ verdict storable, ⟨.finish verdict storable, .ok true⟩ ∉ history

/-- The job is settled: `finish` was called once, or `prepare` reported `lease_lost`, or the
request was deferred and the job is left for `defer`. -/
def Settled (history : History) : Ending → Prop
  | .returned => finishes history = 1 ∨
      (finishes history = 0 ∧ ⟨.prepare, .ok (.refused .leaseLost)⟩ ∈ history)
  | .deferred => finishes history = 0
  | .raised _ => False

/-! ### Replies -/

section Replies

variable {job : Claimed} {request : Request} {reply : Reply}

/-- Where the body is not read, the verdict has no result. -/
theorem afterResponse_unread (job : Claimed) (response : Response)
    (h : reads request response.status = false) :
    (∃ verdict, afterResponse job request response = .settle verdict ∧
      verdict.remoteResult = none) ∨
      (request = .receipt ∧ afterResponse job request response = .prepare) := by
  cases request with
  | receipt =>
    have h_status : response.status ≠ 200 := by simpa [reads] using h
    show (∃ verdict, afterLookup job response = _ ∧ _) ∨ _ ∧ afterLookup job response = _
    rw [afterLookup, if_neg h_status]
    split
    · exact .inl ⟨_, rfl, rfl⟩
    · exact .inr ⟨rfl, rfl⟩
  | dispatch mutation =>
    have h_status : ¬(response.status = 200 ∨ response.status = 201) := by
      simpa [reads] using h
    refine .inl ?_
    show ∃ verdict, afterPost mutation response = _ ∧ _
    rw [afterPost, if_neg h_status]
    split
    · exact ⟨_, rfl, rfl⟩
    split
    · exact ⟨_, rfl, rfl⟩
    · exact ⟨_, rfl, rfl⟩

/-- What `execute` does with a body that it reads. -/
inductive Read (job : Claimed) (request : Request) : Content → Next → Prop
  | malformed : Read job request .malformed (.settle .outcomeUnknown)
  | unknown (content : Content) (h_mutation : compared job request = none) :
      Read job request content (.settle .identityConflict)
  | other (mutation : Mutation) (h_mutation : compared job request = some mutation) :
      Read job request .other .raise
  | conflict (mutation : Mutation) (members : RemoteResult (Digest Mutation))
      (h_mutation : compared job request = some mutation)
      (h_hash : members.hash ≠ some (digest mutation)) :
      Read job request (.object members) (.settle .identityConflict)
  | expected (mutation : Mutation) (members : RemoteResult (Digest Mutation)) (verdict : Verdict)
      (h_mutation : compared job request = some mutation)
      (h_hash : members.hash = some (digest mutation))
      (h_result : verdict.remoteResult = some members) :
      Read job request (.object members) (.settle verdict)

/-- What is made of a response whose body is read. -/
theorem afterResponse_read (job : Claimed) (response : Response)
    (h : reads request response.status = true) :
    Read job request response.content (afterResponse job request response) := by
  obtain ⟨status, retryAfter, content⟩ := response
  cases request with
  | receipt =>
    have h_status : status = 200 := by simpa [reads] using h
    simp only [afterResponse, afterLookup, if_pos h_status]
    split
    next => exact .malformed
    next h_none => exact .unknown _ h_none
    next mutation h_some => exact .other mutation h_some
    next members mutation h_some =>
      split
      next h_hash => exact .conflict mutation members h_some h_hash
      next h_hash => exact .expected mutation members _ h_some (not_not.mp h_hash) rfl
  -- a POST is read on two statuses, and its mutation is always there to compare with
  | dispatch mutation =>
    have h_status : status = 200 ∨ status = 201 := by simpa [reads] using h
    simp only [afterResponse, afterPost, if_pos h_status]
    split
    next => exact .malformed
    next => exact .other mutation rfl
    next members =>
      split
      next h_hash => exact .conflict mutation members rfl h_hash
      next h_hash => exact .expected mutation members _ rfl (not_not.mp h_hash) rfl

/-- What `execute` makes of a reply: an exception exactly at a reply that breaks it, or a
verdict, whose result is stored where it is the expected one, or, after a lookup, `prepare`. -/
inductive ReplyCase (job : Claimed) (request : Request) (reply : Reply) :
    Except Exn (Option Verdict) → Prop
  | raised (exn : Exn) (h_breaks : reply.breaks job request = true) :
      ReplyCase job request reply (.error exn)
  | settled (verdict : Verdict) (h_breaks : reply.breaks job request = false)
      (h_storable : reply.unstorable job request = !reply.storable verdict) :
      ReplyCase job request reply (.ok (some verdict))
  | absent (h_request : request = .receipt) (h_breaks : reply.breaks job request = false)
      (h_storable : reply.unstorable job request = false) : ReplyCase job request reply (.ok none)

/-- A verdict without a result can be stored. -/
theorem storable_of_none {verdict : Verdict} (h : verdict.remoteResult = none) (reply : Reply) :
    reply.storable verdict = true := by
  unfold Reply.storable
  split
  · rw [h, Option.isNone_none, Bool.true_or]
  · rfl

/-- The outcome of a response whose body is not read. -/
theorem reply_cases_unread {status : ℕ} {retryAfter : RetryAfter} {body : Body}
    (h_reads : reads request status = false) :
    ReplyCase job request (.received status retryAfter body)
      (Reply.outcome job request (.received status retryAfter body)) := by
  set reply : Reply := .received status retryAfter body
  have h_breaks : reply.breaks job request = false := by simp [reply, Reply.breaks, h_reads]
  have h_unstorable : reply.unstorable job request = false := by
    simp [reply, Reply.unstorable, h_reads]
  simp only [reply, Reply.outcome, h_reads, Bool.false_and, Bool.false_eq_true, if_false]
  obtain ⟨verdict, h_settle, h_result⟩ | ⟨h_receipt, h_prepare⟩ :=
    afterResponse_unread job ⟨status, retryAfter, body.content⟩ h_reads
  · rw [h_settle]
    refine .settled verdict h_breaks ?_
    rw [h_unstorable, storable_of_none h_result]
    rfl
  · rw [h_prepare]
    exact .absent h_receipt h_breaks h_unstorable

/-- The outcome of a response whose body is read. -/
theorem reply_cases_read {status : ℕ} {retryAfter : RetryAfter} {content : Content}
    {storable : Bool} (h_reads : reads request status = true) :
    ReplyCase job request (.received status retryAfter (.decoded content storable))
      (Reply.outcome job request (.received status retryAfter (.decoded content storable))) := by
  have h_read := afterResponse_read job ⟨status, retryAfter, content⟩ h_reads
  simp only [Reply.outcome, Body.content, reduceCtorEq, decide_false, Bool.and_false,
    Bool.false_eq_true, if_false]
  generalize afterResponse job request ⟨status, retryAfter, content⟩ = next at h_read
  cases h_read with
  | malformed =>
    refine .settled _ (by simp [Reply.breaks]) ?_
    rw [storable_of_none rfl]
    simp [Reply.unstorable]
  | unknown _ h_none =>
    refine .settled _ (by simp [Reply.breaks, h_none]) ?_
    rw [storable_of_none rfl]
    cases content <;> cases storable <;> simp [Reply.unstorable, h_none]
  | other mutation h_some => exact .raised _ (by simp [Reply.breaks, h_reads, h_some])
  | conflict mutation members h_some h_hash =>
    refine .settled _ (by simp [Reply.breaks]) ?_
    rw [storable_of_none rfl]
    cases storable <;> simp [Reply.unstorable, h_some, h_hash]
  | expected mutation members verdict h_some h_hash h_result =>
    refine .settled _ (by simp [Reply.breaks]) ?_
    -- the one verdict that keeps what was received
    cases storable <;> simp [Reply.unstorable, Reply.storable, h_result, h_some, h_hash, h_reads]

/-- The outcome of any reply. -/
theorem reply_cases (job : Claimed) (request : Request) (reply : Reply) :
    ReplyCase job request reply (reply.outcome job request) := by
  cases reply with
  | failed => exact .settled _ rfl rfl
  | broken => exact .raised _ rfl
  | received status retryAfter body =>
    cases h_reads : reads request status with
    | false => exact reply_cases_unread h_reads
    | true =>
      cases body with
      | decoded content storable => exact reply_cases_read h_reads
      | tooDeep =>
        simp only [Reply.outcome, h_reads, Bool.true_and, decide_true, if_true]
        exact .raised _ (by simp [Reply.breaks, h_reads])

end Replies

/-! ### The course of a run -/

/-- An exchange after which the job can still be settled. -/
def Quiet (job : Claimed) : Exchange Call Call.Answer → Prop
  | ⟨.finish .., _⟩ => False
  | ⟨.client _, accepted⟩ => accepted = true
  | ⟨.send request, reply⟩ => reply.breaks job request = false
  | _ => True

/-- Nothing has gone wrong and `finish` is still to be called; `storable` tells whether what
it has to store will be accepted. -/
structure Underway (job : Claimed) (storable : Bool) (history : History) : Prop where
  quiet : ∀ exchange ∈ history, Quiet job exchange
  result : (∃ request reply, Brought history request reply ∧
    reply.unstorable job request = true) ↔ storable = false

/-- The end of a run: it is settled exactly if the environment was benign. -/
def Judged (job : Claimed) (ending : Ending) (history : History) : Prop :=
  Settled history ending ↔ Benign job history

section Course

variable {job : Claimed} {storable : Bool} {history : History}

/-- A reply was brought before, or by the last question. -/
theorem brought_concat {call : Call} {answer : call.Answer} {request : Request} {reply : Reply} :
    Brought (history ++ [⟨call, answer⟩]) request reply ↔ Brought history request reply ∨
      (⟨.send request, reply⟩ : Exchange Call Call.Answer) = ⟨call, answer⟩ := by
  rw [Brought, List.mem_append, List.mem_singleton, Brought]

/-- In the beginning nothing was asked. -/
theorem Underway.nil : Underway job true [] where
  quiet _ h := absurd h List.not_mem_nil
  result := by simp [Brought]

/-- A question that is not a request. -/
theorem Underway.concat (h : Underway job storable history) {call : Call} {answer : call.Answer}
    (h_quiet : Quiet job ⟨call, answer⟩) (h_call : ∀ request, call ≠ .send request) :
    Underway job storable (history ++ [⟨call, answer⟩]) where
  quiet exchange h_mem := by
    rcases List.mem_append.mp h_mem with h_old | h_new
    · exact h.quiet exchange h_old
    · obtain rfl := List.mem_singleton.mp h_new
      exact h_quiet
  -- no reply is added
  result := by
    rw [← h.result]
    refine exists_congr fun request => exists_congr fun reply => and_congr_left' ?_
    rw [brought_concat, or_iff_left]
    intro h_eq
    exact h_call request (congrArg Sigma.fst h_eq).symm

/-- A request was sent, and its reply does not break the call. -/
theorem Underway.sent (h : Underway job true history) {request : Request} {reply : Reply}
    (h_breaks : reply.breaks job request = false) :
    Underway job (!reply.unstorable job request) (history ++ [⟨.send request, reply⟩]) where
  quiet exchange h_mem := by
    rcases List.mem_append.mp h_mem with h_old | h_new
    · exact h.quiet exchange h_old
    · obtain rfl := List.mem_singleton.mp h_new
      exact h_breaks
  result := by
    -- no reply so far was unstorable
    have h_none : ¬∃ request reply, Brought history request reply ∧
        reply.unstorable job request = true := fun h_some => by simpa using h.result.mp h_some
    rw [Bool.not_eq_false']
    constructor
    · rintro ⟨request', reply', h_brought, h_unstorable⟩
      rcases brought_concat.mp h_brought with h_old | h_new
      · exact absurd ⟨request', reply', h_old, h_unstorable⟩ h_none
      · cases h_new
        exact h_unstorable
    · exact fun h_unstorable =>
        ⟨request, reply, brought_concat.mpr (.inr rfl), h_unstorable⟩

/-- While it is under way, no result was recorded. -/
theorem Underway.finishes (h : Underway job storable history) : finishes history = 0 := by
  refine List.countP_eq_zero.mpr fun ⟨call, answer⟩ h_mem h_finish => ?_
  have h_quiet := h.quiet _ h_mem
  cases call with
  | finish verdict storable => exact h_quiet
  | _ => cases h_finish

/-- While it is under way, every reply is one that `execute` reads or catches. -/
theorem Underway.benign (h : Underway job true history) : Benign job history where
  client route h_mem := by
    have h_accepted : false = true := h.quiet _ h_mem
    cases h_accepted
  reply request reply h_mem := h.quiet ⟨.send request, reply⟩ h_mem
  result request reply h_mem h_unstorable := by
    have h_false := h.result.mp ⟨request, reply, h_mem, h_unstorable⟩
    cases h_false

end Course

/-! ### The program -/

section Program

variable {b : Backend} {storable : Bool} {history : History}

/-- An exception settles nothing. -/
theorem judged_raised {job : Claimed} {exn : Exn} (h : ¬Benign job history) :
    Judged job (.raised exn) history := iff_of_false id h

/-- The result is recorded once. -/
theorem finish_judged (verdict : Verdict) (h : Underway b.job storable history) :
    Yields b.environment (Judged b.job) (finish verdict storable) history := by
  obtain ⟨current, h_answer⟩ := b.finish_answered history verdict storable
  refine yields_ask_bind (congrArg some h_answer) (yields_pure ?_)
  set after : History := history ++ [⟨.finish verdict storable, .ok current⟩] with h_after
  -- `finish` brings no reply
  have h_brought : ∀ request reply,
      Brought after request reply ↔ Brought history request reply := by
    intro request reply
    rw [h_after, brought_concat, or_iff_left]
    exact fun h_eq => by cases h_eq
  cases h_bad : current && !storable with
  | true =>
    -- the lease is current, and the result is one that the database rejects
    obtain ⟨rfl, rfl⟩ : current = true ∧ storable = false := by simpa using h_bad
    obtain ⟨request, reply, h_mem, h_unstorable⟩ := h.result.mpr rfl
    refine judged_raised fun h_benign => ?_
    exact h_benign.result request reply ((h_brought _ _).mpr h_mem) h_unstorable verdict false
      (by rw [h_after]; simp)
  -- the row was written, or the lease was lost and nothing was
  | false =>
    have h_finishes : finishes after = 1 := by
      rw [h_after, finishes, List.countP_append]
      exact congrArg (· + 1) h.finishes
    refine iff_of_true (.inl h_finishes) ⟨fun route h_mem => ?_, fun request reply h_mem => ?_,
      fun request reply h_mem h_unstorable verdict' storable' h_finish => ?_⟩
    · rcases List.mem_append.mp h_mem with h_old | h_new
      · have h_accepted : false = true := h.quiet _ h_old
        cases h_accepted
      · cases List.mem_singleton.mp h_new
    · exact h.quiet ⟨.send request, reply⟩ ((h_brought request reply).mp h_mem)
    · have h_storable := h.result.mp ⟨request, reply, (h_brought _ _).mp h_mem, h_unstorable⟩
      rcases List.mem_append.mp h_finish with h_old | h_new
      · exact h.quiet _ h_old
      · cases List.mem_singleton.mp h_new
        rw [h_storable] at h_bad
        cases h_bad

/-- What a request leaves behind: no permit and an unchanged state of affairs, or a reply. -/
def Requested (job : Claimed) (request : Request) (result : Except Ending Reply)
    (history : History) : Prop :=
  match result with
  | .error ending => ending = .deferred ∧ Underway job true history
  | .ok reply => Brought history request reply ∧ (reply.breaks job request = false →
      Underway job (!reply.unstorable job request) history)

/-- A request under a permit is replied to, or deferred. -/
theorem permitted_requested (name : String) (route : Destination) (sent : Request)
    (h : Underway b.job true history) :
    Yields b.environment (Requested b.job sent) (permitted name route sent) history := by
  obtain ⟨token, h_answer⟩ := b.acquire_answered history name route sent.kind
  have h_acquired : Underway b.job true (history ++ [⟨.acquire name route sent.kind, .ok token⟩]) :=
    h.concat trivial fun _ => Call.noConfusion
  refine yields_ask_bind (congrArg some h_answer) ?_
  -- without a permit the request is deferred, with one it is sent and the permit given back
  cases token with
  | none => exact yields_pure ⟨rfl, h_acquired⟩
  | some token =>
    refine yields_ask_bind rfl (yields_ask_bind
      (congrArg some (b.release_answered _ _ h_answer)) (yields_pure ⟨?_, fun h_breaks => ?_⟩))
    · exact brought_concat.mpr (.inl (brought_concat.mpr (.inr rfl)))
    · exact (h_acquired.sent h_breaks).concat trivial fun _ => Call.noConfusion

/-- So is any request. -/
theorem request_requested (route : Route) (sent : Request) (h : Underway b.job true history) :
    Yields b.environment (Requested b.job sent) (request route sent) history := by
  cases route with
  | some route => exact permitted_requested route.1 route.2 sent h
  | none =>
    refine yields_ask_bind rfl (yields_pure ?_)
    exact ⟨brought_concat.mpr (.inr rfl), fun h_breaks => h.sent h_breaks⟩

/-- An exchange ends with a judged result, or goes on behind a receipt. -/
theorem exchange_judged (route : Route) (sent : Request) {onwards : Program Ending}
    (h : Underway b.job true history)
    (h_onwards : sent = .receipt → ∀ after, Underway b.job true after →
      Yields b.environment (Judged b.job) onwards after) :
    Yields b.environment (Judged b.job) (exchange b.job route sent onwards) history := by
  refine Yields.bind (request_requested route sent h) fun result after h_requested => ?_
  cases result with
  | error ending =>
    obtain ⟨rfl, h_underway⟩ := h_requested
    exact yields_pure (iff_of_true h_underway.finishes h_underway.benign)
  | ok reply =>
    obtain ⟨h_brought, h_underway⟩ := h_requested
    have h_case := reply_cases b.job sent reply
    dsimp only
    generalize reply.outcome b.job sent = outcome at h_case
    cases h_case with
    -- the exception leaves `execute`, and the reply was not benign
    | raised exn h_breaks =>
      refine yields_pure (judged_raised fun h_benign => ?_)
      have h_quiet := h_benign.reply sent reply h_brought
      rw [h_breaks] at h_quiet
      cases h_quiet
    | settled verdict h_breaks h_storable =>
      have h_after := h_underway h_breaks
      rw [h_storable, Bool.not_not] at h_after
      exact finish_judged verdict h_after
    -- only a lookup goes on
    | absent h_request h_breaks h_storable =>
      have h_after := h_underway h_breaks
      rw [h_storable] at h_after
      exact h_onwards h_request after h_after

/-- Only a lost lease ends `execute` without a call of `finish`. -/
theorem refused_unsettled {reason : Reason} (h : afterPrepare (.refused reason) = none) :
    reason = .leaseLost := by
  cases reason <;> first | rfl | cases h

/-- A dispatch ends with a judged result. -/
theorem dispatch_judged (route : Route) (h : Underway b.job true history) :
    Yields b.environment (Judged b.job) (dispatch b.job route) history := by
  refine yields_ask_bind rfl ?_
  have h_prepared : Underway b.job true (history ++ [⟨.prepare, b.answer history .prepare⟩]) :=
    h.concat trivial fun _ => Call.noConfusion
  generalize h_answer : b.answer history .prepare = answer at h_prepared
  cases answer with
  | error fault =>
    -- the address of a marketing mail is missing, which `execute` catches
    obtain rfl := b.prepare_answered h_answer
    exact finish_judged .outcomeUnknown h_prepared
  | ok prepared =>
    cases prepared with
    | dispatch mutation =>
      exact exchange_judged route (.dispatch mutation) h_prepared fun h_eq => by cases h_eq
    | refused reason =>
      dsimp only
      cases h_after : afterPrepare (.refused reason) with
      | some verdict => exact finish_judged verdict h_prepared
      | none =>
        -- another worker has the job now
        obtain rfl := refused_unsettled h_after
        refine yields_pure (iff_of_true (.inr ⟨h_prepared.finishes, ?_⟩) h_prepared.benign)
        exact List.mem_append_right _ (List.mem_singleton_self _)

/-- So does what follows the claim. -/
theorem proceed_judged (route : Route) (h : Underway b.job true history) :
    Yields b.environment (Judged b.job) (proceed b.job route) history := by
  unfold proceed
  split
  · exact exchange_judged route .receipt h fun _ after h_after => dispatch_judged route h_after
  · exact dispatch_judged route h

/-- The rule of the whole of `execute`. -/
theorem execute_judged (b : Backend) :
    Yields b.environment (Judged b.job) (execute b.job) [] := by
  refine yields_ask_bind rfl ?_
  have h : Underway b.job true ([] ++ [⟨.destination, b.answer [] .destination⟩]) :=
    Underway.nil.concat trivial fun _ => Call.noConfusion
  generalize b.answer [] .destination = answer at h
  cases answer with
  -- the destination has no route
  | error fault => exact finish_judged (.routeRefused fault) h
  | ok route =>
    refine yields_ask_bind rfl ?_
    generalize b.answer _ (.client route) = accepted
    cases accepted with
    | false =>
      refine yields_pure (judged_raised fun h_benign => ?_)
      exact h_benign.client route (List.mem_append_right _ (List.mem_singleton_self _))
    | true => exact proceed_judged route (h.concat rfl fun _ => Call.noConfusion)

end Program

/-- **A call of `execute` settles the job exactly if the environment is benign**, and it always
ends: for every claimed job, against every receiver and whatever the others commit. -/
theorem settled_iff (b : Backend) :
    ∃ ending history, (execute b.job).run b.environment [] = (some ending, history) ∧
      (Settled history ending ↔ Benign b.job history) :=
  execute_judged b

/-- A profile synchronisation is claimed, and the receiver answers its POST by 201 and `[]`. -/
def listed : Backend where
  registry := ∅
  owners := ∅
  past := [⟨0, .ingest .crm ⟨"event", "subject", 1, { (FieldMap.empty : FieldMap Field.Value)
      with email := some "a@example.test" }⟩⟩,
    ⟨1, .propose .agent ⟨100, 0, 1, .syncProfile, "synchronise", .welcome⟩⟩]
  claimedAt := 2
  leaseSeconds := 30
  locked := []
  job := ⟨100, .leased, 1, 1, some (2 + seconds 30), some 1, false, none, none, none⟩
  claimed := by decide +kernel
  environ _ := true
  accepts _ := true
  reply _ _ := .received 201 .absent (.decoded .other true)
  others _ := []
  apart _ _ _ _ _ _ _ h := absurd h List.not_mem_nil
  now _ := 3
  utc _ := 3
  jitter _ := 0

/-- `result.get("hash")` of a list. -/
theorem list_unsettled : ¬ ∀ b : Backend, ∃ ending history,
    (execute b.job).run b.environment [] = (some ending, history) ∧ Settled history ending := by
  intro h
  obtain ⟨ending, history, h_run, h_settled⟩ := h listed
  have h_raised : ((execute listed.job).run listed.environment []).1 =
      some (.raised .attribute) := by
    decide +kernel
  rw [h_run] at h_raised
  obtain rfl := Option.some.inj h_raised
  exact h_settled

end ControlPlane.Execution
