import ControlPlane.Governance.Provenance
import ControlPlane.Transactions.Work

/-!
# Redelivery

A source that gets no answer delivers its event again, and a broken one delivers another
event under an identity it has used. `ingest` looks the identity up before anything else, so
neither does anything to the source tables: the first is answered with the recorded result,
the second is a conflict.

The comparison is between two runs: `calls`, and a schedule of the same calls with
redeliveries put in at any later points. Conflicts draw exception ids, so the runs agree up
to the ids of exceptions: `Renaming` lists, for the exceptions of the first run in order, the
ids they have in the second, and `Mirrors` is the simulation that it carries.
-/

namespace ControlPlane

open Framework

/-! ### Calls and schedules -/

/-- The commands that the source tables take. -/
inductive Call
  | ingest (now : Time) (source : Source) (event : SourceEvent)
  | link (now : Time) (actor : Actor) (command : Contract.Link)

/-- What the caller gets. -/
inductive CallReply
  | ingested (reply : Except Fault Service.IngestReply)
  | linked (reply : Except Fault Unit)

namespace Call

/-- The transaction of the call. -/
def entry : Call → Entry
  | ingest now source event => ⟨now, .ingest source event⟩
  | link now actor command => ⟨now, .link actor command⟩

/-- What the call is answered. -/
def reply (db : Db) : Call → CallReply
  | ingest now source event => .ingested (Service.ingest now source event db).answer
  | link now actor command => .linked (Service.link now actor command db).answer

/-- The identity of the event that the call delivers. -/
def key : Call → Option (Source × String)
  | ingest _ source event => some (source, event.eventId)
  | link .. => none

end Call

/-- A call of the run, or a delivery put in. -/
inductive Scheduled
  | original (call : Call)
  | redelivery (now : Time) (source : Source) (event : SourceEvent)

namespace Scheduled

/-- The call that is made. -/
def call : Scheduled → Call
  | original call => call
  | redelivery now source event => .ingest now source event

/-- The call, unless it delivers something again. -/
def isOriginal : Scheduled → Option Call
  | original call => some call
  | redelivery .. => none

end Scheduled

namespace Db

/-- The state after the calls. -/
def calls (db : Db) (calls : List Call) : Db := db.run (calls.map Call.entry)

/-- The state after a schedule. -/
def schedule (db : Db) (schedule : List Scheduled) : Db := db.calls (schedule.map Scheduled.call)

/-- The replies to the calls, in order. -/
def replies (db : Db) : List Call → List CallReply
  | [] => []
  | call :: rest => call.reply db :: (db.step call.entry).replies rest

/-- The replies to the calls of a schedule that were not put in. -/
def originalReplies (db : Db) : List Scheduled → List CallReply
  | [] => []
  | .original call :: rest => call.reply db :: (db.step call.entry).originalReplies rest
  | .redelivery now source event :: rest =>
    (db.step ⟨now, .ingest source event⟩).originalReplies rest

end Db

/-- Every delivery put in repeats an event identity that was delivered before. -/
def Redelivers (db : Db) (schedule : List Scheduled) : Prop :=
  ∀ pre now source event, pre ++ [.redelivery now source event] <+: schedule →
    (db.events.lookup (source, event.eventId)).isSome ∨
      ∃ s ∈ pre, s.call.key = some (source, event.eventId)

/-! ### Renamed results -/

/-- The ids, in the run with redeliveries, of the exceptions of the run without, in order. -/
abbrev Renaming : Type := List ℕ

/-- The `n`-th exception of the one run is the `n'`-th of the other. -/
def Renaming.Maps (places : Renaming) (n n' : ℕ) : Prop := 0 < n ∧ places[n - 1]? = some n'

/-- The same result, under the ids of the other run. -/
inductive SameResult (places : Renaming) : IngestResult → IngestResult → Prop
  | exception (reason : Category) (n n' : ℕ) (h : places.Maps n n') :
      SameResult places (.exception reason n) (.exception reason n')
  | clean (id : Uuid) (revision : ℕ) (decisions : Decisions) :
      SameResult places (.processed id revision decisions none)
        (.processed id revision decisions none)
  | governed (id : Uuid) (revision : ℕ) (decisions : Decisions) (n n' : ℕ)
      (h : places.Maps n n') :
      SameResult places (.processed id revision decisions (some n))
        (.processed id revision decisions (some n'))

/-- The same reply, under the ids of the other run. -/
inductive SameReply (places : Renaming) : CallReply → CallReply → Prop
  | linked (reply : Except Fault Unit) : SameReply places (.linked reply) (.linked reply)
  | raised (fault : Fault) :
      SameReply places (.ingested (.error fault)) (.ingested (.error fault))
  | conflict (n n' : ℕ) (h : places.Maps n n') :
      SameReply places (.ingested (.ok (.conflict n))) (.ingested (.ok (.conflict n')))
  | duplicate (result result' : IngestResult) (h : SameResult places result result') :
      SameReply places (.ingested (.ok (.duplicate result))) (.ingested (.ok (.duplicate result')))
  | recorded (result result' : IngestResult) (h : SameResult places result result') :
      SameReply places (.ingested (.ok (.recorded result))) (.ingested (.ok (.recorded result')))

/-- The same stored event, under the ids of the other run. -/
structure SameEvent (places : Renaming) (event event' : Event) : Prop where
  hash : event'.hash = event.hash
  body : event'.body = event.body
  receivedAt : event'.receivedAt = event.receivedAt
  result : SameResult places event.result event'.result

/-- A renaming that is extended maps what it mapped. -/
theorem Renaming.Maps.later {places places' : Renaming} {n n' : ℕ} (h : places.Maps n n')
    (h_later : places <+: places') : places'.Maps n n' := by
  obtain ⟨rest, rfl⟩ := h_later
  refine ⟨h.1, ?_⟩
  obtain ⟨h_lt, -⟩ := List.getElem?_eq_some_iff.mp h.2
  rw [List.getElem?_append_left h_lt]
  exact h.2

/-- The same result under an extended renaming. -/
theorem SameResult.later {places places' : Renaming} {result result' : IngestResult}
    (h : SameResult places result result') (h_later : places <+: places') :
    SameResult places' result result' := by
  cases h with
  | exception reason n n' h => exact .exception reason n n' (h.later h_later)
  | clean id revision decisions => exact .clean id revision decisions
  | governed id revision decisions n n' h =>
    exact .governed id revision decisions n n' (h.later h_later)

/-- The same reply. -/
theorem SameReply.later {places places' : Renaming} {reply reply' : CallReply}
    (h : SameReply places reply reply') (h_later : places <+: places') :
    SameReply places' reply reply' := by
  cases h with
  | linked reply => exact .linked reply
  | raised fault => exact .raised fault
  | conflict n n' h => exact .conflict n n' (h.later h_later)
  | duplicate result result' h => exact .duplicate result result' (h.later h_later)
  | recorded result result' h => exact .recorded result result' (h.later h_later)

/-- The same event. -/
theorem SameEvent.later {places places' : Renaming} {event event' : Event}
    (h : SameEvent places event event') (h_later : places <+: places') :
    SameEvent places' event event' :=
  { h with result := h.result.later h_later }

/-- A weaker relation between optional values. -/
theorem optionRel_mono {α β : Type} {r r' : α → β → Prop} {a : Option α} {b : Option β}
    (h : Option.Rel r a b) (h_le : ∀ a b, r a b → r' a b) : Option.Rel r' a b := by
  cases h with
  | some h => exact .some (h_le _ _ h)
  | none => exact .none

/-! ### The simulation -/

/-- **The two runs.** The second has the same customers and identities, the exceptions of the
first at their places, and the same events under the ids it drew. -/
structure Mirrors (places : Renaming) (db₁ db₂ : Db) : Prop where
  customers : db₂.customers = db₁.customers
  identities : db₂.identities = db₁.identities
  supply : db₂.supply = db₁.supply
  length : places.length = db₁.exceptions.length
  increasing : places.Pairwise (· < ·)
  drawn : ∀ n ∈ places, n < db₂.nextException
  exceptions : ∀ n n', places.Maps n n' →
    Service.exceptionRow db₂ n' = Service.exceptionRow db₁ n
  events : ∀ key,
    Option.Rel (SameEvent places) (db₁.events.lookup key) (db₂.events.lookup key)

namespace Mirrors

variable {places : Renaming} {db₁ db₂ : Db}

/-- Audit rows may differ. -/
theorem audit (h : Mirrors places db₁ db₂) (now : Time) (actor : Actor) (subject : Subject)
    (detail detail' : AuditDetail) :
    Mirrors places (db₁.audit now actor subject detail) (db₂.audit now actor subject detail') :=
  ⟨h.customers, h.identities, h.supply, h.length, h.increasing, h.drawn, h.exceptions, h.events⟩

/-- The next exception of both runs. -/
theorem maps_next (h : Mirrors places db₁ db₂) :
    Renaming.Maps (places ++ [db₂.nextException]) db₁.nextException db₂.nextException := by
  refine ⟨Nat.succ_pos _, ?_⟩
  show (places ++ [db₂.nextException])[db₁.exceptions.length]? = some db₂.nextException
  rw [← h.length]
  exact List.getElem?_concat_length

/-- An exception that is added leaves those before. -/
theorem exceptionRow_drawn {n : ℕ} {db : Db} (h_lt : n < db.nextException) (now : Time)
    (category : Category) (subject : Subject) (detail : ExceptionDetail) :
    Service.exceptionRow (db.exception now category subject detail) n =
      Service.exceptionRow db n := by
  cases n with
  | zero => rfl
  | succ n =>
    show (db.exceptions ++ [_])[n]? = db.exceptions[n]?
    exact List.getElem?_append_left (Nat.lt_of_succ_lt_succ h_lt)

/-- It is found under the next number. -/
theorem exceptionRow_next (db : Db) (now : Time) (category : Category) (subject : Subject)
    (detail : ExceptionDetail) :
    Service.exceptionRow (db.exception now category subject detail) db.nextException =
      some ⟨category, subject, detail, .opened, now⟩ :=
  List.getElem?_concat_length

/-- Both runs open the same exception. -/
theorem exception (h : Mirrors places db₁ db₂) (now : Time) (category : Category)
    (subject : Subject) (detail : ExceptionDetail) :
    Mirrors (places ++ [db₂.nextException]) (db₁.exception now category subject detail)
      (db₂.exception now category subject detail) where
  customers := h.customers
  identities := h.identities
  supply := h.supply
  length := by
    show (places ++ [_]).length = (db₁.exceptions ++ [_]).length
    rw [List.length_append, List.length_append, h.length]
    rfl
  increasing := by
    refine List.pairwise_append.mpr ⟨h.increasing, List.pairwise_singleton _ _, ?_⟩
    intro n h_n m h_m
    rw [List.mem_singleton.mp h_m]
    exact h.drawn n h_n
  drawn n h_n := by
    have h_next : (db₂.exception now category subject detail).nextException =
        db₂.nextException + 1 := congrArg (· + 1) List.length_append
    rw [h_next]
    rcases List.mem_append.mp h_n with h_n | h_n
    · exact (h.drawn n h_n).trans (Nat.lt_succ_self _)
    · rw [List.mem_singleton.mp h_n]
      exact Nat.lt_succ_self _
  -- ids are places in the list, from one on
  exceptions n n' h_maps := by
    obtain ⟨h_pos, h_get⟩ := h_maps
    obtain ⟨k, rfl⟩ := Nat.exists_eq_add_one.mpr h_pos
    rcases lt_or_ge k places.length with h_old | h_new
    · -- an exception from before
      have h_get' : places[k]? = some n' := by
        rw [← h_get]
        exact (List.getElem?_append_left h_old).symm
      have h_drawn := h.drawn n' (List.mem_of_getElem? h_get')
      have h_old' : k + 1 < db₁.nextException := Nat.succ_lt_succ (h.length ▸ h_old)
      rw [exceptionRow_drawn h_drawn, exceptionRow_drawn h_old']
      exact h.exceptions (k + 1) n' ⟨h_pos, h_get'⟩
    · -- the new one
      have h_get' : (places ++ [db₂.nextException])[k]? = some n' := h_get
      rw [List.getElem?_append_right h_new, List.getElem?_singleton] at h_get'
      split at h_get'
      · rename_i h_last
        have h_next : k + 1 = db₁.nextException :=
          congrArg (· + 1) ((Nat.sub_eq_zero_iff_le.mp h_last).antisymm h_new |>.trans h.length)
        rw [← Option.some.inj h_get', h_next, exceptionRow_next, exceptionRow_next]
      · cases h_get'
  events key := optionRel_mono (h.events key) fun _ _ h_same =>
    h_same.later (List.prefix_append places _)

/-- Only the second run opens an exception. -/
theorem excess (h : Mirrors places db₁ db₂) (now : Time) (category : Category)
    (subject : Subject) (detail : ExceptionDetail) :
    Mirrors places db₁ (db₂.exception now category subject detail) where
  customers := h.customers
  identities := h.identities
  supply := h.supply
  length := h.length
  increasing := h.increasing
  drawn n h_n := by
    refine (h.drawn n h_n).trans_le (Nat.succ_le_succ ?_)
    show db₂.exceptions.length ≤ (db₂.exceptions ++ [_]).length
    rw [List.length_append]
    exact Nat.le_add_right _ _
  exceptions n n' h_maps := by
    rw [exceptionRow_drawn (h.drawn n' (List.mem_of_getElem? h_maps.2))]
    exact h.exceptions n n' h_maps
  events := h.events

/-- Only the second run appends an audit record. -/
theorem noted (h : Mirrors places db₁ db₂) (now : Time) (actor : Actor) (subject : Subject)
    (detail : AuditDetail) : Mirrors places db₁ (db₂.audit now actor subject detail) :=
  ⟨h.customers, h.identities, h.supply, h.length, h.increasing, h.drawn, h.exceptions, h.events⟩

/-- Both runs store the same event. -/
theorem record (h : Mirrors places db₁ db₂) (now : Time) (source : Source) (event : SourceEvent)
    {result result' : IngestResult} (h_same : SameResult places result result') :
    Mirrors places (Service.record now source event result db₁)
      (Service.record now source event result' db₂) where
  customers := h.customers
  identities := h.identities
  supply := h.supply
  length := h.length
  increasing := h.increasing
  drawn := h.drawn
  exceptions := h.exceptions
  events key := by
    show Option.Rel _ ((db₁.events.insert _ _).lookup key) ((db₂.events.insert _ _).lookup key)
    rw [Table.lookup_insert, Table.lookup_insert]
    split
    · exact .some ⟨rfl, rfl, rfl, h_same⟩
    · exact h.events key

/-- The same customer is written in both. -/
theorem customersInsert (h : Mirrors places db₁ db₂) (id : Uuid) (row : Customer) :
    Mirrors places { db₁ with customers := db₁.customers.insert id row }
      { db₂ with customers := db₂.customers.insert id row } :=
  ⟨congrArg (·.insert id row) h.customers, h.identities, h.supply, h.length, h.increasing,
    h.drawn, h.exceptions, h.events⟩

/-- The same identity is written in both. -/
theorem identitiesInsert (h : Mirrors places db₁ db₂) (key : Source × String) (id : Uuid) :
    Mirrors places { db₁ with identities := db₁.identities.insert key id }
      { db₂ with
        customers := db₁.customers
        identities := db₁.identities.insert key id } :=
  ⟨rfl, rfl, h.supply, h.length, h.increasing, h.drawn, h.exceptions, h.events⟩

/-- The same customer is enrolled in both. -/
theorem enroll (h : Mirrors places db₁ db₂) (source : Source) (event : SourceEvent) :
    Mirrors places (Service.enroll source event db₁) (Service.enroll source event db₂) := by
  obtain ⟨h_customers, h_identities, h_supply, h_length, h_increasing, h_drawn, h_exceptions,
    h_events⟩ := h
  refine ⟨?_, ?_, ?_, h_length, h_increasing, h_drawn, h_exceptions, h_events⟩
  · show db₂.customers.insert db₂.supply _ = db₁.customers.insert db₁.supply _
    rw [h_customers, h_supply]
  · show db₂.identities.insert _ db₂.supply = db₁.identities.insert _ db₁.supply
    rw [h_identities, h_supply]
  · show db₂.supply + 1 = db₁.supply + 1
    rw [h_supply]

/-- Both runs observe the event on the customer. -/
theorem process (h : Mirrors places db₁ db₂) (now : Time) (source : Source)
    (event : SourceEvent) (id : Uuid) (row : Customer) :
    ∃ places', places <+: places' ∧
      SameResult places' (Service.process now source event id row db₁).1
        (Service.process now source event id row db₂).1 ∧
      Mirrors places' (Service.process now source event id row db₁).2
        (Service.process now source event id row db₂).2 := by
  have h_row := h.customersInsert id (Service.observed source event row)
  unfold Service.process
  dsimp only
  split
  · refine ⟨_, List.prefix_append places [db₂.nextException], ?_, ?_⟩
    · exact .governed id _ _ _ _ h.maps_next
    · exact (h_row.exception ..).audit ..
  · exact ⟨places, List.prefix_refl places, .clean id _ _, h_row.audit ..⟩

/-- Both runs see the same candidates. -/
theorem candidates (h : Mirrors places db₁ db₂) (event : SourceEvent) :
    Service.candidates event db₂ = Service.candidates event db₁ := by
  unfold Service.candidates
  rw [h.customers]

end Mirrors

/-! ### One call in both runs -/

/-- One call in both runs. -/
structure Mirrored (places : Renaming) (db₁ db₂ : Db) (call : Call) (places' : Renaming) :
    Prop where
  later : places <+: places'
  mirrors : Mirrors places' (db₁.step call.entry) (db₂.step call.entry)
  reply : SameReply places' (call.reply db₁) (call.reply db₂)

section Ingest

variable {places places' : Renaming} {db₁ db₂ : Db} {now : Time} {source : Source}
  {event : SourceEvent}

/-- A call that both answer in the same way. -/
theorem Mirrored.answered {reply reply' : Service.IngestReply} {db₁' db₂' : Db}
    (h₁ : Service.ingest now source event db₁ = .ok (reply, db₁'))
    (h₂ : Service.ingest now source event db₂ = .ok (reply', db₂')) (h_later : places <+: places')
    (h_mirrors : Mirrors places' db₁' db₂')
    (h_reply : SameReply places' (.ingested (.ok reply)) (.ingested (.ok reply'))) :
    Mirrored places db₁ db₂ (.ingest now source event) places' where
  later := h_later
  mirrors := by
    show Mirrors places' ((Service.ingest now source event db₁).commit db₁)
      ((Service.ingest now source event db₂).commit db₂)
    rw [h₁, h₂]
    exact h_mirrors
  reply := by
    show SameReply places' (.ingested (Service.ingest now source event db₁).answer)
      (.ingested (Service.ingest now source event db₂).answer)
    rw [h₁, h₂]
    exact h_reply

/-- **An event of both runs.** -/
theorem Mirrors.ingest (h : Mirrors places db₁ db₂) (h_sound : IdentitySound db₁.sources)
    (now : Time) (source : Source) (event : SourceEvent) :
    ∃ places', Mirrored places db₁ db₂ (.ingest now source event) places' := by
  have h_event := h.events (source, event.eventId)
  have h_identities : db₂.identities.lookup (source, event.subject) =
      db₁.identities.lookup (source, event.subject) := by rw [h.identities]
  -- the two runs know the same events, so that both take the same branch
  generalize h_event₁ : db₁.events.lookup (source, event.eventId) = stored₁ at h_event
  generalize h_event₂ : db₂.events.lookup (source, event.eventId) = stored₂ at h_event
  cases h_event with
  | @some previous₁ previous₂ h_same =>
    -- one body twice, or two bodies under one id
    by_cases h_hash : previous₁.hash = digest event
    · have h_hash₂ : previous₂.hash = digest event := h_same.hash.trans h_hash
      exact ⟨places, .answered (Service.ingest_duplicate now h_event₁ h_hash)
        (Service.ingest_duplicate now h_event₂ h_hash₂) (List.prefix_refl places) (h.audit ..)
        (.duplicate _ _ h_same.result)⟩
    · have h_hash₂ : previous₂.hash ≠ digest event := h_same.hash ▸ h_hash
      refine ⟨_, .answered (Service.ingest_conflict now h_event₁ h_hash)
        (Service.ingest_conflict now h_event₂ h_hash₂)
        (List.prefix_append places [db₂.nextException]) ?_ (.conflict _ _ h.maps_next)⟩
      rw [h_same.hash]
      exact (h.exception ..).audit ..
  | none =>
    -- a new event: of a known subject, for review, or of a new customer
    cases h_identity : db₁.identities.lookup (source, event.subject) with
    | some id =>
      obtain ⟨row, h_row⟩ := h_sound.named (source, event.subject) id h_identity
      have h_row₂ : db₂.customers.lookup id = some row := h.customers ▸ h_row
      obtain ⟨places', h_later, h_result, h_mirrors⟩ := h.process now source event id row
      exact ⟨places', .answered (Service.ingest_known now h_event₁ h_identity h_row)
        (Service.ingest_known now h_event₂ (h_identities.trans h_identity) h_row₂) h_later
        (h_mirrors.record now source event h_result) (.recorded _ _ h_result)⟩
    | none =>
      have h_identity₂ := h_identities.trans h_identity
      have h_candidates := h.candidates event
      by_cases h_reviewed : Service.Reviewed source event db₁
      · -- both runs hold it for review, each under the next exception it has
        have h_reviewed₂ : Service.Reviewed source event db₂ := by
          unfold Service.Reviewed
          rw [h_candidates]
          exact h_reviewed
        obtain ⟨reason, h_reason, h₁⟩ := Service.ingest_reviewed now h_event₁ h_identity h_reviewed
        obtain ⟨reason₂, h_reason₂, h₂⟩ :=
          Service.ingest_reviewed now h_event₂ h_identity₂ h_reviewed₂
        rw [h_candidates, ← h_reason] at h_reason₂
        rw [h_candidates, h_reason₂] at h₂
        have h_result := SameResult.exception reason _ _ h.maps_next
        exact ⟨_, .answered h₁ h₂ (List.prefix_append places [db₂.nextException])
          (((h.exception ..).audit ..).record now source event h_result)
          (.recorded _ _ h_result)⟩
      · have h_reviewed₂ : ¬ Service.Reviewed source event db₂ := by
          unfold Service.Reviewed
          rw [h_candidates]
          exact h_reviewed
        obtain ⟨places', h_later, h_result, h_mirrors⟩ :=
          (h.enroll source event).process now source event db₁.supply Customer.initial
        have h₂ := Service.ingest_enrolled now h_event₂ h_identity₂ h_reviewed₂
        rw [h.supply] at h₂
        exact ⟨places', .answered
          (Service.ingest_enrolled now h_event₁ h_identity h_reviewed) h₂ h_later
          (h_mirrors.record now source event h_result) (.recorded _ _ h_result)⟩

end Ingest

/-- **A link of both runs.** -/
theorem Mirrors.link {places : Renaming} {db₁ db₂ : Db} (h : Mirrors places db₁ db₂) (now : Time)
    (actor : Actor) (command : Contract.Link) :
    Mirrored places db₁ db₂ (.link now actor command) places := by
  have h_other : Service.otherSubject command db₂ = Service.otherSubject command db₁ := by
    unfold Service.otherSubject
    rw [h.identities]
  -- `link` reads nothing but customers and identities, which are the same
  have h_both : (∃ fault, Service.link now actor command db₁ = .error fault ∧
        Service.link now actor command db₂ = .error fault) ∨
      ∃ db₁' db₂', Service.link now actor command db₁ = .ok ((), db₁') ∧
        Service.link now actor command db₂ = .ok ((), db₂') ∧ Mirrors places db₁' db₂' := by
    unfold Service.link
    rw [h_other, h.customers, h.identities]
    cases db₁.customers.lookup command.customerId with
    | none => exact .inl ⟨_, rfl, rfl⟩
    | some row =>
      dsimp only
      split
      · exact .inl ⟨_, rfl, rfl⟩
      split
      · exact .inl ⟨_, rfl, rfl⟩
      split
      · exact .inl ⟨_, rfl, rfl⟩
      split
      · exact .inr ⟨_, _, rfl, rfl, h.audit ..⟩
      · have h_linked := h.identitiesInsert (command.source, command.subject) command.customerId
        exact .inr ⟨_, _, rfl, rfl, h_linked.audit now actor (.id command.customerId)
          (.identityLink command) (.identityLink command)⟩
  refine ⟨List.prefix_refl places, ?_, ?_⟩
  · show Mirrors places ((Service.link now actor command db₁).commit db₁)
      ((Service.link now actor command db₂).commit db₂)
    rcases h_both with ⟨fault, h₁, h₂⟩ | ⟨db₁', db₂', h₁, h₂, h_mirrors⟩
    · rw [h₁, h₂]
      exact h
    · rw [h₁, h₂]
      exact h_mirrors
  · show SameReply places (.linked (Service.link now actor command db₁).answer)
      (.linked (Service.link now actor command db₂).answer)
    rcases h_both with ⟨fault, h₁, h₂⟩ | ⟨db₁', db₂', h₁, h₂, -⟩ <;> rw [h₁, h₂] <;>
      exact .linked _

/-! ### A delivery put in -/

/-- An event whose identity is stored only adds records to the second run. -/
theorem Mirrors.redelivery {places : Renaming} {db₁ db₂ : Db} (h : Mirrors places db₁ db₂)
    (now : Time) (source : Source) (event : SourceEvent)
    (h_stored : (db₂.events.lookup (source, event.eventId)).isSome) :
    Mirrors places db₁ (db₂.step ⟨now, .ingest source event⟩) := by
  obtain ⟨previous, h_event⟩ := Option.isSome_iff_exists.mp h_stored
  show Mirrors places db₁ ((Service.ingest now source event db₂).commit db₂)
  by_cases h_hash : previous.hash = digest event
  · rw [Service.ingest_duplicate now h_event h_hash, Outcome.commit_ok]
    exact h.noted ..
  · rw [Service.ingest_conflict now h_event h_hash, Outcome.commit_ok]
    exact (h.excess ..).noted ..

/-- The first delivery of an identity is recorded. -/
theorem ingest_first {db : Db} (h_sound : IdentitySound db.sources) (now : Time)
    {source : Source} {event : SourceEvent}
    (h_event : db.events.lookup (source, event.eventId) = none) :
    ∃ result db', Service.ingest now source event db =
      .ok (.recorded result, Service.record now source event result db') := by
  cases h_identity : db.identities.lookup (source, event.subject) with
  | some id =>
    obtain ⟨row, h_row⟩ := h_sound.named (source, event.subject) id h_identity
    exact ⟨_, _, Service.ingest_known now h_event h_identity h_row⟩
  | none =>
    by_cases h_reviewed : Service.Reviewed source event db
    · obtain ⟨reason, -, h⟩ := Service.ingest_reviewed now h_event h_identity h_reviewed
      exact ⟨_, _, h⟩
    · exact ⟨_, _, Service.ingest_enrolled now h_event h_identity h_reviewed⟩

/-- The row that a recorded event leaves. -/
theorem recorded_stored {db : Db} (h_sound : IdentitySound db.sources) {now : Time}
    {source : Source} {event : SourceEvent} {result : IngestResult}
    (h_reply : Call.reply db (.ingest now source event) = .ingested (.ok (.recorded result))) :
    (db.step ⟨now, .ingest source event⟩).events.lookup (source, event.eventId) =
      some ⟨digest event, event, result, now⟩ := by
  obtain ⟨db', h_ok⟩ := Outcome.answer_eq_ok.mp (CallReply.ingested.inj h_reply)
  cases h_event : db.events.lookup (source, event.eventId) with
  | none =>
    obtain ⟨result', db'', h_first⟩ := ingest_first h_sound now h_event
    rw [h_first] at h_ok
    cases h_ok
    show ((Service.ingest now source event db).commit db).events.lookup _ = _
    rw [h_first, Outcome.commit_ok]
    exact Table.lookup_insert_self db''.events _ _
  | some previous =>
    -- a stored identity is never recorded again
    by_cases h_hash : previous.hash = digest event
    · rw [Service.ingest_duplicate now h_event h_hash] at h_ok
      cases h_ok
    · rw [Service.ingest_conflict now h_event h_hash] at h_ok
      cases h_ok

/-- After its delivery an identity is stored. -/
theorem delivered_stored {db : Db} (h_sound : IdentitySound db.sources) (now : Time)
    (source : Source) (event : SourceEvent) :
    ((db.step ⟨now, .ingest source event⟩).events.lookup (source, event.eventId)).isSome := by
  cases h_event : db.events.lookup (source, event.eventId) with
  | none =>
    obtain ⟨result, db', h_first⟩ := ingest_first h_sound now h_event
    have h_reply : Call.reply db (.ingest now source event) = .ingested (.ok (.recorded result)) :=
      congrArg CallReply.ingested (Outcome.answer_eq_ok.mpr ⟨_, h_first⟩)
    rw [recorded_stored h_sound h_reply]
    rfl
  | some previous =>
    rw [event_persists h_event]
    rfl

/-! ### Runs -/

/-- One more call. -/
theorem calls_concat (db : Db) (calls : List Call) (call : Call) :
    db.calls (calls ++ [call]) = (db.calls calls).step call.entry := by
  unfold Db.calls
  rw [List.map_append, List.map_singleton]
  exact run_concat (calls.map Call.entry) call.entry

/-- One more call of the schedule. -/
theorem schedule_concat (db : Db) (schedule : List Scheduled) (s : Scheduled) :
    db.schedule (schedule ++ [s]) = (db.schedule schedule).step s.call.entry := by
  unfold Db.schedule
  rw [List.map_append, List.map_singleton]
  exact calls_concat db (schedule.map Scheduled.call) s.call

/-- One more reply. -/
theorem replies_concat (db : Db) (calls : List Call) (call : Call) :
    db.replies (calls ++ [call]) = db.replies calls ++ [call.reply (db.calls calls)] := by
  induction calls generalizing db with
  | nil => rfl
  | cons first rest ih =>
    show first.reply db :: (db.step first.entry).replies (rest ++ [call]) = _
    rw [ih (db.step first.entry)]
    rfl

/-- One more reply to an original call. -/
theorem originalReplies_original (db : Db) (schedule : List Scheduled) (call : Call) :
    db.originalReplies (schedule ++ [.original call]) =
      db.originalReplies schedule ++ [call.reply (db.schedule schedule)] := by
  induction schedule generalizing db with
  | nil => rfl
  | cons first rest ih =>
    cases first with
    | original first =>
      show first.reply db :: (db.step first.entry).originalReplies (rest ++ [.original call]) = _
      rw [ih (db.step first.entry)]
      rfl
    | redelivery now source event => exact ih (db.step ⟨now, .ingest source event⟩)

/-- A redelivery adds no such reply. -/
theorem originalReplies_redelivery (db : Db) (schedule : List Scheduled) (now : Time)
    (source : Source) (event : SourceEvent) :
    db.originalReplies (schedule ++ [.redelivery now source event]) =
      db.originalReplies schedule := by
  induction schedule generalizing db with
  | nil => rfl
  | cons first rest ih =>
    cases first with
    | original first =>
      exact congrArg (first.reply db :: ·) (ih (db.step first.entry))
    | redelivery now' source' event' => exact ih (db.step ⟨now', .ingest source' event'⟩)

/-! ### The theorem -/

/-- How a delivery is answered once the identity is stored for `body` with `result`. -/
def Repeats (db : Db) (key : Source × String) (body : SourceEvent) (result : IngestResult) :
    Prop :=
  ∀ now event, event.eventId = key.2 → Call.reply db (.ingest now key.1 event) =
    .ingested (.ok (if event = body then .duplicate result else .conflict db.nextException))

/-- Redelivery in all runs of `ingest` and `link` from the state. -/
structure RedeliveryStutter (db : Db) : Prop where
  /-- Deliveries put in leave the source tables and the replies to the other calls as they
  are without them. -/
  stutter : ∀ schedule, Redelivers db schedule → ∃ places,
    Mirrors places (db.calls (schedule.filterMap Scheduled.isOriginal)) (db.schedule schedule) ∧
      List.Forall₂ (SameReply places) (db.replies (schedule.filterMap Scheduled.isOriginal))
        (db.originalReplies schedule)
  /-- The first delivery of an identity is recorded. -/
  first : ∀ calls now source event,
    (db.calls calls).events.lookup (source, event.eventId) = none → ∃ result,
      Call.reply (db.calls calls) (.ingest now source event) = .ingested (.ok (.recorded result))
  /-- From then on it is repeated, or refused as a conflict. -/
  repeated : ∀ pre now source event result rest,
    Call.reply (db.calls pre) (.ingest now source event) = .ingested (.ok (.recorded result)) →
      Repeats (db.calls (pre ++ .ingest now source event :: rest)) (source, event.eventId) event
        result
  /-- So it is for the identities that are stored in the state. -/
  stored : ∀ key row, db.events.lookup key = some row → ∀ calls,
    Repeats (db.calls calls) key row.body row.result

/-- A stored event is repeated by the same body. -/
theorem repeats_of_stored {db : Db} (h_hashed : EventsHashed db) {key : Source × String}
    {row : Event} (h_row : db.events.lookup key = some row) :
    Repeats db key row.body row.result := by
  obtain ⟨source, eventId⟩ := key
  rintro now event rfl
  have h_hash := h_hashed _ row h_row
  show CallReply.ingested (Service.ingest now source event db).answer = _
  split
  · rename_i h_same
    rw [← h_same] at h_hash
    rw [Service.ingest_duplicate now h_row h_hash]
    rfl
  · rename_i h_other
    have h_hash' : row.hash ≠ digest event := by
      rw [h_hash, ne_eq, digest_inj]
      exact fun h => h_other h.symm
    rw [Service.ingest_conflict now h_row h_hash']
    rfl

/-- A stored row stays. -/
theorem calls_persist {db : Db} {key : Source × String} {row : Event}
    (h_row : db.events.lookup key = some row) (calls : List Call) :
    (db.calls calls).events.lookup key = some row :=
  run_invariant (I := fun db : Db => db.events.lookup key = some row) h_row
    (fun _ entry h => event_persists h entry) (calls.map Call.entry)

/-- Calls behind calls. -/
theorem calls_append (db : Db) (pre rest : List Call) :
    db.calls (pre ++ rest) = (db.calls pre).calls rest := by
  unfold Db.calls Db.run
  rw [List.map_append, run_append]

/-- What was delivered in a schedule is stored. -/
theorem scheduled_stored {db : Db} (h_sound : ∀ calls, IdentitySound (db.calls calls).sources)
    {schedule : List Scheduled} {s : Scheduled} {key : Source × String} (h_mem : s ∈ schedule)
    (h_key : s.call.key = some key) : ((db.schedule schedule).events.lookup key).isSome := by
  obtain ⟨pre, post, rfl⟩ := List.append_of_mem h_mem
  have h_split : db.schedule (pre ++ s :: post) =
      ((db.schedule pre).step s.call.entry).calls (post.map Scheduled.call) := by
    show db.calls ((pre ++ s :: post).map Scheduled.call) = _
    rw [List.map_append, List.map_cons, calls_append]
    rfl
  have h_stored : (((db.schedule pre).step s.call.entry).events.lookup key).isSome := by
    generalize s.call = call at h_key ⊢
    cases call with
    | ingest now source event =>
      obtain rfl := Option.some.inj h_key
      exact delivered_stored (h_sound _) now source event
    | link => cases h_key
  obtain ⟨row, h_row⟩ := Option.isSome_iff_exists.mp h_stored
  rw [h_split, calls_persist h_row]
  rfl

/-! ### The ids in stored results -/

/-- Every stored result names exceptions that have been opened. -/
def ResultsDrawn (db : Db) : Prop :=
  ∀ key row, db.events.lookup key = some row →
    SameResult (List.range' 1 db.exceptions.length) row.result row.result

/-- The numbers up to a bound map to themselves. -/
theorem range'_maps_self {n len : ℕ} (h_pos : 0 < n) (h_le : n ≤ len) :
    Renaming.Maps (List.range' 1 len) n n := by
  refine ⟨h_pos, ?_⟩
  rw [List.getElem?_range' (by omega)]
  congr 1
  omega

/-- More numbers extend them. -/
theorem range'_later {m n : ℕ} (h : m ≤ n) : List.range' 1 m <+: List.range' 1 n := by
  obtain ⟨k, rfl⟩ := Nat.exists_eq_add_of_le h
  rw [← List.range'_append_1]
  exact List.prefix_append _ _

/-- No exception disappears. -/
theorem exceptions_length_le (db : Db) (entry : Entry) :
    db.exceptions.length ≤ (db.step entry).exceptions.length := by
  cases exception_move db entry with
  | kept h_after => rw [h_after]
  | appended row h_category h_after =>
    rw [h_after, List.length_append]
    exact Nat.le_add_right _ _
  | deadLetter jitter id token verdict backoff job row h_tx h_before h_fence h_category h_subject
      h_after =>
    rw [h_after, List.length_append]
    exact Nat.le_add_right _ _
  | closed actor n command row status h_tx h_row h_opened h_status h_after =>
    rw [h_after, List.length_set]

/-- The result of an event refers to exceptions that are there. -/
theorem process_drawn (now : Time) (source : Source) (event : SourceEvent) (id : Uuid)
    (row : Customer) (db : Db) :
    SameResult (List.range' 1 (Service.process now source event id row db).2.exceptions.length)
      (Service.process now source event id row db).1
      (Service.process now source event id row db).1 := by
  unfold Service.process
  dsimp only
  split
  · refine .governed id _ _ _ _ (range'_maps_self (Nat.succ_pos _) ?_)
    show db.exceptions.length + 1 ≤ (db.exceptions ++ [_]).length
    rw [List.length_append]
    rfl
  · exact .clean id _ _

/-- So do all stored results, with every transaction. -/
theorem ResultsDrawn.step {db : Db} (h : ResultsDrawn db) (entry : Entry) :
    ResultsDrawn (db.step entry) := by
  obtain ⟨now, tx⟩ := entry
  have h_length := range'_later (exceptions_length_le db ⟨now, tx⟩)
  -- the exceptions only grow, so that an old result stays drawn
  have h_old : ∀ key row, db.events.lookup key = some row →
      SameResult (List.range' 1 (tx.apply now db).exceptions.length) row.result row.result :=
    fun key row h_row => (h key row h_row).later h_length
  show ResultsDrawn (tx.apply now db)
  have h_committed := tx.committed now db
  by_cases h_source : tx.isSource = false
  · have h_events : (tx.apply now db).events = db.events :=
      congrArg Sources.events (sources_apply now db h_source)
    intro key row h_row
    rw [h_events] at h_row
    exact h_old key row h_row
  generalize tx.apply now db = db' at h_committed h_old ⊢
  -- a transaction that stores an event with a result that it has drawn itself
  have h_stored : ∀ key stored, db'.events = db.events.insert key stored →
      SameResult (List.range' 1 db'.exceptions.length) stored.result stored.result →
      ResultsDrawn db' := by
    intro key stored h_events h_same key' row h_row
    rw [h_events, Table.lookup_insert] at h_row
    split at h_row
    · rw [← Option.some.inj h_row]
      exact h_same
    · exact h_old key' row h_row
  cases h_committed with
  | rolledBack => exact h
  | link h_case => cases h_case <;> exact h_old
  | @ingest source event _ _ h_case =>
    cases h_case with
    | conflict | duplicate => exact h_old
    | reviewed reason =>
      refine h_stored _ _ rfl (.exception reason _ _ (range'_maps_self (Nat.succ_pos _) ?_))
      show db.exceptions.length + 1 ≤ (db.exceptions ++ [_]).length
      rw [List.length_append]
      rfl
    | known id row =>
      exact h_stored _ _ (congrArg Sources.events (Service.observed_frame ..).1)
        (process_drawn now source event id row db)
    | enrolled =>
      exact h_stored _ _ (congrArg Sources.events (Service.observed_frame ..).1)
        (process_drawn now source event db.supply Customer.initial
          (Service.enroll source event db))
  | _ => exact absurd rfl h_source

/-- At first the second run is the first. -/
theorem Mirrors.refl {db : Db} (h_drawn : ResultsDrawn db) :
    Mirrors (List.range' 1 db.exceptions.length) db db where
  customers := rfl
  identities := rfl
  supply := rfl
  length := List.length_range'
  increasing := List.pairwise_lt_range'
  drawn n h_n := by
    have h_lt := (List.mem_range'_1.mp h_n).2
    show n < db.exceptions.length + 1
    omega
  exceptions n n' h := by
    obtain ⟨h_pos, h_get⟩ := h
    obtain ⟨h_lt, h_eq⟩ := List.getElem?_eq_some_iff.mp h_get
    rw [List.getElem_range'] at h_eq
    obtain rfl : n = n' := by omega
    rfl
  events key := by
    cases h_row : db.events.lookup key with
    | none => exact .none
    | some row => exact .some ⟨rfl, rfl, rfl, h_drawn key row h_row⟩

/-- The same replies under an extended renaming. -/
theorem SameReply.forall_later {places places' : Renaming} {replies replies' : List CallReply}
    (h : List.Forall₂ (SameReply places) replies replies') (h_later : places <+: places') :
    List.Forall₂ (SameReply places') replies replies' :=
  h.imp fun _ _ h_same => h_same.later h_later

/-- One call on both sides. -/
theorem mirrored_call {places : Renaming} {db₁ db₂ : Db} (h : Mirrors places db₁ db₂)
    (h_sound : IdentitySound db₁.sources) (call : Call) :
    ∃ places', Mirrored places db₁ db₂ call places' := by
  cases call with
  | ingest now source event => exact h.ingest h_sound now source event
  | link now actor command => exact ⟨places, h.link now actor command⟩

/-- The runs agree all along the schedule. -/
theorem schedule_mirrors {db : Db} (h_sound : ∀ calls, IdentitySound (db.calls calls).sources)
    (h_drawn : ResultsDrawn db) (schedule : List Scheduled) (h : Redelivers db schedule) :
    ∃ places,
      Mirrors places (db.calls (schedule.filterMap Scheduled.isOriginal)) (db.schedule schedule) ∧
        List.Forall₂ (SameReply places) (db.replies (schedule.filterMap Scheduled.isOriginal))
          (db.originalReplies schedule) := by
  induction schedule using List.reverseRecOn with
  | nil => exact ⟨_, .refl h_drawn, .nil⟩
  | append_singleton schedule s ih =>
    -- induction on the schedule: both runs mirror each other before its last call
    obtain ⟨places, h_mirrors, h_replies⟩ := ih fun pre now source event h_pre_as =>
      h pre now source event (h_pre_as.trans (List.prefix_append schedule [s]))
    rw [schedule_concat, List.filterMap_append]
    cases s with
    | original call =>
      obtain ⟨places', h_later, h_mirrors', h_reply⟩ := mirrored_call h_mirrors (h_sound _) call
      refine ⟨places', ?_, ?_⟩
      · show Mirrors places' (db.calls (_ ++ [call])) _
        rw [calls_concat]
        exact h_mirrors'
      · show List.Forall₂ _ (db.replies (_ ++ [call])) _
        rw [replies_concat, originalReplies_original]
        exact List.rel_append (SameReply.forall_later h_replies h_later) (.cons h_reply .nil)
    | redelivery now source event =>
      -- its identity is stored, so that only the second run moves
      have h_stored : ((db.schedule schedule).events.lookup (source, event.eventId)).isSome := by
        rcases h schedule now source event (List.prefix_refl _) with h_base | ⟨s, h_mem, h_key⟩
        · obtain ⟨row, h_row⟩ := Option.isSome_iff_exists.mp h_base
          have h_later := calls_persist h_row (schedule.map Scheduled.call)
          exact Option.isSome_iff_exists.mpr ⟨row, h_later⟩
        · exact scheduled_stored h_sound h_mem h_key
      refine ⟨places, ?_, ?_⟩
      · show Mirrors places (db.calls (_ ++ [])) _
        rw [List.append_nil]
        exact h_mirrors.redelivery now source event h_stored
      · show List.Forall₂ _ (db.replies (_ ++ [])) _
        rw [List.append_nil, originalReplies_redelivery]
        exact h_replies

/-- Results refer to exceptions that are there, and hashes are those of their bodies. -/
theorem results_sound (registry : Table String Destination) (owners : Table String String)
    (entries : List Entry) :
    ResultsDrawn ((Db.migrated registry owners).run entries) ∧
      EventsHashed ((Db.migrated registry owners).run entries) :=
  run_invariant (s := Db.migrated registry owners)
    (I := fun db : Db => ResultsDrawn db ∧ EventsHashed db)
    ⟨fun _ _ h => (by cases h), fun _ _ h => (by cases h)⟩
    (fun _ entry h => ⟨h.1.step entry, h.2.step entry⟩) entries

/-- **Redelivery is a stutter**, from every reachable state. -/
theorem redelivery_stutter (registry : Table String Destination) (owners : Table String String)
    (entries : List Entry) : RedeliveryStutter ((Db.migrated registry owners).run entries) := by
  obtain ⟨h_drawn, -⟩ := results_sound registry owners entries
  -- the calls extend the run that led to the state
  have h_extend : ∀ calls, ((Db.migrated registry owners).run entries).calls calls =
      (Db.migrated registry owners).run (entries ++ calls.map Call.entry) := by
    intro calls
    unfold Db.calls Db.run
    rw [run_append]
  have h_sound : ∀ calls, IdentitySound
      (((Db.migrated registry owners).run entries).calls calls).sources := by
    intro calls
    rw [h_extend]
    exact (sources_sound registry owners (entries ++ calls.map Call.entry)).1
  have h_hashed_later : ∀ calls, EventsHashed
      (((Db.migrated registry owners).run entries).calls calls) := by
    intro calls
    rw [h_extend]
    exact (results_sound registry owners (entries ++ calls.map Call.entry)).2
  generalize (Db.migrated registry owners).run entries = db at h_drawn h_sound h_hashed_later ⊢
  constructor
  · exact schedule_mirrors h_sound h_drawn
  · intro calls now source event h_event
    obtain ⟨result, db', h_first⟩ := ingest_first (h_sound calls) now h_event
    exact ⟨result, congrArg CallReply.ingested (Outcome.answer_eq_ok.mpr ⟨_, h_first⟩)⟩
  -- the row of the first delivery is there when it is repeated
  · intro pre now source event result rest h_reply
    have h_row := recorded_stored (h_sound pre) h_reply
    rw [List.append_cons, calls_append, calls_concat]
    have h_later := calls_persist h_row rest
    have h_hashed_rest := h_hashed_later (pre ++ [.ingest now source event] ++ rest)
    rw [calls_append, calls_concat] at h_hashed_rest
    exact repeats_of_stored h_hashed_rest h_later
  · intro key row h_row calls
    exact repeats_of_stored (h_hashed_later calls) (calls_persist h_row calls)

end ControlPlane
