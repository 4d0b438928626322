import ControlPlane.Model.World
import ControlPlane.Permits.Bucket
import Mathlib

/-!
# Which job a claim takes

`claim` and `acquire` decide separately whether a destination can serve. `claim` leaves out
the destinations in cooldown and takes the job whose destination was served longest ago
(`first_least`); the budget of the window and the live permits are only looked at by
`acquire`, which refuses a request that `claim` has let through. So a claim can lease a job
whose permit is then refused while the permit of another job would be granted
(`exhausted_destination_claimed`).

What a cooldown cannot do is hold up the work of another destination: while there is work
that would get its permit, a claim leases a job, its destination is not in cooldown, and it
was not served after the other one (`cooldown_isolated`).
-/

namespace ControlPlane

open Framework

/-! ### The order of `claim` -/

namespace Worker

/-- `last_served NULLS FIRST`: no row comes before `-infinity`, and this before any time. -/
def nullsFirst : Option (Option Time) → WithBot (WithBot Time)
  | none => ⊥
  | some none => ((⊥ : WithBot Time) : WithBot (WithBot Time))
  | some (some t) => ((t : WithBot Time) : WithBot (WithBot Time))

theorem nullsFirst_inj {a b : Option (Option Time)} : nullsFirst a = nullsFirst b ↔ a = b := by
  rcases a with _ | _ | t <;> rcases b with _ | _ | u <;> simp [nullsFirst]

theorem servedBefore_iff {a b : Option (Option Time)} :
    servedBefore a b = true ↔ nullsFirst a < nullsFirst b := by
  rcases a with _ | _ | t <;> rcases b with _ | _ | u <;> simp [nullsFirst, servedBefore]

/-- When the destination of the candidate was last served. -/
def Candidate.served (c : Candidate) : Option (Option Time) := c.capacity.map (·.lastServed)

/-- The key of the `ORDER BY`. -/
def Candidate.rank (c : Candidate) : WithBot (WithBot Time) ×ₗ (Time ×ₗ Uuid) :=
  toLex (nullsFirst c.served, toLex (c.job.availableAt, c.id))

theorem precedes_iff {a b : Candidate} : precedes a b = true ↔ a.rank < b.rank := by
  unfold Candidate.rank
  rw [Prod.Lex.toLex_lt_toLex, Prod.Lex.toLex_lt_toLex, ← servedBefore_iff, nullsFirst_inj]
  unfold precedes Candidate.served
  simp only [Bool.or_eq_true, Bool.and_eq_true, decide_eq_true_eq]

/-- **The first candidate** is the least one. -/
theorem first_least {a : Candidate} {l : List Candidate} (h : first l = some a) :
    ∀ b ∈ l, a.rank ≤ b.rank := by
  -- induction on the candidates: the first of the rest precedes all of it
  induction l generalizing a with
  | nil => cases h
  | cons c rest ih =>
    unfold first at h
    split at h
    · rename_i h_rest
      obtain rfl := Option.some.inj h
      intro b h_b
      rcases List.mem_cons.mp h_b with rfl | h_b
      · exact le_rfl
      · -- an empty rest has no candidate
        cases rest with
        | nil => cases h_b
        | cons d rest =>
          unfold first at h_rest
          split at h_rest
          · cases h_rest
          · split at h_rest <;> cases h_rest
    · rename_i d h_rest
      have h_least := ih h_rest
      split at h
      · rename_i h_precedes
        obtain rfl := Option.some.inj h
        intro b h_b
        rcases List.mem_cons.mp h_b with rfl | h_b
        · exact (precedes_iff.mp h_precedes).le
        · exact h_least b h_b
      · rename_i h_not
        obtain rfl := Option.some.inj h
        have h_le : c.rank ≤ d.rank := not_lt.mp (mt precedes_iff.mpr h_not)
        intro b h_b
        rcases List.mem_cons.mp h_b with rfl | h_b
        · exact le_rfl
        · exact h_le.trans (h_least b h_b)

theorem served_le_of_rank {a b : Candidate} (h : a.rank ≤ b.rank) :
    servedBefore b.served a.served = false := by
  rw [← Bool.not_eq_true, servedBefore_iff]
  intro h_lt
  exact absurd (Prod.Lex.toLex_lt_toLex.mpr (.inl h_lt)) (not_lt.mpr h)

theorem first_isSome {a : Candidate} : ∀ {l : List Candidate}, a ∈ l → ∃ b, first l = some b
  | b :: rest, _ => by
    unfold first
    split
    · exact ⟨_, rfl⟩
    · split
      · exact ⟨_, rfl⟩
      · exact ⟨_, rfl⟩

/-- The kind of the next request of a job. -/
def nextRequest (job : Job) : RequestKind := if job.uncertain then .receipt else .dispatch

/-- What a candidate is. -/
theorem mem_claimable {now : Time} {locked : List Uuid} {db : Db} {c : Candidate} :
    c ∈ claimable now locked db ↔ db.jobs.lookup c.id = some c.job ∧
      c.capacity = ((db.jobRoutes.lookup c.id).bind fun name => db.capacityState.lookup name) ∧
      due now c.job = true ∧ probeOpen now c.capacity = true ∧ c.id ∉ locked := by
  unfold claimable
  rw [List.mem_filter]
  simp only [Bool.and_eq_true, Bool.not_eq_true', List.contains_eq_mem, decide_eq_false_iff_not]
  constructor
  · rintro ⟨h_row, ⟨h_due, h_probe⟩, h_unlocked⟩
    obtain ⟨⟨id, job⟩, h_entry, rfl⟩ := List.mem_map.mp h_row
    exact ⟨Table.mem_entries.mp h_entry, rfl, h_due, h_probe, h_unlocked⟩
  · rintro ⟨h_job, h_capacity, h_due, h_probe, h_unlocked⟩
    refine ⟨List.mem_map.mpr ⟨⟨c.id, c.job⟩, Table.mem_entries.mpr h_job, ?_⟩,
      ⟨h_due, h_probe⟩, h_unlocked⟩
    obtain ⟨id, job, capacity⟩ := c
    exact congrArg (Candidate.mk id job) h_capacity.symm

/-- The cooldown that `claim` looks at is the one of `acquire`. -/
theorem probeOpen_iff {now : Time} {name : String} {db : Db} :
    probeOpen now (db.capacityState.lookup name) = true ↔
      ∀ probe, (Capacity.stateRow name db).nextProbe = some probe → probe ≤ now := by
  unfold Capacity.stateRow
  cases db.capacityState.lookup name with
  | none => exact iff_of_true rfl fun _ h => by cases h
  | some state =>
    obtain ⟨window, used, nextProbe, lastServed⟩ := state
    cases nextProbe with
    | none => exact iff_of_true rfl fun _ h => by cases h
    | some probe =>
      show decide (probe ≤ now) = true ↔ ∀ probe', some probe = some probe' → probe' ≤ now
      rw [decide_eq_true_iff]
      exact ⟨fun h _ h_eq => Option.some.inj h_eq ▸ h, fun h => h probe rfl⟩

end Worker

/-! ### Granted permits -/

/-- Whether `acquire` would grant a permit. -/
def Capacity.grants (now : Time) (name : String) (route : Destination) (kind : RequestKind)
    (db : Db) : Bool :=
  match acquire now name route kind db with
  | .ok (some _, _) => true
  | _ => false

theorem Capacity.grants_iff {now : Time} {name : String} {route : Destination}
    {kind : RequestKind} {db : Db} :
    grants now name route kind db = true ↔ Granted now name route kind db := by
  obtain ⟨reply, db', h_ok, h_result⟩ := acquire_result now name route kind db
  unfold grants
  rw [h_ok]
  cases h_result with
  | refused h_not => exact iff_of_false (fun h => by cases h) h_not
  | granted h => exact iff_of_true rfl h

/-- A due job of the destination that no other transaction has locked. -/
structure Waiting (now : Time) (locked : List Uuid) (db : Db) (id : Uuid) (job : Job)
    (name : String) : Prop where
  h_job : db.jobs.lookup id = some job
  h_due : Worker.due now job = true
  h_unlocked : id ∉ locked
  h_route : db.jobRoutes.lookup id = some name

/-- When the destination was last served, if it has a row. -/
def lastServed (db : Db) (name : String) : Option (Option Time) :=
  (db.capacityState.lookup name).map (·.lastServed)

/-- The destination is in cooldown: it has a next probe, which is not due. -/
def InCooldown (now : Time) (name : String) (db : Db) : Prop :=
  ∃ row probe, db.capacityState.lookup name = some row ∧ row.nextProbe = some probe ∧ now < probe

/-- **A cooldown holds up nobody else.** While there is work whose permit would be granted, a
claim leases a job. Its destination is not in cooldown, so that only its window or its
concurrency can refuse it, and it was not served after the destination of that work. -/
theorem cooldown_isolated {now : Time} {leaseSeconds : ℤ} {locked : List Uuid} {db : Db}
    {id : Uuid} {job : Job} {name : String} {route : Destination}
    (h_open : db.executionOpen = true) (h_waiting : Waiting now locked db id job name)
    (h_grants : Capacity.grants now name route (Worker.nextRequest job) db = true) :
    ∃ claimed, (Worker.claim now leaseSeconds locked db).answer = .ok (some claimed) ∧
      ∀ other otherRoute, db.jobRoutes.lookup claimed.id = some other →
        ¬ InCooldown now other db ∧
        (Capacity.grants now other otherRoute (Worker.nextRequest claimed.row) db = true ∨
          otherRoute.requestsPerSecond -
            (if Worker.nextRequest claimed.row = .dispatch then 1 else 0) ≤
              Capacity.used now other db ∨
          otherRoute.concurrency ≤
            Capacity.outstanding (Capacity.refresh now other db) other) ∧
        Worker.servedBefore (lastServed db name) (lastServed db other) = false := by
  have h_granted := Capacity.grants_iff.mp h_grants
  -- the waiting job is a candidate
  have h_candidate : (⟨id, job, db.capacityState.lookup name⟩ : Worker.Candidate) ∈
      Worker.claimable now locked db :=
    Worker.mem_claimable.mpr ⟨h_waiting.h_job, by rw [h_waiting.h_route]; rfl, h_waiting.h_due,
      Worker.probeOpen_iff.mpr h_granted.eligible, h_waiting.h_unlocked⟩
  obtain ⟨c, h_first⟩ := Worker.first_isSome h_candidate
  obtain ⟨-, h_capacity, -, h_probe, -⟩ := Worker.mem_claimable.mp (Worker.first_mem h_first)
  have h_claim : Worker.claim now leaseSeconds locked db =
      .ok (some ⟨c.id, Worker.leased now leaseSeconds db.supply c.job⟩,
        Worker.lease now leaseSeconds c.id c.job db) := by
    unfold Worker.claim
    rw [if_neg (by rw [h_open]; decide), h_first]
  refine ⟨_, Outcome.answer_eq_ok.mpr ⟨_, h_claim⟩, fun other otherRoute h_other => ?_⟩
  have h_lookup : c.capacity = db.capacityState.lookup other := by
    rw [h_capacity, show db.jobRoutes.lookup c.id = some other from h_other]
    rfl
  rw [h_lookup, Worker.probeOpen_iff] at h_probe
  refine ⟨?_, ?_, ?_⟩
  -- `claim` has left a destination in cooldown out
  · rintro ⟨row, probe, h_row, h_next, h_later⟩
    refine absurd (h_probe probe ?_) (not_le.mpr h_later)
    unfold Capacity.stateRow
    rw [h_row]
    exact h_next
  · by_cases h : Capacity.Granted now other otherRoute
        (Worker.nextRequest (Worker.leased now leaseSeconds db.supply c.job)) db
    · exact .inl (Capacity.grants_iff.mpr h)
    · rcases (Capacity.not_granted_iff ..).mp h with h_cooldown | h_used | h_live
      · rw [← Bool.not_eq_true, Option.all_eq_true] at h_cooldown
        exact absurd (fun probe h_some => decide_eq_true (h_probe probe h_some)) h_cooldown
      · exact .inr (.inl h_used)
      · exact .inr (.inr h_live)
  -- the rank begins with the time the destination was last served
  · have h_served := Worker.served_le_of_rank (Worker.first_least h_first _ h_candidate)
    unfold Worker.Candidate.served at h_served
    rw [h_lookup] at h_served
    exact h_served

/-! ### Two destinations -/

namespace Lanes

/-- A destination that takes one request at a time. -/
def east : Destination := ⟨⟨"http", "", "", "localhost", "", ""⟩, "TOKEN", 10, 1, 10⟩

/-- One that takes two. -/
def west : Destination := ⟨⟨"http", "", "", "localhost", "", ""⟩, "TOKEN", 10, 2, 10⟩

/-- Two jobs for each destination. One worker has a request under way at the first
destination, and then another one at the second. -/
def busy : World :=
  let customer : String → SourceEvent := fun lane => ⟨lane, lane, 1,
    { (FieldMap.empty : FieldMap Field.Value) with email := some lane, owner := some lane }⟩
  let request : Uuid → Uuid → Contract.Proposal := fun id customer =>
    ⟨id, customer, 1, .syncProfile, "synchronise", .welcome⟩
  let execution : ℕ → Time → List Label := fun worker now =>
    [.claim worker now 30 [], .route worker fun _ => true, .prepare worker now now,
      .acquire worker now]
  (World.initial (AList.insert "east" east (AList.insert "west" west ∅))
    (AList.insert "east" "east" (AList.insert "west" "west" ∅))).run
    ([.commit 0 (.ingest .crm (customer "east")), .commit 0 (.ingest .crm (customer "west")),
      .commit 1 (.propose .agent (request 100 0)), .commit 1 (.propose .agent (request 101 0)),
      .commit 1 (.propose .agent (request 200 1)), .commit 1 (.propose .agent (request 201 1))] ++
      execution 0 10 ++ execution 1 11)

/-- The job that the next claim leases, for the first destination. -/
def claimed : Worker.Claimed :=
  ⟨101, .leased, 1, 1, some (20 + seconds 30), some 6, false, none, none, none⟩

/-- A job that waits for the second destination. -/
def passed : Job := Job.inserted 1

end Lanes

open Lanes in
/-- At this moment a claim leases the second job of the busy destination, which `acquire` then
refuses, and passes over the second job of the other one, whose permit would be granted. -/
theorem exhausted_destination_claimed :
    ¬ ∀ (registry : Table String Destination) (owners : Table String String)
      (labels : List Label) (now : Time) (leaseSeconds : ℤ) (locked : List Uuid)
      (claimed : Worker.Claimed) (x : String) (xRoute : Destination) (id : Uuid) (job : Job)
      (y : String) (yRoute : Destination),
      let db := ((World.initial registry owners).run labels).db
      (Worker.claim now leaseSeconds locked db).answer = .ok (some claimed) →
      db.jobRoutes.lookup claimed.id = some x → db.destinations.lookup x = some xRoute →
      Waiting now locked db id job y → db.destinations.lookup y = some yRoute →
      Capacity.grants now y yRoute (Worker.nextRequest job) db = true →
        Capacity.grants now x xRoute (Worker.nextRequest claimed.row) db = true := by
  intro h
  have h_refused : Capacity.grants 20 "east" east (Worker.nextRequest claimed.row) busy.db =
      false := by decide +kernel
  have h_granted := h _ _ _ 20 30 [] claimed "east" east 201 passed "west" west
    (show (Worker.claim 20 30 [] busy.db).answer = _ by decide +kernel)
    (show busy.db.jobRoutes.lookup 101 = _ by decide +kernel)
    (show busy.db.destinations.lookup "east" = _ by decide +kernel)
    (show Waiting 20 [] busy.db 201 passed "west" from
      ⟨by decide +kernel, by decide, by decide, by decide +kernel⟩)
    (show busy.db.destinations.lookup "west" = _ by decide +kernel)
    (show Capacity.grants 20 "west" west _ busy.db = true by decide +kernel)
  cases h_refused.symm.trans h_granted

open Lanes in
/-- There the busy destination is not in cooldown, and was served first. -/
theorem cooldown_isolated_busy :
    ∃ claimed, (Worker.claim 20 30 [] busy.db).answer = .ok (some claimed) ∧
      ∀ other otherRoute, busy.db.jobRoutes.lookup claimed.id = some other →
        ¬ InCooldown 20 other busy.db ∧
        (Capacity.grants 20 other otherRoute (Worker.nextRequest claimed.row) busy.db = true ∨
          otherRoute.requestsPerSecond -
            (if Worker.nextRequest claimed.row = .dispatch then 1 else 0) ≤
              Capacity.used 20 other busy.db ∨
          otherRoute.concurrency ≤
            Capacity.outstanding (Capacity.refresh 20 other busy.db) other) ∧
        Worker.servedBefore (lastServed busy.db "west") (lastServed busy.db other) = false :=
  cooldown_isolated (by decide +kernel)
    (show Waiting 20 [] busy.db 201 passed "west" from
      ⟨by decide +kernel, by decide, by decide, by decide +kernel⟩)
    (show Capacity.grants 20 "west" west (Worker.nextRequest passed) busy.db = true by
      decide +kernel)

end ControlPlane
