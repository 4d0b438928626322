import ControlPlane.Dispatch.Authorization
import ControlPlane.Locking.Passing

/-!
# A closed gate admits no new work

The closed gate under every interleaving of statements, over any control database and any
ledger of the receiver:

* only the commit of a `begin` closes the gate, and only that of a `resume` of the session
  that closed it opens it;
* while the gate is closed no step inserts or approves a proposal, inserts or leases a job,
  or authorizes a dispatch, not even an `INSERT` by hand;
* source events, links, results, deferrals and resolutions still commit, with the effect
  they have under an open gate;
* every POST that is sent while the gate is closed was authorized by a `prepare` that
  committed before the `begin`;
* no business row changes while the coordinator holds the gate row.
-/

namespace ControlPlane

open Framework

/-! ### Commits -/

namespace Commit

def Begins (c : Commit) : Prop := ∃ now coordinator, c.work = .tx ⟨now, .begin coordinator⟩

def Resumes (c : Commit) (sessionId : Uuid) : Prop :=
  ∃ now coordinator surroundings proofId,
    c.work = .tx ⟨now, .resume coordinator surroundings sessionId proofId⟩

/-- The commit of a `prepare` that authorized the mutation under the lease. -/
def Authorizes (c : Commit) (id : Uuid) (lease : Option Uuid) (mutation : Mutation) : Prop :=
  (∃ now utc, c.work = .tx ⟨now, .prepare utc id lease⟩) ∧
    c.answer = .prepared (.ok (.dispatch mutation))

theorem Authorizes.authorizes {c : Commit} {id : Uuid} {lease : Option Uuid}
    {mutation : Mutation} (h : c.Authorizes id lease mutation) : c.answer.authorizes = true := by
  rw [h.2]
  rfl

end Commit

def AuthorizedBy (history : List Commit) (id : Uuid) (lease : Option Uuid)
    (mutation : Mutation) : Prop := ∃ c ∈ history, c.Authorizes id lease mutation

namespace Server

/-! ### The gate -/

/-- What a step does to the gate. -/
inductive GateStep (s s' : Server) : Prop
  | kept (h_mode : s'.db.gate.mode = s.db.gate.mode)
      (h_session : s'.db.gate.sessionId = s.db.gate.sessionId)
  | begun (c : Commit) (h_history : s'.history = s.history ++ [c]) (h_begins : c.Begins)
      (h_open : s.db.gate.mode = .opened) (h_closed : s'.db.gate.mode = .closed)
  | resumed (c : Commit) (sessionId : Uuid) (h_history : s'.history = s.history ++ [c])
      (h_resumes : c.Resumes sessionId) (h_session : s.db.gate.sessionId = some sessionId)
      (h_closed : s.db.gate.mode = .closed) (h_open : s'.db.gate.mode = .opened)

/-- What a client knows of the gate is the gate. -/
theorem gate_of_knows {s : Server} {client : Client} {mode : LockMode} {gate : Gate}
    (h : s.engine.guard .gate Db.gate client = some (mode, gate)) : s.db.gate = gate :=
  Engine.knows_allows s.engine.locks client s.db.gate mode gate h

/-- **Only a `begin` closes the gate, and only a `resume` of its session opens it.** -/
theorem Sound.gate_step {s : Server} (h : s.Sound) (action : Action) :
    GateStep s (s.step action) := by
  cases h.commits action with
  -- without a commit nothing shows
  | nothing h_db | drew h_db =>
    have h_gate := congrArg Db.gate h_db
    exact .kept (congrArg Gate.mode h_gate) (congrArg Gate.sessionId h_gate)
  | committed c pending h_permitted h_db h_history =>
    have h_gate := congrArg Db.gate h_db
    -- what a commit may do to the gate goes by the lock it holds on it
    cases h_guard : s.engine.guard .gate Db.gate c.client with
    | none =>
      rw [h_guard] at h_permitted
      rw [h_permitted.1] at h_gate
      exact .kept (congrArg Gate.mode h_gate) (congrArg Gate.sessionId h_gate)
    | some known =>
      obtain ⟨mode, gate⟩ := known
      have h_known := gate_of_knows h_guard
      rw [h_guard] at h_permitted
      cases mode with
      | shared =>
        have h_kept := h_gate.trans
          (Coordination.mk.inj (h_permitted.1.coordination s.db)).1
        exact .kept (congrArg Gate.mode h_kept) (congrArg Gate.sessionId h_kept)
      | exclusive =>
        have h_move := h_permitted.2.2 s.db h_known
        rw [← h_gate, ← h_known] at h_move
        cases h_move with
        | kept _ h_mode h_session => exact .kept h_mode h_session
        | begun now coordinator _ h_work h_open h_closed =>
          exact .begun c h_history ⟨now, coordinator, h_work⟩ h_open h_closed
        | resumed now coordinator surroundings sessionId proofId _ h_work h_closed h_session
            h_open =>
          exact .resumed c sessionId h_history
            ⟨now, coordinator, surroundings, proofId, h_work⟩ h_session h_closed h_open

/-- **While the gate is closed no step is new work.** -/
theorem Sound.no_new_work {s : Server} (h : s.Sound) (h_closed : s.db.gate.mode = .closed)
    (action : Action) :
    NoNewWork s.db (s.step action).db ∧ ∃ added, (s.step action).history = s.history ++ added ∧
      ∀ c ∈ added, c.answer.authorizes = false := by
  cases h.commits action with
  | nothing h_db h_history =>
    rw [h_db, h_history]
    exact ⟨.refl s.db, [], (List.append_nil _).symm, fun _ h_c => (by cases h_c)⟩
  | drew h_db h_history =>
    rw [h_db, h_history]
    exact ⟨.of_same rfl rfl rfl, [], (List.append_nil _).symm, fun _ h_c => (by cases h_c)⟩
  | committed c pending h_permitted h_db h_history =>
    have h_lawful : NoNewWork s.db (pending s.db) ∧ c.answer.authorizes = false := by
      -- without the gate lock it writes nothing, under the shared lock it has read the closed mode
      cases h_guard : s.engine.guard .gate Db.gate c.client with
      | none =>
        rw [h_guard] at h_permitted
        rw [h_permitted.1]
        exact ⟨.refl s.db, h_permitted.2⟩
      | some known =>
        obtain ⟨mode, gate⟩ := known
        obtain rfl := gate_of_knows h_guard
        rw [h_guard] at h_permitted
        cases mode with
        | shared => exact ⟨h_permitted.1.work h_closed s.db, h_permitted.2 h_closed⟩
        | exclusive =>
          have h_business := h_permitted.1 s.db
          exact ⟨.of_same (congrArg Business.proposals h_business)
            (congrArg Business.jobs h_business) (congrArg Business.auditLog h_business),
            h_permitted.2.1⟩
    rw [h_db, h_history]
    refine ⟨h_lawful.1, [c], rfl, fun c' h_c => ?_⟩
    rw [List.mem_singleton.mp h_c]
    exact h_lawful.2

/-- **While somebody holds the gate row exclusively no business row changes.** -/
theorem Sound.business_step {s : Server} (h : s.Sound) {client : Client}
    (h_holds : ⟨client, .gate, .exclusive⟩ ∈ s.engine.locks.holds) (action : Action) :
    (s.step action).db.toBusiness = s.db.toBusiness := by
  cases h.commits action with
  | nothing h_db => rw [h_db]
  | drew h_db =>
    rw [h_db]
    rfl
  | committed c pending h_permitted h_db =>
    rw [h_db]
    by_cases h_eq : c.client = client
    · have h_guard : s.engine.guard .gate Db.gate c.client = some (.exclusive, s.db.gate) := by
        rw [h_eq]
        exact if_pos h_holds
      rw [h_guard] at h_permitted
      exact h_permitted.1 s.db
    · have h_guard : s.engine.guard .gate Db.gate c.client = none :=
        Engine.knows_none_of_exclusive h_holds h_eq _
      rw [h_guard] at h_permitted
      rw [h_permitted.1]
      rfl

/-- **From a moment with a closed gate on**, either a `resume` of its session has committed,
or the gate is still closed by that session and there was no new work. -/
theorem Sound.closed_run {s : Server} (h : s.Sound) (h_closed : s.db.gate.mode = .closed)
    (actions : List Action) :
    ∃ added, (s.run actions).history = s.history ++ added ∧
      ((∃ c ∈ added, ∃ id, s.db.gate.sessionId = some id ∧ c.Resumes id) ∨
        ((s.run actions).db.gate.mode = .closed ∧
          (s.run actions).db.gate.sessionId = s.db.gate.sessionId ∧
          NoNewWork s.db (s.run actions).db ∧ ∀ c ∈ added, c.answer.authorizes = false)) := by
  have h_sound : ∀ actions, (s.run actions).Sound := fun actions =>
    run_invariant h (fun _ action h => h.step action) actions
  -- until a resume commits, the gate stays closed and nothing new is authorised
  induction actions using List.reverseRecOn with
  | nil =>
    exact ⟨[], (List.append_nil _).symm, .inr ⟨h_closed, rfl, .refl s.db,
      fun _ h_c => (by cases h_c)⟩⟩
  | append_singleton actions action ih =>
    specialize h_sound actions
    have h_run : s.run (actions ++ [action]) = (s.run actions).step action :=
      run_concat actions action
    rw [h_run]
    generalize s.run actions = t at ih h_sound ⊢
    obtain ⟨added, h_history, h_added⟩ := ih
    have h_extends : ∃ more, (t.step action).history = t.history ++ more := by
      cases h_sound.commits action with
      | nothing _ h_same | drew _ h_same => exact ⟨[], by rw [h_same, List.append_nil]⟩
      | committed c _ _ _ h_more => exact ⟨[c], h_more⟩
    rcases h_added with ⟨c, h_c, h_resumes⟩ | ⟨h_mode, h_session, h_work, h_none⟩
    · obtain ⟨more, h_more⟩ := h_extends
      refine ⟨added ++ more, by rw [h_more, h_history, List.append_assoc], .inl ?_⟩
      exact ⟨c, List.mem_append_left more h_c, h_resumes⟩
    · obtain ⟨h_new, more, h_more, h_refused⟩ := h_sound.no_new_work h_mode action
      refine ⟨added ++ more, by rw [h_more, h_history, List.append_assoc], ?_⟩
      cases h_sound.gate_step action with
      | begun c _ _ h_open => cases h_mode.symm.trans h_open
      | resumed c id h_last h_resumes h_id =>
        obtain rfl := List.append_cancel_left (h_more.symm.trans h_last)
        exact .inl ⟨c, by simp, id, h_session ▸ h_id, h_resumes⟩
      | kept h_mode' h_session' =>
        refine .inr ⟨h_mode'.trans h_mode, h_session'.trans h_session, h_work.trans h_new, ?_⟩
        intro c h_c
        rcases List.mem_append.mp h_c with h_c | h_c
        · exact h_none c h_c
        · exact h_refused c h_c

/-! ### The POSTs -/

end Server

theorem AuthorizedBy.later {history : List Commit} {id : Uuid} {lease : Option Uuid}
    {mutation : Mutation} (h : AuthorizedBy history id lease mutation) (more : List Commit) :
    AuthorizedBy (history ++ more) id lease mutation := by
  obtain ⟨c, h_c, h_authorizes⟩ := h
  exact ⟨c, List.mem_append_left more h_c, h_authorizes⟩

/-- A worker is on its way to a POST after a transaction because it was before, or because
the transaction was a `prepare` that authorized it. -/
theorem conclude_dispatching {phase : Phase} {answer : Answer} {job : Worker.Claimed}
    {mutation : Mutation} (h : (phase.conclude answer).dispatching = some (job, mutation)) :
    phase.dispatching = some (job, mutation) ∨
      (∃ route, phase = .preparing job route) ∧ answer = .prepared (.ok (.dispatch mutation)) := by
  cases phase with
  | acquiring job' route request =>
    cases route with
    | none => cases answer <;> cases h
    | some route =>
      cases answer with
      | permitted token =>
        cases token with
        | none => cases h
        | some token => cases request <;> exact .inl h
      | _ => cases h
  -- the answer of `prepare` is the one way into a dispatch
  | preparing job' route =>
    cases answer with
    | prepared answer =>
      obtain ⟨rfl, rfl⟩ := prepared_dispatching h
      exact .inr ⟨⟨route, rfl⟩, rfl⟩
    | _ => cases h
  | releasing job' route held failed cooldown next =>
    cases answer with
    | done => cases (next_dispatching job' route next).symm.trans h
    | _ => cases h
  | idle =>
    cases answer with
    | claimed job' => cases job' <;> cases h
    | _ => cases h
  | _ => cases answer <;> cases h

namespace Server

/-- A client goes on, and what it is on its way to send is authorized. -/
theorem dispatches_move {s : Server} {history : List Commit}
    (h : DispatchesSound (AuthorizedBy s.history) s.world) (client : Client) (f : Phase → Phase)
    (h_later : ∀ id lease mutation, AuthorizedBy s.history id lease mutation →
      AuthorizedBy history id lease mutation)
    (h_new : ∀ n, client = .worker n → ∀ job mutation,
      (f (s.phase n)).dispatching = some (job, mutation) →
        AuthorizedBy history job.id job.row.leaseToken mutation) :
    DispatchesSound (AuthorizedBy history) (s.move client f).world := by
  cases client with
  | external k =>
    exact ⟨fun n job mutation h_n => h_later _ _ _ (h.phase n job mutation h_n),
      fun post h_post => h_later _ _ _ (h.sent post h_post)⟩
  | worker n => exact h.move rfl rfl h_later (h_new n rfl)

/-- **Every POST that is sent or on its way was authorized by a commit.** -/
theorem Sound.dispatches_step {s : Server} (h_sound : s.Sound)
    (h : DispatchesSound (AuthorizedBy s.history) s.world) (action : Action) :
    DispatchesSound (AuthorizedBy (s.step action).history) (s.step action).world := by
  cases action with
  | start client work =>
    unfold Server.step
    dsimp only
    split <;> exact ⟨h.phase, h.sent⟩
  | abort client =>
    unfold Server.step
    rw [move_history]
    exact dispatches_move (s := { s with engine := s.engine.abort client }) ⟨h.phase, h.sent⟩
      client _ (fun _ _ _ h => h) fun _ _ _ _ h_none => by cases h_none
  | world label =>
    unfold Server.step
    dsimp only
    split
    · rename_i h_local
      obtain ⟨h_log, -⟩ := World.local_step h_local
      have h_step := h.step label (fun _ _ _ h => h) fun now utc job mutation db' h_entry _ => by
        rw [h_log] at h_entry
        simp at h_entry
      exact ⟨h_step.phase, h_step.sent⟩
    · exact h
  | statement client =>
    have h_stated := s.stated client
    generalize s.step (.statement client) = s' at h_stated ⊢
    have h_later : DispatchesSound (AuthorizedBy s.history)
        { s with engine := s.engine.statement client }.world := ⟨h.phase, h.sent⟩
    cases h_stated with
    | goesOn h_end => exact h_later
    | rolledBack ending pending h_running =>
      -- no rollback authorizes anything
      have h_undo : ending.answer.authorizes = false := h_sound.engine.scripts client _ h_running
      rw [move_history]
      refine dispatches_move h_later client _ (fun _ _ _ h => h) fun n _ job mutation h_n => ?_
      rcases conclude_dispatching h_n with h_old | ⟨-, h_answer⟩
      · exact h.phase n job mutation h_old
      · rw [h_answer] at h_undo
        cases h_undo
    | committed ending pending h_running =>
      have h_moved : DispatchesSound (AuthorizedBy (s.history ++ [⟨ending, client⟩]))
          ({ s with engine := s.engine.statement client }.move client
            (·.conclude ending.answer)).world := by
        refine dispatches_move h_later client _ (fun _ _ _ h => h.later _)
          fun n h_client job mutation h_n => ?_
        subst h_client
        rcases conclude_dispatching h_n with h_old | ⟨⟨route, h_phase⟩, h_answer⟩
        · exact (h.phase n job mutation h_old).later _
        · -- the transaction is the `prepare` that the phase of the worker calls
          obtain ⟨work, h_admits, h_work⟩ := h_sound.calls (.worker n) _ h_running
          obtain rfl : ending.work = work := h_work
          refine ⟨⟨ending, .worker n⟩, by simp, ?_, h_answer⟩
          change s.admits _ ending.work = true at h_admits
          change ∃ now utc, ending.work = _
          generalize ending.work = work at h_admits ⊢
          cases work with
          | tx entry =>
            obtain ⟨now, tx⟩ := entry
            change (s.phase n).calls tx = true at h_admits
            change s.phase n = _ at h_phase
            rw [h_phase] at h_admits
            cases tx with
            | prepare utc id token =>
              simp only [Phase.calls, Bool.and_eq_true, decide_eq_true_eq] at h_admits
              obtain ⟨rfl, rfl⟩ := h_admits
              exact ⟨now, utc, rfl⟩
            | _ => cases h_admits
          | _ => cases h_admits
      exact ⟨h_moved.phase, h_moved.sent⟩

theorem dispatches_sound (db : Db) (remote : Receiver) (actions : List Action) :
    DispatchesSound (AuthorizedBy ((initial db remote).run actions).history)
      ((initial db remote).run actions).world :=
  (run_invariant (I := fun s : Server => s.Sound ∧ DispatchesSound (AuthorizedBy s.history) s.world)
    ⟨initial_sound db remote, fun _ _ _ h => (by cases h), fun _ h => (by cases h)⟩
    (fun _ action h => ⟨h.1.step action, h.1.dispatches_step h.2 action⟩) actions).2

/-- A stretch with a closed gate commits no authorization. -/
theorem Sound.closed_history {s : Server} (h : s.Sound) (actions : List Action)
    (h_closed : ∀ mid, mid <+: actions → (s.run mid).db.gate.mode = .closed) :
    ∃ added, (s.run actions).history = s.history ++ added ∧
      ∀ c ∈ added, c.answer.authorizes = false := by
  induction actions using List.reverseRecOn with
  | nil => exact ⟨[], (List.append_nil _).symm, fun _ h_c => (by cases h_c)⟩
  | append_singleton actions action ih =>
    obtain ⟨added, h_history, h_none⟩ :=
      ih fun mid h_mid => h_closed mid (h_mid.trans (List.prefix_append actions [action]))
    have h_sound : (s.run actions).Sound :=
      run_invariant h (fun _ action h => h.step action) actions
    obtain ⟨-, more, h_more, h_refused⟩ :=
      h_sound.no_new_work (h_closed actions (List.prefix_append actions [action])) action
    have h_run : s.run (actions ++ [action]) = (s.run actions).step action :=
      run_concat actions action
    refine ⟨added ++ more, by rw [h_run, h_more, h_history, List.append_assoc], fun c h_c => ?_⟩
    rcases List.mem_append.mp h_c with h_c | h_c
    · exact h_none c h_c
    · exact h_refused c h_c

/-! ### The closed gate -/

/-- What a closed gate means for the steps from a moment of a run on. -/
structure ClosedGate (s : Server) : Prop where
  /-- Only a `begin` closes the gate, and only a `resume` of the session that closed it opens
  it. -/
  gate : ∀ action, GateStep s (s.step action)
  /-- From a moment with a closed gate to the matching `resume`, no proposal is inserted or
  approved, no job inserted or leased, and no dispatch authorized. -/
  work : s.db.gate.mode = .closed → ∀ actions, ∃ added,
    (s.run actions).history = s.history ++ added ∧
      ((∃ c ∈ added, ∃ id, s.db.gate.sessionId = some id ∧ c.Resumes id) ∨
        ((s.run actions).db.gate.mode = .closed ∧
          (s.run actions).db.gate.sessionId = s.db.gate.sessionId ∧
          NoNewWork s.db (s.run actions).db ∧ ∀ c ∈ added, c.answer.authorizes = false))
  /-- A source event, a link, a result, a deferral or a resolution commits whatever the gate
  is, while the others only share the gate row, and the gate makes no difference to it. -/
  passes : ∀ client entry, entry.tx.passesGate = true → s.admits client (.tx entry) = true →
    s.engine.running client = none →
    (∀ hold ∈ s.engine.locks.holds, hold.resource = .gate ∧ hold.mode = .shared) →
    (∃ actions, (s.run actions).engine.running client = none ∧
      (s.run actions).db = s.db.step entry ∧
      (s.run actions).history = s.history ++ commitsOf client entry s.db) ∧
    ∀ gate, entry.tx.seen entry.now (s.db.withGate gate) =
      ((entry.tx.seen entry.now s.db).1, (entry.tx.seen entry.now s.db).2.withGate gate)
  /-- When the next step closes the gate, every POST that is sent while it stays closed was
  authorized by a `prepare` that has committed already. -/
  posts : ∀ action actions, s.db.gate.mode = .opened →
    (∀ mid, mid <+: actions → ((s.step action).run mid).db.gate.mode = .closed) →
    ∀ post ∈ ((s.step action).run actions).sent,
      AuthorizedBy s.history post.key post.lease post.mutation
  /-- While a client holds the gate row exclusively, no business row changes. -/
  holds : ∀ client, ⟨client, .gate, .exclusive⟩ ∈ s.engine.locks.holds →
    ∀ action, (s.step action).db.toBusiness = s.db.toBusiness

/-- **A closed gate admits no new work**, at every moment of every run of the server. -/
theorem closed_gate (db : Db) (remote : Receiver) (actions : List Action) :
    ClosedGate ((initial db remote).run actions) := by
  have h := sound db remote actions
  refine
    { gate := h.gate_step
      work := h.closed_run
      passes := fun client entry h_passes h_admits h_idle h_shared =>
        ⟨passes_run h_passes h_admits h_idle h_shared,
          fun gate => Tx.seen_withGate entry.now _ gate h_passes⟩
      posts := fun action more h_open h_closed post h_post => ?_
      holds := fun client h_holds => h.business_step h_holds }
  have h_run : (initial db remote).run (actions ++ action :: more) =
      (((initial db remote).run actions).step action).run more := by
    exact run_append actions (action :: more)
  have h_dispatches := dispatches_sound db remote (actions ++ action :: more)
  rw [h_run] at h_dispatches
  obtain ⟨c, h_c, h_authorizes⟩ := h_dispatches.sent post h_post
  obtain ⟨added, h_history, h_none⟩ := (h.step action).closed_history more h_closed
  rw [h_history] at h_c
  generalize (initial db remote).run actions = s at h h_open h_closed h_c ⊢
  -- the authorisation is older than the closure, since none is given behind it
  rcases List.mem_append.mp h_c with h_c | h_c
  · cases h.gate_step action with
    | kept h_mode =>
      have h_first := h_closed [] List.nil_prefix
      cases (h_mode.trans h_open).symm.trans h_first
    | begun c' h_begun h_begins =>
      rw [h_begun] at h_c
      rcases List.mem_append.mp h_c with h_c | h_c
      · exact ⟨c, h_c, h_authorizes⟩
      · obtain rfl := List.mem_singleton.mp h_c
        obtain ⟨now, coordinator, h_begin⟩ := h_begins
        obtain ⟨⟨now', utc, h_prepare⟩, -⟩ := h_authorizes
        cases h_begin.symm.trans h_prepare
    | resumed _ _ _ _ _ h_shut => cases h_open.symm.trans h_shut
  · cases (h_none c h_c).symm.trans h_authorizes.authorizes

end Server
end ControlPlane
