import ControlPlane.Locking.Discipline

/-!
# What the open transactions count on

The invariant of the server under every interleaving of statements. `Server.Sound` says
that every open transaction keeps the gate discipline for the gate as it is now, whatever
has committed since it read it (`Framework.Engine.Sound`), and that it is one its client
may have started. A transaction that shares the gate row and a coordinator that holds it
exclusively are never both open past their lock, so none straddles a `begin` or a `resume`.
-/

namespace ControlPlane

open Framework

/-! ### Steps of the world that commit nothing -/

/-- Such a step only moves workers that have no transaction to open. -/
theorem World.local_step {w : World} {label : Label} (h : w.isLocal label = true) :
    (w.step label).log = w.log ∧
      ∀ n, (w.step label).phase n = w.phase n ∨ ∀ tx, (w.phase n).calls tx = false := by
  -- the worker that moves was at no transaction
  have h_move : ∀ (n : ℕ) (phase : Phase), (∀ tx, (w.phase n).calls tx = false) →
      ∀ m, (w.move n phase).phase m = w.phase m ∨ ∀ tx, (w.phase m).calls tx = false := by
    intro n phase h_calls m
    by_cases h_eq : m = n
    · rw [h_eq]
      exact .inr h_calls
    · exact .inl (Function.update_of_ne h_eq ..)
  have h_same : ∀ n, w.phase n = w.phase n ∨ ∀ tx, (w.phase n).calls tx = false :=
    fun n => .inl rfl
  cases label with
  | plan => exact ⟨rfl, h_same⟩
  | route n environ =>
    unfold World.step
    dsimp only
    split
    · rename_i job h_phase
      exact ⟨rfl, h_move n _ fun tx => by rw [h_phase]; rfl⟩
    · exact ⟨rfl, h_same⟩
  | get n handling =>
    unfold World.step
    dsimp only
    split
    · rename_i job route permit h_phase
      exact ⟨rfl, h_move n _ fun tx => by rw [h_phase]; rfl⟩
    · exact ⟨rfl, h_same⟩
  | acquire n now =>
    unfold World.isLocal at h
    dsimp only at h
    split at h
    · rename_i job request h_phase
      unfold World.step
      simp only [h_phase]
      exact ⟨rfl, h_move n _ fun tx => by rw [h_phase]; cases tx <;> rfl⟩
    · cases h
  | post n =>
    unfold World.step
    dsimp only
    split
    · rename_i job route permit mutation h_phase
      exact ⟨rfl, h_move n _ fun tx => by rw [h_phase]; rfl⟩
    · exact ⟨rfl, h_same⟩
  | deliver ticket handling =>
    unfold World.step
    dsimp only
    split
    · split <;> exact ⟨rfl, h_same⟩
    · exact ⟨rfl, h_same⟩
  | receive n =>
    unfold World.step
    dsimp only
    split
    · rename_i job route permit mutation ticket h_phase
      split
      · exact ⟨rfl, h_move n _ fun tx => by rw [h_phase]; rfl⟩
      · exact ⟨rfl, h_same⟩
    · exact ⟨rfl, h_same⟩
  | timeout n =>
    unfold World.step
    dsimp only
    split
    · rename_i job route permit request h_phase
      exact ⟨rfl, h_move n _ fun tx => by rw [h_phase]; rfl⟩
    · rename_i job route permit mutation ticket h_phase
      exact ⟨rfl, h_move n _ fun tx => by rw [h_phase]; rfl⟩
    · exact ⟨rfl, h_same⟩
  | _ => cases h

namespace Server

/-! ### Inversion -/

/-- What a statement of a client does to the server. -/
inductive Stated (s : Server) (client : Client) : Server → Prop
  | goesOn (h_end : s.engine.ending client = none) :
      Stated s client { s with engine := s.engine.statement client }
  | rolledBack (ending : Ending) (pending : Db → Db)
      (h_running : s.engine.running client = some ⟨.rollback ending, pending⟩) :
      Stated s client
        ({ s with engine := s.engine.statement client }.move client (·.conclude ending.answer))
  | committed (ending : Ending) (pending : Db → Db)
      (h_running : s.engine.running client = some ⟨.commit ending, pending⟩) :
      Stated s client
        { { s with engine := s.engine.statement client }.move client
            (·.conclude ending.answer) with
          history := s.history ++ [⟨ending, client⟩] }

/-- One statement of a client, by what the engine does. -/
theorem stated (s : Server) (client : Client) : Stated s client (s.step (.statement client)) := by
  unfold Server.step
  dsimp only
  split
  · rename_i h_end
    exact .goesOn h_end
  · rename_i ending h_end
    unfold Engine.ending at h_end
    split at h_end
    · cases h_end
    · rename_i answer pending h_running
      cases h_end
      exact .rolledBack ending pending h_running
    · cases h_end
  · rename_i ending h_end
    unfold Engine.ending at h_end
    split at h_end
    · rename_i answer pending h_running
      cases h_end
      exact .committed ending pending h_running
    · cases h_end
    · cases h_end

@[simp] theorem move_engine (s : Server) (client : Client) (f : Phase → Phase) :
    (s.move client f).engine = s.engine := by
  cases client <;> rfl

@[simp] theorem move_history (s : Server) (client : Client) (f : Phase → Phase) :
    (s.move client f).history = s.history := by
  cases client <;> rfl

@[simp] theorem move_db (s : Server) (client : Client) (f : Phase → Phase) :
    (s.move client f).db = s.db := congrArg Engine.state (move_engine s client f)

/-- What a client may start depends on its own phase only. -/
theorem admits_congr {s s' : Server} {client : Client}
    (h : ∀ n, client = .worker n → s'.phase n = s.phase n) (work : Work) :
    s'.admits client work = s.admits client work := by
  cases client with
  | external k => cases work <;> rfl
  | worker n =>
    cases work with
    | tx entry =>
      change (s'.phase n).calls entry.tx = (s.phase n).calls entry.tx
      rw [h n rfl]
    | _ => rfl

/-- Another worker stays where it is. -/
theorem move_phase_of_ne (s : Server) {client : Client} (f : Phase → Phase) {n : ℕ}
    (h : client ≠ .worker n) : (s.move client f).phase n = s.phase n := by
  cases client with
  | external k => rfl
  | worker m =>
    refine Function.update_of_ne ?_ ..
    rintro rfl
    exact h rfl

/-! ### The invariant -/

/-- What holds of a server in every run. -/
structure Sound (s : Server) : Prop where
  engine : s.engine.Sound .gate Db.gate Permitted (·.answer.authorizes = false)
  /-- A client has a transaction open that it may have started. -/
  calls : ∀ client running, s.engine.running client = some running → ∃ work,
    s.admits client work = true ∧ running.script.Answers fun ending => ending.work = work

/-- It holds in the beginning. -/
theorem initial_sound (db : Db) (remote : Receiver) : (initial db remote).Sound :=
  ⟨Engine.initial_sound db, fun _ _ h => (by cases h)⟩

/-- One client goes on or stops, and the others have what they had. -/
theorem Sound.update {s s' : Server} (h : s.Sound) (client : Client)
    (h_engine : s'.engine.Sound .gate Db.gate Permitted (·.answer.authorizes = false))
    (h_running : ∀ other, other ≠ client → s'.engine.running other = s.engine.running other)
    (h_phase : ∀ n, client ≠ .worker n → s'.phase n = s.phase n)
    (h_own : ∀ running, s'.engine.running client = some running → ∃ work,
      s'.admits client work = true ∧ running.script.Answers fun ending => ending.work = work) :
    s'.Sound where
  engine := h_engine
  calls other running h_other := by
    by_cases h_eq : other = client
    · subst h_eq
      exact h_own running h_other
    · rw [h_running other h_eq] at h_other
      obtain ⟨work, h_admits, h_answers⟩ := h.calls other running h_other
      refine ⟨work, (admits_congr (fun n h_n => h_phase n ?_) work).trans h_admits, h_answers⟩
      rintro rfl
      exact h_eq h_n

/-- Every statement keeps it. -/
theorem Sound.statement {s : Server} (h : s.Sound) (client : Client) :
    (s.step (.statement client)).Sound := by
  have h_engine := h.engine.statement permitted_disciplined client
  have h_others := fun other (h_ne : other ≠ client) => s.engine.statement_of_ne h_ne
  have h_stated := s.stated client
  generalize s.step (.statement client) = s' at h_stated ⊢
  cases h_stated with
  | goesOn h_end =>
    refine h.update client h_engine h_others (fun _ _ => rfl) fun running h_running => ?_
    cases h_old : s.engine.running client with
    | none =>
      change (s.engine.statement client).running client = _ at h_running
      rw [Engine.statement_idle h_old, h_old] at h_running
      cases h_running
    | some old =>
      obtain ⟨work, h_admits, h_answers⟩ := h.calls client old h_old
      refine ⟨work, h_admits, Engine.statement_answers (fun r h_r => ?_) running h_running⟩
      obtain rfl := Option.some.inj (h_old.symm.trans h_r)
      exact h_answers
  -- either way the transaction is over
  | rolledBack ending pending h_running | committed ending pending h_running =>
    refine h.update client (by simpa using h_engine) (fun other h_ne => ?_)
      (fun n h_ne => move_phase_of_ne _ _ h_ne) fun running h_some => ?_
    · simpa using h_others other h_ne
    · have h_none : (s.engine.statement client).running client = none := by
        unfold Engine.statement
        rw [h_running]
        exact Engine.close_self _ _
      simp only [move_engine] at h_some
      rw [h_none] at h_some
      cases h_some

/-- So does every action. -/
theorem Sound.step {s : Server} (h : s.Sound) (action : Action) : (s.step action).Sound := by
  cases action with
  | statement client => exact h.statement client
  | start client work =>
    unfold Server.step
    dsimp only
    split
    · rename_i h_admits
      -- every work is disciplined, so its script begins with the guard it needs
      have h_script : (work.script.map (⟨work, ·⟩)).Ensures .gate Db.gate Permitted
          (·.answer.authorizes = false) none id := Script.Ensures.map work.disciplined
      refine h.update client (h.engine.start h_script) (fun other h_ne => ?_) (fun _ _ => rfl)
        fun running h_running => ?_
      · exact Engine.start_of_ne s.engine _ h_ne
      · change (s.engine.start client _).running client = _ at h_running
        cases h_old : s.engine.running client with
        | none =>
          rw [Engine.start_idle h_old] at h_running
          obtain rfl := Option.some.inj ((Engine.goOn_self _ _ _).symm.trans h_running)
          exact ⟨work, h_admits, Script.answers_map (Ending.mk work) (fun _ => rfl) _⟩
        | some old =>
          rw [Engine.start_busy h_old] at h_running
          exact h.calls client running h_running
    · exact h
  | abort client =>
    refine h.update client ?_ (fun other h_ne => ?_) (fun n h_ne => move_phase_of_ne _ _ h_ne)
      fun running h_running => ?_
    · change Engine.Sound _ _ _ _ (Server.move _ client _).engine
      rw [move_engine]
      exact h.engine.abort client
    · change (Server.move _ client _).engine.running other = _
      rw [move_engine]
      exact Engine.close_of_ne _ h_ne
    · change (Server.move _ client _).engine.running client = _ at h_running
      rw [move_engine] at h_running
      cases (Engine.close_self s.engine client).symm.trans h_running
  | world label =>
    unfold Server.step
    dsimp only
    split
    · rename_i h_local
      obtain ⟨-, h_phase⟩ := World.local_step h_local
      refine ⟨h.engine, fun client running h_running => ?_⟩
      obtain ⟨work, h_admits, h_answers⟩ := h.calls client running h_running
      refine ⟨work, ?_, h_answers⟩
      cases client with
      | external k => exact (admits_congr (fun n h_n => by cases h_n) work).trans h_admits
      | worker n =>
        cases work with
        | tx entry =>
          -- a worker with a transaction open is at a phase that has one to open
          rcases h_phase n with h_same | h_none
          · exact (congrArg (fun phase => Phase.calls phase entry.tx) h_same).trans h_admits
          · exact absurd ((h_none entry.tx).symm.trans h_admits) (by decide)
        | _ => cases h_admits
    · exact h

/-- So it holds in every run. -/
theorem sound (db : Db) (remote : Receiver) (actions : List Action) :
    ((initial db remote).run actions).Sound :=
  run_invariant (initial_sound db remote) (fun _ action h => h.step action) actions

/-! ### What a step commits -/

/-- What a step does to the database: nothing, a draw, or the writes of a transaction, which
is permitted them by what it knows of the gate. -/
inductive Commits (s s' : Server) : Prop
  | nothing (h_db : s'.db = s.db) (h_history : s'.history = s.history)
  | drew (h_db : s'.db = Sequence.advance s.db) (h_history : s'.history = s.history)
  | committed (c : Commit) (pending : Db → Db)
      (h_permitted : Permitted (s.engine.guard .gate Db.gate c.client) pending c.toEnding)
      (h_db : s'.db = pending s.db) (h_history : s'.history = s.history ++ [c])

/-- What an action commits is what its transaction has written. -/
theorem Sound.commits {s : Server} (h : s.Sound) (action : Action) : s.Commits (s.step action) := by
  cases action with
  | start client work =>
    unfold Server.step
    dsimp only
    split
    · exact .nothing (Engine.start_state s.engine client _) rfl
    · exact .nothing rfl rfl
  | abort client =>
    exact .nothing (by unfold Server.step; rw [move_db]; rfl) (move_history _ _ _)
  | world label =>
    unfold Server.step
    dsimp only
    split <;> exact .nothing rfl rfl
  | statement client =>
    have h_stated := s.stated client
    generalize s.step (.statement client) = s' at h_stated ⊢
    cases h_stated with
    -- only a drawn value shows before the commit
    | goesOn h_end =>
      rcases Engine.statement_state h_end with h_same | h_draw
      · exact .nothing h_same rfl
      · exact .drew h_draw rfl
    | rolledBack ending pending h_running =>
      refine .nothing ?_ (move_history _ _ _)
      rw [move_db]
      change (s.engine.statement client).state = _
      rw [Engine.statement_rollback h_running]
      rfl
    | committed ending pending h_running =>
      refine .committed ⟨ending, client⟩ pending (h.engine.post h_running) ?_ rfl
      refine (move_db _ _ _).trans ?_
      change (s.engine.statement client).state = _
      rw [Engine.statement_commit h_running]
      rfl

end Server
end ControlPlane
