import ControlPlane.Framework.Script

/-!
# A database that runs many scripts at once

An `Engine` is the committed state, the lock table and the transaction every client has
open. `statement` runs the next statement of one client: it waits when its lock is not
granted, and a commit applies the writes and releases the locks. `abort` ends a
transaction at any point, as a crash, a deadlock or a timeout does.

One component of the state is guarded by a lock: it may change only in the commit of a
transaction that holds the lock exclusively. `Disciplined` says this of a postcondition,
and then:

* `Sound.statement` — what each open transaction knows of the component stays true, so that
  each keeps `Script.Ensures` for the value the component has now;
* `Sound.post` — every commit meets the postcondition for the value the component has at
  the commit, whatever the other transactions did since the transaction read it;
* `completes` — a script whose locks nobody else stands in the way of runs to its end,
  with the effect it has alone.
-/

namespace Framework

/-- An open transaction: the statements that are left, and its writes so far. -/
structure Running (σ ρ β : Type) where
  script : Script σ ρ β
  pending : σ → σ

/-- The state that is committed, the locks, and the transactions that run. -/
structure Engine (σ ρ ω β : Type) where
  state : σ
  locks : LockTable ω ρ
  running : ω → Option (Running σ ρ β)

namespace Engine

variable {σ ρ ω β γ : Type} [DecidableEq ω]

/-- Nothing runs. -/
def initial (s : σ) : Engine σ ρ ω β := ⟨s, .empty, fun _ => none⟩

/-- The client goes on to the given point of its transaction. -/
def goOn (e : Engine σ ρ ω β) (o : ω) (running : Running σ ρ β) : Engine σ ρ ω β :=
  { e with running := Function.update e.running o (some running) }

/-- The transaction of the client is over. -/
def close (e : Engine σ ρ ω β) (o : ω) : Engine σ ρ ω β :=
  { e with locks := e.locks.release o, running := Function.update e.running o none }

/-- A client that is idle starts a transaction. -/
def start (e : Engine σ ρ ω β) (o : ω) (script : Script σ ρ β) : Engine σ ρ ω β :=
  match e.running o with
  | none => e.goOn o ⟨script, id⟩
  | some _ => e

/-- A client loses its connection, and its transaction with it. -/
def abort (e : Engine σ ρ ω β) (o : ω) : Engine σ ρ ω β := e.close o

/-- The client is at that point. -/
theorem goOn_self (e : Engine σ ρ ω β) (o : ω) (running : Running σ ρ β) :
    (e.goOn o running).running o = some running := Function.update_self ..

/-- The others stay where they are. -/
theorem goOn_of_ne (e : Engine σ ρ ω β) {o o' : ω} (running : Running σ ρ β) (h : o' ≠ o) :
    (e.goOn o running).running o' = e.running o' := Function.update_of_ne h ..

/-- An idle client starts at the beginning of its script. -/
theorem start_idle {e : Engine σ ρ ω β} {o : ω} (h : e.running o = none) (script : Script σ ρ β) :
    e.start o script = e.goOn o ⟨script, id⟩ := by
  unfold start
  rw [h]

/-- A client that runs a transaction starts no other. -/
theorem start_busy {e : Engine σ ρ ω β} {o : ω} {running : Running σ ρ β}
    (h : e.running o = some running) (script : Script σ ρ β) : e.start o script = e := by
  unfold start
  rw [h]

@[simp] theorem start_state (e : Engine σ ρ ω β) (o : ω) (script : Script σ ρ β) :
    (e.start o script).state = e.state := by
  unfold start
  split <;> rfl

/-- The others go on. -/
theorem start_of_ne (e : Engine σ ρ ω β) {o o' : ω} (script : Script σ ρ β) (h : o' ≠ o) :
    (e.start o script).running o' = e.running o' := by
  unfold start
  split
  · exact goOn_of_ne e _ h
  · rfl

/-- The client is idle. -/
theorem close_self (e : Engine σ ρ ω β) (o : ω) : (e.close o).running o = none :=
  Function.update_self ..

/-- The others go on. -/
theorem close_of_ne (e : Engine σ ρ ω β) {o o' : ω} (h : o' ≠ o) :
    (e.close o).running o' = e.running o' := Function.update_of_ne h ..

variable [Sequence σ] [DecidableEq ρ]

/-- The next statement of the client. -/
def statement (e : Engine σ ρ ω β) (o : ω) : Engine σ ρ ω β :=
  match e.running o with
  | none => e
  | some ⟨.commit _, pending⟩ => { e.close o with state := pending e.state }
  | some ⟨.rollback _, _⟩ => e.close o
  | some ⟨.select lock next, pending⟩ =>
    match lock (pending e.state) with
    | none => e.goOn o ⟨next (pending e.state), pending⟩
    | some (resource, mode) =>
      if h : e.locks.Grants ⟨o, resource, mode⟩ then
        { e with locks := e.locks.grant _ h }.goOn o ⟨next (pending e.state), pending⟩
      else e
  | some ⟨.draw next, pending⟩ =>
    { e with state := Sequence.advance e.state }.goOn o ⟨next e.state, pending⟩
  | some ⟨.write effect next, pending⟩ => e.goOn o ⟨next, effect ∘ pending⟩

/-- An idle client has no statement. -/
theorem statement_idle {e : Engine σ ρ ω β} {o : ω} (h : e.running o = none) :
    e.statement o = e := by
  unfold Engine.statement
  rw [h]

/-- A commit writes all at once, and releases the locks. -/
theorem statement_commit {e : Engine σ ρ ω β} {o : ω} {answer : β} {pending : σ → σ}
    (h : e.running o = some ⟨.commit answer, pending⟩) :
    e.statement o = { e.close o with state := pending e.state } := by
  unfold Engine.statement
  rw [h]

/-- A rollback releases the locks. -/
theorem statement_rollback {e : Engine σ ρ ω β} {o : ω} {answer : β} {pending : σ → σ}
    (h : e.running o = some ⟨.rollback answer, pending⟩) : e.statement o = e.close o := by
  unfold Engine.statement
  rw [h]

/-- How the next statement of the client ends its transaction, if it does: whether it
commits, and the answer. -/
def ending (e : Engine σ ρ ω β) (o : ω) : Option (Bool × β) :=
  match e.running o with
  | some ⟨.commit answer, _⟩ => some (true, answer)
  | some ⟨.rollback answer, _⟩ => some (false, answer)
  | _ => none

/-- A statement that ends the transaction closes it. -/
theorem statement_over {e : Engine σ ρ ω β} {o : ω} {ending : Bool × β}
    (h : e.ending o = some ending) : (e.statement o).running o = none := by
  unfold Engine.ending at h
  split at h
  · rename_i h_running
    rw [statement_commit h_running]
    exact close_self e o
  · rename_i h_running
    rw [statement_rollback h_running]
    exact close_self e o
  · cases h

/-! ### Inversion -/

/-- What one statement may be. -/
inductive Stated (e : Engine σ ρ ω β) (o : ω) : Engine σ ρ ω β → Prop
  | stutter (h_end : e.ending o = none) : Stated e o e
  | committed (answer : β) (pending : σ → σ)
      (h_running : e.running o = some ⟨.commit answer, pending⟩) :
      Stated e o { e.close o with state := pending e.state }
  | rolledBack (answer : β) (pending : σ → σ)
      (h_running : e.running o = some ⟨.rollback answer, pending⟩) : Stated e o (e.close o)
  | read (lock : σ → Option (ρ × LockMode)) (next : σ → Script σ ρ β) (pending : σ → σ)
      (h_running : e.running o = some ⟨.select lock next, pending⟩)
      (h_lock : lock (pending e.state) = none) :
      Stated e o (e.goOn o ⟨next (pending e.state), pending⟩)
  | granted (lock : σ → Option (ρ × LockMode)) (next : σ → Script σ ρ β) (pending : σ → σ)
      (resource : ρ) (mode : LockMode) (h_grants : e.locks.Grants ⟨o, resource, mode⟩)
      (h_running : e.running o = some ⟨.select lock next, pending⟩)
      (h_lock : lock (pending e.state) = some (resource, mode)) :
      Stated e o ({ e with locks := e.locks.grant _ h_grants }.goOn o
        ⟨next (pending e.state), pending⟩)
  | drew (next : σ → Script σ ρ β) (pending : σ → σ)
      (h_running : e.running o = some ⟨.draw next, pending⟩) :
      Stated e o ({ e with state := Sequence.advance e.state }.goOn o ⟨next e.state, pending⟩)
  | wrote (effect : σ → σ) (next : Script σ ρ β) (pending : σ → σ)
      (h_running : e.running o = some ⟨.write effect next, pending⟩) :
      Stated e o (e.goOn o ⟨next, effect ∘ pending⟩)

/-- One statement, by what the script has next. -/
theorem stated (e : Engine σ ρ ω β) (o : ω) : Stated e o (e.statement o) := by
  unfold statement
  split
  · rename_i h_running
    exact .stutter (by unfold ending; rw [h_running])
  · rename_i answer pending h_running
    exact .committed answer pending h_running
  · rename_i answer pending h_running
    exact .rolledBack answer pending h_running
  · rename_i lock next pending h_running
    split
    · rename_i h_lock
      exact .read lock next pending h_running h_lock
    · rename_i resource mode h_lock
      split
      · rename_i h_grants
        exact .granted lock next pending resource mode h_grants h_running h_lock
      · exact .stutter (by unfold ending; rw [h_running])
  · rename_i next pending h_running
    exact .drew next pending h_running
  · rename_i effect next pending h_running
    exact .wrote effect next pending h_running

/-- A statement of one client leaves the transactions of the others alone. -/
theorem statement_of_ne (e : Engine σ ρ ω β) {o o' : ω} (h : o' ≠ o) :
    (e.statement o).running o' = e.running o' := by
  have h_stated := e.stated o
  generalize e.statement o = e' at h_stated ⊢
  cases h_stated with
  | stutter => rfl
  | committed | rolledBack => exact close_of_ne e h
  | read | granted | drew | wrote => exact goOn_of_ne _ _ h

/-- Before its end a transaction changes nothing but the sequence. -/
theorem statement_state {e : Engine σ ρ ω β} {o : ω} (h_end : e.ending o = none) :
    (e.statement o).state = e.state ∨ (e.statement o).state = Sequence.advance e.state := by
  have h_stated := e.stated o
  generalize e.statement o = e' at h_stated ⊢
  unfold ending at h_end
  cases h_stated with
  | stutter | read | granted | wrote => exact .inl rfl
  | drew => exact .inr rfl
  | committed answer pending h_running | rolledBack answer pending h_running =>
    rw [h_running] at h_end
    cases h_end

/-- What a transaction may answer is known from its start on. -/
theorem statement_answers {Answer : β → Prop} {e : Engine σ ρ ω β} {o : ω}
    (h : ∀ running, e.running o = some running → running.script.Answers Answer) :
    ∀ running, (e.statement o).running o = some running → running.script.Answers Answer := by
  intro running h_running
  have h_stated := e.stated o
  generalize e.statement o = e' at h_stated h_running
  cases h_stated with
  | stutter => exact h running h_running
  | committed | rolledBack => cases (close_self e o).symm.trans h_running
  | read lock next pending h_old | granted lock next pending _ _ _ h_old
  | drew next pending h_old =>
    obtain rfl := Option.some.inj ((goOn_self _ _ _).symm.trans h_running)
    exact h _ h_old _
  | wrote effect next pending h_old =>
    obtain rfl := Option.some.inj ((goOn_self _ _ _).symm.trans h_running)
    have h_next := h _ h_old
    exact h_next

/-! ### The guarded component -/

section Guarded

variable (gate : ρ) (component : σ → γ)

/-- What a client that holds these locks knows of the component, whose value is `v`. -/
def knows (locks : LockTable ω ρ) (o : ω) (v : γ) : Guard γ :=
  if ⟨o, gate, .exclusive⟩ ∈ locks.holds then some (.exclusive, v)
  else if ⟨o, gate, .shared⟩ ∈ locks.holds then some (.shared, v)
  else none

/-- What the client knows now. -/
def guard (e : Engine σ ρ ω β) (o : ω) : Guard γ := knows gate e.locks o (component e.state)

/-- The postcondition lets only a transaction with the exclusive lock change the component. -/
structure Disciplined (Post : Guard γ → (σ → σ) → β → Prop) : Prop where
  unlocked : ∀ pending answer, Post none pending answer →
    ∀ s, component (pending s) = component s
  shared : ∀ v pending answer, Post (some (.shared, v)) pending answer →
    ∀ s, component (pending s) = component s

/-- Every open transaction meets the postcondition, whatever happens before it ends. -/
structure Sound (Post : Guard γ → (σ → σ) → β → Prop) (Undo : β → Prop)
    (e : Engine σ ρ ω β) : Prop where
  owners : ∀ hold ∈ e.locks.holds, (e.running hold.owner).isSome
  scripts : ∀ o running, e.running o = some running →
    running.script.Ensures gate component Post Undo (e.guard gate component o) running.pending

variable {gate component}

/-- Whatever is known of the gate allows its value. -/
theorem knows_allows (locks : LockTable ω ρ) (o : ω) (v : γ) :
    Guard.Allows (knows gate locks o v) v := by
  intro mode u h
  unfold knows at h
  split at h
  · cases h
    rfl
  · split at h
    · cases h
      rfl
    · cases h

/-- What a client knows depends on its own locks only. -/
theorem knows_congr {locks locks' : LockTable ω ρ} {o : ω} (v : γ)
    (h : ∀ mode, (⟨o, gate, mode⟩ : Hold ω ρ) ∈ locks'.holds ↔ ⟨o, gate, mode⟩ ∈ locks.holds) :
    knows gate locks' o v = knows gate locks o v := by
  unfold knows
  rw [if_congr (h .exclusive) rfl rfl]
  refine if_congr Iff.rfl rfl ?_
  exact if_congr (h .shared) rfl rfl

/-- The others know as much as before. -/
theorem knows_release {locks : LockTable ω ρ} {o o' : ω} (h : o' ≠ o) (v : γ) :
    knows gate (locks.release o) o' v = knows gate locks o' v :=
  knows_congr v fun _ => LockTable.mem_release.trans (and_iff_left h)

/-- A lock tells its owner only. -/
theorem knows_grant_of_ne {locks : LockTable ω ρ} {hold : Hold ω ρ}
    (h_grants : locks.Grants hold) {o : ω} (h : o ≠ hold.owner) (v : γ) :
    knows gate (locks.grant hold h_grants) o v = knows gate locks o v := by
  refine knows_congr v fun _ => (LockTable.mem_grant h_grants).trans (or_iff_right ?_)
  rintro rfl
  exact h rfl

/-- A granted lock is known as the rule for a statement has it. -/
theorem knows_grant {locks : LockTable ω ρ} {o : ω} {resource : ρ} {mode : LockMode}
    (h_grants : locks.Grants ⟨o, resource, mode⟩) (v : γ) :
    knows gate (locks.grant _ h_grants) o v =
      Guard.after gate (knows gate locks o v) (some (resource, mode)) v := by
  unfold Guard.after
  dsimp only
  by_cases h : resource = gate
  · subst h
    unfold knows Guard.take
    simp only [LockTable.mem_grant, Hold.mk.injEq, true_and]
    by_cases h_exclusive : (⟨o, resource, .exclusive⟩ : Hold ω ρ) ∈ locks.holds <;>
      by_cases h_shared : (⟨o, resource, .shared⟩ : Hold ω ρ) ∈ locks.holds <;>
      cases mode <;> simp [h_exclusive, h_shared]
  · rw [if_neg h]
    refine knows_congr v fun _ => (LockTable.mem_grant h_grants).trans (or_iff_right ?_)
    intro h_eq
    cases h_eq
    exact h rfl

/-- While somebody holds the lock exclusively, nobody else knows anything. -/
theorem knows_none_of_exclusive {locks : LockTable ω ρ} {o o' : ω}
    (h : (⟨o, gate, .exclusive⟩ : Hold ω ρ) ∈ locks.holds) (h_other : o' ≠ o) (v : γ) :
    knows gate locks o' v = none := by
  unfold knows
  rw [if_neg fun h' => h_other (LockTable.owner_eq_of_exclusive h h'),
    if_neg fun h' => h_other (LockTable.owner_eq_of_exclusive h h')]

/-- Who knows the gate exclusively holds its lock. -/
theorem exclusive_of_knows {locks : LockTable ω ρ} {o : ω} {u v : γ}
    (h : knows gate locks o v = some (.exclusive, u)) :
    (⟨o, gate, .exclusive⟩ : Hold ω ρ) ∈ locks.holds := by
  unfold knows at h
  split at h
  · assumption
  · split at h <;> cases h

/-! ### The invariant -/

variable {Post : Guard γ → (σ → σ) → β → Prop} {Undo : β → Prop}

/-- One client moves on, and the others know what they knew. -/
theorem Sound.update {e e' : Engine σ ρ ω β} (h : e.Sound gate component Post Undo) (o : ω)
    (h_running : ∀ o', o' ≠ o → e'.running o' = e.running o')
    (h_owners : ∀ hold ∈ e'.locks.holds, hold.owner ≠ o → hold ∈ e.locks.holds)
    (h_own : ∀ hold ∈ e'.locks.holds, hold.owner = o → (e'.running o).isSome)
    (h_guard : ∀ o', o' ≠ o → e'.guard gate component o' = e.guard gate component o')
    (h_script : ∀ running, e'.running o = some running →
      running.script.Ensures gate component Post Undo (e'.guard gate component o) running.pending) :
    e'.Sound gate component Post Undo where
  owners hold h_hold := by
    by_cases h_eq : hold.owner = o
    · rw [h_eq]
      exact h_own hold h_hold h_eq
    · rw [h_running _ h_eq]
      exact h.owners hold (h_owners hold h_hold h_eq)
  scripts o' running h_some := by
    by_cases h_eq : o' = o
    · subst h_eq
      exact h_script running h_some
    · rw [h_running o' h_eq] at h_some
      rw [h_guard o' h_eq]
      exact h.scripts o' running h_some

/-- A client with no open transaction holds nothing. -/
theorem Sound.guard_idle {e : Engine σ ρ ω β} (h : e.Sound gate component Post Undo) {o : ω}
    (h_idle : e.running o = none) : e.guard gate component o = none := by
  have h_free : ∀ mode, (⟨o, gate, mode⟩ : Hold ω ρ) ∉ e.locks.holds := by
    intro mode h_hold
    have h_some := h.owners _ h_hold
    rw [h_idle] at h_some
    cases h_some
  unfold guard knows
  rw [if_neg (h_free _), if_neg (h_free _)]

/-- In the beginning nothing runs. -/
theorem initial_sound (s : σ) :
    (initial s : Engine σ ρ ω β).Sound gate component Post Undo :=
  ⟨fun _ h => (by cases h), fun _ _ h => (by cases h)⟩

/-- The owner of a lock is still there when a client goes on. -/
theorem Sound.goOn {e e₁ : Engine σ ρ ω β} (h : e.Sound gate component Post Undo) {o : ω}
    {running : Running σ ρ β} (h_running : e₁.running = e.running)
    (h_owners : ∀ hold ∈ e₁.locks.holds, hold.owner ≠ o → hold ∈ e.locks.holds)
    (h_guard : ∀ o', o' ≠ o → e₁.guard gate component o' = e.guard gate component o')
    (h_script : running.script.Ensures gate component Post Undo (e₁.guard gate component o)
      running.pending) : (e₁.goOn o running).Sound gate component Post Undo := by
  refine h.update o (fun o' h_ne => ?_) h_owners (fun _ _ _ => ?_) h_guard fun r h_r => ?_
  · rw [goOn_of_ne e₁ running h_ne, h_running]
  · rw [goOn_self]
    rfl
  · rw [goOn_self] at h_r
    obtain rfl := Option.some.inj h_r
    exact h_script

/-- A disciplined script starts. -/
theorem Sound.start {e : Engine σ ρ ω β} (h : e.Sound gate component Post Undo) {o : ω}
    {script : Script σ ρ β} (h_script : script.Ensures gate component Post Undo none id) :
    (e.start o script).Sound gate component Post Undo := by
  unfold Engine.start
  split
  · rename_i h_idle
    refine h.goOn rfl (fun _ h_hold _ => h_hold) (fun _ _ => rfl) ?_
    rw [h.guard_idle h_idle]
    exact h_script
  · exact h

/-- The end of a transaction, which may change the state as the others allow. -/
theorem Sound.close {e : Engine σ ρ ω β} (h : e.Sound gate component Post Undo) (o : ω) {s : σ}
    (h_state : ∀ o', o' ≠ o →
      knows gate e.locks o' (component s) = knows gate e.locks o' (component e.state)) :
    ({ e.close o with state := s } : Engine σ ρ ω β).Sound gate component Post Undo := by
  refine h.update o (fun o' h_ne => close_of_ne e h_ne) (fun hold h_hold _ => ?_)
    (fun hold h_hold h_eq => ?_) (fun o' h_ne => ?_) fun r h_r => ?_
  · exact (LockTable.mem_release.mp h_hold).1
  · exact absurd h_eq (LockTable.mem_release.mp h_hold).2
  · exact (knows_release h_ne _).trans (h_state o' h_ne)
  · cases (close_self e o).symm.trans h_r

/-- A transaction that is lost writes nothing. -/
theorem Sound.abort {e : Engine σ ρ ω β} (h : e.Sound gate component Post Undo) (o : ω) :
    (e.abort o).Sound gate component Post Undo := h.close o fun _ _ => rfl

/-- **Every commit meets the postcondition** for what the component is when it commits. -/
theorem Sound.post {e : Engine σ ρ ω β} (h : e.Sound gate component Post Undo) {o : ω} {answer : β}
    {pending : σ → σ} (h_running : e.running o = some ⟨.commit answer, pending⟩) :
    Post (e.guard gate component o) pending answer := h.scripts o _ h_running

/-- Either the client that commits has the exclusive lock, or the component stays. -/
theorem Sound.commit_component {e : Engine σ ρ ω β} (h : e.Sound gate component Post Undo)
    (h_post : Disciplined component Post) {o : ω} {answer : β} {pending : σ → σ}
    (h_running : e.running o = some ⟨.commit answer, pending⟩) :
    (⟨o, gate, .exclusive⟩ : Hold ω ρ) ∈ e.locks.holds ∨
      component (pending e.state) = component e.state := by
  have h_end := h.post h_running
  cases h_guard : e.guard gate component o with
  | none =>
    rw [h_guard] at h_end
    exact .inr (h_post.unlocked pending answer h_end e.state)
  | some known =>
    obtain ⟨mode, v⟩ := known
    rw [h_guard] at h_end
    cases mode with
    | shared => exact .inr (h_post.shared v pending answer h_end e.state)
    | exclusive => exact .inl (exclusive_of_knows h_guard)

/-- **One statement keeps what every open transaction counts on.** -/
theorem Sound.statement {e : Engine σ ρ ω β} (h : e.Sound gate component Post Undo)
    (h_post : Disciplined component Post) (o : ω) :
    (e.statement o).Sound gate component Post Undo := by
  have h_stated := e.stated o
  generalize e.statement o = e' at h_stated ⊢
  -- what a client has read of the guarded component is still there
  have h_knows : Guard.Allows (knows gate e.locks o (component e.state)) (component e.state) :=
    knows_allows e.locks o (component e.state)
  cases h_stated with
  | stutter => exact h
  | rolledBack answer pending h_running => exact h.close o fun _ _ => rfl
  | committed answer pending h_running =>
    refine h.close o fun o' h_ne => ?_
    rcases h.commit_component h_post h_running with h_exclusive | h_same
    · rw [knows_none_of_exclusive h_exclusive h_ne, knows_none_of_exclusive h_exclusive h_ne]
    · rw [h_same]
  | read lock next pending h_running h_lock =>
    refine h.goOn rfl (fun _ h_hold _ => h_hold) (fun _ _ => rfl) ?_
    have h_next := h.scripts o _ h_running e.state h_knows
    rw [h_lock] at h_next
    exact h_next
  | granted lock next pending resource mode h_grants h_running h_lock =>
    refine h.goOn rfl (fun hold h_hold h_ne => ?_)
      (fun o' h_ne => knows_grant_of_ne h_grants h_ne _) ?_
    · rcases (LockTable.mem_grant h_grants).mp h_hold with rfl | h_hold
      · exact absurd rfl h_ne
      · exact h_hold
    · have h_next := h.scripts o _ h_running e.state h_knows
      rw [h_lock] at h_next
      change Script.Ensures gate component Post Undo _ (knows gate _ o _) pending
      rw [knows_grant]
      exact h_next
  | drew next pending h_running =>
    obtain ⟨h_same, h_next⟩ := h.scripts o _ h_running e.state h_knows
    have h_guard : ∀ o', knows gate e.locks o' (component (Sequence.advance e.state)) =
        e.guard gate component o' := fun o' => by rw [h_same]; rfl
    refine h.goOn rfl (fun _ h_hold _ => h_hold) (fun o' _ => h_guard o') ?_
    change Script.Ensures gate component Post Undo _ (knows gate e.locks o _) pending
    rw [h_guard]
    exact h_next
  | wrote effect next pending h_running =>
    have h_next := h.scripts o _ h_running
    exact h.goOn rfl (fun _ h_hold _ => h_hold) (fun _ _ => rfl) h_next

end Guarded

/-! ### Progress -/

/-- The client goes on to `e'` by statements none of which ends its transaction. -/
inductive Reaches (o : ω) : Engine σ ρ ω β → Engine σ ρ ω β → Prop
  | here (e : Engine σ ρ ω β) : Reaches o e e
  | next {e e' : Engine σ ρ ω β} (h_end : e.ending o = none)
      (h : Reaches o (e.statement o) e') : Reaches o e e'

/-- Nobody else holds a lock that stands in the way of those the client may ask for. -/
def Clear (Ask : ρ → LockMode → Prop) (e : Engine σ ρ ω β) (o : ω) : Prop :=
  ∀ hold ∈ e.locks.holds, hold.owner ≠ o →
    ∀ resource mode, Ask resource mode → (⟨o, resource, mode⟩ : Hold ω ρ).Compatible hold

omit [Sequence σ] [DecidableEq ρ] in
/-- A lock that may be asked for is granted. -/
theorem Clear.grants {Ask : ρ → LockMode → Prop} {e : Engine σ ρ ω β} {o : ω}
    (h : e.Clear Ask o) {resource : ρ} {mode : LockMode} (h_ask : Ask resource mode) :
    e.locks.Grants ⟨o, resource, mode⟩ := by
  intro hold h_hold
  by_cases h_owner : hold.owner = o
  · exact fun _ => .inl h_owner.symm
  · exact h hold h_hold h_owner resource mode h_ask

/-- **A script in nobody's way runs to its end**, as it does alone. -/
theorem completes {Ask : ρ → LockMode → Prop} {o : ω} {script : Script σ ρ β}
    {e : Engine σ ρ ω β} {pending : σ → σ} (h_running : e.running o = some ⟨script, pending⟩)
    (h_requests : script.Requests Ask) (h_clear : e.Clear Ask o) :
    ∃ last, Reaches o e last ∧ last.ending o = some (script.alone e.state pending).1 ∧
      (last.statement o).state = (script.alone e.state pending).2 ∧
      (last.statement o).running o = none := by
  induction script generalizing e pending with
  | commit answer | rollback answer =>
    refine ⟨e, .here e, ?_⟩
    unfold ending Engine.statement
    rw [h_running]
    exact ⟨rfl, rfl, Function.update_self ..⟩
  | select lock next ih =>
    have h_end : e.ending o = none := by
      unfold ending
      rw [h_running]
    obtain ⟨h_ask, h_next⟩ := h_requests (pending e.state)
    cases h_lock : lock (pending e.state) with
    | none =>
      have h_step : e.statement o = e.goOn o ⟨next (pending e.state), pending⟩ := by
        unfold Engine.statement
        simp only [h_running, h_lock]
      obtain ⟨last, h_reaches, h_last⟩ :=
        ih (pending e.state) (goOn_self e o _) h_next h_clear
      exact ⟨last, .next h_end (h_step ▸ h_reaches), h_last⟩
    | some asked =>
      obtain ⟨resource, mode⟩ := asked
      -- nobody is in the way of a lock that the script may ask for
      have h_grants := h_clear.grants (h_ask resource mode h_lock)
      have h_step : e.statement o = { e with locks := e.locks.grant _ h_grants }.goOn o
          ⟨next (pending e.state), pending⟩ := by
        unfold Engine.statement
        simp only [h_running, h_lock, dif_pos h_grants]
      obtain ⟨last, h_reaches, h_last⟩ := ih (pending e.state)
        (goOn_self { e with locks := e.locks.grant _ h_grants } o _) h_next
        fun hold h_hold h_ne => by
          rcases (LockTable.mem_grant h_grants).mp h_hold with rfl | h_hold
          · exact absurd rfl h_ne
          · exact h_clear hold h_hold h_ne
      exact ⟨last, .next h_end (h_step ▸ h_reaches), h_last⟩
  | draw next ih =>
    have h_end : e.ending o = none := by
      unfold ending
      rw [h_running]
    have h_step : e.statement o =
        { e with state := Sequence.advance e.state }.goOn o ⟨next e.state, pending⟩ := by
      unfold Engine.statement
      simp only [h_running]
    obtain ⟨last, h_reaches, h_last⟩ := ih e.state
      (goOn_self { e with state := Sequence.advance e.state } o _) (h_requests e.state) h_clear
    exact ⟨last, .next h_end (h_step ▸ h_reaches), h_last⟩
  | write effect next ih =>
    have h_end : e.ending o = none := by
      unfold ending
      rw [h_running]
    have h_step : e.statement o = e.goOn o ⟨next, effect ∘ pending⟩ := by
      unfold Engine.statement
      simp only [h_running]
    obtain ⟨last, h_reaches, h_last⟩ := ih (goOn_self e o _) h_requests h_clear
    exact ⟨last, .next h_end (h_step ▸ h_reaches), h_last⟩

end Engine
end Framework
