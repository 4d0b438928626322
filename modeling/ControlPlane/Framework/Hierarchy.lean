import ControlPlane.Framework.Engine
import Mathlib.Algebra.Order.Monoid.Unbundled.WithTop
import Mathlib.Logic.Relation

/-!
# Locks in order

A *hierarchy* gives every request for a lock, a resource with a mode, a level. A script
*climbs* when it asks only for what stands above everything somebody else can wait for
because of it (`Ordered`), or for what it holds exclusively already. When every open
transaction climbs, a client that waits is below the one it waits for, so the wait-for graph
of the engine has no cycle (`Climbing.acyclic`).

A client waits for one whose lock is in the way (`Blocked`), and it waits in the queue behind
one that has waited longer for a lock which conflicts with its own (`Waits`). A resource whose
shared requests overtake the exclusive ones that wait may have the shared ones at a higher
level: its exclusive holders are then the end of every path.
-/

namespace Framework

open Relation

/-- The level of every request. -/
structure Hierarchy (ρ : Type) where
  level : ρ → LockMode → ℕ
  /-- Whether a shared request waits in the queue behind an exclusive one. -/
  queues : ρ → Bool
  exclusive_le : ∀ resource, level resource .exclusive ≤ level resource .shared
  shared_le : ∀ resource, queues resource = true →
    level resource .shared ≤ level resource .exclusive

namespace Hierarchy

variable {ρ : Type} (order : Hierarchy ρ)

/-- The highest level of a request that the lock stands in the way of. -/
def bar : ρ × LockMode → ℕ
  | (resource, .shared) => order.level resource .exclusive
  | (resource, .exclusive) => order.level resource .shared

/-- The request stands above everything the locks held are in the way of. -/
def above (held : List (ρ × LockMode)) (resource : ρ) (mode : LockMode) : Bool :=
  held.all fun lock => order.bar lock < order.level resource mode

/-- A lock that is incompatible with one that is held does not exceed its bar. -/
theorem level_le_bar {resource : ρ} {mode mode' : LockMode}
    (h : ¬ (mode = .shared ∧ mode' = .shared)) :
    order.level resource mode ≤ order.bar (resource, mode') := by
  cases mode' with
  | exclusive =>
    cases mode with
    | shared => exact le_refl _
    | exclusive => exact order.exclusive_le resource
  | shared =>
    cases mode with
    | shared => exact absurd ⟨rfl, rfl⟩ h
    | exclusive => exact le_refl _

end Hierarchy

/-! ### Scripts -/

namespace Script

variable {σ ρ β : Type} (order : Hierarchy ρ)

/-- From the locks `held` on, the script asks for its locks in order. -/
def Climbs : Script σ ρ β → List (ρ × LockMode) → Prop
  | commit _, _ | rollback _, _ => True
  | select lock next, held => ∀ s,
    match lock s with
    | none => (next s).Climbs held
    | some (resource, mode) =>
      ((resource, .exclusive) ∈ held ∨ order.above held resource mode = true) ∧
        (next s).Climbs ((resource, mode) :: held)
  | draw next, held => ∀ s, (next s).Climbs held
  | write _ next, held => next.Climbs held

variable {order}

/-- The answers do not matter to the order. -/
theorem Climbs.map {β' : Type} {f : β → β'} {script : Script σ ρ β} {held : List (ρ × LockMode)}
    (h : script.Climbs order held) : (script.map f).Climbs order held := by
  induction script generalizing held with
  | commit | rollback => trivial
  | select lock next ih =>
    intro s
    have h_next := h s
    split at h_next
    · exact ih s h_next
    · exact ⟨h_next.1, ih s h_next.2⟩
  | draw next ih => exact fun s => ih s (h s)
  | write effect next ih => exact ih h

end Script

/-- A relation has no cycle when every step of it goes up, or on the same height to somebody
who arrived before. -/
theorem acyclic_of_rises {α β : Type} [Preorder β] {R : α → α → Prop} (rank : α → β)
    (arrived : α → ℕ) (h : ∀ a b, R a b →
      rank a < rank b ∨ (rank a = rank b ∧ arrived b < arrived a)) (a : α) :
    ¬ TransGen R a a := by
  have h_rises : ∀ {a b : α}, TransGen R a b →
      rank a < rank b ∨ (rank a = rank b ∧ arrived b < arrived a) := by
    intro a b h_path
    induction h_path with
    | single h_step => exact h _ _ h_step
    | tail h_path h_step ih =>
      rcases ih with h_lt | ⟨h_eq, h_arrived⟩
      · rcases h _ _ h_step with h_lt' | ⟨h_eq', -⟩
        · exact .inl (h_lt.trans h_lt')
        · exact .inl (h_eq' ▸ h_lt)
      · rcases h _ _ h_step with h_lt' | ⟨h_eq', h_arrived'⟩
        · exact .inl (h_eq ▸ h_lt')
        · exact .inr ⟨h_eq.trans h_eq', h_arrived'.trans h_arrived⟩
  intro h_cycle
  rcases h_rises h_cycle with h_lt | ⟨-, h_lt⟩
  · exact lt_irrefl _ h_lt
  · exact lt_irrefl _ h_lt

/-! ### The wait-for graph -/

namespace Engine

variable {σ ρ ω β : Type} [DecidableEq ω] [DecidableEq ρ]

/-- The lock that the client asks for next, unless it holds it exclusively already. -/
def asking (e : Engine σ ρ ω β) (o : ω) : Option (ρ × LockMode) :=
  match e.running o with
  | some ⟨.select lock _, pending⟩ =>
    (lock (pending e.state)).filter fun request =>
      ⟨o, request.1, .exclusive⟩ ∉ e.locks.holds
  | _ => none

/-- A client asks for what another holds. -/
inductive Blocked (e : Engine σ ρ ω β) (o o' : ω) : Prop
  | intro (resource : ρ) (mode mode' : LockMode) (h_asks : e.asking o = some (resource, mode))
      (h_held : ⟨o', resource, mode'⟩ ∈ e.locks.holds) (h_other : o' ≠ o)
      (h_conflict : ¬ (mode = .shared ∧ mode' = .shared)) : Blocked e o o'

/-- One client waits for another. `arrived` tells who asked first. -/
inductive Waits (queues : ρ → Bool) (arrived : ω → ℕ) (e : Engine σ ρ ω β) (o o' : ω) : Prop
  | blocked (h : e.Blocked o o') : Waits queues arrived e o o'
  | queued (resource : ρ) (mode mode' : LockMode) (h_asks : e.asking o = some (resource, mode))
      (h_before : e.asking o' = some (resource, mode')) (h_blocked : ∃ other, e.Blocked o' other)
      (h_arrived : arrived o' < arrived o) (h_conflict : ¬ (mode = .shared ∧ mode' = .shared))
      (h_queues : mode = .shared → queues resource = true) : Waits queues arrived e o o'

/-- Every open transaction asks for its locks in order from now on. -/
structure Climbing (order : Hierarchy ρ) (e : Engine σ ρ ω β) : Prop where
  owners : ∀ hold ∈ e.locks.holds, (e.running hold.owner).isSome
  scripts : ∀ o running, e.running o = some running →
    running.script.Climbs order (e.locks.heldBy o)

variable {order : Hierarchy ρ} {e : Engine σ ρ ω β}

/-! ### No cycles -/

/-- The level of what the client asks for; who asks for nothing is above everybody. -/
def rank (order : Hierarchy ρ) (e : Engine σ ρ ω β) (o : ω) : WithTop ℕ :=
  match e.asking o with
  | none => ⊤
  | some (resource, mode) => order.level resource mode

/-- The rank of a client that waits is the level of what it waits for. -/
theorem rank_of_asking {o : ω} {resource : ρ} {mode : LockMode}
    (h : e.asking o = some (resource, mode)) :
    e.rank order o = (order.level resource mode : WithTop ℕ) := by
  unfold rank
  rw [h]

/-- What a client asks for is above what others wait for because of it. -/
theorem Climbing.above {o : ω} (h : e.Climbing order) {resource : ρ} {mode : LockMode}
    (h_asks : e.asking o = some (resource, mode)) :
    order.above (e.locks.heldBy o) resource mode = true := by
  unfold asking at h_asks
  split at h_asks
  · rename_i lock next pending h_running
    obtain ⟨h_lock, h_free⟩ := Option.filter_eq_some_iff.mp h_asks
    have h_script := h.scripts o _ h_running (pending e.state)
    rw [h_lock] at h_script
    refine h_script.1.resolve_left fun h_held => ?_
    exact of_decide_eq_true h_free (LockTable.mem_heldBy.mp h_held)
  · cases h_asks

/-- A client that holds a lock ranks above it. -/
theorem Climbing.rank_lt {o : ω} (h : e.Climbing order) {resource : ρ} {mode : LockMode}
    (h_held : ⟨o, resource, mode⟩ ∈ e.locks.holds) :
    (order.bar (resource, mode) : WithTop ℕ) < e.rank order o := by
  unfold rank
  split
  · exact WithTop.coe_lt_top _
  · rename_i resource' mode' h_asks
    have h_all := List.all_eq_true.mp (h.above h_asks) _ (LockTable.mem_heldBy.mpr h_held)
    exact WithTop.coe_lt_coe.mpr (of_decide_eq_true h_all)

/-- **Who waits is below.** -/
theorem Climbing.rises {arrived : ω → ℕ} {o o' : ω} (h : e.Climbing order)
    (h_waits : Waits order.queues arrived e o o') : e.rank order o < e.rank order o' ∨
      (e.rank order o = e.rank order o' ∧ arrived o' < arrived o) := by
  cases h_waits with
  | blocked h_blocked =>
    obtain ⟨resource, mode, mode', h_asks, h_held, h_other, h_conflict⟩ := h_blocked
    rw [rank_of_asking h_asks]
    refine .inl (lt_of_le_of_lt ?_ (h.rank_lt h_held))
    exact WithTop.coe_le_coe.mpr (order.level_le_bar h_conflict)
  | queued resource mode mode' h_asks h_before h_blocked h_arrived h_conflict h_queues =>
    rw [rank_of_asking h_asks, rank_of_asking h_before]
    have h_le : order.level resource mode ≤ order.level resource mode' := by
      cases mode with
      | shared =>
        cases mode' with
        | shared => exact le_refl _
        | exclusive => exact order.shared_le resource (h_queues rfl)
      | exclusive =>
        cases mode' with
        | shared => exact order.exclusive_le resource
        | exclusive => exact le_refl _
    rcases h_le.lt_or_eq with h_lt | h_eq
    · exact .inl (WithTop.coe_lt_coe.mpr h_lt)
    · exact .inr ⟨congrArg _ h_eq, h_arrived⟩

/-- **The wait-for graph has no cycle.** -/
theorem Climbing.acyclic (h : e.Climbing order) (arrived : ω → ℕ) (o : ω) :
    ¬ TransGen (Waits order.queues arrived e) o o :=
  acyclic_of_rises (e.rank order) arrived (fun _ _ h_waits => h.rises h_waits) o

/-! ### The invariant -/

omit [DecidableEq ρ] in
/-- Nothing runs. -/
theorem initial_climbing (s : σ) : (initial s : Engine σ ρ ω β).Climbing order :=
  ⟨fun _ h => (by cases h), fun _ _ h => (by cases h)⟩

omit [DecidableEq ρ] in
/-- One client moves on; the others hold what they held. -/
theorem Climbing.update {e' : Engine σ ρ ω β} (h : e.Climbing order) (o : ω)
    (h_running : ∀ o', o' ≠ o → e'.running o' = e.running o')
    (h_owners : ∀ hold ∈ e'.locks.holds, hold.owner ≠ o → hold ∈ e.locks.holds)
    (h_own : ∀ hold ∈ e'.locks.holds, hold.owner = o → (e'.running o).isSome)
    (h_held : ∀ o', o' ≠ o → e'.locks.heldBy o' = e.locks.heldBy o')
    (h_script : ∀ running, e'.running o = some running →
      running.script.Climbs order (e'.locks.heldBy o)) : e'.Climbing order where
  owners hold h_hold := by
    by_cases h_eq : hold.owner = o
    · rw [h_eq]
      exact h_own hold h_hold h_eq
    · rw [h_running _ h_eq]
      exact h.owners hold (h_owners hold h_hold h_eq)
  scripts o' running h_some := by
    by_cases h_eq : o' = o
    · subst h_eq
      exact h_script running h_some
    · rw [h_running o' h_eq] at h_some
      rw [h_held o' h_eq]
      exact h.scripts o' running h_some

omit [DecidableEq ρ] in
/-- One client goes on, with what it holds now. -/
theorem Climbing.goOn {e₁ : Engine σ ρ ω β} (h : e.Climbing order) {o : ω}
    {running : Running σ ρ β} (h_running : e₁.running = e.running)
    (h_owners : ∀ hold ∈ e₁.locks.holds, hold.owner ≠ o → hold ∈ e.locks.holds)
    (h_held : ∀ o', o' ≠ o → e₁.locks.heldBy o' = e.locks.heldBy o')
    (h_script : running.script.Climbs order (e₁.locks.heldBy o)) :
    (e₁.goOn o running).Climbing order := by
  refine h.update o (fun o' h_ne => ?_) h_owners (fun _ _ _ => ?_) h_held fun r h_r => ?_
  · rw [goOn_of_ne e₁ running h_ne, h_running]
  · rw [goOn_self]
    rfl
  · rw [goOn_self] at h_r
    obtain rfl := Option.some.inj h_r
    exact h_script

omit [DecidableEq ρ] in
/-- A script that climbs starts. -/
theorem Climbing.start (h : e.Climbing order) {o : ω} {script : Script σ ρ β}
    (h_script : script.Climbs order []) : (e.start o script).Climbing order := by
  unfold Engine.start
  split
  · rename_i h_idle
    refine h.goOn rfl (fun _ h_hold _ => h_hold) (fun _ _ => rfl) ?_
    have h_none : e.locks.heldBy o = [] := LockTable.heldBy_eq_nil fun hold h_hold h_owner => by
      have h_some := h.owners hold h_hold
      rw [h_owner, h_idle] at h_some
      cases h_some
    rw [h_none]
    exact h_script
  · exact h

omit [DecidableEq ρ] in
/-- A transaction comes to its end. -/
theorem Climbing.close (h : e.Climbing order) (o : ω) (s : σ) :
    ({ e.close o with state := s } : Engine σ ρ ω β).Climbing order := by
  refine h.update o (fun o' h_ne => close_of_ne e h_ne) (fun hold h_hold _ => ?_)
    (fun hold h_hold h_eq => ?_) (fun o' h_ne => e.locks.heldBy_release_of_ne h_ne) fun r h_r => ?_
  · exact (LockTable.mem_release.mp h_hold).1
  · exact absurd h_eq (LockTable.mem_release.mp h_hold).2
  · cases (close_self e o).symm.trans h_r

omit [DecidableEq ρ] in
/-- A transaction is lost. -/
theorem Climbing.abort (h : e.Climbing order) (o : ω) : (e.abort o).Climbing order :=
  h.close o e.state

/-- Every statement keeps all scripts climbing. -/
theorem Climbing.statement [Sequence σ] (h : e.Climbing order) (o : ω) :
    (e.statement o).Climbing order := by
  have h_stated := e.stated o
  generalize e.statement o = e' at h_stated ⊢
  cases h_stated with
  | stutter => exact h
  | rolledBack answer pending h_running => exact h.close o e.state
  | committed answer pending h_running => exact h.close o (pending e.state)
  | read lock next pending h_running h_lock =>
    have h_next := h.scripts o _ h_running (pending e.state)
    rw [h_lock] at h_next
    exact h.goOn rfl (fun _ h_hold _ => h_hold) (fun _ _ => rfl) h_next
  | granted lock next pending resource mode h_grants h_running h_lock =>
    have h_next := h.scripts o _ h_running (pending e.state)
    -- a lock that is asked for is above those that are held
    rw [h_lock] at h_next
    refine h.goOn rfl (fun hold h_hold h_ne => ?_)
      (fun o' h_ne => LockTable.heldBy_grant_of_ne h_grants h_ne) ?_
    · rcases (LockTable.mem_grant h_grants).mp h_hold with rfl | h_hold
      · exact absurd rfl h_ne
      · exact h_hold
    · change Script.Climbs order _ ((e.locks.grant _ h_grants).heldBy o)
      rw [LockTable.heldBy_grant_self]
      exact h_next.2
  | drew next pending h_running =>
    exact h.goOn rfl (fun _ h_hold _ => h_hold) (fun _ _ => rfl)
      (h.scripts o _ h_running e.state)
  | wrote effect next pending h_running =>
    have h_next := h.scripts o _ h_running
    exact h.goOn rfl (fun _ h_hold _ => h_hold) (fun _ _ => rfl) h_next

end Engine
end Framework
