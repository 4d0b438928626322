import ControlPlane.Framework.Engine
import ControlPlane.Model.Statements

/-!
# The permits, statement by statement

`Client.request` around its request: `acquire`, and `release` with the permit that it has
got, each a transaction of its own. `Requests` runs these transactions of any number of
workers at once under the lock manager, one statement a step. A worker can die at any point.
-/

namespace ControlPlane

open Framework

namespace Requests

/-- How far a worker is with `Client.request`. -/
inductive Stage
  | idle
  | acquiring (name : String)
  /-- In the request, with its permit. -/
  | holding (permit : Held)
  | releasing (permit : Held) (failed : Bool)

end Requests

/-- The engine hands out the permit that a commit grants. -/
structure Requests where
  engine : Engine Db Resource ℕ (Option Held)
  stage : ℕ → Requests.Stage

namespace Requests

def initial (db : Db) : Requests := ⟨.initial db, fun _ => .idle⟩

def granted (name : String) : Answer → Option Held
  | .permitted (some token) => some ⟨name, token⟩
  | _ => none

inductive Action
  | acquire (worker : ℕ) (now : Time) (name : String) (route : Destination) (kind : RequestKind)
  | release (worker : ℕ) (now : Time) (failed : Bool) (cooldown : ℕ)
  | statement (worker : ℕ)
  | crash (worker : ℕ)

/-- A worker reaches a stage. -/
def move (r : Requests) (worker : ℕ) (stage : Stage) : Requests :=
  { r with stage := Function.update r.stage worker stage }

def step (r : Requests) : Action → Requests
  | .acquire n now name route kind =>
    match r.stage n with
    | .idle =>
      let script := (Capacity.acquireScript now name route kind).map (granted name)
      { r with engine := r.engine.start n script }.move n (.acquiring name)
    | _ => r
  | .release n now failed cooldown =>
    match r.stage n with
    | .holding permit =>
      let script := (Capacity.releaseScript now permit.destination permit.token failed
        cooldown).map fun _ => none
      { r with engine := r.engine.start n script }.move n (.releasing permit failed)
    | _ => r
  | .statement n =>
    let next := { r with engine := r.engine.statement n }
    match r.engine.ending n with
    | none => next
    -- the `acquire` has committed with a permit
    | some (true, some permit) => next.move n (.holding permit)
    -- without a permit, after a rollback, or at the end of the `release`
    | some _ => next.move n .idle
  | .crash n => { r with engine := r.engine.abort n }.move n .idle

abbrev run (r : Requests) (actions : List Action) : Requests := Framework.run step r actions

end Requests
end ControlPlane
