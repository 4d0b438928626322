import ControlPlane.Model.World

/-!
# The clients in time

A request is not one moment. `httpx` bounds every single wait of it (for the connection, for
a write, for the next piece of the response, for the pool) by the timeout, which `execute`
keeps at five seconds at most, but not their number. `Clients` adds to the world the time and
the moment at which every worker began the wait it is in; `Happening.pass` lets the time pass
and `Happening.piece` ends a wait and begins the next one.

The clock of the database is not this time: the labels of the world carry its readings.
`Prompt` is what is assumed of the clients.
-/

namespace ControlPlane

open Framework

namespace Phase

/-- The destination of the request that the worker has started and not given up, and its
permit. -/
def outgoing : Phase → Option (String × Option Held)
  | .requesting _ (some (name, _)) permit _ | .awaiting _ (some (name, _)) permit _ _ =>
    some (name, permit)
  | _ => none

/-- Whether the worker is in a request. -/
def inRequest : Phase → Bool
  | .requesting .. | .awaiting .. => true
  | _ => false

end Phase

/-- The world, the time, and how long each worker has waited. -/
structure Clients where
  world : World
  time : Time
  /-- When the worker began to wait. -/
  waiting : ℕ → Time

/-- What happens: a step of the world, a piece of a response, or time. -/
inductive Happening
  | act (label : Label)
  /-- The connection is there, a write is through, or a piece of the response arrives. -/
  | piece (worker : ℕ)
  | pass (duration : ℕ)

namespace Clients

/-- No worker waits yet. -/
def initial (registry : Table String Destination) (owners : Table String String) : Clients :=
  ⟨World.initial registry owners, 0, fun _ => 0⟩

/-- The worker begins a wait. -/
def wait (c : Clients) (worker : ℕ) : Clients :=
  { c with waiting := Function.update c.waiting worker c.time }

/-- A step of the world; a request begins its waits anew. -/
def act (c : Clients) (label : Label) : Clients :=
  let c' := { c with world := c.world.step label }
  match label with
  -- `Client.request` goes on to the request as soon as it has the permit
  | .acquire n _ => c'.wait n
  | .post n => c'.wait n
  | _ => c'

/-- Only `pass` lets time go on. -/
def step (c : Clients) : Happening → Clients
  | .act label => c.act label
  | .piece worker => c.wait worker
  | .pass duration => { c with time := c.time + duration }

/-- Several happenings, one after the other. -/
abbrev run (c : Clients) (happenings : List Happening) : Clients :=
  Framework.run step c happenings

/-- What is assumed: no wait takes more than five seconds, a worker spends no time between
its waits and its transactions, and it dies between requests only. -/
def Prompt (c : Clients) : Happening → Prop
  | .pass duration => ∀ n, c.world.phase n = .idle ∨
      ((c.world.phase n).inRequest = true ∧ c.time + duration ≤ c.waiting n + seconds 5)
  | .act (.crash n) => (c.world.phase n).inRequest = false
  | _ => True

/-- The clock of the database shows the time. -/
def Honest (c : Clients) : Happening → Prop
  | .act (.acquire _ now) => now = c.time
  | _ => True

end Clients

end ControlPlane
