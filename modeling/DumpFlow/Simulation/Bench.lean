import DumpFlow.Exhaust
import DumpFlow.Session.Handler
import DumpFlow.Simulation.Surroundings

/-!
Calls on a simulated session. The clock stands still while any call can go on; calls that are made
at once take turns in their order, each going on until it has to wait. When all wait, the clock
moves to the earliest time at which one of them can go on.
-/

namespace DumpFlow.Simulation

structure Bench where
  machine : Session.Machine
  around : Surroundings

namespace Bench

def make (s : Session) (around : Surroundings) : Bench :=
  ⟨.make s, around⟩

/-- The next move of call `i`, if it has one at this time. -/
def advance? (i : Nat) (b : Bench) : Option Bench := do
  let (move, around) ← b.around.next? b.machine i
  let machine ← b.machine.step? move
  return ⟨machine, around⟩

/-- Call `i` goes on as far as it can at this time. -/
def settle (b : Bench) (i : Nat) : Bench :=
  exhaust (advance? i) b.around.patience b

/-- The clock moves to the earliest time at which one of some waiting calls can go on, and they go
on as far as they can then. -/
def round? (calls : List Nat) (b : Bench) : Option Bench :=
  (b.around.earliest? b.machine calls).map fun time =>
    calls.foldl settle { b with around := b.around.wait time }

/-- Calls are made at once and run to their ends. Each round answers a request of
one of them. -/
def together (b : Bench) (points : List Session.Point) : Bench × List (Option Outcome) :=
  let calls := List.range' b.machine.calls.length points.length
  let b := { b with machine := points.foldl Session.Machine.call b.machine }
  let b := exhaust (round? calls) (calls.length * b.around.patience) (calls.foldl settle b)
  (b, calls.map b.machine.outcome?)

/-- One call runs to its end. -/
def perform (b : Bench) (p : Session.Point) : Bench × Option Outcome :=
  ((b.together [p]).1, (b.together [p]).2.head?.join)

/-- A target is given to a handler, which goes on from the point `p` unless it refuses. -/
def handle (b : Bench) (h : Session.Handler) (t : Target) (p : Session.Point) :
    Bench × Option Outcome :=
  match h.refusal? b.machine.session.dispatch t with
  | some fault => (b, some (.error fault))
  | none => b.perform p

end Bench

end DumpFlow.Simulation
