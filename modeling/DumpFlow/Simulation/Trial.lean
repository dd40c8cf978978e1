import DumpFlow.Engine.Joint
import DumpFlow.Exhaust
import DumpFlow.Simulation.Surroundings

/-!
A run of an engine on a simulated session. At each time the jobs are attended to in the order of
their targets, and go on as far as they can. Only then the engine looks at those that have ended: at
the first one that failed, if any, else at all. When it cannot go on, the clock moves to the
earliest time at which one of its calls can.
-/

namespace DumpFlow.Simulation

structure Trial where
  joint : Joint
  around : Surroundings

namespace Trial

def start (m : Session.Machine) (around : Surroundings) (config : EngineConfig)
    (targets : List Target) : Trial :=
  ⟨.start m config targets, around⟩

/-- A move, if it is possible. -/
def attempt (t : Trial) (move : Joint.Move) : Trial :=
  match t.joint.step? move with
  | some joint => { t with joint := joint }
  | none => t

/-- A move of a call as one of the engine and its session. -/
def jointMove? : Session.Move → Option Joint.Move
  | .act i => some (.act i)
  | .answer i r => some (.answer i r)
  | .call _ | .drop _ => none

/-- The next move of call `i` on the session, if it has one at this time. -/
def advance? (i : Nat) (t : Trial) : Option Trial := do
  let (move, around) ← t.around.next? t.joint.machine i
  let joint ← t.joint.step? (← jointMove? move)
  return ⟨joint, around⟩

/-- Call `i` on the session goes on as far as it can at this time. -/
def settle (t : Trial) (i : Nat) : Trial :=
  exhaust (advance? i) t.around.patience t

/-- A job starts, goes on and ends, as far as it can at this time. -/
def attend (t : Trial) (job : Nat) : Trial :=
  let t := t.attempt (.start job)
  let t := (t.joint.jobCall? job).elim t t.settle
  t.attempt (.finish job)

def jobNumbers (t : Trial) : List Nat :=
  List.range t.joint.engine.jobs.length

/-- The first job that has ended with a failure that nobody has looked at. -/
def firstFailure? (t : Trial) : Option Nat :=
  t.joint.engine.jobs.findIdx? fun
    | .ended ending => ending.failure?.isSome
    | _ => false

/-- The engine looks at the jobs that have ended. -/
def review (t : Trial) : Trial :=
  match t.firstFailure? with
  | some job => t.attempt (.join job)
  | none => t.jobNumbers.foldl (fun t job => t.attempt (.join job)) t

/-- The calls on the session that the engine waits for. -/
def awaited (t : Trial) : List Nat :=
  t.jobNumbers.filterMap t.joint.jobCall? ++ t.joint.stageCall?.toList

/-- The clock moves to the earliest time at which something can go on. -/
def wait? (t : Trial) : Option Trial :=
  (t.around.earliest? t.joint.machine t.awaited).map fun time =>
    { t with around := t.around.wait time }

/-- What happens at this time, and the clock moves on if nothing else can. -/
def step? (t : Trial) : Option Trial :=
  match t.joint.engine.stage with
  | .registering | .executing =>
    let t := (t.jobNumbers.foldl attend t).review
    match t.joint.engine.stage, t.joint.step? .proceed with
    | .stopping _, _ => some t
    | _, some joint => some { t with joint := joint }
    | _, none => t.wait?
  | .beginning _ | .committing _ =>
    let t := t.joint.stageCall?.elim t t.settle
    match t.joint.step? .settle with
    | some joint => some { t with joint := joint }
    | none => t.wait?
  | .stopping _ =>
    let t := t.attempt .clear
    some (t.jobNumbers.foldl (fun t job => t.attempt (.drop job)) t)
  | .returned _ => none

/-- The run comes to its end. Each step takes it to its next stage, of which there are seven at
most, or moves the clock to when a request of one of its calls is answered. -/
def finish (t : Trial) : Trial :=
  exhaust step? (8 + (2 * t.joint.engine.targets.length + 2) * t.around.patience) t

end Trial

end DumpFlow.Simulation
