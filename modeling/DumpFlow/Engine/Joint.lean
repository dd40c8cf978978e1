import DumpFlow.Engine.Step
import DumpFlow.Session.Machine

/-!
An engine and the session that it drives. Each call of the engine is a call on the session; it ends
when that returns. The monitor hears both, in the order in which they speak. A job that has been
given up runs on to where it waits for an answer, and goes no further.
-/

namespace DumpFlow

structure Joint where
  engine : Engine
  machine : Session.Machine
  /-- The calls of the engine, in its numbering, as calls on the session. -/
  calls : List Nat
  /-- Oldest first. -/
  events : List MonitorEvent

namespace Joint

/-- The point at which a call starts. -/
def entry : SessionCall → Session.Point
  | .register t => Session.registering t
  | .begin => Session.beginning
  | .execute t => Session.executing t
  | .commit => Session.committing

/-- What an effect of the engine does to its session and its monitor. -/
def follow (j : Joint) : EngineEffect → Joint
  | .issued _ what =>
    { j with
      machine := j.machine.call (entry what)
      calls := j.calls ++ [j.machine.calls.length] }
  | .announced message => { j with events := j.events ++ [.verbose message] }
  | .ended _ _ | .stopped _ | .returned _ => j

/-- The engine goes on as `e`, and its session and monitor follow. -/
def withEngine (j : Joint) (e : Engine) : Joint :=
  (e.record.drop j.engine.record.length).foldl follow { j with engine := e }

/-- The session goes on as `m`, and the monitor hears what is new. -/
def withMachine (j : Joint) (m : Session.Machine) : Joint :=
  { j with
    machine := m
    events := j.events ++ m.events.drop j.machine.events.length }

/-- A run starts on a session, whatever was done with that before. -/
def start (m : Session.Machine) (config : EngineConfig) (targets : List Target) : Joint :=
  let e := Engine.start config targets
  e.record.foldl follow ⟨e, m, [], []⟩

/-- The call on the session that a job has made, as long as it is under way. -/
def jobCall? (j : Joint) (job : Nat) : Option Nat :=
  match j.engine.jobs[job]? with
  | some (.running call) => j.calls[call]?
  | _ => none

/-- The call on the session that a job had made when it was given up. -/
def droppedCall? (j : Joint) (job : Nat) : Option Nat :=
  match j.engine.jobs[job]? with
  | some (.dropped (some call)) => j.calls[call]?
  | _ => none

/-- The call on the session that follows a phase. -/
def stageCall? (j : Joint) : Option Nat :=
  match j.engine.stage with
  | .beginning call | .committing call => j.calls[call]?
  | _ => none

/-- A call on the session that belongs to a job that was given up. -/
def isAbandoned (j : Joint) (call : Nat) : Bool :=
  (List.range j.engine.jobs.length).any fun job => j.droppedCall? job == some call

inductive Move where
  | start (job : Nat)
  /-- The call of a job has returned. -/
  | finish (job : Nat)
  | refuse (job : Nat)
  | join (job : Nat)
  | clear
  | proceed
  /-- The call that follows a phase has returned. -/
  | settle
  /-- A call on the session takes its next action. -/
  | act (call : Nat)
  | answer (call : Nat) (reply : Reply)
  /-- The call of a job that was given up goes away. -/
  | drop (job : Nat)

def step? (j : Joint) : Move → Option Joint
  | .start job => (j.engine.start? job).map j.withEngine
  | .finish job => do
    let outcome ← j.machine.outcome? (← j.jobCall? job)
    (j.engine.finish? job (.returned outcome)).map j.withEngine
  | .refuse job => (j.engine.refuse? job).map j.withEngine
  | .join job => (j.engine.join? job).map j.withEngine
  | .clear => j.engine.clear?.map j.withEngine
  | .proceed => j.engine.proceed?.map j.withEngine
  | .settle => do
    let outcome ← j.machine.outcome? (← j.stageCall?)
    (j.engine.settle? (.returned outcome)).map j.withEngine
  | .act call => (j.machine.act? call).map j.withMachine
  | .answer call reply =>
    if j.isAbandoned call then none else (j.machine.answer? call reply).map j.withMachine
  | .drop job => do
    let call ← j.droppedCall? job
    match j.machine.calls[call]? with
    | some (.waiting _ _) => (j.machine.drop? call).map j.withMachine
    | _ => none

/-- The engine and its session after a list of moves; none if one of them is not possible. -/
def run? (j : Joint) (moves : List Move) : Option Joint :=
  moves.foldlM step? j

/-- An engine and its session after some moves of a run. -/
inductive Reachable (m : Session.Machine) (config : EngineConfig) (targets : List Target) :
    Joint → Prop
  | start : Reachable m config targets (start m config targets)
  | step {j j' : Joint} (move : Move) :
      Reachable m config targets j → j.step? move = some j' → Reachable m config targets j'

end Joint

end DumpFlow
