import DumpFlow.Engine.Config
import DumpFlow.Transaction

/-!
An engine drives a session through one run: it registers all targets, begins, dumps all targets and
commits. In both phases with targets each target is a job, and at most as many jobs as there are
workers hold a permit and are under way. The engine knows of its session only what the calls that
it makes on it give back.
-/

namespace DumpFlow

/-- A call that an engine makes on its session. -/
inductive SessionCall where
  | register (target : Target)
  | begin
  | execute (target : Target)
  | commit
  deriving DecidableEq, Repr

/-- How a call ends. -/
inductive Ending where
  | returned (outcome : Outcome)
  | panicked (payload : String)

namespace Ending

/-- The end of a call that did what it was asked for. -/
def success : Ending := .returned (.ok ())

/-- What is reported for the end of a job, if it failed. -/
def failure? : Ending → Option DumpFault
  | .returned (.ok _) => none
  | .returned (.error fault) => some (.diagnostic fault.toDiagnostic)
  | .panicked payload =>
    some (.diagnostic ⟨.unknown, "worker terminated abnormally: " ++ Cause.panicText payload,
      some (.panic payload), []⟩)

end Ending

/-- The calls of an engine are numbered in the order in which it makes them. -/
inductive Job where
  /-- It waits for a permit. -/
  | queued
  | running (call : Nat)
  /-- Its ending has not been looked at. -/
  | ended (ending : Ending)
  | joined
  /-- Given up unseen, perhaps in the middle of a call. -/
  | dropped (call : Option Nat)

namespace Job

def isRunning : Job → Bool
  | running _ => true
  | _ => false

def isJoined : Job → Bool
  | joined => true
  | _ => false

/-- Nobody waits for it any more. -/
def isSettled : Job → Bool
  | joined | dropped _ => true
  | _ => false

end Job

inductive Stage where
  | registering
  | beginning (call : Nat)
  | executing
  | committing (call : Nat)
  /-- A job has failed; no permit is given out any more. -/
  | stopping (fault : DumpFault)
  | returned (ending : Ending)

inductive EngineEffect where
  | announced (message : String)
  | issued (call : Nat) (what : SessionCall)
  | ended (call : Nat) (ending : Ending)
  | stopped (fault : DumpFault)
  | returned (ending : Ending)

structure Engine where
  workers : Nat
  targets : List Target
  stage : Stage
  /-- How many jobs may start at once. -/
  permits : Nat
  /-- Those of the last phase that was entered, one for each target. -/
  jobs : List Job
  /-- How many calls have been made, which is also the number of the next one. -/
  calls : Nat
  /-- Oldest first. -/
  record : List EngineEffect

namespace Engine

/-- The destinations that are taken after one more target, which needs all its parts and a
destination of its own. -/
def examine (taken : List Path) (t : Target) : Except ArgumentFault (List Path) :=
  if t.label.isEmpty then .error (.noLabel t.destination)
  else if t.subject.isEmpty then .error (.noSubject t.kind t.label)
  else if taken.any (fun p => decide (p.Same t.destination)) then
    .error (.repeatedDestination t.destination)
  else .ok (t.destination :: taken)

/-- Targets that can be dumped in one run. -/
def validate (targets : List Target) : Outcome :=
  match targets.foldlM examine [] with
  | .ok _ => .ok ()
  | .error fault => .error (.argument fault)

/-- The most workers that can be had. -/
def greatestWorkers : Nat := Nat.pow 2 61 - 1

def registerMessage (n : Nat) : String := "registering " ++ toString n ++ " dump targets"

def executeMessage (n : Nat) : String := "executing " ++ toString n ++ " dump targets"

def returning (e : Engine) (ending : Ending) : Engine :=
  { e with stage := .returned ending, record := e.record ++ [.returned ending] }

def announcing (e : Engine) (message : String) : Engine :=
  { e with record := e.record ++ [.announced message] }

def issuing (e : Engine) (what : SessionCall) : Engine :=
  { e with calls := e.calls + 1, record := e.record ++ [.issued e.calls what] }

def answered (e : Engine) (call : Nat) (ending : Ending) : Engine :=
  { e with record := e.record ++ [.ended call ending] }

/-- A phase starts with all its jobs queued. -/
def entering (e : Engine) (stage : Stage) : Engine :=
  { e with stage := stage, jobs := e.targets.map fun _ => .queued }

/-- A run starts with the first phase, unless the targets or the number of workers do not allow
it. -/
def start (config : EngineConfig) (targets : List Target) : Engine :=
  let e : Engine := ⟨config.workerCount, targets, .registering, config.workerCount, [], 0, []⟩
  match validate targets with
  | .error fault => e.returning (.returned (.error fault))
  | .ok _ =>
    if greatestWorkers < config.workerCount then e.returning (.panicked "too many workers")
    else (e.announcing (registerMessage targets.length)).entering .registering

end Engine

end DumpFlow
