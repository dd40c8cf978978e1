import DumpFlow.Engine.Basic

/-!
The moves of an engine. Jobs start in any order as permits allow, end in any order, and are joined
in any order; every list of moves that the engine accepts is a possible run. The first joined job
that failed stops the run: from then on no job starts, and those that are left are given up.
-/

namespace DumpFlow.Engine

inductive Move where
  /-- A job gets a permit and makes its call. -/
  | start (job : Nat)
  /-- The call of a job ends, and with it the job, which gives its permit back. -/
  | finish (job : Nat) (ending : Ending)
  /-- A job finds that no permits are given out any more. -/
  | refuse (job : Nat)
  /-- The engine looks at the ending of a job. -/
  | join (job : Nat)
  /-- The engine gives up what is left after a failure. -/
  | clear
  /-- All jobs are joined, and the engine makes the call that follows the phase. -/
  | proceed
  /-- The call that follows a phase ends. -/
  | settle (ending : Ending)

/-- The call of a job in the phase of the engine, if it is in one. -/
def phaseCall? (e : Engine) : Option (Target → SessionCall) :=
  match e.stage with
  | .registering => some .register
  | .executing => some .execute
  | _ => none

/-- Jobs may still end, because not all of them have been given up. -/
def hasJobs (e : Engine) : Bool :=
  match e.stage with
  | .registering | .executing | .stopping _ => true
  | _ => false

def setJob (e : Engine) (i : Nat) (j : Job) : Engine :=
  { e with jobs := e.jobs.set i j }

def start? (e : Engine) (i : Nat) : Option Engine :=
  match e.phaseCall?, e.targets[i]?, e.jobs[i]? with
  | some what, some t, some .queued =>
    if e.permits = 0 then none
    else some ({ e.setJob i (.running e.calls) with permits := e.permits - 1 }.issuing (what t))
  | _, _, _ => none

def finish? (e : Engine) (i : Nat) (ending : Ending) : Option Engine :=
  match e.hasJobs, e.jobs[i]? with
  | true, some (.running call) =>
    some { (e.setJob i (.ended ending)).answered call ending with permits := e.permits + 1 }
  | _, _ => none

/-- The end of a job that is refused a permit. -/
def refusal : Ending :=
  .returned (.error (.diagnostic
    ⟨.unknown, "worker pool was shut down", some (.system "semaphore closed"), []⟩))

def refuse? (e : Engine) (i : Nat) : Option Engine :=
  match e.stage, e.jobs[i]? with
  | .stopping _, some .queued => some (e.setJob i (.ended refusal))
  | _, _ => none

def stopping (e : Engine) (fault : DumpFault) : Engine :=
  { e with stage := .stopping fault, record := e.record ++ [.stopped fault] }

def join? (e : Engine) (i : Nat) : Option Engine :=
  match e.phaseCall?, e.jobs[i]? with
  | some _, some (.ended ending) =>
    match ending.failure? with
    | none => some (e.setJob i .joined)
    | some fault => some ((e.setJob i .joined).stopping fault)
  | _, _ => none

/-- What becomes of a job that is still there. -/
def giveUp : Job → Job
  | .running call => .dropped (some call)
  | .queued | .ended _ => .dropped none
  | .joined => .joined
  | .dropped call => .dropped call

def clear? (e : Engine) : Option Engine :=
  match e.stage with
  | .stopping fault =>
    some ({ e with jobs := e.jobs.map giveUp }.returning (.returned (.error fault)))
  | _ => none

def proceed? (e : Engine) : Option Engine :=
  if e.jobs.all Job.isJoined then
    match e.stage with
    | .registering => some ({ e with stage := .beginning e.calls }.issuing .begin)
    | .executing => some ({ e with stage := .committing e.calls }.issuing .commit)
    | _ => none
  else none

/-- After a successful begin the second phase starts; every other end is that of the run. -/
def settle? (e : Engine) (ending : Ending) : Option Engine :=
  match e.stage, ending with
  | .beginning call, .returned (.ok _) =>
    some (((e.answered call ending).announcing (executeMessage e.targets.length)).entering
      .executing)
  | .beginning call, _ | .committing call, _ => some ((e.answered call ending).returning ending)
  | _, _ => none

def step? (e : Engine) : Move → Option Engine
  | .start i => e.start? i
  | .finish i ending => e.finish? i ending
  | .refuse i => e.refuse? i
  | .join i => e.join? i
  | .clear => e.clear?
  | .proceed => e.proceed?
  | .settle ending => e.settle? ending

/-- The engine after a list of moves; none if one of them is not possible. -/
def run? (e : Engine) (moves : List Move) : Option Engine :=
  moves.foldlM step? e

/-- The engine after some moves of a run. -/
inductive Reachable (config : EngineConfig) (targets : List Target) : Engine → Prop
  | start : Reachable config targets (start config targets)
  | step {e e' : Engine} (move : Move) :
      Reachable config targets e → e.step? move = some e' → Reachable config targets e'

/-- What the run gave back, if it has ended. -/
def ending? (e : Engine) : Option Ending :=
  match e.stage with
  | .returned ending => some ending
  | _ => none

/-- The calls that have been made, oldest first. -/
def issued (e : Engine) : List SessionCall :=
  e.record.filterMap fun
    | .issued _ what => some what
    | _ => none

/-- A phase ended with a failure. -/
def wasStopped (e : Engine) : Bool :=
  e.record.any fun
    | .stopped _ => true
    | _ => false

/-- What the engine told its monitor, oldest first. -/
def messages (e : Engine) : List String :=
  e.record.filterMap fun
    | .announced message => some message
    | _ => none

end DumpFlow.Engine
