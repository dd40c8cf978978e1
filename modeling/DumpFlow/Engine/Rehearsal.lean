import DumpFlow.Engine.Step
import DumpFlow.Exhaust

/-!
An engine on a session that does nothing but answer each call as agreed beforehand. The jobs run
one after the other, in the order of their targets, and each is joined before the next starts.
-/

namespace DumpFlow.Engine

/-- How the calls of a session end. -/
structure Rehearsal where
  register : Dictionary Ending
  execute : Dictionary Ending
  begin : Ending
  commit : Ending

namespace Rehearsal

/-- Calls for targets succeed, if nothing else is agreed for their label. -/
def ending (r : Rehearsal) : SessionCall → Ending
  | .register t => (r.register.find? t.label).getD .success
  | .begin => r.begin
  | .execute t => (r.execute.find? t.label).getD .success
  | .commit => r.commit

/-- The next move with a job, if one is left. -/
def jobMove? (r : Rehearsal) (e : Engine) : Option Move := do
  let what ← e.phaseCall?
  let i ← e.jobs.findIdx? (!·.isJoined)
  match e.jobs[i]? with
  | some .queued => some (.start i)
  | some (.running _) => some (.finish i (r.ending (what (← e.targets[i]?))))
  | some (.ended _) => some (.join i)
  | _ => none

/-- The next move of the engine, unless it has returned. -/
def move? (r : Rehearsal) (e : Engine) : Option Move :=
  match e.stage with
  | .registering | .executing => some ((r.jobMove? e).getD .proceed)
  | .beginning _ => some (.settle r.begin)
  | .committing _ => some (.settle r.commit)
  | .stopping _ => some .clear
  | .returned _ => none

/-- The engine at the end of its run: each phase takes three moves for each target and one more, and
begin and commit take one. -/
def play (r : Rehearsal) (config : EngineConfig) (targets : List Target) : Engine :=
  exhaust (fun e => (r.move? e).bind e.step?) (6 * targets.length + 4) (start config targets)

end Rehearsal

end DumpFlow.Engine
