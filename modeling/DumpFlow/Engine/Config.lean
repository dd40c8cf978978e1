import DumpFlow.Fault

/-!
The configuration of an engine.
-/

namespace DumpFlow

structure EngineConfig where
  workerCount : Nat
  deriving DecidableEq, Repr

namespace EngineConfig

def standard : EngineConfig := ⟨1⟩

instance : Inhabited EngineConfig := ⟨standard⟩

def validate (c : EngineConfig) : Outcome :=
  if c.workerCount = 0 then .error (.argument .noWorkers) else .ok ()

end EngineConfig

end DumpFlow
