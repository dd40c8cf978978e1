import DumpFlow.Simulation.Account
import DumpFlow.Simulation.Bench

/-!
Several runs of an engine on one simulated session, one after the other.
-/

namespace DumpFlow.Simulation

/-- What is told of a run. -/
structure RunReport where
  /-- None if the run did not come to its end. -/
  ending : Option Ending
  state : Lifecycle
  /-- In milliseconds. -/
  elapsed : Nat
  events : List MonitorEvent
  tables : List String
  /-- The database before and after the run. -/
  before : Database
  after : Database
  /-- A phase of this or an earlier run has failed. What its jobs have left behind depends on the
  order in which they happened to run. -/
  cutShort : Bool

namespace Bench

/-- A run of an engine, after earlier ones of which some may have been cut short. -/
def runEngine (b : Bench) (config : EngineConfig) (cutShort : Bool) (targets : List Target) :
    Bench × RunReport :=
  let t := (Trial.start b.machine b.around config targets).finish
  let session := t.joint.machine.session
  (⟨t.joint.machine, t.around⟩,
    { ending := t.joint.engine.ending?
      state := session.state
      elapsed := t.around.clock - b.around.clock
      events := Account.events t.joint
      tables := session.dispatch.tableNames
      before := b.around.database
      after := t.around.database
      cutShort := cutShort || t.joint.engine.wasStopped })

def runEngines (b : Bench) (config : EngineConfig) (cutShort : Bool) :
    List (List Target) → Bench × List RunReport
  | [] => (b, [])
  | targets :: runs =>
    let (b, report) := b.runEngine config cutShort targets
    let (b, reports) := b.runEngines config report.cutShort runs
    (b, report :: reports)

end Bench

end DumpFlow.Simulation
