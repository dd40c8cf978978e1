import DumpFlow.Simulation.Trial

/-!
What is told of a simulated run, less what depends only on the order in which its jobs happened to
run. Between two messages of the engine and the session the events are told in the order of their
targets; of a phase that failed nothing is told but that it was entered.
-/

namespace DumpFlow.Simulation

namespace Account

/-- Messages belong to the run as a whole. -/
def isMessage (e : MonitorEvent) : Bool :=
  e.label?.isNone

/-- The position of the target that an event belongs to. -/
def position (targets : List Target) (e : MonitorEvent) : Nat :=
  targets.findIdx fun t => e.label? == some t.label

/-- Events in the order of their targets, those of one target as they came. -/
def arrange (targets : List Target) (events : List MonitorEvent) : List MonitorEvent :=
  events.mergeSort fun a b => decide (position targets a ≤ position targets b)

/-- Events between messages are arranged, after those that are held back already. -/
def arrangeBetween (targets : List Target) (held : List MonitorEvent) :
    List MonitorEvent → List MonitorEvent
  | [] => arrange targets held
  | e :: es =>
    if isMessage e then arrange targets held ++ e :: arrangeBetween targets [] es
    else arrangeBetween targets (held ++ [e]) es

/-- The events up to the last message. -/
def throughLastMessage (events : List MonitorEvent) : List MonitorEvent :=
  (events.reverse.dropWhile (!isMessage ·)).reverse

def events (j : Joint) : List MonitorEvent :=
  arrangeBetween j.engine.targets []
    (if j.engine.wasStopped then throughLastMessage j.events else j.events)

end Account

end DumpFlow.Simulation
