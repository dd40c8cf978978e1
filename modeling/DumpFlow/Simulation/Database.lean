import DumpFlow.Simulation.Catalog
import DumpFlow.Simulation.Script

/-!
The databases of a simulation. A request takes effect in two steps: when it arrives, and when it is
answered after its delay.
-/

namespace DumpFlow.Simulation

inductive Database where
  | catalog (c : Catalog)
  | script (s : Script)

namespace Database

/-- The database after a request has arrived, and the delay of the answer. -/
def receive : Database → Request → Database × Nat
  | catalog c, q => ((c.receive q).1 |> catalog, (c.receive q).2)
  | script s, q => ((s.receive q).1 |> script, (s.receive q).2)

def answer : Database → Nat → Request → Database × Reply
  | catalog c, ticket, q => ((c.answer ticket q).1 |> catalog, (c.answer ticket q).2)
  | script s, ticket, q => ((s.answer ticket q).1 |> script, (s.answer ticket q).2)

/-- The most files that one dump writes. -/
def greatestDump : Database → Nat
  | catalog _ => 1
  | script s => s.dumps.entries.foldl (fun n e => max n e.2.paths.length) 0

/-- The requests that a script has logged. -/
def log : Database → List Request
  | catalog _ => []
  | script s => s.log

end Database

end DumpFlow.Simulation
