import DumpFlow.Session.Machine
import DumpFlow.Simulation.Database
import DumpFlow.Simulation.Directory

/-!
What is around a simulated session: its database, a file system, and a clock. Here it is decided
which move a call makes next, and whether it has one at this time; a call that waits for an answer
has none before the answer is due.
-/

namespace DumpFlow.Simulation

structure Surroundings where
  database : Database
  directory : Directory
  /-- In milliseconds. -/
  clock : Nat
  /-- When the request with a ticket is answered. -/
  deadlines : List (Nat × Nat)

namespace Surroundings

def make (database : Database) (directory : Directory) : Surroundings :=
  ⟨database, directory, 0, []⟩

/-- The longest that an answer is waited for, in milliseconds: thirty years of 365 days. -/
def longestWait : Nat := 30 * 365 * 24 * 60 * 60 * 1000

/-- A request with a ticket arrives. -/
def receive (s : Surroundings) (ticket : Nat) (q : Request) : Surroundings :=
  { s with
    database := (s.database.receive q).1
    deadlines := (ticket, s.clock + min (s.database.receive q).2 longestWait) :: s.deadlines }

def isDue (s : Surroundings) (ticket : Nat) : Bool :=
  (s.deadlines.lookup ticket).all (· ≤ s.clock)

/-- The reply to a request with a ticket, and what is changed by giving it. -/
def answer (s : Surroundings) (ticket : Nat) : Request → Surroundings × Reply
  | .createDirectory path =>
    match s.directory.create path with
    | (directory, .ok _) => ({ s with directory := directory }, .done)
    | (directory, .error refusal) => ({ s with directory := directory }, .denied refusal.message)
  | q => ({ s with database := (s.database.answer ticket q).1 }, (s.database.answer ticket q).2)

/-- What changes when call `i` takes the action of its point: a request that it issues arrives. -/
def observe (s : Surroundings) (m : Session.Machine) (p : Session.Point) : Surroundings :=
  match m.session.act p with
  | .request q => s.receive m.tickets q
  | _ => s

/-- The next move of call `i` and what changes with it, if it has one at this time. -/
def next? (s : Surroundings) (m : Session.Machine) (i : Nat) :
    Option (Session.Move × Surroundings) :=
  match m.calls[i]?, m.pending? i with
  | some (.ready p), _ => some (.act i, s.observe m p)
  | _, some (ticket, q) =>
    if s.isDue ticket then some (.answer i (s.answer ticket q).2, (s.answer ticket q).1) else none
  | _, none => none

/-- When call `i` can go on, if it waits. -/
def deadline? (s : Surroundings) (m : Session.Machine) (i : Nat) : Option Nat :=
  (m.pending? i).bind fun p => s.deadlines.lookup p.1

/-- The earliest time at which one of some calls can go on. -/
def earliest? (s : Surroundings) (m : Session.Machine) (calls : List Nat) : Option Nat :=
  (calls.filterMap (s.deadline? m)).min?

/-- The clock moves on to a later time. -/
def wait (s : Surroundings) (time : Nat) : Surroundings :=
  { s with clock := max s.clock time }

/-- More moves than a call takes: three for each file of a dump, and less than 32 others. -/
def patience (s : Surroundings) : Nat :=
  32 + 3 * s.database.greatestDump

end Surroundings

end DumpFlow.Simulation
