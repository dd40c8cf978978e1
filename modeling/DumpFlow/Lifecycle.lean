/-!
The states of a session. They are passed in this order, except that a session may fail while
starting or committing, and may be closed from anywhere.
-/

namespace DumpFlow

inductive Lifecycle where
  | preparing
  | starting
  | running
  | committing
  | committed
  | failed
  | closed
  deriving DecidableEq, Repr

namespace Lifecycle

instance : Inhabited Lifecycle := ⟨preparing⟩

def all : List Lifecycle :=
  [preparing, starting, running, committing, committed, failed, closed]

def name : Lifecycle → String
  | preparing => "PREPARING"
  | starting => "STARTING"
  | running => "RUNNING"
  | committing => "COMMITTING"
  | committed => "COMMITTED"
  | failed => "FAILED"
  | closed => "CLOSED"

def code : Lifecycle → Nat
  | preparing => 0
  | starting => 1
  | running => 2
  | committing => 3
  | committed => 4
  | failed => 5
  | closed => 6

/-- A code that no state has counts as closed. -/
def ofCode : Nat → Lifecycle
  | 0 => preparing
  | 1 => starting
  | 2 => running
  | 3 => committing
  | 4 => committed
  | 5 => failed
  | _ => closed

/-- No work is going on and none can follow. -/
def isSettled : Lifecycle → Bool
  | committed | failed | closed => true
  | _ => false

end Lifecycle

end DumpFlow
