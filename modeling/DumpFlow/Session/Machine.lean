import DumpFlow.Session.Step

/-!
A session with the calls that have been made on it. The machine moves when a call is made, when
one takes its next action, when one of its requests is answered, and when one is dropped. Which
of these comes next, and what the answers are, is not determined: every list of moves that the
machine accepts is a possible run. The machine keeps a record of what its calls did.
-/

namespace DumpFlow.Session

inductive Effect where
  | called (point : Point)
  | changed (source goal : Lifecycle)
  | emitted (event : MonitorEvent)
  | issued (ticket : Nat) (request : Request)
  | answered (ticket : Nat) (reply : Reply)
  | returned (outcome : Outcome)
  | dropped

/-- An effect and the call, by its number, that it is an effect of. -/
structure Entry where
  call : Nat
  effect : Effect

structure Machine where
  session : Session
  calls : List Call
  /-- How many requests have been issued, which is also the next ticket. -/
  tickets : Nat
  /-- Oldest first. -/
  record : List Entry

inductive Move where
  | call (point : Point)
  | act (call : Nat)
  | answer (call : Nat) (reply : Reply)
  | drop (call : Nat)

/-- The entry points of the five calls. -/
def registering (t : Target) : Point := .register t .checkState

def beginning : Point := .begin .checkState

def executing (t : Target) : Point := .execute t .checkState

def committing : Point := .commit .start

def closing : Point := .close .start

namespace Machine

def make (s : Session) : Machine := ⟨s, [], 0, []⟩

/-- The effect of a change of state, if it is one. -/
def changes (source goal : Lifecycle) : List Effect :=
  if source = goal then [] else [.changed source goal]

def returns : Call → List Effect
  | .returned outcome => [.returned outcome]
  | _ => []

/-- Call `i` goes on as `next`, with effects in their order and a return last. -/
def put (m : Machine) (i : Nat) (next : Call) (effects : List Effect) : Machine :=
  { m with
    calls := m.calls.set i next
    record := m.record ++ (effects ++ returns next).map (Entry.mk i) }

def call (m : Machine) (p : Point) : Machine :=
  { m with
    calls := m.calls ++ [.ready p]
    record := m.record ++ [⟨m.calls.length, .called p⟩] }

def perform (m : Machine) (i : Nat) (p : Point) : Action → Machine
  | .become next => m.put i next []
  | .update s next =>
    { m with session := s }.put i next (changes m.session.state s.state)
  | .emit e next => m.put i next [.emitted e]
  | .request q =>
    { m with tickets := m.tickets + 1 }.put i (.waiting p m.tickets) [.issued m.tickets q]

def act? (m : Machine) (i : Nat) : Option Machine :=
  match m.calls[i]? with
  | some (.ready p) => some (m.perform i p (m.session.act p))
  | _ => none

def answer? (m : Machine) (i : Nat) (r : Reply) : Option Machine :=
  match m.calls[i]? with
  | some (.waiting p ticket) =>
    (resume ticket p r).map fun next => m.put i next [.answered ticket r]
  | _ => none

def drop? (m : Machine) (i : Nat) : Option Machine :=
  match m.calls[i]? with
  | some (.ready _) | some (.waiting _ _) => some (m.put i .dropped [.dropped])
  | _ => none

def step? (m : Machine) : Move → Option Machine
  | .call p => some (m.call p)
  | .act i => m.act? i
  | .answer i r => m.answer? i r
  | .drop i => m.drop? i

/-- The machine after a list of moves; none if one of them is not possible. -/
def run? (m : Machine) (moves : List Move) : Option Machine :=
  moves.foldlM step? m

/-- The machine after some moves from a session that nobody has used. -/
inductive Reachable (settings : TransactionSettings) (dispatch : Dispatch) : Machine → Prop
  | start : Reachable settings dispatch (make (.make settings dispatch))
  | step {m m' : Machine} (move : Move) :
      Reachable settings dispatch m → m.step? move = some m' → Reachable settings dispatch m'

/-- What a call gave back, if it has. -/
def outcome? (m : Machine) (i : Nat) : Option Outcome :=
  match m.calls[i]? with
  | some (.returned outcome) => some outcome
  | _ => none

/-- The request that a call waits for, with its ticket. -/
def pending? (m : Machine) (i : Nat) : Option (Nat × Request) :=
  match m.calls[i]? with
  | some (.waiting p ticket) =>
    match m.session.act p with
    | .request q => some (ticket, q)
    | _ => none
  | _ => none

/-- No call is under way. -/
def isQuiet (m : Machine) : Bool :=
  m.calls.all fun
    | .returned _ | .dropped => true
    | _ => false

/-- The events of all calls, oldest first. -/
def events (m : Machine) : List MonitorEvent :=
  m.record.filterMap fun e =>
    match e.effect with
    | .emitted event => some event
    | _ => none

end Machine

end DumpFlow.Session
