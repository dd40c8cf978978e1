import DumpFlow.Session.Dispatch
import DumpFlow.Session.Point

/-!
The state that all calls on one session share, and the state of one call.
-/

namespace DumpFlow

/-- `slot` holds the transaction from the moment it is stored until someone takes it to close it. -/
structure Session where
  settings : TransactionSettings
  dispatch : Dispatch
  state : Lifecycle
  slot : Option Transaction
  deriving DecidableEq

namespace Session

def make (settings : TransactionSettings) (dispatch : Dispatch) : Session :=
  ⟨settings, dispatch, .preparing, none⟩

/-- From one state to another, if the session is in the one. -/
def transition (s : Session) (source goal : Lifecycle) : Except StateFault Session :=
  if s.state = source then .ok { s with state := goal }
  else .error (.transition source goal s.state)

/-- The session failed, unless it has left the state in which it could; then that stands. -/
def failFrom (s : Session) (source : Lifecycle) : Session :=
  if s.state = source then { s with state := .failed } else s

inductive Call where
  | ready (point : Point)
  /-- The request of this point was issued under this ticket and is not answered yet. -/
  | waiting (point : Point) (ticket : Nat)
  | returned (outcome : Outcome)
  /-- Given up while it was under way; it takes no further action. -/
  | dropped
  deriving Repr

/-- What a call does next. -/
inductive Action where
  | become (next : Call)
  | update (session : Session) (next : Call)
  | emit (event : MonitorEvent) (next : Call)
  | request (request : Request)

def Call.done : Call := .returned (.ok ())

def Call.fault (f : DumpFault) : Call := .returned (.error f)

def Call.misuse (f : StateFault) : Call := .fault (.state f)

end Session

end DumpFlow
