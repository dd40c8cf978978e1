import DumpFlow.Session.Machine

/-!
Operations on targets outside a session: without its checks, in a transaction that someone else
has opened.
-/

namespace DumpFlow.Session

/-- What a target is given to: the operation of one kind, or the dispatch that finds it. -/
inductive Handler where
  | operation (kind : TargetKind)
  | dispatch
  deriving DecidableEq, Repr

namespace Handler

/-- Why a target is not handled, if it is not. -/
def refusal? (h : Handler) (d : Dispatch) (t : Target) : Option DumpFault :=
  match h with
  | operation kind =>
    if t.kind = kind then none else some (.support (.otherKind kind t.kind t.label))
  | dispatch => d.refusal? t

def describe (h : Handler) (d : Dispatch) : String :=
  match h with
  | operation kind => d.describeOperation kind
  | dispatch => d.describe

end Handler

/-- Where the registration of a target starts once it is handled. -/
def enrolling (t : Target) : Point := .register t .lookUp

/-- Where the dump of a target starts once it is handled. -/
def dumping (transaction : Transaction) (t : Target) : Point := .execute t (.lookUp transaction)

namespace Machine

/-- With a transaction that no call has opened. -/
def withTransaction (m : Machine) : Machine × Transaction :=
  ({ m with tickets := m.tickets + 1 }, ⟨m.tickets⟩)

end Machine

end DumpFlow.Session
