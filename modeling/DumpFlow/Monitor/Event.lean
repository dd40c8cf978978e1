import DumpFlow.Metadata
import DumpFlow.Path

/-!
What a run tells its monitor while it goes on.
-/

namespace DumpFlow

/-- What is known of a target once it is registered. -/
inductive DumpInfo where
  | table (metadata : TableMetadata)
  | query (statement : String)
  deriving DecidableEq, Repr

inductive MonitorEvent where
  | verbose (message : String)
  | info (label : String) (info : DumpInfo) (destination : Path)
  | start (label : String) (destination : Path)
  | file (label : String) (file : Path)
  | finish (label : String) (destination : Path)
  deriving DecidableEq, Repr

namespace MonitorEvent

def label? : MonitorEvent → Option String
  | verbose _ => none
  | info label _ _ | start label _ | file label _ | finish label _ => some label

def isStart : MonitorEvent → Bool
  | start _ _ => true
  | _ => false

/-- The files among the events of a label, in order. -/
def files (label : String) (events : List MonitorEvent) : List Path :=
  events.filterMap fun
    | .file l path => if l = label then some path else none
    | _ => none

end MonitorEvent

end DumpFlow
