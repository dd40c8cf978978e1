import DumpFlow.Path

/-!
What is dumped: a table or the result of a query, under a label, into a destination directory.
-/

namespace DumpFlow

inductive TargetKind where
  | table
  | query
  deriving DecidableEq, Repr, Inhabited

namespace TargetKind

def all : List TargetKind := [table, query]

def name : TargetKind → String
  | table => "table"
  | query => "query"

end TargetKind

structure Target where
  kind : TargetKind
  label : String
  /-- The name of the table or the text of the query. -/
  subject : String
  destination : Path
  deriving DecidableEq, Repr, Inhabited

namespace Target

/-- A table is labelled with its name. -/
def table (name : String) (destination : Path) : Target :=
  ⟨.table, name, name, destination⟩

def query (label statement : String) (destination : Path) : Target :=
  ⟨.query, label, statement, destination⟩

def withDestination (t : Target) (destination : Path) : Target :=
  { t with destination := destination }

/-- Equal up to the way in which the destination is written. -/
def Same (t u : Target) : Prop :=
  t.kind = u.kind ∧ t.label = u.label ∧ t.subject = u.subject ∧ t.destination.Same u.destination

instance (t u : Target) : Decidable (t.Same u) :=
  inferInstanceAs (Decidable (_ ∧ _))

def describe (t : Target) : String :=
  t.kind.name ++ "(" ++ t.label ++ ") -> " ++ t.destination.text

end Target

end DumpFlow
