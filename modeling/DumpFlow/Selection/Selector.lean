import DumpFlow.Selection.Config
import DumpFlow.Selection.Label
import DumpFlow.Selection.Conflict

/-!
Selectors turn the commands of a user, table names or queries, into targets below a base directory.
-/

namespace DumpFlow

/-- A selector for one kind of target. `stem` begins the label of a query that names none. -/
inductive Selector where
  | table (normalizer : NameNormalizer)
  | query (normalizer : NameNormalizer) (stem : String)
  deriving DecidableEq, Repr

namespace Selector

def ofConfig (kind : TargetKind) (config : SelectorConfig) : Except DumpFault Selector :=
  config.normalizer.map fun n =>
    match kind with
    | .table => .table n
    | .query => .query n config.queryLabelStem

def normalizer : Selector → NameNormalizer
  | table n => n
  | query n _ => n

/-- The directory for a name; a name must not become empty, `.` or `..`. -/
def destination (normalizer : NameNormalizer) (base : Path) (name : String) :
    Except DumpFault Path :=
  let normalized := normalizer.normalize name
  if normalized = "" ∨ normalized = "." ∨ normalized = ".." then
    .error (.argument (.unusableName name))
  else .ok (base.join normalized)

def tableTarget (normalizer : NameNormalizer) (base : Path) (command : String) :
    Except DumpFault Target := do
  let name := Text.trim command
  if name = "" then .error (.argument .noTableName)
  else
    let place ← destination normalizer base name
    return .table name place

def queryTarget (normalizer : NameNormalizer) (stem : String) (base : Path) (position : Nat)
    (command : String) : Except DumpFault Target := do
  let query ← LabeledQuery.parse command LabeledQuery.standardDelimiter
  let label := query.label.getD (stem ++ toString position)
  let place ← destination normalizer base label
  return .query label query.statement place

/-- The target of the command at a position, counted from one. -/
def target (s : Selector) (base : Path) (position : Nat) (command : String) :
    Except DumpFault Target :=
  match s with
  | table n => tableTarget n base command
  | query n stem => queryTarget n stem base position command

/-- The targets of commands whose first has the given position. -/
def targetsFrom (s : Selector) (base : Path) : Nat → List String → Except DumpFault (List Target)
  | _, [] => .ok []
  | position, command :: rest => do
    let t ← s.target base position command
    let ts ← targetsFrom s base (position + 1) rest
    return t :: ts

def targets (s : Selector) (base : Path) (commands : List String) :
    Except DumpFault (List Target) := do
  let ts ← s.targetsFrom base 1 commands
  Conflict.resolve s.normalizer.delimiter ts

end Selector

end DumpFlow
