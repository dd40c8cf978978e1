import DumpFlow.Metadata
import DumpFlow.Profile
import DumpFlow.Monitor.Event
import DumpFlow.Fault
import DumpFlow.Identifier
import DumpFlow.Text.Blank

/-!
What is registered for a dump, by kind of target. Tables are registered under their name, queries
under their statement without the blanks around it.
-/

namespace DumpFlow

/-- How dumps are written. -/
structure DumpOutput where
  profile : DumpProfile
  createDirectory : Bool
  deriving DecidableEq

def DumpOutput.describe (o : DumpOutput) : String :=
  "DumpOutput \x7b profile: " ++ o.profile.describe ++ ", create_directory: " ++
    (if o.createDirectory then "true" else "false") ++ " \x7d"

/-- `kinds` are those that are handled. A query is kept with the label of its first target. -/
structure Dispatch where
  kinds : List TargetKind
  output : DumpOutput
  tables : Dictionary TableMetadata
  queries : Dictionary String
  deriving DecidableEq

namespace Dispatch

def ofKinds (kinds : List TargetKind) (output : DumpOutput) : Dispatch :=
  ⟨kinds, output, .empty, .empty⟩

def standard (output : DumpOutput) : Dispatch :=
  ofKinds TargetKind.all output

def isEmpty (d : Dispatch) : Bool :=
  d.tables.isEmpty && d.queries.isEmpty

/-- The registered tables in ascending order. -/
def tableNames (d : Dispatch) : List String :=
  d.tables.keys

/-- The kinds that are handled, tables first. -/
def handled (d : Dispatch) : List TargetKind :=
  TargetKind.all.filter (d.kinds.contains ·)

/-- Why a target is not handled, if it is not. -/
def refusal? (d : Dispatch) (t : Target) : Option DumpFault :=
  if d.kinds.contains t.kind then none else some (.support (.noOperation t.kind t.label))

/-- The text that a query is registered and dumped under. -/
def queryKey (t : Target) : String :=
  Text.trim t.subject

def isRegistered (d : Dispatch) (t : Target) : Bool :=
  match t.kind with
  | .table => d.tables.contains t.subject
  | .query => d.queries.contains (queryKey t)

def unregistered (t : Target) : DumpFault :=
  match t.kind with
  | .table => .argument (.tableNotRegistered t.subject)
  | .query => .argument (.queryNotRegistered t.label)

/-- The statement whose result is dumped. -/
def statementOf (t : Target) : String :=
  match t.kind with
  | .table => Identifier.selectAll t.subject
  | .query => queryKey t

/-- The dispatch with what is known of a target; none if it is registered already. -/
def enroll? (d : Dispatch) (t : Target) : DumpInfo → Option Dispatch
  | .table metadata =>
    (d.tables.insertNew? t.subject metadata).map fun tables => { d with tables := tables }
  | .query statement =>
    (d.queries.insertNew? statement t.label).map fun queries => { d with queries := queries }

def registeredOf (d : Dispatch) : TargetKind → Nat
  | .table => d.tables.size
  | .query => d.queries.size

def operationTitle : TargetKind → String
  | .table => "TableDumpOperation"
  | .query => "QueryDumpOperation"

/-- The operation of one kind in words. -/
def describeOperation (d : Dispatch) (kind : TargetKind) : String :=
  operationTitle kind ++ " \x7b output: " ++ d.output.describe ++ ", registered: " ++
    toString (d.registeredOf kind) ++ " \x7d"

def kindTitle : TargetKind → String
  | .table => "Table"
  | .query => "Query"

def describe (d : Dispatch) : String :=
  "DumpOperationDispatch \x7b target_types: [" ++
    ", ".intercalate (d.handled.map kindTitle) ++ "], empty: " ++
    (if d.isEmpty then "true" else "false") ++ " \x7d"

end Dispatch

end DumpFlow
