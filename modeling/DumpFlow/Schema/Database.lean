import DumpFlow.Json.Decode
import DumpFlow.Metadata
import DumpFlow.Monitor.Event

/-!
The JSON form of what a database tells and is told, and of the information on registered targets.
-/

namespace DumpFlow

open Json (Value Tree Fields)

/-- A record of a name and a type. -/
def encodeTyped (name sqlType : String) : Value :=
  .object [("name", .text name), ("sql_type", .text sqlType)]

def decodeTyped? {α : Type} (make : String → String → α) (t : Tree) : Option α := do
  let f ← Fields.ofTree? ["name", "sql_type"] t
  let name ← f.required? "name" Tree.text?
  let sqlType ← f.required? "sql_type" Tree.text?
  return make name sqlType

def Column.encode (c : Column) : Value := encodeTyped c.name c.sqlType

def Column.decode? : Tree → Option Column := decodeTyped? .mk

def Placeholder.encode (p : Placeholder) : Value := encodeTyped p.name p.sqlType

def Placeholder.decode? : Tree → Option Placeholder := decodeTyped? .mk

def Parameter.encode (p : Parameter) : Value :=
  .object [("name", .text p.name), ("value", p.value)]

/-- The value lies one level deep in the record. -/
def Parameter.decode? (t : Tree) : Option Parameter := do
  let f ← Fields.ofTree? ["name", "value"] t
  let name ← f.required? "name" Tree.text?
  let value ← f.required? "value" (Tree.value? (Json.greatestDepth - 1))
  return ⟨name, value⟩

namespace TableMetadata

def members (m : TableMetadata) : List (String × Value) := [
  ("database_name", .optional .text m.database),
  ("schema_name", .optional .text m.schema),
  ("table_name", .text m.name),
  ("columns", .array (m.columns.map Column.encode))]

def encode (m : TableMetadata) : Value := .object m.members

def decode? (t : Tree) : Option TableMetadata := do
  let f ← Fields.ofTree? ["database_name", "schema_name", "table_name", "columns"] t
  let database ← f.defaulted? "database_name" (Tree.optional? Tree.text?) none
  let schema ← f.defaulted? "schema_name" (Tree.optional? Tree.text?) none
  let name ← f.required? "table_name" Tree.text?
  let columns ← f.defaulted? "columns" (Tree.list? Column.decode?) []
  return ⟨database, schema, name, columns⟩

end TableMetadata

namespace DumpInfo

def tag : String := "type"

/-- The tag stands in front of the fields of what it tells. -/
def encode : DumpInfo → Value
  | table m => .object ((tag, .text "table") :: m.members)
  | query statement => .object [(tag, .text "query"), ("statement", .text statement)]

def decodeQuery? (t : Tree) : Option DumpInfo := do
  let f ← Fields.ofTree? ["statement"] t
  let statement ← f.required? "statement" Tree.text?
  return query statement

def decodeTagged? (name : String) (rest : Tree) : Option DumpInfo :=
  if name = "table" then (TableMetadata.decode? rest).map table
  else if name = "query" then decodeQuery? rest
  else none

def isTag (member : Option String × Tree) : Bool :=
  member.1 == some tag

/-- The tag is given once, by name anywhere or in front by position. All of the document has to be
a value, also what is skipped. -/
def decode? (t : Tree) : Option DumpInfo :=
  match t.value? Json.greatestDepth, t with
  | some _, .object members =>
    match members.filter isTag with
    | [(_, .text (some name))] => decodeTagged? name (.object (members.filter (!isTag ·)))
    | _ => none
  | some _, .array (.text (some name) :: rest) => decodeTagged? name (.array rest)
  | _, _ => none

end DumpInfo

end DumpFlow
