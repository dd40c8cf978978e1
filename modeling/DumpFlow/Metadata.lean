import DumpFlow.Json.Basic

/-!
What a database tells about a table, and the named parts of a statement.
-/

namespace DumpFlow

structure Column where
  name : String
  sqlType : String
  deriving DecidableEq, Repr

structure TableMetadata where
  database : Option String
  schema : Option String
  name : String
  columns : List Column
  deriving DecidableEq, Repr, Inhabited

namespace TableMetadata

def named (name : String) : TableMetadata :=
  ⟨none, none, name, []⟩

def withColumn (m : TableMetadata) (name sqlType : String) : TableMetadata :=
  { m with columns := m.columns ++ [⟨name, sqlType⟩] }

def withSchema (m : TableMetadata) (schema : String) : TableMetadata :=
  { m with schema := some schema }

/-- The name after the names of database and schema, as far as they are known. -/
def qualifiedName (m : TableMetadata) : String :=
  ".".intercalate (m.database.toList ++ m.schema.toList ++ [m.name])

end TableMetadata

/-- A named gap in a statement. -/
structure Placeholder where
  name : String
  sqlType : String
  deriving DecidableEq, Repr

/-- What fills a named gap. -/
structure Parameter where
  name : String
  value : Json.Value

end DumpFlow
