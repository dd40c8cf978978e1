import DumpFlow.Dictionary
import DumpFlow.Text.Literal

/-!
The profile of a dump: what the database is told about the files to write.
-/

namespace DumpFlow

inductive DumpFormat where
  | parquet
  | arrow
  deriving DecidableEq, Repr

namespace DumpFormat

instance : Inhabited DumpFormat := ⟨parquet⟩

def all : List DumpFormat := [parquet, arrow]

def name : DumpFormat → String
  | parquet => "parquet"
  | arrow => "arrow"

def title : DumpFormat → String
  | parquet => "Parquet"
  | arrow => "Arrow"

end DumpFormat

structure DumpProfile where
  title : Option String
  format : DumpFormat
  maxRecordsPerFile : Option Nat
  options : Dictionary String
  deriving DecidableEq

namespace DumpProfile

def standard : DumpProfile := ⟨none, default, none, .empty⟩

instance : Inhabited DumpProfile := ⟨standard⟩

def withOption (p : DumpProfile) (key value : String) : DumpProfile :=
  { p with options := p.options.insert key value }

def describeOptions (options : Dictionary String) : String :=
  "\x7b" ++ ", ".intercalate
    (options.entries.map fun e => Text.quoteText e.1 ++ ": " ++ Text.quoteText e.2) ++ "\x7d"

def describe (p : DumpProfile) : String :=
  "DumpProfile \x7b title: " ++ Text.quoteOption p.title ++ ", format: " ++ p.format.title ++
    ", max_record_count_per_file: " ++
    (match p.maxRecordsPerFile with
      | none => "None"
      | some n => "Some(" ++ toString n ++ ")") ++
    ", options: " ++ describeOptions p.options ++ " \x7d"

end DumpProfile

end DumpFlow
