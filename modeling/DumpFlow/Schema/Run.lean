import DumpFlow.Json.Decode
import DumpFlow.Lifecycle
import DumpFlow.Target
import DumpFlow.Transaction
import DumpFlow.Profile
import DumpFlow.Fault

/-!
The JSON form of states, targets, transactions and profiles.
-/

namespace DumpFlow

open Json (Value Tree Fields)

def Lifecycle.encode (s : Lifecycle) : Value := .text s.name

def Lifecycle.decode? : Tree → Option Lifecycle := Tree.choice? all name

def DiagnosticKind.encode (k : DiagnosticKind) : Value := .text k.code

def DiagnosticKind.decode? : Tree → Option DiagnosticKind := Tree.choice? all code

def TargetKind.encode (k : TargetKind) : Value := .text k.name

def TargetKind.decode? : Tree → Option TargetKind := Tree.choice? all name

def TransactionKind.encode (k : TransactionKind) : Value := .text k.name

def TransactionKind.decode? : Tree → Option TransactionKind := Tree.choice? all name

def CommitStatus.encode (s : CommitStatus) : Value := .text s.name

def CommitStatus.decode? : Tree → Option CommitStatus := Tree.choice? all name

def DumpFormat.encode (f : DumpFormat) : Value := .text f.name

def DumpFormat.decode? : Tree → Option DumpFormat := Tree.choice? all name

def Path.encode (p : Path) : Value := .text p.text

def Path.decode? (t : Tree) : Option Path := t.text?.map .mk

namespace Target

def encode (t : Target) : Value := .object [
  ("target_type", t.kind.encode),
  ("label", .text t.label),
  ("target", .text t.subject),
  ("destination", t.destination.encode)]

def decode? (t : Tree) : Option Target := do
  let f ← Fields.ofTree? ["target_type", "label", "target", "destination"] t
  let kind ← f.required? "target_type" TargetKind.decode?
  let label ← f.required? "label" Tree.text?
  let subject ← f.required? "target" Tree.text?
  let destination ← f.required? "destination" Path.decode?
  return ⟨kind, label, subject, destination⟩

end Target

namespace TransactionOption

def encode (o : TransactionOption) : Value := .object [
  ("kind", o.kind.encode),
  ("label", .optional .text o.label),
  ("write_preserve", .texts o.writePreserve),
  ("inclusive_read_areas", .texts o.inclusiveReadAreas)]

def decode? (t : Tree) : Option TransactionOption := do
  let f ← Fields.ofTree? ["kind", "label", "write_preserve", "inclusive_read_areas"] t
  let kind ← f.required? "kind" TransactionKind.decode?
  let label ← f.optional? "label" Tree.text?
  let writePreserve ← f.required? "write_preserve" (Tree.list? Tree.text?)
  let areas ← f.required? "inclusive_read_areas" (Tree.list? Tree.text?)
  return ⟨kind, label, writePreserve, areas⟩

end TransactionOption

namespace TransactionSettings

def encode (s : TransactionSettings) : Value := .object [
  ("kind", s.kind.encode),
  ("label", .optional .text s.label),
  ("write_preserve", .texts s.writePreserve),
  ("enable_read_areas", .boolean s.enableReadAreas),
  ("commit_status", s.commitStatus.encode)]

/-- A document without a label has none; it does not get the standard one. -/
def decode? (t : Tree) : Option TransactionSettings := do
  let f ← Fields.ofTree?
    ["kind", "label", "write_preserve", "enable_read_areas", "commit_status"] t
  let kind ← f.defaulted? "kind" TransactionKind.decode? default
  let label ← f.defaulted? "label" (Tree.optional? Tree.text?) none
  let writePreserve ← f.defaulted? "write_preserve" (Tree.list? Tree.text?) []
  let enableReadAreas ← f.defaulted? "enable_read_areas" Tree.boolean? false
  let commitStatus ← f.defaulted? "commit_status" CommitStatus.decode? default
  return ⟨kind, label, writePreserve, enableReadAreas, commitStatus⟩

end TransactionSettings

namespace DumpProfile

def encodeOptions (options : Dictionary String) : Value :=
  .object (options.entries.map fun e => (e.1, .text e.2))

def encode (p : DumpProfile) : Value := .object [
  ("title", .optional .text p.title),
  ("format", p.format.encode),
  ("max_record_count_per_file", .optional .natural p.maxRecordsPerFile),
  ("options", encodeOptions p.options)]

def decode? (t : Tree) : Option DumpProfile := do
  let f ← Fields.ofTree? ["title", "format", "max_record_count_per_file", "options"] t
  let title ← f.defaulted? "title" (Tree.optional? Tree.text?) none
  let format ← f.defaulted? "format" DumpFormat.decode? default
  let records ← f.defaulted? "max_record_count_per_file" (Tree.optional? Tree.natural?) none
  let options ← f.defaulted? "options" (Tree.dictionary? Tree.text?) .empty
  return ⟨title, format, records, options⟩

end DumpProfile

end DumpFlow
