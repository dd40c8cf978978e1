import DumpFlow.Json.Decode
import DumpFlow.Engine.Config
import DumpFlow.Selection.Config

/-!
The JSON form of configurations. A field that is not given has its standard value.
-/

namespace DumpFlow

open Json (Value Tree Fields)

namespace EngineConfig

def encode (c : EngineConfig) : Value := .object [("worker_count", .natural c.workerCount)]

def decode? (t : Tree) : Option EngineConfig := do
  let f ← Fields.ofTree? ["worker_count"] t
  let count ← f.defaulted? "worker_count" Tree.natural? standard.workerCount
  return ⟨count⟩

end EngineConfig

namespace SelectorConfig

def encodeChar (c : Char) : Value := .text c.toString

def encode (c : SelectorConfig) : Value := .object [
  ("max_name_length", .natural c.maxNameLength),
  ("escape_characters", .text c.escapeCharacters),
  ("replacement", encodeChar c.replacement),
  ("delimiter", encodeChar c.delimiter),
  ("query_label_prefix", .text c.queryLabelStem)]

def decode? (t : Tree) : Option SelectorConfig := do
  let f ← Fields.ofTree? ["max_name_length", "escape_characters", "replacement", "delimiter",
    "query_label_prefix"] t
  let length ← f.defaulted? "max_name_length" Tree.natural? standard.maxNameLength
  let escape ← f.defaulted? "escape_characters" Tree.text? standard.escapeCharacters
  let replacement ← f.defaulted? "replacement" Tree.char? standard.replacement
  let delimiter ← f.defaulted? "delimiter" Tree.char? standard.delimiter
  let stem ← f.defaulted? "query_label_prefix" Tree.text? standard.queryLabelStem
  return ⟨length, escape, replacement, delimiter, stem⟩

end SelectorConfig

end DumpFlow
