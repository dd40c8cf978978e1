import DumpFlow.Naming

/-!
The configuration of target selection.
-/

namespace DumpFlow

structure SelectorConfig where
  maxNameLength : Nat
  escapeCharacters : String
  replacement : Char
  delimiter : Char
  queryLabelStem : String
  deriving DecidableEq, Repr

namespace SelectorConfig

def standard : SelectorConfig :=
  ⟨100, "\"*/:<>?\\|", '_', '-', "sql"⟩

instance : Inhabited SelectorConfig := ⟨standard⟩

def normalizer (c : SelectorConfig) : Except DumpFault NameNormalizer :=
  NameNormalizer.make c.maxNameLength c.escapeCharacters c.replacement c.delimiter

end SelectorConfig

end DumpFlow
