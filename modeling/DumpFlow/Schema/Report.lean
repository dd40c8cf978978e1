import DumpFlow.Json.Basic
import DumpFlow.Fault

/-!
The JSON form of a diagnostic for other programs: its code and text, the text of what it goes back
to, and those of the failures that followed it.
-/

namespace DumpFlow

open Json (Value)

def Diagnostic.report (d : Diagnostic) : Value :=
  .object ([("code", .text d.kind.code), ("message", .text d.text)] ++
    (d.source.map fun c => ("cause", Value.text c.message)).toList ++
    (if d.suppressed.isEmpty then []
      else [("suppressed", .texts (d.suppressed.map Diagnostic.message))]))

end DumpFlow
