import DumpFlow.Fault
import DumpFlow.Text.Blank

/-!
Commands of the form `label: statement`. The label is a run of ordinary characters in front of the
first delimiter, blanks around it apart; a command with anything else in front of its delimiter, or
with no delimiter, is a statement without a label.
-/

namespace DumpFlow

structure LabeledQuery where
  label : Option String
  statement : String
  deriving DecidableEq, Repr

namespace LabeledQuery

def standardDelimiter : Char := ':'

inductive CharClass where
  | normal
  | space
  | stop
  | delimiter
  deriving DecidableEq, Repr

/-- Quotes and control characters never stand in a label. -/
def classify (delimiter c : Char) : CharClass :=
  if c = delimiter then .delimiter
  else if c = '\'' || c = '"' || c = '\x60' || Text.isControl c then .stop
  else if Text.isBlank c then .space
  else .normal

/-- How far the search for a label has come: blanks only so far, within a label, or in the blanks
after it. The characters of the label are listed last first. -/
inductive Search where
  | ahead
  | body (label : List Char)
  | padding (label : List Char)
  deriving DecidableEq, Repr

/-- What the search finds: a delimiter with no label in front, a label with the text after its
delimiter, or no label. -/
inductive Found where
  | emptyLabel
  | label (label rest : List Char)
  | nothing
  deriving DecidableEq, Repr

def search (delimiter : Char) : Search → List Char → Found
  | _, [] => .nothing
  | .ahead, c :: cs =>
    match classify delimiter c with
    | .space => search delimiter .ahead cs
    | .normal => search delimiter (.body [c]) cs
    | .delimiter => .emptyLabel
    | .stop => .nothing
  | .body label, c :: cs =>
    match classify delimiter c with
    | .space => search delimiter (.padding label) cs
    | .normal => search delimiter (.body (c :: label)) cs
    | .delimiter => .label label.reverse cs
    | .stop => .nothing
  | .padding label, c :: cs =>
    match classify delimiter c with
    | .space => search delimiter (.padding label) cs
    | .delimiter => .label label.reverse cs
    | .normal | .stop => .nothing

def parse (command : String) (delimiter : Char) : Except DumpFault LabeledQuery :=
  match search delimiter .ahead command.toList with
  | .emptyLabel => .error (.argument (.noQueryLabel command))
  | .label label rest =>
    match Text.trimChars rest with
    | [] => .error (.argument (.noQueryAfterLabel command))
    | statement => .ok ⟨some (String.ofList label), String.ofList statement⟩
  | .nothing =>
    match Text.trimChars command.toList with
    | [] => .error (.argument .noQuery)
    | statement => .ok ⟨none, String.ofList statement⟩

end LabeledQuery

end DumpFlow
