import DumpFlow.Decimal.Binary

/-!
JSON values. Whole numbers are kept apart from floating-point ones, as far as 64 bits hold them.
-/

namespace DumpFlow.Json

/-- The greatest number that an unsigned word of 64 bits holds. -/
def greatestNatural : Nat := Nat.pow 2 64 - 1

inductive Number where
  | natural (n : Nat)
  /-- The number `-n`. -/
  | negative (n : Nat)
  | floating (x : Decimal.Binary)
  deriving DecidableEq, Repr

/-- An object is the list of its members in the order in which they are written. -/
inductive Value where
  | null
  | boolean (b : Bool)
  | number (n : Number)
  | text (s : String)
  | array (items : List Value)
  | object (members : List (String × Value))
  deriving Inhabited

namespace Value

def natural (n : Nat) : Value := .number (.natural n)

def texts (ss : List String) : Value := .array (ss.map .text)

def optional {α : Type} (encode : α → Value) : Option α → Value
  | none => .null
  | some a => encode a

end Value

end DumpFlow.Json
