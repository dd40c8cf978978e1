import DumpFlow.Fault
import DumpFlow.Text.Blank
import DumpFlow.Text.LetterCase

/-!
Names of directories made from arbitrary text. A normalizer cuts a name to a length, replaces what
must not stand in a directory name, and lower-cases the rest, one character for one.
-/

namespace DumpFlow

/-- `escape` holds the ASCII codes that are replaced; the delimiter is one of them. -/
structure NameNormalizer where
  maxLength : Nat
  escape : List Bool
  replacement : Char
  delimiter : Char
  deriving DecidableEq, Repr

namespace NameNormalizer

def asciiCodes : List Nat := List.range 128

/-- The codes of a set of characters, as a table over all ASCII codes. -/
def escapeTable (chars : List Char) : List Bool :=
  asciiCodes.map fun n => chars.any (·.toNat == n)

def escapes (table : List Bool) (c : Char) : Bool :=
  table.getD c.toNat false

/-- A character that may stand for any other: ASCII, visible, not upper case and not replaced
itself. -/
def isPlain (table : List Bool) (c : Char) : Bool :=
  0x20 < c.toNat && c.toNat < 0x7f && !c.isUpper && !escapes table c

def make (maxLength : Nat) (escapeChars : String) (replacement delimiter : Char) :
    Except DumpFault NameNormalizer :=
  if maxLength = 0 then .error (.argument .noNameLength)
  else
    match escapeChars.toList.find? (!Text.isAscii ·) with
    | some c => .error (.argument (.escapeNotAscii c))
    | none =>
      if !Text.isAscii delimiter then .error (.argument (.delimiterNotAscii delimiter))
      else
        let table := escapeTable (delimiter :: escapeChars.toList)
        if !isPlain table replacement then .error (.argument (.replacementNotPlain replacement))
        else .ok ⟨maxLength, table, replacement, delimiter⟩

/-- Controls, blanks and all characters outside the basic plane are replaced in any case. -/
def isEscaped (n : NameNormalizer) (c : Char) : Bool :=
  Text.isControl c || Text.isBlank c || 0xffff < c.toNat || escapes n.escape c

def mapChar (n : NameNormalizer) (c : Char) : Char :=
  if n.isEscaped c then n.replacement else Text.toLower c

def normalize (n : NameNormalizer) (name : String) : String :=
  String.ofList ((name.toList.take n.maxLength).map n.mapChar)

/-- The replaced ASCII characters in the order of their codes. -/
def escapedChars (n : NameNormalizer) : String :=
  String.ofList ((asciiCodes.map Char.ofNat).filter (escapes n.escape))

def describe (n : NameNormalizer) : String :=
  "NameNormalizer \x7b max_length: " ++ toString n.maxLength ++
    ", escape: " ++ Text.quoteText n.escapedChars ++
    ", replacement: " ++ Text.quoteChar n.replacement ++
    ", delimiter: " ++ Text.quoteChar n.delimiter ++ " \x7d"

end NameNormalizer

end DumpFlow
