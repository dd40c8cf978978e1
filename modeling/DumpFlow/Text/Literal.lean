import DumpFlow.Text.Printable
import DumpFlow.Text.Extending

/-!
Quoted literals: text between quotes on one line, with everything that would not show, or would
run into the quotes, written as an escape. Messages use them for names a user gave, and the
descriptions of values for the texts in them.
-/

namespace DumpFlow.Text

def hexDigit (n : Nat) : Char :=
  if n < 10 then Char.ofNat (48 + n) else Char.ofNat (87 + n)

/-- Lower-case hexadecimal digits, most significant first, none in front that is zero. -/
def hexDigits (n : Nat) : List Char :=
  if _h : n < 16 then [hexDigit n] else hexDigits (n / 16) ++ [hexDigit (n % 16)]
termination_by n
decreasing_by omega

def escapeCode (c : Char) : List Char :=
  '\\' :: 'u' :: '\x7b' :: hexDigits c.toNat ++ ['\x7d']

/-- One character of a literal that stands between two `quote`s. -/
def escapeChar (quote c : Char) : List Char :=
  if c == quote then ['\\', c]
  else if c == '\\' then ['\\', '\\']
  else if c == '\n' then ['\\', 'n']
  else if c == '\r' then ['\\', 'r']
  else if c == '\t' then ['\\', 't']
  else if c.toNat == 0 then ['\\', '0']
  else if isPrintable c && !isExtending c then [c]
  else escapeCode c

def quoteText (s : String) : String :=
  String.ofList ('"' :: s.toList.flatMap (escapeChar '"') ++ ['"'])

def quoteChar (c : Char) : String :=
  String.ofList ('\'' :: escapeChar '\'' c ++ ['\''])

/-- Texts as a bracketed list of literals. -/
def quoteList (texts : List String) : String :=
  "[" ++ ", ".intercalate (texts.map quoteText) ++ "]"

/-- An optional text as `None` or `Some` of a literal. -/
def quoteOption : Option String → String
  | none => "None"
  | some s => "Some(" ++ quoteText s ++ ")"

end DumpFlow.Text
