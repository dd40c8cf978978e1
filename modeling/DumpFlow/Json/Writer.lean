import DumpFlow.Json.Basic
import DumpFlow.Decimal.Shortest
import DumpFlow.Text.Literal

/-!
Values as compact JSON text: no blanks, and only what has to be escaped is.
-/

namespace DumpFlow.Json

/-- The two low hexadecimal digits of a control character. -/
def escapeControl (c : Char) : List Char :=
  ['\\', 'u', '0', '0', Text.hexDigit (c.toNat / 16), Text.hexDigit (c.toNat % 16)]

def escapeChar (c : Char) : List Char :=
  if c = '"' then ['\\', '"']
  else if c = '\\' then ['\\', '\\']
  else if c = '\x08' then ['\\', 'b']
  else if c = '\x0c' then ['\\', 'f']
  else if c = '\n' then ['\\', 'n']
  else if c = '\r' then ['\\', 'r']
  else if c = '\t' then ['\\', 't']
  else if c.toNat < 0x20 then escapeControl c
  else [c]

def renderText (s : String) : List Char :=
  '"' :: s.toList.flatMap escapeChar ++ ['"']

def Number.render : Number → List Char
  | .natural n => Nat.toDigits 10 n
  | .negative n => '-' :: Nat.toDigits 10 n
  | .floating x => x.render.toList

def renderWord (b : Bool) : List Char :=
  if b then ['t', 'r', 'u', 'e'] else ['f', 'a', 'l', 's', 'e']

mutual

def Value.chars : Value → List Char
  | .null => ['n', 'u', 'l', 'l']
  | .boolean b => renderWord b
  | .number n => n.render
  | .text s => renderText s
  | .array items => '[' :: itemChars items ++ [']']
  | .object members => '\x7b' :: memberChars members ++ ['\x7d']

def itemChars : List Value → List Char
  | [] => []
  | [v] => v.chars
  | v :: w :: rest => v.chars ++ ',' :: itemChars (w :: rest)

def memberChars : List (String × Value) → List Char
  | [] => []
  | [(k, v)] => renderText k ++ ':' :: v.chars
  | (k, v) :: m :: rest => renderText k ++ ':' :: v.chars ++ ',' :: memberChars (m :: rest)

end

def Value.render (v : Value) : String :=
  String.ofList v.chars

end DumpFlow.Json
