import DumpFlow.Json.Literal

/-!
The tokens of JSON text and the scanner that finds them, one character at a time.
-/

namespace DumpFlow.Json

/-- A text whose escapes leave half of a surrogate pair alone is well formed and names no text. -/
inductive Token where
  | arrayOpen
  | arrayClose
  | objectOpen
  | objectClose
  | colon
  | comma
  | null
  | boolean (b : Bool)
  | number (l : Literal)
  | text (content : Option String)
  deriving DecidableEq, Repr

/-- What has been read of a text: its characters so far, last first, unless it is already known to
name no text, and the first half of a surrogate pair whose second half must come next. -/
structure Content where
  chars : Option (List Char)
  pending : Option Nat
  deriving DecidableEq, Repr

namespace Content

def empty : Content := ⟨some [], none⟩

/-- A character after a half pair leaves the half alone. -/
def push (k : Content) (c : Char) : Content :=
  match k.pending with
  | none => ⟨k.chars.map (c :: ·), none⟩
  | some _ => ⟨none, none⟩

/-- A unit of 16 bits that was written as an escape. -/
def pushUnit (k : Content) (u : Nat) : Content :=
  match k.pending with
  | none =>
    if 0xd800 ≤ u ∧ u < 0xdc00 then ⟨k.chars, some u⟩
    else if 0xdc00 ≤ u ∧ u < 0xe000 then ⟨none, none⟩
    else ⟨k.chars.map (Char.ofNat u :: ·), none⟩
  | some high =>
    if 0xdc00 ≤ u ∧ u < 0xe000 then
      ⟨k.chars.map (Char.ofNat (0x10000 + (high - 0xd800) * 0x400 + (u - 0xdc00)) :: ·), none⟩
    else ⟨none, none⟩

def text (k : Content) : Option String :=
  match k.pending with
  | none => k.chars.map fun cs => String.ofList cs.reverse
  | some _ => none

end Content

/-- Where the scanner stands: between tokens, in a word or number (its characters last first), or
in a text, there possibly after a backslash or within the four digits of a unit. -/
inductive Mode where
  | between
  | word (seen : List Char)
  | text (content : Content)
  | escape (content : Content)
  | unit (content : Content) (digits : Nat) (value : Nat)
  deriving DecidableEq, Repr

structure Scanner where
  mode : Mode
  /-- Last first. -/
  tokens : List Token

def isSpace (c : Char) : Bool :=
  c == ' ' || c == '\n' || c == '\t' || c == '\r'

/-- The characters of words and numbers. -/
def isWord (c : Char) : Bool :=
  c.isAlphanum || c == '+' || c == '-' || c == '.'

def wordToken? (cs : List Char) : Option Token :=
  if cs = ['n', 'u', 'l', 'l'] then some .null
  else if cs = ['t', 'r', 'u', 'e'] then some (.boolean true)
  else if cs = ['f', 'a', 'l', 's', 'e'] then some (.boolean false)
  else (Literal.ofChars? cs).map .number

def mark? (c : Char) : Option Token :=
  if c = '[' then some .arrayOpen
  else if c = ']' then some .arrayClose
  else if c = '\x7b' then some .objectOpen
  else if c = '\x7d' then some .objectClose
  else if c = ':' then some .colon
  else if c = ',' then some .comma
  else none

def hexValue? (c : Char) : Option Nat :=
  if '0' ≤ c ∧ c ≤ '9' then some (c.toNat - 48)
  else if 'a' ≤ c ∧ c ≤ 'f' then some (c.toNat - 87)
  else if 'A' ≤ c ∧ c ≤ 'F' then some (c.toNat - 55)
  else none

/-- The character that a one-letter escape stands for. -/
def escaped? (c : Char) : Option Char :=
  if c = '"' ∨ c = '\\' ∨ c = '/' then some c
  else if c = 'b' then some '\x08'
  else if c = 'f' then some '\x0c'
  else if c = 'n' then some '\n'
  else if c = 'r' then some '\r'
  else if c = 't' then some '\t'
  else none

namespace Scanner

def start : Scanner := ⟨.between, []⟩

/-- A character where no token is open. -/
def begin? (tokens : List Token) (c : Char) : Option Scanner :=
  if isSpace c then some ⟨.between, tokens⟩
  else if c = '"' then some ⟨.text .empty, tokens⟩
  else if isWord c then some ⟨.word [c], tokens⟩
  else (mark? c).map fun t => ⟨.between, t :: tokens⟩

def step? (s : Scanner) (c : Char) : Option Scanner :=
  match s.mode with
  | .between => begin? s.tokens c
  | .word seen =>
    if isWord c then some ⟨.word (c :: seen), s.tokens⟩
    else (wordToken? seen.reverse).bind fun t => begin? (t :: s.tokens) c
  | .text k =>
    if c = '"' then some ⟨.between, .text k.text :: s.tokens⟩
    else if c = '\\' then some ⟨.escape k, s.tokens⟩
    else if c.toNat < 0x20 then none
    else some ⟨.text (k.push c), s.tokens⟩
  | .escape k =>
    if c = 'u' then some ⟨.unit k 4 0, s.tokens⟩
    else (escaped? c).map fun e => ⟨.text (k.push e), s.tokens⟩
  | .unit k n value =>
    (hexValue? c).map fun d =>
      if n = 1 then ⟨.text (k.pushUnit (value * 16 + d)), s.tokens⟩
      else ⟨.unit k (n - 1) (value * 16 + d), s.tokens⟩

def finish? (s : Scanner) : Option (List Token) :=
  match s.mode with
  | .between => some s.tokens.reverse
  | .word seen => (wordToken? seen.reverse).map fun t => (t :: s.tokens).reverse
  | _ => none

end Scanner

def tokens? (cs : List Char) : Option (List Token) :=
  (cs.foldlM Scanner.step? Scanner.start).bind Scanner.finish?

end DumpFlow.Json
