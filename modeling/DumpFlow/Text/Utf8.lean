/-!
Bytes as text, one character with the code of each. They need not be UTF-8: `decode?` reads those
that are, `shown` puts a replacement character wherever no character begins.
-/

namespace DumpFlow.Utf8

def encodeChar (c : Char) : List Char :=
  (String.utf8EncodeChar c).map Char.ofUInt8

/-- The bytes of `s`. -/
def encode (s : String) : String :=
  String.ofList (s.toList.flatMap encodeChar)

def octets (raw : String) : List UInt8 :=
  raw.toList.map Char.toUInt8

/-- The text of which `raw` are the bytes. -/
def decode? (raw : String) : Option String :=
  if raw.toList.all fun c => c.toNat < 256 then String.fromUTF8? (octets raw).toByteArray else none

/-- Whether a character of at least three bytes can begin with these two. -/
def begins (first second : UInt8) : Bool :=
  if first = 0xe0 then 0xa0 ≤ second && second ≤ 0xbf
  else if first = 0xed then 0x80 ≤ second && second ≤ 0x9f
  else if first = 0xf0 then 0x90 ≤ second && second ≤ 0xbf
  else if first = 0xf4 then 0x80 ≤ second && second ≤ 0x8f
  else 0xe1 ≤ first && first ≤ 0xf3 && 0x80 ≤ second && second ≤ 0xbf

/-- How many bytes behind `first` are given up with it: as many as a character could begin with. -/
def broken (first : UInt8) : List UInt8 → Nat
  | [] => 0
  | [second] => if begins first second then 1 else 0
  | second :: third :: _ =>
    if begins first second then
      if 0xf0 ≤ first && 0x80 ≤ third && third ≤ 0xbf then 2 else 1
    else 0

/-- The characters of some bytes, of which the first `passed` belong to one that was read. -/
def scan : (passed : Nat) → List UInt8 → List Char
  | _, [] => []
  | passed + 1, _ :: rest => scan passed rest
  | 0, first :: rest =>
    match (first :: rest).toByteArray.utf8DecodeChar? 0 with
    | some c => c :: scan (c.utf8Size - 1) rest
    | none => '\ufffd' :: scan (broken first rest) rest

def shown (raw : String) : String :=
  String.ofList (scan 0 (octets raw))

end DumpFlow.Utf8
