import DumpFlow.Json.Basic

/-!
Number literals and the numbers they stand for. A whole literal that fits a word of 64 bits is
exact. Any other is read in floating point the short way: as many digits as a word holds, then one
multiplication or division by a power of ten, each rounded; the result can differ from the nearest
number in its last place.
-/

namespace DumpFlow.Json

open Decimal (Binary)

/-- The parts of a number literal; digits are values below ten. -/
structure Literal where
  negative : Bool
  whole : List Nat
  fraction : Option (List Nat)
  /-- The sign (`true` for minus) and digits of the exponent. -/
  exponent : Option (Bool × List Nat)
  deriving DecidableEq, Repr

def digit? (c : Char) : Option Nat :=
  if '0' ≤ c ∧ c ≤ '9' then some (c.toNat - 48) else none

/-- The leading digits and what follows them. -/
def takeDigits : List Char → List Nat × List Char
  | [] => ([], [])
  | c :: cs =>
    match digit? c with
    | some d => let r := takeDigits cs; (d :: r.1, r.2)
    | none => ([], c :: cs)

namespace Literal

/-- A fraction has at least one digit. -/
def fraction? : List Char → Option (Option (List Nat) × List Char)
  | '.' :: cs =>
    match takeDigits cs with
    | ([], _) => none
    | (ds, rest) => some (some ds, rest)
  | cs => some (none, cs)

def exponentDigits? (negative : Bool) (cs : List Char) : Option (Option (Bool × List Nat)) :=
  match takeDigits cs with
  | (d :: ds, []) => some (some (negative, d :: ds))
  | _ => none

/-- An exponent ends the literal and has at least one digit. -/
def exponent? : List Char → Option (Option (Bool × List Nat))
  | [] => some none
  | e :: cs =>
    if e = 'e' ∨ e = 'E' then
      match cs with
      | '-' :: ds => exponentDigits? true ds
      | '+' :: ds => exponentDigits? false ds
      | ds => exponentDigits? false ds
    else none

def unsigned? (negative : Bool) (cs : List Char) : Option Literal := do
  let (whole, rest) := takeDigits cs
  guard (whole.length = 1 ∨ whole.head?.any (· != 0))
  let (fraction, rest) ← fraction? rest
  let exponent ← exponent? rest
  return ⟨negative, whole, fraction, exponent⟩

/-- The literal that is exactly `cs`. No digit follows a leading zero. -/
def ofChars? : List Char → Option Literal
  | '-' :: cs => unsigned? true cs
  | cs => unsigned? false cs

/-- Digits appended to `n` while a word holds the result, and the digits left over. -/
def accumulate (n : Nat) : List Nat → Nat × List Nat
  | [] => (n, [])
  | d :: ds => if greatestNatural < n * 10 + d then (n, d :: ds) else accumulate (n * 10 + d) ds

def greatestExponent : Nat := Nat.pow 2 31 - 1

def powerOfTen (n : Nat) : Binary :=
  (Binary.ofQuotient? (Nat.pow 10 n) 1).getD (Binary.zero false)

/-- `x / 10 ^ n`, rounded; a step divides by `10 ^ 308` at most. -/
def divideByPower (x : Binary) (n : Nat) : Binary :=
  if _h : n ≤ 308 then (x.div? (powerOfTen n)).getD x
  else if x.isZero then x
  else divideByPower ((x.div? (powerOfTen 308)).getD x) (n - 308)
termination_by n
decreasing_by omega

/-- `significand * 10 ^ exponent`, rounded in two steps; none if it is too large. -/
def scaled? (significand : Nat) (exponent : Int) : Option Binary := do
  let x ← Binary.ofQuotient? significand 1
  if exponent < 0 then return divideByPower x exponent.natAbs
  else if exponent ≤ 308 then x.mul? (powerOfTen exponent.toNat)
  else if x.isZero then return x
  else none

def ofDigits (ds : List Nat) : Nat :=
  ds.foldl (fun n d => n * 10 + d) 0

/-- The floating-point number of a literal; none if it is too large. -/
def floating? (l : Literal) : Option Binary := do
  let (significand, dropped) := accumulate 0 l.whole
  let fraction := l.fraction.getD []
  let (significand, ignored) := accumulate significand fraction
  let shift : Int := dropped.length - (fraction.length - ignored.length : Nat)
  let magnitude ←
    match l.exponent with
    | none => scaled? significand shift
    | some (negative, ds) =>
      let e := ofDigits ds
      if greatestExponent < e then
        if significand = 0 ∨ negative then some (Binary.zero false) else none
      else scaled? significand (if negative then shift - e else shift + e)
  return magnitude.withSign l.negative

def isWhole (l : Literal) : Bool :=
  l.fraction.isNone && l.exponent.isNone

/-- The word that a literal without sign, fraction and exponent stands for. -/
def natural? (l : Literal) : Option Nat :=
  let n := ofDigits l.whole
  if l.isWhole && !l.negative && n ≤ greatestNatural then some n else none

def number? (l : Literal) : Option Number :=
  let n := ofDigits l.whole
  if l.isWhole && !l.negative && n ≤ greatestNatural then some (.natural n)
  else if l.isWhole && l.negative && 0 < n && n ≤ Nat.pow 2 63 then some (.negative n)
  else l.floating?.map .floating

end Literal

end DumpFlow.Json
