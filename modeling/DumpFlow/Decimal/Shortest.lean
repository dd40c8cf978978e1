import DumpFlow.Decimal.Binary

/-!
The shortest decimal digits that read back as a given binary number, and their layout. Digits are
tried from one upwards; the first count at which a decimal lies in the interval of all reals that
round to the number wins, and of several such decimals the nearest to the number.
-/

namespace DumpFlow.Decimal

/-- `digits * 10 ^ exponent`. -/
structure Digits where
  digits : Nat
  exponent : Int
  deriving DecidableEq, Repr

namespace Digits

/-- `num / den` compared with a decimal, as the two products to compare. -/
def crossed (d : Digits) (num den : Nat) : Nat × Nat :=
  if 0 ≤ d.exponent then (d.digits * Nat.pow 10 d.exponent.toNat * den, num)
  else (d.digits * den, num * Nat.pow 10 (-d.exponent).toNat)

/-- The distance from a decimal to `num / den`, in a unit that depends on its exponent only. -/
def distance (d : Digits) (num den : Nat) : Nat :=
  let c := d.crossed num den
  (c.1 - c.2) + (c.2 - c.1)

end Digits

/-- Whether a decimal rounds to `x`. Half a unit below a power of two is half as wide as above. -/
def readsBack (x : Binary) (d : Digits) : Bool :=
  let unit := x.quotient.2
  let value := 4 * x.quotient.1
  let step := value / x.significand
  let below :=
    if x.significand = Nat.pow 2 52 ∧ x.exponent ≠ Binary.leastExponent then step / 4 else step / 2
  let low := d.crossed (value - below) (4 * unit)
  let high := d.crossed (value + step / 2) (4 * unit)
  if x.significand % 2 = 0 then low.2 ≤ low.1 && high.1 ≤ high.2
  else low.2 < low.1 && high.1 < high.2

/-- The number of digits of a natural number before the point. -/
def width (n : Nat) : Nat :=
  (Nat.toDigits 10 n).length

/-- The power of ten that the first digit of `num / den` counts, for a positive quotient. -/
def leadingExponent (num den : Nat) : Int :=
  if den ≤ num then (width (num / den) : Int) - 1
  else
    let k := width (den / num)
    if den ≤ num * Nat.pow 10 (k - 1) then -((k - 1 : Nat) : Int) else -(k : Int)

/-- The decimal of `count` digits at or below the value of `x`. -/
def floorDigits (x : Binary) (count : Nat) : Digits :=
  let q := x.quotient
  let e := leadingExponent q.1 q.2 - count + 1
  if 0 ≤ e then ⟨q.1 / (q.2 * Nat.pow 10 e.toNat), e⟩ else ⟨q.1 * Nat.pow 10 (-e).toNat / q.2, e⟩

/-- The decimal of `count` digits nearest to `x` that reads back, if there is one. -/
def digitsOfCount? (x : Binary) (count : Nat) : Option Digits :=
  let q := x.quotient
  let low := floorDigits x count
  let high : Digits := { low with digits := low.digits + 1 }
  match readsBack x low, readsBack x high with
  | true, false => some low
  | false, true => some high
  | true, true =>
    let below := low.distance q.1 q.2
    let above := high.distance q.1 q.2
    if below < above ∨ (below = above ∧ low.digits % 2 = 0) then some low else some high
  | false, false => none

/-- Seventeen digits always read back, so the last case is never needed. -/
def shortest (x : Binary) : Digits :=
  if x.isZero then ⟨0, 0⟩
  else ((List.range 17).findSome? fun n => digitsOfCount? x (n + 1)).getD (floorDigits x 17)

/-- Digits without zeros at the end. -/
def trimZeros (ds : List Char) : List Char :=
  (ds.reverse.dropWhile (· == '0')).reverse

/-- How a floating-point number is written: between two exponents of its first digit with a point
at its place, outside them with a point after the first digit and an exponent. -/
structure Layout where
  leastPositional : Int
  greatestPositional : Int

/-- Points stand in place from `0.00001` on and up to sixteen digits; a positional number always
has a digit after its point. -/
def layout : Layout := ⟨-5, 15⟩

def zeros (n : Nat) : List Char := List.replicate n '0'

def positional (ds : List Char) (e : Int) : List Char :=
  if e < 0 then '0' :: '.' :: zeros (-e - 1).toNat ++ ds
  else
    let whole := e.toNat + 1
    let fraction := ds.drop whole
    ds.take whole ++ zeros (whole - ds.length) ++
      '.' :: (if fraction.isEmpty then ['0'] else fraction)

def scientific (ds : List Char) (e : Int) : List Char :=
  let fraction := ds.drop 1
  let mantissa := ds.take 1 ++ (if fraction.isEmpty then [] else '.' :: fraction)
  mantissa ++ 'e' :: (if e < 0 then '-' else '+') :: Nat.toDigits 10 e.natAbs

def Binary.render (x : Binary) : String :=
  let d := shortest x
  let all := Nat.toDigits 10 d.digits
  let e := d.exponent + all.length - 1
  let ds := if x.isZero then ['0'] else trimZeros all
  let body :=
    if layout.leastPositional ≤ e ∧ e ≤ layout.greatestPositional then positional ds e
    else scientific ds e
  String.ofList (if x.negative then '-' :: body else body)

end DumpFlow.Decimal
