/-!
Finite binary floating-point numbers of 64 bits and the rounding of exact quotients to them. All
arithmetic is on natural numbers: a magnitude is `significand * 2 ^ exponent`.
-/

namespace DumpFlow.Decimal

/-- A finite number. A normal number has a significand of 53 bits; a smaller significand goes with
the least exponent, -1074. -/
structure Binary where
  negative : Bool
  significand : Nat
  exponent : Int
  deriving DecidableEq, Repr, Inhabited

namespace Binary

def leastExponent : Int := -1074

def greatestExponent : Int := 971

def zero (negative : Bool) : Binary := ⟨negative, 0, leastExponent⟩

def isZero (x : Binary) : Bool := x.significand == 0

def withSign (x : Binary) (negative : Bool) : Binary := { x with negative := negative }

/-- The nearest natural number to `num / den`; a tie goes to the even one. -/
def roundQuotient (num den : Nat) : Nat :=
  let q := num / den
  let r := num % den
  if 2 * r < den then q
  else if den < 2 * r then q + 1
  else q + q % 2

/-- `num / den` in units of `2 ^ exponent`, as a quotient. -/
def scale (num den : Nat) (exponent : Int) : Nat × Nat :=
  if 0 ≤ exponent then (num, den * Nat.pow 2 exponent.toNat)
  else (num * Nat.pow 2 (-exponent).toNat, den)

/-- The exponent at which `num / den` has a significand of 53 bits, or the least one. -/
def unitExponent (num den : Nat) : Int :=
  let guess : Int := (num.log2 : Int) - den.log2 - 52
  let s := scale num den guess
  let e := if s.1 < s.2 * Nat.pow 2 52 then guess - 1 else guess
  max e leastExponent

/-- The nearest number to `num / den`, ties to an even significand; none if it is too large. -/
def ofQuotient? (num den : Nat) : Option Binary :=
  if num = 0 then some (zero false)
  else
    let e := unitExponent num den
    let s := scale num den e
    let m := roundQuotient s.1 s.2
    let x : Binary := if m = Nat.pow 2 53 then ⟨false, Nat.pow 2 52, e + 1⟩ else ⟨false, m, e⟩
    if x.exponent ≤ greatestExponent then some x else none

/-- The magnitude as a quotient. -/
def quotient (x : Binary) : Nat × Nat :=
  if 0 ≤ x.exponent then (x.significand * Nat.pow 2 x.exponent.toNat, 1)
  else (x.significand, Nat.pow 2 (-x.exponent).toNat)

/-- The rounded product of two magnitudes. -/
def mul? (x y : Binary) : Option Binary :=
  ofQuotient? (x.quotient.1 * y.quotient.1) (x.quotient.2 * y.quotient.2)

/-- The rounded quotient of two magnitudes, the second not zero. -/
def div? (x y : Binary) : Option Binary :=
  ofQuotient? (x.quotient.1 * y.quotient.2) (x.quotient.2 * y.quotient.1)

end Binary

end DumpFlow.Decimal
