/-!
Binary floating point with 53 significant bits. A decimal `mantissa * 10 ^ exponent` is rounded to
the nearest number of that form, a half to the even neighbour, and `wholePart?` says which whole
number the result is.
-/
namespace TestBench.Number
set_option autoImplicit false

/-- A rounded number: `significand * 2 ^ exponent`, or too large for any. -/
inductive Rounded where
  | finite (significand exponent : Int)
  | infinite
deriving DecidableEq, Repr

/-- A quotient rounded to a whole number, a half to the even neighbour. -/
def roundHalfEven (numerator denominator : Nat) : Nat :=
  let quotient := numerator / denominator
  let twice := 2 * (numerator % denominator)
  if twice < denominator then quotient
  else if denominator < twice then quotient + 1
  else if quotient % 2 = 0 then quotient else quotient + 1

def leastExponent : Int := -1074

/-- Numbers reach `2 ^ topExponent` only after rounding, and then they are too large. -/
def topExponent : Nat := 1024

/-- Significands stay below this number. -/
def significandLimit : Nat := Nat.pow 2 53

/-- Whole numbers from this one on are too large: it lies half way between the largest number and
`2 ^ topExponent`. -/
def overflowBound : Nat :=
  (2 * significandLimit - 1) * Nat.pow 2 (topExponent - 54)

/-- A quotient over a power of two, as a quotient of whole numbers. -/
def overPower (numerator denominator : Nat) (exponent : Int) : Nat × Nat :=
  if 0 ≤ exponent then (numerator, denominator * Nat.pow 2 exponent.toNat)
  else (numerator * Nat.pow 2 (-exponent).toNat, denominator)

/-- The exponent at which a quotient has 53 significant bits, or the smallest one. -/
def exponentFor (numerator denominator : Nat) : Int :=
  let guess : Int := (numerator.log2 : Int) - (denominator.log2 : Int) - 53
  let (top, bottom) := overPower numerator denominator guess
  let exponent := if top / bottom < significandLimit then guess else guess + 1
  max exponent leastExponent

/-- A quotient of whole numbers rounded to 53 bits. -/
def nearestQuotient (numerator denominator : Nat) : Rounded :=
  let exponent := exponentFor numerator denominator
  let (top, bottom) := overPower numerator denominator exponent
  let significand := roundHalfEven top bottom
  if 0 ≤ exponent ∧ Nat.pow 2 topExponent ≤ significand * Nat.pow 2 exponent.toNat then .infinite
  else .finite significand exponent

/-- Decimals from this power of ten on are too large. -/
def decimalTop : Int := 310

/-- Decimals below this power of ten are rounded to zero. -/
def decimalBottom : Int := -330

/-- A decimal rounded to 53 bits. -/
def nearest (mantissa exponent : Int) : Rounded :=
  let size := mantissa.natAbs
  let digits : Int := (Nat.toDigits 10 size).length
  let sized : Rounded :=
    if size = 0 ∨ digits + exponent < decimalBottom then .finite 0 0
    else if decimalTop < digits + exponent then .infinite
    else if 0 ≤ exponent then nearestQuotient (size * Nat.pow 10 exponent.toNat) 1
    else nearestQuotient size (Nat.pow 10 (-exponent).toNat)
  match sized with
  | .finite significand power => .finite (mantissa.sign * significand) power
  | .infinite => .infinite

/-- The whole number that a finite number is, if it is one. -/
def wholePart? (significand exponent : Int) : Option Int :=
  let scale : Int := Nat.pow 2 exponent.natAbs
  if 0 ≤ exponent then some (significand * scale)
  else if significand % scale = 0 then some (significand / scale)
  else none

end TestBench.Number
