/-!
# Double-precision numbers

A double is held as its 64 bits, and every operation is exact integer
arithmetic followed by one rounding to the nearest double, ties going to the
even significand. Nothing here uses the machine's floating-point unit, so each
result can be reasoned about as a statement on natural numbers.
-/

namespace RefLint

set_option autoImplicit false

structure Binary64 where
  bits : UInt64
  deriving DecidableEq

namespace Binary64

def fractionBits : Nat := 52

/-- The exponent field shared by the infinities and the values that are not numbers. -/
def specialExponent : Nat := 0x7FF

def isNegative (x : Binary64) : Bool := x.bits.toNat / Nat.pow 2 63 == 1

def exponentField (x : Binary64) : Nat := x.bits.toNat / Nat.pow 2 fractionBits % Nat.pow 2 11

def fractionField (x : Binary64) : Nat := x.bits.toNat % Nat.pow 2 fractionBits

def isFinite (x : Binary64) : Bool := x.exponentField < specialExponent

/-- The significand `m` of a finite value, whose magnitude is `m * 2 ^ scale`. -/
def significand (x : Binary64) : Nat :=
  if x.exponentField = 0 then x.fractionField else Nat.pow 2 fractionBits + x.fractionField

def scale (x : Binary64) : Int :=
  if x.exponentField = 0 then -1074 else (x.exponentField : Int) - 1075

def isZero (x : Binary64) : Bool := x.exponentField == 0 && x.fractionField == 0

/-- The magnitude of a finite value as a quotient of natural numbers. -/
def ratio (x : Binary64) : Nat × Nat :=
  if 0 ≤ x.scale then (x.significand * Nat.pow 2 x.scale.toNat, 1)
  else (x.significand, Nat.pow 2 (-x.scale).toNat)

def withSign (negative : Bool) (magnitude : Nat) : Binary64 :=
  ⟨UInt64.ofNat (if negative then Nat.pow 2 63 + magnitude else magnitude)⟩

def zero (negative : Bool) : Binary64 := withSign negative 0

def infinity (negative : Bool) : Binary64 :=
  withSign negative (specialExponent * Nat.pow 2 fractionBits)

def notANumber : Binary64 := withSign false (specialExponent * Nat.pow 2 fractionBits + Nat.pow 2 51)

def negate (x : Binary64) : Binary64 :=
  withSign (!x.isNegative) (x.bits.toNat % Nat.pow 2 63)

/-- The quotient `numerator / denominator` rounded to the nearest natural
number, a half going to the even neighbour. -/
def roundQuotient (numerator denominator : Nat) : Nat :=
  let quotient := numerator / denominator
  let doubled := 2 * (numerator % denominator)
  if doubled > denominator || (doubled == denominator && quotient % 2 == 1) then quotient + 1
  else quotient

/-- The exponent at which `numerator / denominator` has a 53-bit integer part,
not below that of the smallest subnormal value. -/
def scaleOfRatio (numerator denominator : Nat) : Int :=
  let gap : Int := (Nat.log2 numerator : Int) - Nat.log2 denominator
  let below : Bool :=
    if 0 ≤ gap then numerator < denominator * Nat.pow 2 gap.toNat
    else numerator * Nat.pow 2 (-gap).toNat < denominator
  max (-1074) (if below then gap - 53 else gap - 52)

/-- The double nearest to `± numerator / denominator`; a magnitude beyond the
largest double rounds to infinity. -/
def ofRatio (negative : Bool) (numerator denominator : Nat) : Binary64 :=
  if numerator = 0 then zero negative
  else
    let scale := scaleOfRatio numerator denominator
    let rounded :=
      if 0 ≤ scale then roundQuotient numerator (denominator * Nat.pow 2 scale.toNat)
      else roundQuotient (numerator * Nat.pow 2 (-scale).toNat) denominator
    -- A significand that rounds up to a power of two carries into the exponent field.
    let magnitude :=
      if rounded < Nat.pow 2 fractionBits then rounded
      else (scale + 1075).toNat * Nat.pow 2 fractionBits + (rounded - Nat.pow 2 fractionBits)
    if magnitude ≥ specialExponent * Nat.pow 2 fractionBits then infinity negative
    else withSign negative magnitude

def ofNat (n : Nat) : Binary64 := ofRatio false n 1

def ofInt (i : Int) : Binary64 := ofRatio (i < 0) i.natAbs 1

def mul (x y : Binary64) : Binary64 :=
  let (a, b) := x.ratio
  let (c, d) := y.ratio
  ofRatio (x.isNegative != y.isNegative) (a * c) (b * d)

/-- Quotient of two finite values; the divisor is not zero. -/
def div (x y : Binary64) : Binary64 :=
  let (a, b) := x.ratio
  let (c, d) := y.ratio
  ofRatio (x.isNegative != y.isNegative) (a * d) (b * c)

def powerOfTen (exponent : Nat) : Binary64 := ofNat (Nat.pow 10 exponent)

/-- The double nearest to `± digits * 10 ^ exponent`. Exponents far outside the
range of doubles are settled by the number of digits alone. -/
def ofDecimal (negative : Bool) (digits : Nat) (exponent : Int) : Binary64 :=
  let length : Int := (Nat.toDigits 10 digits).length
  if digits = 0 then zero negative
  else if length + exponent > 310 then infinity negative
  else if length + exponent < -330 then zero negative
  else if 0 ≤ exponent then ofRatio negative (digits * Nat.pow 10 exponent.toNat) 1
  else ofRatio negative digits (Nat.pow 10 (-exponent).toNat)

def isIntegral (x : Binary64) : Bool :=
  let (numerator, denominator) := x.ratio
  numerator % denominator == 0

end Binary64

end RefLint
