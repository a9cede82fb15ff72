import RefLint.Binary64

/-!
# Shortest decimals

The decimal chosen for a double is the one with the fewest digits among those
that round back to it, and the nearest of these to the exact value. The search
runs in exact integer arithmetic over one decimal grid per digit count.
-/

namespace RefLint

set_option autoImplicit false

/-- The magnitude `digits * 10 ^ exponent`. -/
structure Decimal where
  digits : Nat
  exponent : Int
  deriving DecidableEq

namespace Decimal

/-- The set of reals that round to a positive double, as quotients over one
denominator. The ends belong to it exactly when the significand is even. -/
structure RoundingInterval where
  low : Nat
  value : Nat
  high : Nat
  denominator : Nat
  closed : Bool

/-- Below a power of two the neighbouring double is only half as far away. -/
def RoundingInterval.ofBinary64 (x : Binary64) : RoundingInterval :=
  let m := x.significand
  let lowGap := if x.fractionField == 0 && x.exponentField > 1 then 1 else 2
  let scale := x.scale - 2
  let factor := if 0 ≤ scale then Nat.pow 2 scale.toNat else 1
  { low := (4 * m - lowGap) * factor
    value := 4 * m * factor
    high := (4 * m + 2) * factor
    denominator := if 0 ≤ scale then 1 else Nat.pow 2 (-scale).toNat
    closed := m % 2 == 0 }

/-- Whether `count * 10 ^ exponent` lies in the interval. -/
def RoundingInterval.holds (interval : RoundingInterval) (count : Nat) (exponent : Int) : Bool :=
  let numerator := if 0 ≤ exponent then count * Nat.pow 10 exponent.toNat else count
  let denominator := if 0 ≤ exponent then 1 else Nat.pow 10 (-exponent).toNat
  let point := numerator * interval.denominator
  let low := interval.low * denominator
  let high := interval.high * denominator
  if interval.closed then low ≤ point && point ≤ high else low < point && point < high

/-- The exponent `e` with `10 ^ (e - 1) ≤ numerator / denominator < 10 ^ e`. -/
def leadingExponent (numerator denominator : Nat) : Int :=
  if denominator ≤ numerator then (Nat.toDigits 10 (numerator / denominator)).length
  else
    -- For a value below one, count the digits of its reciprocal.
    let reciprocal := denominator / numerator
    let length : Int := (Nat.toDigits 10 reciprocal).length
    let isPowerOfTen :=
      numerator * reciprocal == denominator && Nat.pow 10 (length.toNat - 1) == reciprocal
    if isPowerOfTen then 2 - length else 1 - length

/-- The better of the two neighbours of the value on the grid of spacing
`10 ^ exponent`, if one of them lies in the interval. -/
def neighbour? (interval : RoundingInterval) (exponent : Int) : Option Decimal :=
  let numerator :=
    if 0 ≤ exponent then interval.value else interval.value * Nat.pow 10 (-exponent).toNat
  let denominator :=
    if 0 ≤ exponent then interval.denominator * Nat.pow 10 exponent.toNat else interval.denominator
  let below := numerator / denominator
  let twiceRemainder := 2 * (numerator % denominator)
  let lowHit := below != 0 && interval.holds below exponent
  let highHit := interval.holds (below + 1) exponent
  if lowHit && highHit then
    if twiceRemainder < denominator || (twiceRemainder == denominator && below % 2 == 0) then
      some ⟨below, exponent⟩
    else some ⟨below + 1, exponent⟩
  else if lowHit then some ⟨below, exponent⟩
  else if highHit then some ⟨below + 1, exponent⟩
  else none

/-- Seventeen digits always suffice for a double. -/
def maximalDigits : Nat := 17

def dropZeros : Nat → Decimal → Decimal
  | 0, d => d
  | fuel + 1, d =>
      if d.digits != 0 && d.digits % 10 == 0 then dropZeros fuel ⟨d.digits / 10, d.exponent + 1⟩
      else d

/-- The shortest decimal that reads back as a positive finite double. -/
def shortest (x : Binary64) : Decimal :=
  if x.isZero then ⟨0, 0⟩
  else
    let interval := RoundingInterval.ofBinary64 x
    let leading := leadingExponent interval.value interval.denominator
    let candidates := (List.range maximalDigits).map fun count : Nat => leading - (count + 1)
    match candidates.findSome? (neighbour? interval) with
    | some found => dropZeros maximalDigits found
    | none => ⟨0, 0⟩

def isMultipleOf (d divisor : Decimal) : Bool :=
  let lowest := min d.exponent divisor.exponent
  let scaled (d : Decimal) : Nat := d.digits * Nat.pow 10 (d.exponent - lowest).toNat
  scaled d % scaled divisor == 0

/-- Where positional notation ends and how an exponent is written. -/
structure Style where
  /-- Positional notation is used while the decimal point stands above this place. -/
  lowestPoint : Int
  /-- Positional notation is used while the decimal point stands at most at this place. -/
  highestPoint : Int
  /-- Whether a whole number keeps `.0`. -/
  keepsFraction : Bool
  /-- Whether a positive exponent is written with its sign. -/
  signsExponent : Bool

def zeros (count : Nat) : String := String.ofList (List.replicate count '0')

def render (style : Style) (d : Decimal) : String :=
  let digits := Nat.toDigits 10 d.digits
  let point : Int := digits.length + d.exponent
  let text := String.ofList
  if style.lowestPoint < point && point ≤ style.highestPoint then
    if 0 ≤ d.exponent then
      text digits ++ zeros d.exponent.toNat ++ (if style.keepsFraction then ".0" else "")
    else if 0 < point then
      text (digits.take point.toNat) ++ "." ++ text (digits.drop point.toNat)
    else "0." ++ zeros (-point).toNat ++ text digits
  else
    let power := point - 1
    let mantissa :=
      match digits with
      | first :: second :: rest => text [first] ++ "." ++ text (second :: rest)
      | short => text short
    let sign := if 0 ≤ power && style.signsExponent then "+" else ""
    mantissa ++ "e" ++ sign ++ toString power

def renderBinary64 (style : Style) (x : Binary64) : String :=
  let magnitude :=
    if x.isZero then (if style.keepsFraction then "0.0" else "0")
    else render style (shortest x)
  if x.isNegative then "-" ++ magnitude else magnitude

end Decimal

end RefLint
