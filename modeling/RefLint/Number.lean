import RefLint.Decimal.Shortest

/-!
# Numbers of a document

An integer stays an integer; everything else is a double. Comparisons are
exact: neither side is rounded to the other's representation.
-/

namespace RefLint

set_option autoImplicit false

inductive Number where
  | integer (value : Int)
  | float (value : Binary64)
  deriving DecidableEq

namespace Number

/-- The integers that a document can hold as integers. -/
def smallestInteger : Int := -(Int.pow 2 63)

def largestInteger : Int := Int.pow 2 64 - 1

/-- The value as a signed quotient; floats of a document are finite. -/
def ratio : Number → Int × Nat
  | integer value => (value, 1)
  | float value =>
      let (numerator, denominator) := value.ratio
      (if value.isNegative then -(numerator : Int) else numerator, denominator)

def lt (x y : Number) : Bool :=
  let (a, b) := x.ratio
  let (c, d) := y.ratio
  a * d < c * b

/-- Equality of values, so `1` and `1.0` are the same. -/
def sameValue (x y : Number) : Bool :=
  let (a, b) := x.ratio
  let (c, d) := y.ratio
  a * d == c * b

/-- Whether the value is whole, whichever way it is held. -/
def isWhole : Number → Bool
  | integer _ => true
  | float value => value.isIntegral

def isFloat : Number → Bool
  | integer _ => false
  | float _ => true

def toBinary64 : Number → Binary64
  | integer value => Binary64.ofInt value
  | float value => value

end Number

end RefLint
