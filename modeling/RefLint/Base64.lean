/-!
# Octets in base 64

Three octets are written as four characters. The last group is filled up with `=`, and the
bits that it does not need are zero.
-/

namespace RefLint.Base64

set_option autoImplicit false

def digit? (c : Char) : Option Nat :=
  if c.isUpper then some (c.toNat - 'A'.toNat)
  else if c.isLower then some (c.toNat - 'a'.toNat + 26)
  else if c.isDigit then some (c.toNat - '0'.toNat + 52)
  else if c = '+' then some 62
  else if c = '/' then some 63
  else none

def decode? : List Char → Option (List UInt8)
  | [] => some []
  | [a, b, '=', '='] => do
      let x ← digit? a
      let y ← digit? b
      if y % 16 = 0 then some [UInt8.ofNat (4 * x + y / 16)] else none
  | [a, b, c, '='] => do
      let x ← digit? a
      let y ← digit? b
      let z ← digit? c
      if z % 4 = 0 then
        some [UInt8.ofNat (4 * x + y / 16), UInt8.ofNat (16 * (y % 16) + z / 4)]
      else none
  | a :: b :: c :: d :: rest => do
      let x ← digit? a
      let y ← digit? b
      let z ← digit? c
      let w ← digit? d
      let others ← decode? rest
      some (UInt8.ofNat (4 * x + y / 16) :: UInt8.ofNat (16 * (y % 16) + z / 4)
        :: UInt8.ofNat (64 * (z % 4) + w) :: others)
  | _ => none

end RefLint.Base64
