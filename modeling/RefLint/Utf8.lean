/-!
# Octets that are not UTF-8

Where the first octets stand that do not write a character, and how many of them there are.
-/

namespace RefLint.Utf8

set_option autoImplicit false

inductive Flaw where
  /-- The octets from a place on are not the beginning of a character. -/
  | invalid (place count : Nat)
  /-- The row ends inside a character. -/
  | incomplete (place : Nat)
  deriving DecidableEq

def Flaw.message : Flaw → String
  | invalid place count =>
      "invalid utf-8 sequence of " ++ toString count ++ " bytes from index " ++ toString place
  | incomplete place => "incomplete utf-8 byte sequence from index " ++ toString place

/-- The number of octets of a character by its first one, and the bounds of the second one. -/
def shape? (first : Nat) : Option (Nat × Nat × Nat) :=
  if first < 0x80 then some (1, 0x80, 0xBF)
  else if 0xC2 ≤ first && first ≤ 0xDF then some (2, 0x80, 0xBF)
  else if first = 0xE0 then some (3, 0xA0, 0xBF)
  else if first = 0xED then some (3, 0x80, 0x9F)
  else if 0xE1 ≤ first && first ≤ 0xEF then some (3, 0x80, 0xBF)
  else if first = 0xF0 then some (4, 0x90, 0xBF)
  else if 0xF1 ≤ first && first ≤ 0xF3 then some (4, 0x80, 0xBF)
  else if first = 0xF4 then some (4, 0x80, 0x8F)
  else none

/-- How many octets behind the first one fit, of at most `missing`. -/
def fitting (low high : Nat) : Nat → List Nat → Nat
  | 0, _ => 0
  | _ + 1, [] => 0
  | missing + 1, octet :: rest =>
      if low ≤ octet && octet ≤ high then fitting 0x80 0xBF missing rest + 1 else 0

def flawFrom? : Nat → Nat → List Nat → Option Flaw
  | 0, _, _ => none
  | _ + 1, _, [] => none
  | fuel + 1, place, first :: rest =>
      match shape? first with
      | none => some (.invalid place 1)
      | some (width, low, high) =>
          let count := fitting low high (width - 1) rest
          if count = width - 1 then flawFrom? fuel (place + width) (rest.drop (width - 1))
          else if rest.length ≤ count then some (.incomplete place)
          else some (.invalid place (count + 1))

def flaw? (octets : List UInt8) : Option Flaw :=
  flawFrom? (octets.length + 1) 0 (octets.map UInt8.toNat)

end RefLint.Utf8
