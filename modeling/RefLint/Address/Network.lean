import RefLint.HexDigit
import RefLint.Splitting

/-!
# Network addresses

The texts of addresses of the two versions of the internet protocol.
-/

namespace RefLint.Network

set_option autoImplicit false

/-- A number below 256 in decimal digits, without a zero in front. -/
def isOctet (digits : List Char) : Bool :=
  !digits.isEmpty && digits.length ≤ 3 && digits.all Char.isDigit
    && (digits.length == 1 || digits.head? != some '0')
    && digits.foldl (fun value c => 10 * value + (c.toNat - '0'.toNat)) 0 < 256

def isVersion4 (text : List Char) : Bool :=
  let octets := splitAt '.' text
  octets.length == 4 && octets.all isOctet

def isGroup (digits : List Char) : Bool :=
  !digits.isEmpty && digits.length ≤ 4 && digits.all fun c => (hexDigit? c).isSome

/-- The number of groups of sixteen bits that a part of an address writes; an address of the
other version may stand at the end of the last part, for two of them. -/
def groupCount? (mayEndInVersion4 : Bool) (text : List Char) : Option Nat :=
  if text.isEmpty then some 0
  else
    let parts := splitAt ':' text
    match parts.reverse with
    | last :: others =>
        if !others.all isGroup then none
        else if isGroup last then some parts.length
        else if mayEndInVersion4 && isVersion4 last then some (parts.length + 1)
        else none
    | [] => none

/-- Eight groups with colons between them, or fewer where two colons stand for a gap. -/
def isVersion6 (text : List Char) : Bool :=
  match splitOnce? [':', ':'] text with
  | some (before, behind) =>
      match groupCount? false before, groupCount? true behind with
      | some front, some back => front + back ≤ 7
      | _, _ => false
  | none => groupCount? true text == some 8

end RefLint.Network
