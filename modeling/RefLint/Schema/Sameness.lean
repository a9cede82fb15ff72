import RefLint.Value

/-!
# Values that schemas take for the same

Numbers are compared by value, so `1` is `1.0`. Mappings are the same when their
members are, in the same order.
-/

namespace RefLint.Value

set_option autoImplicit false

def sameAs : Value → Value → Bool
  | null, null => true
  | bool a, bool b => a == b
  | number a, number b => a.sameValue b
  | string a, string b => a == b
  | array items, array others => items.length == others.length && sameItems items others
  | object members, object others => members.length == others.length && sameMembers members others
  | _, _ => false
where
  sameItems : List Value → List Value → Bool
    | item :: rest, other :: others => sameAs item other && sameItems rest others
    | _, _ => true
  sameMembers : List (String × Value) → List (String × Value) → Bool
    | (key, value) :: rest, (otherKey, other) :: others =>
        key == otherKey && sameAs value other && sameMembers rest others
    | _, _ => true

def hasRepetition : List Value → Bool
  | [] => false
  | item :: rest => rest.any item.sameAs || hasRepetition rest

def nearlyEqual (x y : Number) : Bool :=
  let (a, b) := (Number.float x.toBinary64).ratio
  let (c, d) := (Number.float y.toBinary64).ratio
  (a * d - c * b).natAbs * Nat.pow 2 52 < b * d

/-- Whether a value is the constant that a schema expects. Numbers are compared as doubles. -/
def isConstant (expected value : Value) : Bool :=
  match expected, value with
  | number x, number y => nearlyEqual x y
  | _, _ => expected.sameAs value

end RefLint.Value
