import RefLint.Number

/-!
# Document values

A document is a tree of mappings, sequences and scalars. Mappings keep their
members in the order in which they were written. Operations on members act on
the first one with the key; a document read from text has no key twice.
-/

namespace RefLint

set_option autoImplicit false

inductive Value where
  | null
  | bool (value : Bool)
  | number (value : Number)
  | string (text : String)
  | array (items : List Value)
  | object (members : List (String × Value))

/-- The members of a mapping in order. -/
abbrev Members := List (String × Value)

namespace Members

def get? (key : String) : Members → Option Value
  | [] => none
  | (name, value) :: rest => if name = key then some value else get? key rest

def has (key : String) (members : Members) : Bool := (get? key members).isSome

/-- Give `key` a value: in place when the key is there, else at the end. -/
def insert (key : String) (value : Value) : Members → Members
  | [] => [(key, value)]
  | (name, old) :: rest =>
      if name = key then (name, value) :: rest else (name, old) :: insert key value rest

/-- Drop every member with the key; the others keep their order. -/
def erase (key : String) (members : Members) : Members :=
  members.filter fun member => member.1 ≠ key

def keys (members : Members) : List String := members.map (·.1)

end Members

/-- The type of a value as error texts name it. -/
inductive Kind where
  | null | boolean | number | string | array | object
  deriving DecidableEq

def Kind.name : Kind → String
  | null => "null"
  | boolean => "boolean"
  | number => "number"
  | string => "string"
  | array => "array"
  | object => "object"

namespace Value

def kind : Value → Kind
  | null => .null
  | bool _ => .boolean
  | number _ => .number
  | string _ => .string
  | array _ => .array
  | object _ => .object

def member? (key : String) : Value → Option Value
  | object members => Members.get? key members
  | _ => none

def depth : Value → Nat
  | array items => ofItems items + 1
  | object members => ofMembers members + 1
  | _ => 0
where
  ofItems : List Value → Nat
    | [] => 0
    | item :: rest => max item.depth (ofItems rest)
  ofMembers : List (String × Value) → Nat
    | [] => 0
    | (_, value) :: rest => max value.depth (ofMembers rest)

def ofNat (n : Nat) : Value := number (.integer n)

end Value

end RefLint
