import RefLint.Value

/-!
# Generations of the schema language

A schema says with `$schema` which generation its keywords belong to. The generations differ in
the keywords that they know and in what some of them mean.
-/

namespace RefLint

set_option autoImplicit false

inductive Dialect where
  | draft4 | draft6 | draft7 | draft2019 | draft2020
  deriving DecidableEq

namespace Dialect

/-- The place among the generations, oldest first. -/
def age : Dialect → Nat
  | draft4 => 0
  | draft6 => 1
  | draft7 => 2
  | draft2019 => 3
  | draft2020 => 4

def isSince (first dialect : Dialect) : Bool := first.age ≤ dialect.age

def isUntil (last dialect : Dialect) : Bool := dialect.age ≤ last.age

def all : List Dialect := [draft4, draft6, draft7, draft2019, draft2020]

/-- What a schema of the generation writes behind `$schema`. -/
def address : Dialect → String
  | draft4 => "http://json-schema.org/draft-04/schema"
  | draft6 => "http://json-schema.org/draft-06/schema"
  | draft7 => "http://json-schema.org/draft-07/schema"
  | draft2019 => "https://json-schema.org/draft/2019-09/schema"
  | draft2020 => "https://json-schema.org/draft/2020-12/schema"

/-- What all addresses that describe the generation begin with. -/
def family : Dialect → String
  | draft4 => "http://json-schema.org/draft-04/"
  | draft6 => "http://json-schema.org/draft-06/"
  | draft7 => "http://json-schema.org/draft-07/"
  | draft2019 => "https://json-schema.org/draft/2019-09/"
  | draft2020 => "https://json-schema.org/draft/2020-12/"

/-- An address without the marks of empty fragments at its end. -/
def trimAddress (address : String) : String :=
  String.ofList (address.toList.reverse.dropWhile (· == '#')).reverse

def ofAddress? (address : String) : Option Dialect :=
  all.find? fun dialect => dialect.address == trimAddress address

def declared? (document : Value) : Option String :=
  match document.member? "$schema" with
  | some (.string address) => some address
  | _ => none

def ofPart (around : Dialect) (document : Value) : Dialect :=
  match declared? document with
  | some address => (ofAddress? address).getD draft2020
  | none => around

end Dialect

end RefLint
