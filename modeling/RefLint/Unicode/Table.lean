/-!
# Tables of characters

A property of characters is given by the places at which it begins and ceases to
hold, in ascending order of codes. In a text such a table is written as the
distances between these places: a distance is a numeral of base 31 in which every
digit but the last has 31 added, and the digits are the decimal digits, the
capital letters and the small letters in this order. Blanks and line breaks between
digits mean nothing.
-/

namespace RefLint.Unicode

set_option autoImplicit false

def digitOf (c : Char) : Nat :=
  if c ≤ '9' then c.toNat - '0'.toNat
  else if c ≤ 'Z' then c.toNat - 'A'.toNat + 10
  else c.toNat - 'a'.toNat + 36

/-- The numbers that follow one another in a text; `begun` is the value of the digits read of the
one in front. -/
def readNumbers (begun : Nat) : List Char → List Nat
  | [] => []
  | c :: rest =>
      if digitOf c < 31 then (begun * 31 + digitOf c) :: readNumbers 0 rest
      else readNumbers (begun * 31 + (digitOf c - 31)) rest

def numbersOf (text : String) : List Nat := readNumbers 0 (text.toList.filter Char.isAlphanum)

def placesFrom (place : Nat) : List Nat → List Nat
  | [] => []
  | distance :: rest => (place + distance) :: placesFrom (place + distance) rest

/-- How many of the ascending bounds are at most `limit`. The bounds before `low` are known to
be, and those from `high` on are known not to be. -/
def countWithin (bounds : Array Nat) (limit low high : Nat) : Nat :=
  if _inside : low < high then
    let middle := low + (high - low) / 2
    if bounds.getD middle 0 ≤ limit then countWithin bounds limit (middle + 1) high
    else countWithin bounds limit low middle
  else low
termination_by high - low

/-- A property of characters, which begins to hold at the first bound. -/
structure CharTable where
  bounds : Array Nat
  deriving Inhabited

namespace CharTable

def ofText (text : String) : CharTable := ⟨(placesFrom 0 (numbersOf text)).toArray⟩

def holds (table : CharTable) (c : Char) : Bool :=
  countWithin table.bounds c.toNat 0 table.bounds.size % 2 == 1

end CharTable

/-- Numbers given to characters: each entry is the place where a run ends and the number of the
characters in it. -/
structure RunTable where
  runs : List (Nat × Nat)

namespace RunTable

def pairsFrom (place : Nat) : List Nat → List (Nat × Nat)
  | length :: number :: rest => (place + length, number) :: pairsFrom (place + length) rest
  | _ => []

def ofText (text : String) : RunTable := ⟨pairsFrom 0 (numbersOf text)⟩

/-- The bounds of the runs with an accepted number; `inside` tells whether the run before had
one. -/
def boundsFrom (accepts : Nat → Bool) (start : Nat) (inside : Bool) :
    List (Nat × Nat) → List Nat
  | [] => if inside then [start] else []
  | (stop, number) :: rest =>
      if accepts number == inside then boundsFrom accepts stop inside rest
      else start :: boundsFrom accepts stop (!inside) rest

def select (table : RunTable) (accepts : Nat → Bool) : CharTable :=
  ⟨(boundsFrom accepts 0 false table.runs).toArray⟩

end RunTable

end RefLint.Unicode
