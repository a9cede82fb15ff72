import RefLint.Unicode.Category
import RefLint.Unicode.Folding
import RefLint.Unicode.Property
import RefLint.Unicode.Script

/-!
# Sets of characters

The sets that one position of an expression can ask for: ranges, characters with a
property, and what is made of them by union and complement. A set can be taken without
regard to case; it then has every character that differs from a member in case only.
-/

namespace RefLint

set_option autoImplicit false

inductive CharSet where
  | range (first last : Char)
  | table (chars : Unicode.CharTable)
  | union (left right : CharSet)
  | complement (set : CharSet)
  /-- With the characters that differ from a member in case only. -/
  | folded (set : CharSet)

namespace CharSet

def contains (set : CharSet) (c : Char) : Bool :=
  match set with
  | range first last => first ≤ c && c ≤ last
  | table chars => chars.holds c
  | union left right => left.contains c || right.contains c
  | complement set => !set.contains c
  | folded set => (Unicode.Folding.alike c).any set.contains

def single (c : Char) : CharSet := range c c

/-- The set of nothing, as a range whose ends are out of order. -/
def none : CharSet := range '\x01' '\x00'

def all : CharSet := complement none

def ofChars (chars : List Char) : CharSet :=
  chars.foldl (fun set c => set.union (single c)) none

def intersection (left right : CharSet) : CharSet :=
  complement ((complement left).union (complement right))

def difference (left right : CharSet) : CharSet := intersection left (complement right)

def symmetricDifference (left right : CharSet) : CharSet :=
  (difference left right).union (difference right left)

def complementIf (negated : Bool) (set : CharSet) : CharSet :=
  if negated then complement set else set

def foldedIf (ignoresCase : Bool) (set : CharSet) : CharSet :=
  if ignoresCase then folded set else set

def notNewline : CharSet := complement (single '\n')

def digit : CharSet := range '0' '9'

def upper : CharSet := range 'A' 'Z'

def lower : CharSet := range 'a' 'z'

def letter : CharSet := upper.union lower

def hexDigit : CharSet := digit.union ((range 'A' 'F').union (range 'a' 'f'))

def word : CharSet := letter.union (digit.union (single '_'))

/-! ## Sets with a name -/

/-- The sets that are named inside brackets by `[:name:]`, all of them within ASCII. -/
def posix? : String → Option CharSet
  | "alnum" => some (letter.union digit)
  | "alpha" => some letter
  | "ascii" => some (range '\x00' '\x7f')
  | "blank" => some (ofChars ['\t', ' '])
  | "cntrl" => some ((range '\x00' '\x1f').union (single '\x7f'))
  | "digit" => some digit
  | "graph" => some (range '!' '~')
  | "lower" => some lower
  | "print" => some (range ' ' '~')
  | "punct" => some (((range '!' '/').union (range ':' '@')).union
      ((range '[' '\x60').union (range '\x7b' '~')))
  | "space" => some ((range '\t' '\r').union (single ' '))
  | "upper" => some upper
  | "word" => some word
  | "xdigit" => some hexDigit
  | _ => Option.none

/-- What counts in the name of a property: blanks, hyphens, underscores and the case of
letters do not, nor does `is` in front. -/
def plainName (name : List Char) : String :=
  let lowered := name.map Char.toLower
  let (cut, counted) :=
    match lowered with
    | 'i' :: 's' :: rest => (true, rest)
    | _ => (false, lowered)
  let kept := counted.filter fun c => c != ' ' && c != '_' && c != '-' && c.toNat < 0x80
  -- What begins with `is` and names nothing else stays as it is.
  if cut && kept == ['c'] then "isc" else String.ofList kept

def script? (name : String) : Option CharSet := (Unicode.Script.chars? name).map table

def usedWith? (name : String) : Option CharSet :=
  (script? name).map fun set => set.symmetricDifference (table (Unicode.Script.exceptionsOf name))

def category? (name : String) : Option CharSet :=
  if name = "ascii" then some (range '\x00' '\x7f')
  else if name = "any" then some all
  else (Unicode.Category.named? name).map fun categories =>
    table (Unicode.Category.charsIn categories)

def named? (name : List Char) : Option CharSet :=
  let name := plainName name
  let property : Option CharSet :=
    if name = "cf" || name = "sc" || name = "lc" then Option.none
    else (Unicode.Property.chars? name).map table
  (property.or (category? name)).or (script? name)

def valued? (property value : List Char) : Option CharSet :=
  let value := plainName value
  match plainName property with
  | "gc" | "generalcategory" => category? value
  | "sc" | "script" => script? value
  | "scx" | "scriptextensions" => usedWith? value
  | _ => Option.none

end CharSet

/-- The sets that the letters `d`, `w` and `s` stand for behind a backslash. -/
structure ShortSets where
  digit : CharSet
  word : CharSet
  blank : CharSet

namespace ShortSets

/-- Digits and words within ASCII; blanks with some that are not. -/
def ascii : ShortSets where
  digit := .digit
  word := .word
  blank := .ofChars [' ', '\t', '\n', '\r', '\x0b', '\x0c', '\u00a0', '\u2003', '\u2029', '\ufeff']

/-- Where blanks in an expression mean nothing, four of them cannot be asked for. -/
def asciiSpaced : ShortSets :=
  { ascii with blank := .ofChars ['\x0b', '\x0c', '\u00a0', '\u2003', '\u2029', '\ufeff'] }

def unicode : ShortSets where
  digit := .table Unicode.Category.decimalDigits
  word := .table Unicode.Category.wordChars
  blank := (CharSet.named? ['w', 's', 'p', 'a', 'c', 'e']).getD .none

/-- The set of a letter; a capital one stands for all other characters. -/
def named? (sets : ShortSets) (ignoresCase : Bool) (letter : Char) : Option CharSet :=
  let base :=
    match letter.toLower with
    | 'd' => some sets.digit
    | 'w' => some sets.word
    | 's' => some sets.blank
    | _ => none
  base.map fun set => (set.foldedIf ignoresCase).complementIf letter.isUpper

end ShortSets

end RefLint
