import RefLint.Address.Network
import RefLint.Unicode.Category
import RefLint.Unicode.Property
import RefLint.Unicode.Script

/-!
# Names of hosts

A name is a row of labels with dots between them. International names may hold letters,
marks and digits of all scripts, some of them only beside certain others.
-/

namespace RefLint.Host

set_option autoImplicit false

def isAlphanumeric (c : Char) : Bool :=
  Unicode.Property.alphabetic.holds c || Unicode.Category.numerals.holds c

def labelLimit : Nat := 63

def nameLimit : Nat := 255

/-- Letters, digits, hyphens and dots; no hyphen at either end. -/
def isName (text : List Char) : Bool :=
  !text.isEmpty && text.head? != some '-' && text.getLast? != some '-'
    && text.length ≤ nameLimit
    && text.all (fun c => isAlphanumeric c || c == '-' || c == '.')
    && (splitAt '.' text).all fun label => label.length ≤ labelLimit

/-! ## International names -/

def labelChars : Unicode.CharTable :=
  Unicode.Category.charsIn
    (Unicode.Category.letters ++ Unicode.Category.marks ++ [.decimalNumber, .letterNumber])

def isIn (script : String) (c : Char) : Bool :=
  (Unicode.Script.chars? script).any fun chars => chars.holds c

/-- Marks that leave out the vowel of a letter, so that it joins the next one. -/
def isVirama (c : Char) : Bool :=
  c ∈ ['\u094d', '\u09cd', '\u0a4d', '\u0acd', '\u0b4d', '\u0bcd', '\u0c4d', '\u0ccd', '\u0d4d',
    '\u0dca', '\u0e3a', '\u0f84', '\u1039', '\u1714', '\u1734', '\u17d2', '\u1a60', '\u1b44',
    '\u1baa', '\u1bab', '\u1bf2', '\u1bf3', '\u2d7f', '\ua806', '\ua8c4', '\ua953', '\ua9c0',
    '\uaaf6', '\uabed']

def isDisallowed (c : Char) : Bool :=
  c ∈ ['\u0640', '\u07fa', '\u302e', '\u302f', '\u3031', '\u3032', '\u3033', '\u3034', '\u3035',
    '\u303b']

def isArabicDigit (c : Char) : Bool := '\u0660' ≤ c && c ≤ '\u0669'

def isPersianDigit (c : Char) : Bool := '\u06f0' ≤ c && c ≤ '\u06f9'

def fits (before : Option Char) (c : Char) (behind : Option Char) : Bool :=
  if c == '\u200d' then before.any isVirama
  else if c == '\u00b7' then before == some 'l' && behind == some 'l'
  else if c == '\u0375' then behind.any (isIn "greek")
  else if c == '\u05f3' || c == '\u05f4' then before.any (isIn "hebrew")
  else if isDisallowed c then false
  else c == '\u30fb' || c == '\u200c' || c == '-' || c.isAlphanum
    || (0x80 ≤ c.toNat && labelChars.holds c)

def allFit (before : Option Char) : List Char → Bool
  | [] => true
  | c :: rest => fits before c rest.head? && allFit (some c) rest

def isInternationalLabel (label : List Char) : Bool :=
  !label.isEmpty && label.length ≤ labelLimit
    && label.head? != some '-' && label.getLast? != some '-'
    && !label.head?.any (Unicode.Category.charsIn Unicode.Category.marks).holds
    && allFit none label
    && (!label.contains '\u30fb'
      || label.any fun c => isIn "hiragana" c || isIn "katakana" c || isIn "han" c)
    && !(label.any isArabicDigit && label.any isPersianDigit)

/-- A full stop as it is written in some scripts. -/
def plainDot (c : Char) : Char := if c ∈ ['\u3002', '\uff0e', '\uff61'] then '.' else c

def isInternationalName (text : List Char) : Bool :=
  let labels := splitAt '.' (text.map plainDot)
  -- A dot at the end stands for the root of all names.
  let counted := if labels.getLast? = some [] && labels.length > 1 then labels.dropLast else labels
  text.length ≤ nameLimit && counted.all isInternationalLabel

end RefLint.Host
