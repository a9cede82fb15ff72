/-!
# Characters and places of a YAML text

A mark counts characters from the start of the text and tells the line and the
column, both from zero.
-/

namespace RefLint.Yaml

set_option autoImplicit false

structure Mark where
  index : Nat
  line : Nat
  column : Nat

namespace Mark

def start : Mark := ⟨0, 0, 0⟩

def next (mark : Mark) : Mark := ⟨mark.index + 1, mark.line, mark.column + 1⟩

def newLine (mark : Mark) (width : Nat) : Mark := ⟨mark.index + width, mark.line + 1, 0⟩

end Mark

def isBlank (c : Char) : Bool := c == ' ' || c == '\t'

/-- Line feed, carriage return, next line, line separator and paragraph separator. -/
def isBreak (c : Char) : Bool :=
  c == '\n' || c == '\r' || c == '\x85' || c == '\u2028' || c == '\u2029'

/-- What a break contributes to a scalar: the separators stand for themselves,
the others are a line feed. -/
def breakChar (c : Char) : Char := if c == '\u2028' || c == '\u2029' then c else '\n'

/-- Blank, break or end of text. -/
def startsBlank : List Char → Bool
  | [] => true
  | c :: _ => isBlank c || isBreak c

def startsBreak : List Char → Bool
  | [] => true
  | c :: _ => isBreak c

/-- Marks of the block structure; they need a blank behind them to be one. -/
def isBlockIndicator (c : Char) : Bool := c ∈ ['-', '?', ':']

def isIndicator (c : Char) : Bool :=
  isBlockIndicator c
    || c ∈ [',', '[', ']', '\x7b', '\x7d', '#', '&', '*', '!', '|', '>', '\'', '"', '%', '@', '`']

def isNameChar (c : Char) : Bool := c.isAlphanum || c == '_' || c == '-'

def isAllowed (c : Char) : Bool :=
  let n := c.toNat
  n == 0x09 || n == 0x0A || n == 0x0D || (0x20 ≤ n && n ≤ 0x7E) || n == 0x85
    || (0xA0 ≤ n && n ≤ 0xD7FF) || (0xE000 ≤ n && n ≤ 0xFFFD) || 0x10000 ≤ n

def byteOrderMark : Char := '\ufeff'

/-- Whether the text goes on with `---` or `...` and then a blank. -/
def startsDocumentMark (text : List Char) : Bool :=
  match text with
  | '-' :: '-' :: '-' :: rest => startsBlank rest
  | '.' :: '.' :: '.' :: rest => startsBlank rest
  | _ => false

structure Place where
  mark : Mark
  rest : List Char

namespace Place

/-- Step over `count` characters that are not breaks. -/
def skip (place : Place) : Nat → Place
  | 0 => place
  | count + 1 =>
      match place.rest with
      | [] => place
      | _ :: rest => skip ⟨place.mark.next, rest⟩ count

/-- Step over the longest run of characters in a class without breaks, and give it. -/
def takeFrom (accepts : Char → Bool) (mark : Mark) : List Char → List Char × Place
  | [] => ([], ⟨mark, []⟩)
  | c :: rest =>
      if accepts c then
        let (run, place) := takeFrom accepts mark.next rest
        (c :: run, place)
      else ([], ⟨mark, c :: rest⟩)

def takeWhile (place : Place) (accepts : Char → Bool) : List Char × Place :=
  takeFrom accepts place.mark place.rest

def dropWhile (place : Place) (accepts : Char → Bool) : Place := (place.takeWhile accepts).2

def dropBreak (place : Place) : Place :=
  match place.rest with
  | '\r' :: '\n' :: rest => ⟨place.mark.newLine 2, rest⟩
  | c :: rest => if isBreak c then ⟨place.mark.newLine 1, rest⟩ else place
  | [] => place

def startsWith (place : Place) (c : Char) : Bool := place.rest.head? == some c

/-- Step over blanks and a comment; `none` unless the line ends there. -/
def toLineEnd? (place : Place) : Option Place :=
  let afterBlanks := place.dropWhile isBlank
  let lineEnd :=
    if afterBlanks.startsWith '#' then afterBlanks.dropWhile fun c => !isBreak c else afterBlanks
  if startsBreak lineEnd.rest then some lineEnd.dropBreak else none

end Place

end RefLint.Yaml
