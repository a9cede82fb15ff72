import RefLint.Yaml.Folding
import RefLint.HexDigit

/-!
# Quoted scalars

Inside single quotes a quote is written twice and nothing else is special.
Inside double quotes a backslash starts an escape, and before a line break it
joins the lines.
-/

namespace RefLint.Yaml

set_option autoImplicit false

structure QuotedScalar where
  text : String
  after : Place

/-- A document mark at the start of a line may not stand inside quotes. -/
def refusedInQuotes (gap : Gap) (mark : Mark) (text : List Char) : Bool :=
  gap.isOpen && mark.column == 0 && startsDocumentMark text

def readSingleQuoted (mark : Mark) (words : List Char) (gap : Gap) :
    List Char → Option QuotedScalar
  | '\r' :: '\n' :: rest => readSingleQuoted (mark.newLine 2) words (gap.addBreak '\n') rest
  | '\'' :: '\'' :: rest =>
      readSingleQuoted mark.next.next ('\'' :: gap.close words) {} rest
  | c :: rest =>
      if isBlank c then readSingleQuoted mark.next words (gap.addBlank c) rest
      else if isBreak c then readSingleQuoted (mark.newLine 1) words (gap.addBreak c) rest
      else if refusedInQuotes gap mark (c :: rest) then none
      else if c == '\'' then
        some ⟨String.ofList (gap.close words).reverse, ⟨mark.next, rest⟩⟩
      else readSingleQuoted mark.next (c :: gap.close words) {} rest
  | [] => none

def simpleEscape? : Char → Option Char
  | '0' => some '\x00'
  | 'a' => some '\x07'
  | 'b' => some '\x08'
  | 't' => some '\t'
  | '\t' => some '\t'
  | 'n' => some '\n'
  | 'v' => some '\x0b'
  | 'f' => some '\x0c'
  | 'r' => some '\r'
  | 'e' => some '\x1b'
  | ' ' => some ' '
  | '"' => some '"'
  | '/' => some '/'
  | '\\' => some '\\'
  | 'N' => some '\x85'
  | '_' => some '\xa0'
  | 'L' => some '\u2028'
  | 'P' => some '\u2029'
  | _ => none

def ofHexDigits? (digits : List Char) : Option Char := do
  let values ← digits.mapM hexDigit?
  let code := values.foldl (fun value digit => value * 16 + digit) 0
  if (0xD800 ≤ code && code ≤ 0xDFFF) || code > 0x10FFFF then none else some (Char.ofNat code)

def readDoubleQuoted (mark : Mark) (words : List Char) (gap : Gap) :
    List Char → Option QuotedScalar
  | '\r' :: '\n' :: rest => readDoubleQuoted (mark.newLine 2) words (gap.addBreak '\n') rest
  | '\\' :: '\r' :: '\n' :: rest =>
      readDoubleQuoted (mark.next.newLine 2) (gap.close words) .escapedBreak rest
  | '\\' :: 'x' :: a :: b :: rest => do
      let c ← ofHexDigits? [a, b]
      readDoubleQuoted (advance mark 4) (c :: gap.close words) {} rest
  | '\\' :: 'u' :: a :: b :: c :: d :: rest => do
      let c ← ofHexDigits? [a, b, c, d]
      readDoubleQuoted (advance mark 6) (c :: gap.close words) {} rest
  | '\\' :: 'U' :: a :: b :: c :: d :: e :: f :: g :: h :: rest => do
      let c ← ofHexDigits? [a, b, c, d, e, f, g, h]
      readDoubleQuoted (advance mark 10) (c :: gap.close words) {} rest
  | '\\' :: c :: rest =>
      if isBreak c then
        readDoubleQuoted (mark.next.newLine 1) (gap.close words) .escapedBreak rest
      else do
        let meant ← simpleEscape? c
        readDoubleQuoted mark.next.next (meant :: gap.close words) {} rest
  | c :: rest =>
      if isBlank c then readDoubleQuoted mark.next words (gap.addBlank c) rest
      else if isBreak c then readDoubleQuoted (mark.newLine 1) words (gap.addBreak c) rest
      else if refusedInQuotes gap mark (c :: rest) then none
      else if c == '"' then
        some ⟨String.ofList (gap.close words).reverse, ⟨mark.next, rest⟩⟩
      else readDoubleQuoted mark.next (c :: gap.close words) {} rest
  | [] => none
where
  advance (mark : Mark) (count : Nat) : Mark :=
    ⟨mark.index + count, mark.line, mark.column + count⟩

end RefLint.Yaml
