import RefLint.HexDigit
import RefLint.Regex.CharSet
import RefLint.Splitting
import RefLint.WhiteSpace

/-!
# Escapes of regular expressions

What a backslash and the characters behind it stand for in the grammar of regular
expressions, which has neither references to groups nor conditions on what surrounds a
match. A reader takes something off the front of a text and returns it with the rest.
-/

namespace RefLint.Regex

set_option autoImplicit false

inductive Fault where
  | malformed
  /-- It asks for something that regular expressions do not have. -/
  | notRegular
  /-- It writes a control character by its letter; what is left begins with this letter. -/
  | control (rest : List Char)

abbrev Taken (α : Type) := α × List Char

/-- How the text is read: whether blanks and comments are passed over, whether sets ignore
case, and what the letters of sets and the names of properties stand for. -/
structure Manner where
  spaced : Bool := false
  ignoresCase : Bool := false
  short : ShortSets
  property? : List Char → Option CharSet

def skipComment : List Char → List Char
  | [] => []
  | c :: rest => if c = '\n' then rest else skipComment rest

theorem skip_comment_length (chars : List Char) : (skipComment chars).length ≤ chars.length := by
  induction chars with
  | nil => simp [skipComment]
  | cons c rest shorter =>
      unfold skipComment
      split
      · simp
      · exact Nat.le_succ_of_le shorter

def skipSpace (spaced : Bool) (chars : List Char) : List Char :=
  match chars with
  | [] => []
  | c :: rest =>
      if spaced && isWhiteSpace c then skipSpace spaced rest
      else if spaced && c == '#' then skipSpace spaced (skipComment rest)
      else c :: rest
termination_by chars.length
decreasing_by
  · simp
  · have := skip_comment_length rest
    simp
    omega

inductive Escaped where
  | char (c : Char)
  | set (set : CharSet)
  /-- A condition on the place in the text. -/
  | place

def charOfHex? (digits : List Char) : Option Char := do
  let values ← digits.mapM hexDigit?
  let code := values.foldl (fun code digit => 16 * code + digit) 0
  if values.isEmpty then none
  else if code.isValidChar then some (Char.ofNat code)
  else none

def charOfCode (digits : List Char) (rest : List Char) : Except Fault (Taken Escaped) :=
  match charOfHex? digits with
  | some c => .ok (.char c, rest)
  | none => .error .malformed

def readBracedDigits (spaced : Bool) (read : List Char) :
    Nat → List Char → Except Fault (Taken (List Char))
  | 0, _ => .error .malformed
  | fuel + 1, chars =>
      match skipSpace spaced chars with
      | [] => .error .malformed
      | '\x7d' :: rest => .ok (read.reverse, rest)
      | c :: rest =>
          if (hexDigit? c).isSome then readBracedDigits spaced (c :: read) fuel rest
          else .error .malformed

def readDigits (spaced : Bool) (read : List Char) :
    Nat → List Char → Except Fault (Taken (List Char))
  | 0, chars => .ok (read.reverse, chars)
  | count + 1, chars =>
      match skipSpace spaced chars with
      | c :: rest =>
          if (hexDigit? c).isSome then readDigits spaced (c :: read) count rest
          else .error .malformed
      | [] => .error .malformed

/-- A character by its code: as many digits as the letter says, or any number in braces. -/
def readCode (spaced : Bool) (width : Nat) (chars : List Char) : Except Fault (Taken Escaped) := do
  let (digits, rest) ←
    match skipSpace spaced chars with
    | '\x7b' :: rest => readBracedDigits spaced [] (rest.length + 1) rest
    | chars => readDigits spaced [] width chars
  charOfCode digits rest

def readPropertyName (spaced : Bool) (read : List Char) :
    Nat → List Char → Except Fault (Taken (List Char))
  | 0, _ => .error .malformed
  | fuel + 1, chars =>
      match skipSpace spaced chars with
      | [] => .error .malformed
      | '\x7d' :: rest => .ok (read.reverse, rest)
      | c :: rest => readPropertyName spaced (c :: read) fuel rest

def propertySet? (name : List Char) : Option CharSet :=
  match splitOnce? ['!', '='] name with
  | some (property, value) => (CharSet.valued? property value).map CharSet.complement
  | none =>
      match (splitOnce? [':'] name).or (splitOnce? ['='] name) with
      | some (property, value) => CharSet.valued? property value
      | none => CharSet.named? name

def readProperty (spaced : Bool) (chars : List Char) : Except Fault (Taken (List Char)) :=
  match skipSpace spaced chars with
  | '\x7b' :: rest => readPropertyName spaced [] (rest.length + 1) rest
  | '\\' :: _ => .error .malformed
  | c :: rest => .ok ([c], rest)
  | [] => .error .malformed

def readPropertySet (manner : Manner) (negated : Bool) (chars : List Char) :
    Except Fault (Taken Escaped) := do
  let (name, rest) ← readProperty manner.spaced chars
  match manner.property? name with
  | some set => pure (.set ((set.foldedIf manner.ignoresCase).complementIf negated), rest)
  | none => .error .malformed

/-- Characters with a meaning of their own, which a backslash takes from them. -/
def isMeta (c : Char) : Bool :=
  c ∈ ['\\', '.', '+', '*', '?', '(', ')', '|', '[', ']', '\x7b', '\x7d', '^', '$', '#', '&',
    '-', '~']

def isEscapable (c : Char) : Bool :=
  isMeta c || (c.toNat < 0x80 && !c.isAlphanum && c != '<' && c != '>')

def readEscape (manner : Manner) : List Char → Except Fault (Taken Escaped)
  | [] => .error .malformed
  | c :: rest =>
      match c, manner.short.named? manner.ignoresCase c with
      | _, some set => .ok (.set set, rest)
      | 'x', _ => readCode manner.spaced 2 rest
      | 'u', _ => readCode manner.spaced 4 rest
      | 'U', _ => readCode manner.spaced 8 rest
      | 'p', _ => readPropertySet manner false rest
      | 'P', _ => readPropertySet manner true rest
      | 'a', _ => .ok (.char '\x07', rest)
      | 'f', _ => .ok (.char '\x0c', rest)
      | 't', _ => .ok (.char '\t', rest)
      | 'n', _ => .ok (.char '\n', rest)
      | 'r', _ => .ok (.char '\r', rest)
      | 'v', _ => .ok (.char '\x0b', rest)
      | 'c', _ => .error (if rest.head?.any Char.isAlpha then .control rest else .malformed)
      | _, _ =>
          if c.isDigit then .error .notRegular
          else if c ∈ ['A', 'z', 'b', 'B', '<', '>'] then .ok (.place, rest)
          else if isEscapable c then .ok (.char c, rest)
          else .error .malformed

end RefLint.Regex
