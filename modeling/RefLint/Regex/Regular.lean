import RefLint.Regex.Class

/-!
# The grammar of regular expressions

Whether a text is an expression of the plain grammar: groups, alternatives, repetitions,
classes and conditions on the place, but no references to groups and no conditions on what
surrounds a match. A text that asks for one of the latter before any fault is told apart.
-/

namespace RefLint.Regex

set_option autoImplicit false

namespace Regular

/-- For the grammar it is of no matter which characters a set has. -/
def manner (spaced : Bool) : Manner :=
  { spaced := spaced, short := .ascii, property? := fun _ => some .none }

inductive Flag where
  | ignoresCase | lines | dotAll | lazy | unicode | carriageReturns | spaced
  deriving DecidableEq

def Flag.ofChar? : Char → Option Flag
  | 'i' => some .ignoresCase
  | 'm' => some .lines
  | 's' => some .dotAll
  | 'U' => some .lazy
  | 'u' => some .unicode
  | 'R' => some .carriageReturns
  | 'x' => some .spaced
  | _ => none

/-- Flags as they are written: those to set and, behind a hyphen, those to clear. -/
structure Flags where
  set : List Flag := []
  cleared : List Flag := []
  /-- Whether a hyphen has been read. -/
  negated : Bool := false

namespace Flags

def isEmpty (flags : Flags) : Bool := flags.set.isEmpty && flags.cleared.isEmpty && !flags.negated

def spaced? (flags : Flags) : Option Bool :=
  if flags.set.contains .spaced then some true
  else if flags.cleared.contains .spaced then some false
  else none

def add? (flags : Flags) (flag : Flag) : Option Flags :=
  if flags.set.contains flag || flags.cleared.contains flag then none
  else if flags.negated then some { flags with cleared := flag :: flags.cleared }
  else some { flags with set := flag :: flags.set }

end Flags

/-- Read flags up to a colon or a closing parenthesis, which is left. No flag stands twice, and
a hyphen has a flag behind it. -/
def readFlags (flags : Flags) (afterHyphen : Bool) : List Char → Except Fault (Taken Flags)
  | [] => .error .malformed
  | c :: rest =>
      if c = ':' || c = ')' then
        if afterHyphen then .error .malformed else .ok (flags, c :: rest)
      else if c = '-' then
        if flags.negated then .error .malformed
        else readFlags { flags with negated := true } true rest
      else
        match (Flag.ofChar? c).bind flags.add? with
        | some flags => readFlags flags false rest
        | none => .error .malformed

def readCount (spaced : Bool) (chars : List Char) : Option Nat × List Char :=
  let (digits, rest) := takeDigits (chars.length + 1) [] (chars.dropWhile isWhiteSpace)
  let after := skipSpace spaced (rest.dropWhile isWhiteSpace)
  if digits.isEmpty then (none, after)
  else (some (digits.foldl (fun value c => 10 * value + (c.toNat - '0'.toNat)) 0), after)
where
  takeDigits : Nat → List Char → List Char → List Char × List Char
    | 0, digits, chars => (digits.reverse, chars)
    | fuel + 1, digits, chars =>
        match chars with
        | c :: rest =>
            if c.isDigit then takeDigits fuel (c :: digits) (skipSpace spaced rest)
            else (digits.reverse, chars)
        | [] => (digits.reverse, [])

/-- Counts are held in 32 bits. -/
def countLimit : Nat := Nat.pow 2 32

def boundOf : Option Nat → Except Fault Nat
  | some count => if count < countLimit then .ok count else .error .malformed
  | none => .error .malformed

def checkCounts (spaced : Bool) (chars : List Char) : Except Fault (List Char) := do
  let (least, rest) := readCount spaced (skipSpace spaced chars)
  match rest with
  | ',' :: rest =>
      match skipSpace spaced rest with
      | '\x7d' :: rest => do
          let _ ← boundOf least
          pure rest
      | rest => do
          let least ← boundOf least
          let (most, rest) := readCount spaced rest
          let most ← boundOf most
          match rest with
          | '\x7d' :: rest => if most < least then .error .malformed else pure rest
          | _ => .error .malformed
  | '\x7d' :: rest => do
      let _ ← boundOf least
      pure rest
  | _ => .error .malformed

def skipLazyMark : List Char → List Char
  | '?' :: rest => rest
  | rest => rest

inductive Opening where
  | flags (spaced : Option Bool)
  | group (spaced : Option Bool)
  | named (name : List Char)

def isNameStart (c : Char) : Bool := c == '_' || Unicode.Property.alphabetic.holds c

def isNameChar (c : Char) : Bool :=
  isNameStart c || c == '.' || c == '[' || c == ']' || Unicode.Category.numerals.holds c

def readName (chars : List Char) : Except Fault (Taken (List Char)) :=
  let name := chars.takeWhile (· ≠ '>')
  match name, chars.dropWhile (· ≠ '>') with
  | first :: others, _ :: rest =>
      if isNameStart first && others.all isNameChar then .ok (name, rest) else .error .malformed
  | _, _ => .error .malformed

def readOpening : List Char → Except Fault (Taken Opening)
  | '?' :: '=' :: _ => .error .notRegular
  | '?' :: '!' :: _ => .error .notRegular
  | '?' :: '<' :: '=' :: _ => .error .notRegular
  | '?' :: '<' :: '!' :: _ => .error .notRegular
  | '?' :: 'P' :: '<' :: rest => do
      let (name, rest) ← readName rest
      pure (.named name, rest)
  | '?' :: '<' :: rest => do
      let (name, rest) ← readName rest
      pure (.named name, rest)
  | '?' :: rest => do
      let (flags, rest) ← readFlags {} false rest
      match rest with
      | ':' :: rest => pure (.group flags.spaced?, rest)
      | _ :: rest =>
          if flags.isEmpty then .error .malformed else pure (.flags flags.spaced?, rest)
      | [] => .error .malformed
  | rest => .ok (.group none, rest)

structure Progress where
  spaced : Bool := false
  /-- For each open group, whether blanks meant nothing around it. -/
  outer : List Bool := []
  names : List (List Char) := []
  /-- Whether a quantifier has something to repeat. -/
  repeatable : Bool := false

def Progress.withItem (progress : Progress) : Progress := { progress with repeatable := true }

def Progress.opened (progress : Progress) : Opening → Except Fault Progress
  | .flags spaced =>
      .ok { progress with spaced := spaced.getD progress.spaced, repeatable := false }
  | .group spaced =>
      .ok { progress with
        spaced := spaced.getD progress.spaced
        outer := progress.spaced :: progress.outer
        repeatable := false }
  | .named name =>
      if progress.names.contains name then .error .malformed
      else .ok { progress with
        outer := progress.spaced :: progress.outer
        names := name :: progress.names
        repeatable := false }

/-- Check a text from here to its end. Every round takes a character or more. -/
def checkFrom : Nat → Progress → List Char → Except Fault Unit
  | 0, _, _ => .error .malformed
  | fuel + 1, progress, chars =>
      match skipSpace progress.spaced chars with
      | [] => if progress.outer.isEmpty then .ok () else .error .malformed
      | '(' :: rest => do
          let (opening, rest) ← readOpening (skipSpace progress.spaced rest)
          let inside ← progress.opened opening
          checkFrom fuel inside rest
      | ')' :: rest =>
          match progress.outer with
          | spaced :: outer =>
              checkFrom fuel { progress with spaced, outer, repeatable := true } rest
          | [] => .error .malformed
      | '|' :: rest => checkFrom fuel { progress with repeatable := false } rest
      | '[' :: rest => do
          let (_, rest) ← readClass (manner progress.spaced) rest
          checkFrom fuel progress.withItem rest
      | '\x7b' :: rest =>
          if !progress.repeatable then .error .malformed
          else do
            let rest ← checkCounts progress.spaced rest
            checkFrom fuel progress (skipLazyMark (skipSpace progress.spaced rest))
      | '\\' :: rest => do
          let (_, rest) ← readEscape (manner progress.spaced) rest
          checkFrom fuel progress.withItem rest
      | c :: rest =>
          if c ∈ ['?', '*', '+'] then
            if progress.repeatable then checkFrom fuel progress (skipLazyMark rest)
            else .error .malformed
          else checkFrom fuel progress.withItem rest

def check (chars : List Char) : Except Fault Unit := checkFrom (chars.length + 1) {} chars

end Regular

inductive Grammar where
  | regular (text : List Char)
  /-- It asks for more, at least behind the part that is regular. -/
  | extended (text : List Char)
  | malformed

/-- Put the control character of a letter in the place of its escape; `rest` is what begins with
the letter. -/
def withControl (text rest : List Char) : List Char :=
  match rest with
  | letter :: rest =>
      text.take (text.length - rest.length - 3) ++ Char.ofNat (letter.toNat % 32) :: rest
  | [] => text

/-- Tell the grammar of a text, in which control characters written by their letters are replaced
from the front. -/
def grammarFrom : Nat → List Char → Grammar
  | 0, _ => .malformed
  | fuel + 1, text =>
      match Regular.check text with
      | .ok _ => .regular text
      | .error .notRegular => .extended text
      | .error .malformed => .malformed
      | .error (.control rest) => grammarFrom fuel (withControl text rest)

def grammarOf (text : String) : Grammar := grammarFrom (text.length + 1) text.toList

end RefLint.Regex
