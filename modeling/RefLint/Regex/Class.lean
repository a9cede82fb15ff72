import RefLint.Regex.Escape

/-!
# Classes in brackets

A class is a list of characters, ranges, escapes and further classes. Two of `&`, `-` and
`~` combine what stands before them with the list behind them; such combinations are read
from left to right.
-/

namespace RefLint.Regex

set_option autoImplicit false

inductive Combination where
  | intersection | difference | symmetricDifference

def Combination.apply : Combination → CharSet → CharSet → CharSet
  | intersection => CharSet.intersection
  | difference => CharSet.difference
  | symmetricDifference => CharSet.symmetricDifference

/-- A class that is being read: the operand before the last combination, and the list behind
it. -/
structure OpenClass where
  combined : Option (CharSet × Combination) := none
  items : CharSet := .none

namespace OpenClass

def add (cls : OpenClass) (set : CharSet) : OpenClass := { cls with items := cls.items.union set }

/-- The set of what has been read. The operands of a combination ignore case by themselves. -/
def set (manner : Manner) (cls : OpenClass) : CharSet :=
  match cls.combined with
  | some (left, combination) =>
      combination.apply (left.foldedIf manner.ignoresCase)
        (cls.items.foldedIf manner.ignoresCase)
  | none => cls.items

def combine (manner : Manner) (combination : Combination) (cls : OpenClass) : OpenClass :=
  ⟨some (cls.set manner, combination), .none⟩

def close (manner : Manner) (negated : Bool) (cls : OpenClass) : CharSet :=
  ((cls.set manner).foldedIf manner.ignoresCase).complementIf negated

end OpenClass

def readPosix? (chars : List Char) : Option (CharSet × List Char) := do
  let (negated, name) :=
    match chars with
    | '^' :: rest => (true, rest)
    | _ => (false, chars)
  match name.dropWhile (· ≠ ':') with
  | ':' :: ']' :: rest => do
      let set ← CharSet.posix? (String.ofList (name.takeWhile (· ≠ ':')))
      pure (set.complementIf negated, rest)
  | _ => none

def readClassItem (manner : Manner) : List Char → Except Fault (Taken Escaped)
  | '\\' :: rest => readEscape manner rest
  | c :: rest => .ok (.char c, rest)
  | [] => .error .malformed

def setOf : Escaped → Except Fault CharSet
  | .char c => .ok (.single c)
  | .set set => .ok set
  | .place => .error .malformed

def rangeOf : Escaped → Escaped → Except Fault CharSet
  | .char first, .char last => if last < first then .error .malformed else .ok (.range first last)
  | _, _ => .error .malformed

/-- Whether a hyphen is the last character of a class or part of a combination. -/
def endsRange : List Char → Bool
  | ']' :: _ => true
  | '-' :: _ => true
  | _ => false

def readClassRange (manner : Manner) (chars : List Char) : Except Fault (Taken CharSet) := do
  let (first, rest) ← readClassItem manner chars
  match skipSpace manner.spaced rest with
  | [] => .error .malformed
  | '-' :: behind =>
      let behind := skipSpace manner.spaced behind
      if endsRange behind then
        let set ← setOf first
        pure (set, '-' :: behind)
      else
        let (last, rest) ← readClassItem manner behind
        let set ← rangeOf first last
        pure (set, rest)
  | rest => do
      let set ← setOf first
      pure (set, rest)

/-- Whether a class is negated, and what stands at its front for itself: hyphens, or a closing
bracket where there is no hyphen. -/
def readClassFront (manner : Manner) (chars : List Char) : Bool × OpenClass × List Char :=
  let (negated, rest) :=
    match skipSpace manner.spaced chars with
    | '^' :: rest => (true, skipSpace manner.spaced rest)
    | rest => (false, rest)
  match rest with
  | ']' :: rest => (negated, ({} : OpenClass).add (.single ']'), rest)
  | _ =>
      let (found, rest) := skipHyphens manner.spaced false (rest.length + 1) rest
      (negated, if found then ({} : OpenClass).add (.single '-') else {}, rest)
where
  skipHyphens (spaced found : Bool) : Nat → List Char → Bool × List Char
    | 0, chars => (found, chars)
    | fuel + 1, chars =>
        match skipSpace spaced chars with
        | '-' :: rest => skipHyphens spaced true fuel rest
        | rest => (found, rest)

def readClassItems (manner : Manner) (negated : Bool) : Nat → OpenClass → List Char →
    Except Fault (Taken CharSet)
  | 0, _, _ => .error .malformed
  | fuel + 1, cls, chars =>
      match skipSpace manner.spaced chars with
      | [] => .error .malformed
      | ']' :: rest => .ok (cls.close manner negated, rest)
      | '[' :: rest =>
          match named? rest with
          | some (set, rest) =>
              readClassItems manner negated fuel (cls.add (set.foldedIf manner.ignoresCase)) rest
          | none => do
              let (innerNegated, inner, rest) := readClassFront manner rest
              let (set, rest) ← readClassItems manner innerNegated fuel inner rest
              readClassItems manner negated fuel (cls.add set) rest
      | '&' :: '&' :: rest =>
          readClassItems manner negated fuel (cls.combine manner .intersection) rest
      | '-' :: '-' :: rest =>
          readClassItems manner negated fuel (cls.combine manner .difference) rest
      | '~' :: '~' :: rest =>
          readClassItems manner negated fuel (cls.combine manner .symmetricDifference) rest
      | chars => do
          let (set, rest) ← readClassRange manner chars
          readClassItems manner negated fuel (cls.add set) rest
where
  named? : List Char → Option (CharSet × List Char)
    | ':' :: rest => readPosix? rest
    | _ => none

/-- Read a class behind its opening bracket. Every item takes a character or more, so the length
is fuel enough. -/
def readClass (manner : Manner) (chars : List Char) : Except Fault (Taken CharSet) :=
  let (negated, cls, rest) := readClassFront manner chars
  readClassItems manner negated (chars.length + 1) cls rest

end RefLint.Regex
