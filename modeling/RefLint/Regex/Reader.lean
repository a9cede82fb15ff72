import RefLint.Regex.Expression
import RefLint.Regex.Regular

/-!
# Reading expressions

The grammar with references to groups and conditions on what surrounds a place. A branch is
a row of pieces, and a piece is an atom with at most one quantifier; whatever follows a
quantified atom begins a new piece. Letters of sets stand for ASCII characters in a regular
expression and for those of all scripts otherwise.
-/

namespace RefLint.Regex

set_option autoImplicit false

structure Mode where
  ignoresCase : Bool := false
  lines : Bool := false
  dotAll : Bool := false
  lazy : Bool := false
  spaced : Bool := false

structure Progress where
  rest : List Char
  mode : Mode := {}
  /-- The number of groups that have begun. -/
  groups : Nat := 0
  names : List (List Char × Nat) := []
  /-- The groups that are referred to. -/
  referenced : List Nat := []
  /-- Whether some group is referred to by number. -/
  numbered : Bool := false
  /-- References have smaller numbers than this. -/
  limit : Nat
  /-- Whether the text is a regular expression. -/
  regular : Bool

/-- A rule of the grammar; it fails on a text that it does not fit. -/
abbrev Rule := StateT Progress Option

namespace Rule

def isChar (c : Char) : Rule Bool := return (← get).rest.head? == some c

def startsWith (text : String) : Rule Bool := return text.toList.isPrefixOf (← get).rest

def drop (count : Nat) : Rule Unit :=
  modify fun progress => { progress with rest := progress.rest.drop count }

def moveTo (rest : List Char) : Rule Unit := modify fun progress => { progress with rest := rest }

def accept (text : String) : Rule Bool := do
  if ← startsWith text then
    drop text.length
    return true
  else return false

def require (text : String) : Rule Unit := do
  if !(← accept text) then failure

def mode : Rule Mode := return (← get).mode

def setMode (mode : Mode) : Rule Unit := modify fun progress => { progress with mode := mode }

def manner : Rule Manner := do
  let progress ← get
  let short : ShortSets :=
    if !progress.regular then .unicode
    else if progress.mode.spaced then .asciiSpaced
    else .ascii
  return { ignoresCase := progress.mode.ignoresCase, short, property? := propertySet? }

def beginGroup : Rule Nat :=
  modifyGet fun progress => (progress.groups + 1, { progress with groups := progress.groups + 1 })

def nameGroup (name : List Char) (number : Nat) : Rule Unit :=
  modify fun progress => { progress with names := (name, number) :: progress.names }

def refer (number : Nat) : Rule Expression := do
  modify fun progress => { progress with referenced := number :: progress.referenced }
  return .sameAs number

end Rule

open Rule

/-- The text behind a comment in parentheses; a backslash takes the meaning of what follows it. -/
def skipRemark? : List Char → Option (List Char)
  | [] => none
  | ')' :: rest => some rest
  | '\\' :: _ :: rest => skipRemark? rest
  | _ :: rest => skipRemark? rest

/-- Step over comments in parentheses and, where they mean nothing, over blanks and comments
that end with their line. -/
def skipGaps? (spaced : Bool) : Nat → List Char → Option (List Char)
  | 0, chars => some chars
  | fuel + 1, chars =>
      match chars with
      | '(' :: '?' :: '#' :: rest => do
          let rest ← skipRemark? rest
          skipGaps? spaced fuel rest
      | c :: rest =>
          if spaced && c ∈ [' ', '\r', '\n', '\t'] then skipGaps? spaced fuel rest
          else if spaced && c == '#' then skipGaps? spaced fuel (skipComment rest)
          else some chars
      | [] => some []

def skipGap : Rule Unit := do
  let progress ← get
  match skipGaps? progress.mode.spaced (progress.rest.length + 1) progress.rest with
  | some rest => moveTo rest
  | none => failure

def numberOf (digits : List Char) : Nat :=
  digits.foldl (fun value c => 10 * value + (c.toNat - '0'.toNat)) 0

def readNumber? : Rule (Option Nat) := do
  let chars := (← get).rest
  match chars.takeWhile Char.isDigit with
  | [] => return none
  | digits => do
      moveTo (chars.dropWhile Char.isDigit)
      return some (numberOf digits)

/-- The bounds of a counted repetition, if this is one; else nothing is read. -/
def readCounts? : Rule (Option (Nat × Option Nat)) := fun progress =>
  match counts progress with
  | some (bounds, after) => some (some bounds, after)
  | none => some (none, progress)
where
  counts : Rule (Nat × Option Nat) := do
    require "\x7b"
    skipGap
    let first ← readNumber?
    if first.isNone && !(← isChar ',') then failure
    let least := first.getD 0
    skipGap
    let bounds ←
      if ← accept "," then do
        skipGap
        pure (least, ← readNumber?)
      else pure (least, some least)
    skipGap
    require "\x7d"
    return bounds

def readQuantifier? : Rule (Option (Nat × Option Nat)) := do
  if ← accept "?" then return some (0, some 1)
  else if ← accept "*" then return some (0, none)
  else if ← accept "+" then return some (1, none)
  else if ← isChar '\x7b' then readCounts?
  else return none

def readGroupName (opening closing : String) : Rule (List Char) := do
  require opening
  let chars := (← get).rest
  let accepts (c : Char) : Bool :=
    c == '_' || Unicode.Property.alphabetic.holds c || Unicode.Category.numerals.holds c
  let name := chars.takeWhile accepts
  moveTo (chars.dropWhile accepts)
  require closing
  if name.isEmpty then failure else return name

def readNumbered : Rule Expression := do
  match ← readNumber? with
  | some number => do
      if number < (← get).limit then
        modify fun progress => { progress with numbered := true }
        refer number
      else failure
  | none => failure

/-- A reference to a group by name, or by a number in the place of a name. -/
def readNamed (opening closing : String) : Rule Expression := do
  let name ← readGroupName opening closing
  match ((← get).names.find? fun entry => entry.1 == name).map (·.2) with
  | some number => refer number
  | none =>
      if name.all Char.isDigit then refer (numberOf name) else failure

def literal (c : Char) : Rule Expression := do
  return .oneOf ((CharSet.single c).foldedIf (← mode).ignoresCase)

/-- A character by its code: `width` digits, or one to eight in braces. -/
def readCodedChar (width : Nat) : Rule Char := do
  let chars := (← get).rest
  let (digits, rest) ←
    if width ≤ chars.length && (chars.take width).all fun c => (hexDigit? c).isSome then
      pure (chars.take width, chars.drop width)
    else
      match chars with
      | '\x7b' :: inside =>
          let digits := inside.takeWhile fun c => (hexDigit? c).isSome
          match inside.drop digits.length with
          | '\x7d' :: rest => if digits.length ≤ 8 then pure (digits, rest) else failure
          | _ => failure
      | _ => failure
  match charOfHex? digits with
  | some c => do
      moveTo rest
      return c
  | none => failure

def takeProperty : Rule (List Char) := do
  match (← get).rest with
  | '\x7b' :: rest =>
      match rest.dropWhile (· ≠ '\x7d') with
      | _ :: after => do
          moveTo after
          return '\x7b' :: rest.takeWhile (· ≠ '\x7d') ++ ['\x7d']
      | [] => failure
  | c :: rest => do
      moveTo rest
      return [c]
  | [] => failure

def namedChar? : Char → Option Char
  | 'a' => some '\x07'
  | 'b' => some '\x08'
  | 'f' => some '\x0c'
  | 'n' => some '\n'
  | 'r' => some '\r'
  | 't' => some '\t'
  | 'v' => some '\x0b'
  | 'e' => some '\x1b'
  | _ => none

/-- The character that stands for itself behind a backslash. Outside of classes some letters do
so too, as far as they have no other meaning there. -/
def plainEscape? (inClass : Bool) (c : Char) : Option Char :=
  match namedChar? c with
  | some named => some named
  | none =>
      if c.isAlpha && !(inClass && c ∈ ['k', 'A', 'z', 'B', 'K', 'G']) then none else some c

def hexClass (negated : Bool) : List Char :=
  (if negated then "[^0-9A-Fa-f]" else "[0-9A-Fa-f]").toList

/-- A character as a class has it when it stands for itself. -/
def quotedInClass (c : Char) : List Char := if isMeta c then ['\\', c] else [c]

/-- An escape in a class, rewritten so that it is one of the plain grammar. -/
def takeClassEscape : Rule (List Char) := do
  match (← get).rest with
  | [] => failure
  | c :: rest => do
      moveTo rest
      if c.isDigit then failure
      else if c ∈ ['d', 'D', 's', 'S', 'w', 'W'] then return ['\\', c]
      else if c == 'h' || c == 'H' then return hexClass (c == 'H')
      else if c == 'x' then return quotedInClass (← readCodedChar 2)
      else if c == 'u' then return quotedInClass (← readCodedChar 4)
      else if c == 'U' then return quotedInClass (← readCodedChar 8)
      else if (c == 'p' || c == 'P') && !rest.isEmpty then return '\\' :: c :: (← takeProperty)
      else
        match plainEscape? true c with
        | some c => return quotedInClass c
        | none => failure

/-- The text of a class up to its last closing bracket, `open` of which are still missing; blanks
that mean nothing are left out. -/
def takeClass : Nat → Nat → List Char → Rule (List Char)
  | 0, _, _ => failure
  | fuel + 1, missing, taken => do
      skipGap
      match (← get).rest with
      | [] => failure
      | '\\' :: rest => do
          moveTo rest
          let text ← takeClassEscape
          takeClass fuel missing (text.reverse ++ taken)
      | '[' :: rest => do
          moveTo rest
          takeClass fuel (missing + 1) ('[' :: taken)
      | ']' :: rest => do
          moveTo rest
          if missing ≤ 1 then return (']' :: taken).reverse
          else takeClass fuel (missing - 1) (']' :: taken)
      | c :: rest => do
          moveTo rest
          takeClass fuel missing (c :: taken)

def classSet (text : List Char) : Rule CharSet := do
  match readClass (← manner) (text.drop 1) with
  | .ok (set, []) => return set
  | _ => failure

def readBrackets : Rule Expression := do
  let negated ← accept "^"
  let bracket ← accept "]"
  let front := ['['] ++ (if negated then ['^'] else []) ++ (if bracket then [']'] else [])
  let text ← takeClass ((← get).rest.length + 1) 1 front.reverse
  return .oneOf (← classSet text)

def escapedSet (text : List Char) : Rule Expression := do
  match readEscape (← manner) text with
  | .ok (.set set, []) => return .oneOf set
  | _ => failure

def place? : Char → Option Place
  | 'A' => some .textStart
  | 'z' => some .textEnd
  | 'b' => some .wordEdge
  | 'B' => some .noWordEdge
  | '<' => some .wordStart
  | '>' => some .wordEnd
  | 'G' => some .textStart
  | _ => none

def readAtomEscape : Rule Expression := do
  match (← get).rest with
  | [] => failure
  | c :: rest => do
      if c.isDigit then readNumbered
      else
        moveTo rest
        if c == 'k' then readNamed "<" ">"
        else if c == 'K' then return .nothing
        else if c ∈ ['d', 'D', 's', 'S', 'w', 'W'] then escapedSet [c]
        else if c == 'h' || c == 'H' then return .oneOf (← classSet (hexClass (c == 'H')))
        else if c == 'x' then literal (← readCodedChar 2)
        else if c == 'u' then literal (← readCodedChar 4)
        else if c == 'U' then literal (← readCodedChar 8)
        else if (c == 'p' || c == 'P') && !rest.isEmpty then escapedSet (c :: (← takeProperty))
        else
          match place? c with
          | some place =>
              if (c == 'b' || c == 'B') && rest.head? == some '\x7b' then failure
              else return .at place
          | none =>
              match plainEscape? false c with
              | some c => literal c
              | none => failure

def withFlag? (mode : Mode) (value : Bool) : Char → Option Mode
  | 'i' => some { mode with ignoresCase := value }
  | 'm' => some { mode with lines := value }
  | 's' => some { mode with dotAll := value }
  | 'U' => some { mode with lazy := value }
  | 'x' => some { mode with spaced := value }
  | 'u' => if value then some mode else none
  | _ => none

/-- Read flags up to a colon or a closing parenthesis, which is left; `count` is the number of
characters read. The result tells whether there was any flag. -/
def readFlags? : Nat → Nat → Bool → Rule Bool
  | 0, _, _ => failure
  | fuel + 1, count, negated => do
      skipGap
      match (← get).rest with
      | ':' :: _ => if negated && count = 1 then failure else return true
      | ')' :: _ =>
          if count = 0 || (negated && count = 1) then failure else return false
      | '-' :: rest => do
          if negated then failure
          moveTo rest
          readFlags? fuel (count + 1) true
      | c :: rest => do
          match withFlag? (← mode) (!negated) c with
          | some mode => do
              setMode mode
              moveTo rest
              readFlags? fuel (count + 1) negated
          | none => failure
      | [] => failure

inductive GroupKind where
  | look (direction : Direction) (expected : Bool)
  | atomic
  | numbered (number : Nat)

def GroupKind.apply (body : Expression) : GroupKind → Expression
  | look direction expected => .look direction expected body
  | atomic => .atomic body
  | numbered number => .group number body

def readGroupKind : Rule GroupKind := do
  if ← accept "?=" then return .look .ahead true
  else if ← accept "?!" then return .look .ahead false
  else if ← accept "?<=" then return .look .behind true
  else if ← accept "?<!" then return .look .behind false
  else if ← startsWith "?<" then named "?<"
  else if ← startsWith "?P<" then named "?P<"
  else if ← accept "?>" then return .atomic
  else return .numbered (← beginGroup)
where
  named (opening : String) : Rule GroupKind := do
    let number ← beginGroup
    let name ← readGroupName opening ">"
    nameGroup name number
    return .numbered number

def requireClose : Rule Unit := do
  skipGap
  require ")"

def depthLimit : Nat := 64

mutual

/-- Alternatives; `depth` is the number of groups around them. Every rule takes a character
before it calls itself again or goes on to the next smaller unit, so that the fuel suffices. -/
def readAlternatives (fuel depth : Nat) : Rule Expression := do
  match fuel with
  | 0 => failure
  | fuel + 1 => do
      let first ← readBranch fuel depth []
      skipGap
      if ← isChar '|' then
        let others ← readOthers fuel depth
        return .ofAlternatives (first :: others)
      else
        let progress ← get
        -- Groups with names cannot be referred to by number.
        if progress.numbered && !progress.names.isEmpty then failure else return first

def readOthers (fuel depth : Nat) : Rule (List Expression) := do
  match fuel with
  | 0 => failure
  | fuel + 1 => do
      if ← accept "|" then
        let first ← readBranch fuel depth []
        skipGap
        let others ← readOthers fuel depth
        return first :: others
      else return []

def readBranch (fuel depth : Nat) (read : List Expression) : Rule Expression := do
  match fuel with
  | 0 => failure
  | fuel + 1 => do
      let before := (← get).rest.length
      let piece ← readPiece fuel depth
      let after := (← get).rest.length
      if before = 0 || before = after then return .ofParts read.reverse
      else
        match piece with
        | .nothing => readBranch fuel depth read
        | piece => readBranch fuel depth (piece :: read)

def readPiece (fuel depth : Nat) : Rule Expression := do
  match fuel with
  | 0 => failure
  | fuel + 1 => do
      let atom ← readAtom fuel depth
      skipGap
      match ← readQuantifier? with
      | none => return atom
      | some (least, most) => do
          if !atom.isRepeatable then failure
          skipGap
          let swapped := (← mode).lazy
          let isLazy ← accept "?"
          let repeated := Expression.repeated atom least most (isLazy == swapped)
          if ← accept "+" then return .atomic repeated else return repeated

def readAtom (fuel depth : Nat) : Rule Expression := do
  match fuel with
  | 0 => failure
  | fuel + 1 => do
      skipGap
      match (← get).rest with
      | [] => return .nothing
      | '.' :: rest => do
          moveTo rest
          return .oneOf (if (← mode).dotAll then .all else .notNewline)
      | '^' :: rest => do
          moveTo rest
          return .at (if (← mode).lines then .lineStart else .textStart)
      | '$' :: rest => do
          moveTo rest
          return .at (if (← mode).lines then .lineEnd else .textEnd)
      | '(' :: rest => do
          moveTo rest
          if depthLimit ≤ depth + 1 then failure
          skipGap
          readGroup fuel (depth + 1)
      | '\\' :: rest => do
          moveTo rest
          readAtomEscape
      | '[' :: rest => do
          moveTo rest
          readBrackets
      | c :: rest =>
          if c ∈ ['+', '*', '?', '|', ')'] then return .nothing
          else do
            moveTo rest
            literal c

def readGroup (fuel depth : Nat) : Rule Expression := do
  match fuel with
  | 0 => failure
  | fuel + 1 => do
      if ← accept "?P=" then readNamed "" ")"
      else if ← accept "?(" then readConditional fuel depth
      else
        let flagged := (← isChar '?') && !(← startsWith "?=") && !(← startsWith "?!")
          && !(← startsWith "?<") && !(← startsWith "?P<") && !(← startsWith "?>")
        if flagged then
          drop 1
          let outer ← mode
          if ← readFlags? ((← get).rest.length + 1) 0 false then
            drop 1
            let body ← readAlternatives fuel depth
            require ")"
            setMode outer
            return body
          else
            drop 1
            return .nothing
        else
          let kind ← readGroupKind
          let body ← readAlternatives fuel depth
          requireClose
          return kind.apply body

def readConditional (fuel depth : Nat) : Rule Expression := do
  match fuel with
  | 0 => failure
  | fuel + 1 => do
      let test ←
        if (← get).rest.head?.any Char.isDigit then readNumbered
        else if ← isChar '\'' then readNamed "'" "'"
        else if ← isChar '<' then readNamed "<" ">"
        else readAlternatives fuel depth
      requireClose
      let condition :=
        match test with
        | .sameAs number => Expression.hasMatched number
        | other => other
      let before := (← get).rest.length
      let branches ← readAlternatives fuel depth
      let after := (← get).rest.length
      requireClose
      if before = after then
        match test with
        | .sameAs _ => return condition
        | _ => failure
      else
        match branches.alternatives with
        | holds :: fails => return .conditional condition holds (.ofAlternatives fails)
        | [] => return condition

end

/-- The expression that a text writes, with the groups that are referred to. -/
def readExpression? (regular : Bool) (text : List Char) : Option (Expression × List Nat) := do
  let start : Progress :=
    { rest := text, limit := (String.ofList text).utf8ByteSize / 2, regular := regular }
  let (expression, progress) ← (readAlternatives (8 * text.length + 16) 0).run start
  let settled ← expression.settle?
  let _ ← settled.groupsAfter? 1
  if progress.rest.isEmpty then some (settled, progress.referenced) else none

end RefLint.Regex
