import RefLint.Yaml.Block
import RefLint.Yaml.Plain
import RefLint.Yaml.Quoted
import RefLint.Yaml.Token

/-!
# Cutting a YAML text into tokens

Indentation opens and closes block collections, so some tokens have no text of
their own. A key without a `?` is only known for one when its colon is met:
then a key token is put in front of it, and in a block perhaps the start of a
mapping. Such a key has to lie on one line within 1024 characters.
-/

namespace RefLint.Yaml

set_option autoImplicit false

/-- A place at which a key without a `?` may have started. -/
structure PossibleKey where
  /-- Whether what stands there can be nothing but a key. -/
  required : Bool
  /-- How many tokens there were before it. -/
  tokensBefore : Nat
  mark : Mark

def PossibleKey.isStale (key : PossibleKey) (mark : Mark) : Bool :=
  key.mark.line < mark.line || key.mark.index + 1024 < mark.index

structure Cutter where
  place : Place
  /-- The tokens so far, last first. -/
  tokens : List Token := []
  count : Nat := 0
  /-- Whether a key without a `?` may start at the next token. -/
  keyAllowed : Bool := true
  /-- The possible key of the innermost flow collection, or of the block. -/
  possibleKey : Option PossibleKey := none
  /-- Those of the enclosing levels; as many as there are open flow collections. -/
  outerKeys : List (Option PossibleKey) := []
  /-- The column of the innermost block collection, -1 outside of any. -/
  indent : Int := -1
  outerIndents : List Int := []

namespace Cutter

def mark (cutter : Cutter) : Mark := cutter.place.mark

def column (cutter : Cutter) : Int := cutter.place.mark.column

def inFlow (cutter : Cutter) : Bool := !cutter.outerKeys.isEmpty

def emit (cutter : Cutter) (token : Token) : Cutter :=
  { cutter with tokens := token :: cutter.tokens, count := cutter.count + 1 }

/-- Put a token in front of the last `distance` ones. -/
def insertBack (token : Token) : Nat → List Token → List Token
  | 0, tokens => token :: tokens
  | _ + 1, [] => [token]
  | distance + 1, last :: tokens => last :: insertBack token distance tokens

def emitAt (cutter : Cutter) (before : Nat) (token : Token) : Cutter :=
  { cutter with
    tokens := insertBack token (cutter.count - before) cutter.tokens
    count := cutter.count + 1 }

def moveTo (cutter : Cutter) (place : Place) : Cutter := { cutter with place := place }

def skip (cutter : Cutter) (count : Nat) : Cutter := cutter.moveTo (cutter.place.skip count)

def allowKey (cutter : Cutter) (allowed : Bool) : Cutter := { cutter with keyAllowed := allowed }

/-- Step over blanks, comments and line breaks. Tabs may not indent a block. A byte order mark
is passed over where it is the first character of a line. -/
def skipGap (inFlow keyAllowed inComment : Bool) (mark : Mark) : List Char → Bool × Place
  | '\r' :: '\n' :: rest => skipGap inFlow (keyAllowed || !inFlow) false (mark.newLine 2) rest
  | c :: rest =>
      if isBreak c then skipGap inFlow (keyAllowed || !inFlow) false (mark.newLine 1) rest
      else if inComment || c == ' ' || (c == '\t' && (inFlow || !keyAllowed))
          || (c == byteOrderMark && mark.column == 0) then
        skipGap inFlow keyAllowed inComment mark.next rest
      else if c == '#' then skipGap inFlow keyAllowed true mark.next rest
      else (keyAllowed, ⟨mark, c :: rest⟩)
  | [] => (keyAllowed, ⟨mark, []⟩)

def toNextToken (cutter : Cutter) : Cutter :=
  let (keyAllowed, place) :=
    skipGap cutter.inFlow cutter.keyAllowed false cutter.place.mark cutter.place.rest
  { cutter with keyAllowed := keyAllowed, place := place }

/-- Give up a possible key; `none` if it had to be one. -/
def dropKey? (key : Option PossibleKey) : Option Unit :=
  if key.any (·.required) then none else some ()

def dropStaleKeys? (cutter : Cutter) : Option Cutter := do
  let fresh (key : Option PossibleKey) : Option (Option PossibleKey) :=
    if key.any (·.isStale cutter.mark) then (dropKey? key).map fun _ => none else some key
  let possibleKey ← fresh cutter.possibleKey
  let outerKeys ← cutter.outerKeys.mapM fresh
  pure { cutter with possibleKey := possibleKey, outerKeys := outerKeys }

def removeKey? (cutter : Cutter) : Option Cutter := do
  dropKey? cutter.possibleKey
  pure { cutter with possibleKey := none }

def saveKey? (cutter : Cutter) : Option Cutter :=
  if cutter.keyAllowed then do
    let cleared ← cutter.removeKey?
    let required := !cutter.inFlow && cutter.indent == cutter.column
    pure { cleared with possibleKey := some ⟨required, cutter.count, cutter.mark⟩ }
  else some cutter

def closeBlocks (column : Int) : List Int → Cutter → Cutter
  | [], cutter => cutter
  | outer :: rest, cutter =>
      if cutter.indent > column then
        closeBlocks column rest { cutter.emit .blockEnd with indent := outer, outerIndents := rest }
      else cutter

def unrollTo (cutter : Cutter) (column : Int) : Cutter :=
  if cutter.inFlow then cutter else closeBlocks column cutter.outerIndents cutter

/-- Open a block collection at `column` unless one is open there. -/
def rollTo (cutter : Cutter) (column : Int) (before : Nat) (token : Token) : Cutter :=
  if cutter.inFlow then cutter
  else if cutter.indent < column then
    { cutter.emitAt before token with
      indent := column
      outerIndents := cutter.indent :: cutter.outerIndents }
  else cutter

def rollHere (cutter : Cutter) (token : Token) : Cutter :=
  cutter.rollTo cutter.column cutter.count token

/-- Leave every block before a directive, a document mark or the end. -/
def leaveBlocks? (cutter : Cutter) : Option Cutter := do
  let left ← (cutter.unrollTo (-1)).removeKey?
  pure (left.allowKey false)

def cutEnd? (cutter : Cutter) : Option Cutter := do
  let left ← cutter.leaveBlocks?
  pure (left.emit .streamEnd)

def cutDirective? (cutter : Cutter) : Option Cutter := do
  let left ← cutter.leaveBlocks?
  let (directive, after) ← readDirective? (left.place.skip 1)
  pure ((left.moveTo after).emit (.directive directive))

def cutDocumentMark? (cutter : Cutter) (token : Token) : Option Cutter := do
  let left ← cutter.leaveBlocks?
  pure ((left.skip 3).emit token)

def openFlow? (cutter : Cutter) (token : Token) : Option Cutter := do
  let saved ← cutter.saveKey?
  let inside :=
    { saved with possibleKey := none, outerKeys := saved.possibleKey :: saved.outerKeys }
  pure (((inside.allowKey true).skip 1).emit token)

def closeFlow? (cutter : Cutter) (token : Token) : Option Cutter := do
  let cleared ← cutter.removeKey?
  let outside :=
    match cleared.outerKeys with
    | key :: keys => { cleared with possibleKey := key, outerKeys := keys }
    | [] => cleared
  pure (((outside.allowKey false).skip 1).emit token)

def cutFlowEntry? (cutter : Cutter) : Option Cutter := do
  let cleared ← cutter.removeKey?
  pure (((cleared.allowKey true).skip 1).emit .flowEntry)

/-- An indicator of a block may only stand where a key may start. -/
def cutBlockEntry? (cutter : Cutter) : Option Cutter := do
  if !cutter.inFlow && !cutter.keyAllowed then none
  else
    let cleared ← (cutter.rollHere .blockSequenceStart).removeKey?
    pure (((cleared.allowKey true).skip 1).emit .blockEntry)

def cutKey? (cutter : Cutter) : Option Cutter := do
  if !cutter.inFlow && !cutter.keyAllowed then none
  else
    let cleared ← (cutter.rollHere .blockMappingStart).removeKey?
    pure (((cleared.allowKey (!cutter.inFlow)).skip 1).emit .key)

def cutValue? (cutter : Cutter) : Option Cutter :=
  match cutter.possibleKey with
  | some key =>
      let keyed := cutter.emitAt key.tokensBefore .key
      let opened := keyed.rollTo key.mark.column key.tokensBefore .blockMappingStart
      some (((({ opened with possibleKey := none } : Cutter).allowKey false).skip 1).emit .value)
  | none =>
      if !cutter.inFlow && !cutter.keyAllowed then none
      else
        let opened := cutter.rollHere .blockMappingStart
        some (((opened.allowKey (!cutter.inFlow)).skip 1).emit .value)

def endsName (text : List Char) : Bool :=
  startsBlank text || text.head?.any (· ∈ ['?', ':', ',', ']', '}', '%', '@', '`'])

def cutName? (cutter : Cutter) (token : String → Token) : Option Cutter := do
  let saved ← cutter.saveKey?
  let (name, after) := (saved.place.skip 1).takeWhile isNameChar
  if name.isEmpty || !endsName after.rest then none
  else pure (((saved.allowKey false).moveTo after).emit (token (String.ofList name)))

def cutTag? (cutter : Cutter) : Option Cutter := do
  let saved ← cutter.saveKey?
  let (tag, after) ← readTag? saved.inFlow saved.place
  pure (((saved.allowKey false).moveTo after).emit (.tag tag))

def cutBlockScalar? (cutter : Cutter) (folded : Bool) : Option Cutter := do
  let cleared ← cutter.removeKey?
  let scalar ← readBlock folded cleared.indent (cleared.place.skip 1)
  pure (((cleared.allowKey true).moveTo scalar.after).emit (.scalar scalar.text .block))

def cutQuoted? (cutter : Cutter) (single : Bool) : Option Cutter := do
  let saved ← cutter.saveKey?
  let start := saved.place.skip 1
  let scalar ←
    if single then readSingleQuoted start.mark [] {} start.rest
    else readDoubleQuoted start.mark [] {} start.rest
  pure (((saved.allowKey false).moveTo scalar.after).emit (.scalar scalar.text .quoted))

def cutPlain? (cutter : Cutter) : Option Cutter := do
  let saved ← cutter.saveKey?
  let scalar ← readPlain saved.inFlow (saved.indent + 1) saved.mark [] {} saved.place.rest
  pure (((saved.allowKey scalar.brokenAfter).moveTo scalar.after).emit (.scalar scalar.text .plain))

def startsPlain (inFlow : Bool) (c : Char) (rest : List Char) : Bool :=
  !(isIndicator c || isBlank c)
    || (c == '-' && !(rest.head?.any isBlank))
    || (!inFlow && (c == '?' || c == ':') && !startsBlank rest)

def cutAt? (cutter : Cutter) (c : Char) (rest : List Char) : Option Cutter :=
  if cutter.column == 0 && c == '%' then cutter.cutDirective?
  else if cutter.column == 0 && startsDocumentMark (c :: rest) then
    cutter.cutDocumentMark? (if c == '-' then .documentStart else .documentEnd)
  else if c == '[' then cutter.openFlow? .flowSequenceStart
  else if c == '{' then cutter.openFlow? .flowMappingStart
  else if c == ']' then cutter.closeFlow? .flowSequenceEnd
  else if c == '}' then cutter.closeFlow? .flowMappingEnd
  else if c == ',' then cutter.cutFlowEntry?
  else if c == '-' && startsBlank rest then cutter.cutBlockEntry?
  else if c == '?' && (cutter.inFlow || startsBlank rest) then cutter.cutKey?
  else if c == ':' && (cutter.inFlow || startsBlank rest) then cutter.cutValue?
  else if c == '*' then cutter.cutName? .aliasOf
  else if c == '&' then cutter.cutName? .anchor
  else if c == '!' then cutter.cutTag?
  else if c == '|' && !cutter.inFlow then cutter.cutBlockScalar? false
  else if c == '>' && !cutter.inFlow then cutter.cutBlockScalar? true
  else if c == '\'' then cutter.cutQuoted? true
  else if c == '"' then cutter.cutQuoted? false
  else if startsPlain cutter.inFlow c rest then cutter.cutPlain?
  else none

/-- Cut the remaining text. Each round but the last reads a character or more, so
the length of the text is fuel enough. -/
def run : Nat → Cutter → Option Cutter
  | 0, _ => none
  | fuel + 1, cutter => do
      let fresh ← cutter.toNextToken.dropStaleKeys?
      let level := fresh.unrollTo fresh.column
      match level.place.rest with
      | [] => level.cutEnd?
      | c :: rest => do
          let next ← level.cutAt? c rest
          run fuel next

end Cutter

def tokens? (text : String) : Option (List Token) :=
  let chars := text.toList
  if chars.all isAllowed then
    (Cutter.run (chars.length + 1) { place := ⟨.start, chars⟩ }).map fun cutter =>
      cutter.tokens.reverse
  else none

end RefLint.Yaml
