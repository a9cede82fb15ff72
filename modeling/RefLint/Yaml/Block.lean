import RefLint.Yaml.Character

/-!
# Block scalars

A block scalar takes the lines that are indented as its first one. A literal
one keeps its breaks; in a folded one a single break between two lines that do
not start with a blank becomes a space. The header decides what happens to the
breaks at the end.
-/

namespace RefLint.Yaml

set_option autoImplicit false

/-- What is kept of the breaks at the end: none, one, or all. -/
inductive Chomping where
  | strip | clip | keep
  deriving DecidableEq

structure BlockHeader where
  chomping : Chomping
  /-- The indentation relative to the parent, when it is written. -/
  increment : Option Nat
  after : Place

def chomping? : Char → Option Chomping
  | '+' => some .keep
  | '-' => some .strip
  | _ => none

/-- An indentation indicator; zero is refused by the caller. -/
def increment? (c : Char) : Option Nat :=
  if c.isDigit then some (c.toNat - '0'.toNat) else none

/-- The indicators behind `|` or `>`, in either order, and the rest of their line. -/
def readHeader? (place : Place) : Option BlockHeader := do
  let (chomping, increment, after) :=
    match place.rest with
    | c :: d :: _ =>
        match chomping? c, increment? c with
        | some chomping, _ =>
            match increment? d with
            | some increment => (chomping, some increment, place.skip 2)
            | none => (chomping, none, place.skip 1)
        | none, some increment =>
            match chomping? d with
            | some chomping => (chomping, some increment, place.skip 2)
            | none => (.clip, some increment, place.skip 1)
        | none, none => (.clip, none, place)
    | [c] =>
        match chomping? c, increment? c with
        | some chomping, _ => (chomping, none, place.skip 1)
        | none, some increment => (.clip, some increment, place.skip 1)
        | none, none => (.clip, none, place)
    | [] => (.clip, none, place)
  if increment = some 0 then none
  else
    let body ← after.toLineEnd?
    pure ⟨chomping, increment, body⟩

structure LeadingLines where
  /-- The deepest column reached. -/
  deepest : Nat
  /-- Their breaks, last first. -/
  breaks : List Char
  after : Place

def readLeading (indent : Option Nat) (deepest : Nat) (breaks : List Char) (mark : Mark) :
    List Char → Option LeadingLines
  | '\r' :: '\n' :: rest =>
      readLeading indent (max deepest mark.column) ('\n' :: breaks) (mark.newLine 2) rest
  | c :: rest =>
      let inside := indent.all fun bound => mark.column < bound
      if c == ' ' && inside then readLeading indent deepest breaks mark.next rest
      else if c == '\t' && inside then none
      else if isBreak c then
        readLeading indent (max deepest mark.column) (breakChar c :: breaks) (mark.newLine 1) rest
      else some ⟨max deepest mark.column, breaks, ⟨mark, c :: rest⟩⟩
  | [] => some ⟨max deepest mark.column, breaks, ⟨mark, []⟩⟩

structure BlockScalar where
  text : String
  after : Place

/-- The text so far, last character first, with what has been read since the last line. -/
structure BlockText where
  content : List Char := []
  /-- The break that ended the last line. -/
  lineBreak : Option Char := none
  /-- The breaks of the blank lines since. -/
  blankLines : List Char := []
  /-- Whether the last line started with a blank. -/
  startedBlank : Bool := false

namespace BlockText

def beginLine (folded : Bool) (text : BlockText) (c : Char) : BlockText :=
  let joins :=
    folded && text.lineBreak == some '\n' && !text.startedBlank && !isBlank c
  let joined :=
    if joins then (if text.blankLines.isEmpty then ' ' :: text.content else text.content)
    else text.lineBreak.toList ++ text.content
  { content := text.blankLines ++ joined, startedBlank := isBlank c }

def finish (chomping : Chomping) (text : BlockText) : String :=
  String.ofList (List.reverse
    (match chomping with
      | .strip => text.content
      | .clip => text.lineBreak.toList ++ text.content
      | .keep => text.blankLines ++ (text.lineBreak.toList ++ text.content)))

end BlockText

/-- Read the lines of a block scalar; `inLine` tells whether the place is inside one. -/
def readLines (folded : Bool) (indent : Nat) (chomping : Chomping) (inLine : Bool)
    (text : BlockText) (mark : Mark) : List Char → Option BlockScalar
  | '\r' :: '\n' :: rest =>
      readLines folded indent chomping false (endLine text inLine '\n') (mark.newLine 2) rest
  | c :: rest =>
      if isBreak c then
        readLines folded indent chomping false (endLine text inLine (breakChar c)) (mark.newLine 1)
          rest
      else if inLine then
        readLines folded indent chomping true { text with content := c :: text.content } mark.next
          rest
      else if mark.column < indent && c == ' ' then
        readLines folded indent chomping false text mark.next rest
      else if mark.column < indent && c == '\t' then none
      else if mark.column == indent then
        let line := text.beginLine folded c
        readLines folded indent chomping true { line with content := c :: line.content } mark.next
          rest
      else some ⟨text.finish chomping, ⟨mark, c :: rest⟩⟩
  | [] => some ⟨text.finish chomping, ⟨mark, []⟩⟩
where
  endLine (text : BlockText) (inLine : Bool) (c : Char) : BlockText :=
    if inLine then { text with lineBreak := some c }
    else { text with blankLines := c :: text.blankLines }

/-- Read what follows `|` or `>` below a parent that is indented by `parent`. -/
def readBlock (folded : Bool) (parent : Int) (place : Place) : Option BlockScalar := do
  let header ← readHeader? place
  let known := header.increment.map fun increment =>
    if 0 ≤ parent then parent.toNat + increment else increment
  let leading ← readLeading known 0 [] header.after.mark header.after.rest
  let indent := known.getD (max (max leading.deepest (parent + 1).toNat) 1)
  readLines folded indent header.chomping false { blankLines := leading.breaks }
    leading.after.mark leading.after.rest

end RefLint.Yaml
