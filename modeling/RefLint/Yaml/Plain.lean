import RefLint.Yaml.Folding

/-!
# Plain scalars

A scalar without quotes goes on until an indicator ends it. In a block it may
run over several lines as long as these are indented deeper than its parent.
-/

namespace RefLint.Yaml

set_option autoImplicit false

structure PlainScalar where
  text : String
  /-- Whether a line break was read after the last word. -/
  brokenAfter : Bool
  after : Place

def isFlowIndicator (c : Char) : Bool :=
  c == ',' || c == '[' || c == ']' || c == '{' || c == '}'

/-- A colon that stands directly before one of these is refused inside a flow collection. -/
def refusedAfterColon : List Char → Bool
  | c :: _ => isFlowIndicator c || c == '?'
  | [] => false

def endsPlain (inFlow : Bool) (c : Char) (rest : List Char) : Bool :=
  (c == ':' && startsBlank rest) || (inFlow && isFlowIndicator c)

def endsAtGap (inFlow : Bool) (margin : Int) (mark : Mark) (text : List Char) : Bool :=
  (!inFlow && (mark.column : Int) < margin)
    || (mark.column == 0 && startsDocumentMark text)
    || text.head? == some '#'

/-- Read a plain scalar; lines of it that start left of `margin` do not belong to it. -/
def readPlain (inFlow : Bool) (margin : Int) (mark : Mark) (words : List Char) (gap : Gap) :
    List Char → Option PlainScalar
  | '\r' :: '\n' :: rest => readPlain inFlow margin (mark.newLine 2) words (gap.addBreak '\n') rest
  | c :: rest =>
      if isBlank c then
        if gap.broken && (mark.column : Int) < margin && c == '\t' then none
        else readPlain inFlow margin mark.next words (gap.addBlank c) rest
      else if isBreak c then readPlain inFlow margin (mark.newLine 1) words (gap.addBreak c) rest
      else if gap.isOpen && endsAtGap inFlow margin mark (c :: rest) then done gap mark (c :: rest)
      else if inFlow && c == ':' && refusedAfterColon rest then none
      else if endsPlain inFlow c rest then done gap mark (c :: rest)
      else readPlain inFlow margin mark.next (c :: gap.close words) {} rest
  | [] => done gap mark []
where
  done (gap : Gap) (mark : Mark) (rest : List Char) : Option PlainScalar :=
    some ⟨String.ofList words.reverse, gap.broken, ⟨mark, rest⟩⟩

end RefLint.Yaml
