import RefLint.Yaml.Character

/-!
# Folding of lines

Between two words of a flow scalar stand blanks, or breaks with blanks around
them. Blanks within a line are kept. A single line feed becomes a space, and
further breaks are kept without the first.
-/

namespace RefLint.Yaml

set_option autoImplicit false

/-- What has been read since the last word. All texts are held last character first. -/
structure Gap where
  /-- Blanks, as long as no break came. -/
  blanks : List Char := []
  /-- Whether the line has ended. -/
  broken : Bool := false
  /-- The first break, unless it was escaped. -/
  firstBreak : Option Char := none
  laterBreaks : List Char := []

namespace Gap

def isOpen (gap : Gap) : Bool := gap.broken || !gap.blanks.isEmpty

def addBlank (gap : Gap) (c : Char) : Gap :=
  if gap.broken then gap else { gap with blanks := c :: gap.blanks }

def addBreak (gap : Gap) (c : Char) : Gap :=
  if gap.broken then { gap with laterBreaks := breakChar c :: gap.laterBreaks }
  else { broken := true, firstBreak := some (breakChar c) }

/-- A break that was escaped leaves nothing behind. -/
def escapedBreak : Gap := { broken := true }

def close (gap : Gap) (words : List Char) : List Char :=
  if !gap.broken then gap.blanks ++ words
  else if gap.firstBreak == some '\n' then
    if gap.laterBreaks.isEmpty then ' ' :: words else gap.laterBreaks ++ words
  else gap.laterBreaks ++ (gap.firstBreak.toList ++ words)

end Gap

end RefLint.Yaml
