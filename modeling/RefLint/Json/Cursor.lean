import RefLint.Json.Error

/-!
# A place in a JSON text

A cursor is what remains of the text together with the position reached. Each
reading step returns a cursor with less text before it, which is what makes
the readers terminate.
-/

namespace RefLint.Json

set_option autoImplicit false

structure Cursor where
  position : Position
  rest : List Char

namespace Cursor

def ofString (text : String) : Cursor := ⟨.start, text.toList⟩

def size (cursor : Cursor) : Nat := cursor.rest.length

/-- The position of the byte that is looked at but not yet read. -/
def peekPosition (cursor : Cursor) : Position :=
  match cursor.rest with
  | [] => cursor.position
  | c :: _ => cursor.position.afterFirstByte c

/-- An error about the byte that comes next. -/
def reject {α : Type} (cursor : Cursor) (cause : Cause) : Except SyntaxError α :=
  .error ⟨cause, cursor.peekPosition⟩

/-- An error about the byte read last. -/
def fail {α : Type} (cursor : Cursor) (cause : Cause) : Except SyntaxError α :=
  .error ⟨cause, cursor.position⟩

def isBlank (c : Char) : Bool := c == ' ' || c == '\n' || c == '\t' || c == '\r'

def skipBlanksFrom (position : Position) : List Char → Cursor
  | [] => ⟨position, []⟩
  | c :: rest => if isBlank c then skipBlanksFrom (position.after c) rest else ⟨position, c :: rest⟩

def skipBlanks (cursor : Cursor) : Cursor := skipBlanksFrom cursor.position cursor.rest

theorem skip_blanks_from_size_le (position : Position) (text : List Char) :
    (skipBlanksFrom position text).size ≤ text.length := by
  induction text generalizing position with
  | nil => simp [skipBlanksFrom, size]
  | cons c rest ih =>
      simp only [skipBlanksFrom]
      split
      · exact Nat.le_trans (ih _) (Nat.le_succ _)
      · simp [size]

theorem skip_blanks_size_le (cursor : Cursor) : cursor.skipBlanks.size ≤ cursor.size :=
  skip_blanks_from_size_le _ _

theorem size_lt_of_rest {cursor : Cursor} {c : Char} {rest : List Char}
    (next : cursor.rest = c :: rest) (position : Position) :
    size ⟨position, rest⟩ < cursor.size := by
  simp [size, next]

end Cursor

/-- A cursor further on in the text than `start`. -/
structure Advanced (start : Cursor) where
  cursor : Cursor
  advanced : cursor.size < start.size

abbrev Reading (start : Cursor) (α : Type) := Except SyntaxError (α × Advanced start)

def Reading.from {earlier later : Cursor} {α : Type} (le : later.size ≤ earlier.size)
    (reading : Reading later α) : Reading earlier α :=
  reading.map fun (value, next) => (value, ⟨next.cursor, Nat.lt_of_lt_of_le next.advanced le⟩)

end RefLint.Json
