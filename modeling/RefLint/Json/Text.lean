import RefLint.HexDigit
import RefLint.Json.Cursor

/-!
# String literals

Reads the inside of a JSON string, up to and including the closing quote.
-/

namespace RefLint.Json

set_option autoImplicit false

def positionAfterBytes (position : Position) : Nat → List Char → Option Position
  | 0, _ => some position
  | _ + 1, [] => none
  | count + 1, c :: rest =>
      if c.utf8Size ≤ count + 1 then
        positionAfterBytes (position.after c) (count + 1 - c.utf8Size) rest
      else some ⟨position.line, position.column + (count + 1)⟩

def positionAtEnd (position : Position) (text : List Char) : Position := text.foldl .after position

/-- The four digits of a hexadecimal escape, taken as one block of four bytes. -/
def readHexBlock (cursor : Cursor) : Reading cursor Nat :=
  match h : cursor.rest with
  | a :: b :: c :: d :: rest =>
      match hexDigit? a, hexDigit? b, hexDigit? c, hexDigit? d with
      | some a', some b', some c', some d' =>
          let position := (((cursor.position.after a).after b).after c).after d
          .ok (((a' * 16 + b') * 16 + c') * 16 + d',
            ⟨⟨position, rest⟩, by simp [Cursor.size, h]; omega⟩)
      | _, _, _, _ => refuse
  | _ => refuse
where
  refuse : Reading cursor Nat :=
    match positionAfterBytes cursor.position 4 cursor.rest with
    | some position => .error ⟨.invalidEscape, position⟩
    | none => .error ⟨.endInString, positionAtEnd cursor.position cursor.rest⟩

/-- Read `c`, which has to come next after a leading surrogate. -/
def readAfterSurrogate (cursor : Cursor) (c : Char) : Reading cursor Unit :=
  match h : cursor.rest with
  | [] => cursor.fail .endInString
  | d :: rest =>
      if d = c then .ok ((), ⟨⟨cursor.position.after d, rest⟩, by simp [Cursor.size, h]⟩)
      else .error ⟨.unpairedHexEscape, cursor.position.afterFirstByte d⟩

def isLeadingSurrogate (unit : Nat) : Bool := 0xD800 ≤ unit && unit ≤ 0xDBFF

def isTrailingSurrogate (unit : Nat) : Bool := 0xDC00 ≤ unit && unit ≤ 0xDFFF

/-- What follows a `u` in an escape: one code unit, or a pair of surrogates. -/
def readUnicodeEscape (cursor : Cursor) : Except SyntaxError (Char × Advanced cursor) := do
  let (unit, first) ← readHexBlock cursor
  if isTrailingSurrogate unit then first.cursor.fail .loneLeadingSurrogate
  else if isLeadingSurrogate unit then
    let (_, second) ← (readAfterSurrogate first.cursor '\\').from (Nat.le_of_lt first.advanced)
    let (_, third) ← (readAfterSurrogate second.cursor 'u').from (Nat.le_of_lt second.advanced)
    let (low, last) ← (readHexBlock third.cursor).from (Nat.le_of_lt third.advanced)
    if isTrailingSurrogate low then
      pure (Char.ofNat (0x10000 + (unit - 0xD800) * 0x400 + (low - 0xDC00)), last)
    else last.cursor.fail .loneLeadingSurrogate
  else pure (Char.ofNat unit, first)

def simpleEscape? : Char → Option Char
  | '"' => some '"'
  | '\\' => some '\\'
  | '/' => some '/'
  | 'b' => some '\x08'
  | 'f' => some '\x0c'
  | 'n' => some '\n'
  | 'r' => some '\r'
  | 't' => some '\t'
  | _ => none

def readEscape (cursor : Cursor) : Reading cursor Char :=
  match h : cursor.rest with
  | [] => cursor.fail .endInString
  | c :: rest =>
      let next : Advanced cursor := ⟨⟨cursor.position.after c, rest⟩, by simp [Cursor.size, h]⟩
      match simpleEscape? c with
      | some meant => .ok (meant, next)
      | none =>
          if c = 'u' then Reading.from (Nat.le_of_lt next.advanced) (readUnicodeEscape next.cursor)
          else .error ⟨.invalidEscape, cursor.position.afterFirstByte c⟩

/-- Read the rest of a string; `read` holds its characters so far, last first. -/
def readText (cursor : Cursor) (read : List Char) : Reading cursor String :=
  match h : cursor.rest with
  | [] => cursor.fail .endInString
  | c :: rest =>
      let next : Cursor := ⟨cursor.position.after c, rest⟩
      have shorter : next.size < cursor.size := by simp [next, Cursor.size, h]
      if c = '"' then .ok (String.ofList read.reverse, ⟨next, shorter⟩)
      else if c = '\\' then
        match readEscape next with
        | .error error => .error error
        | .ok (meant, after) =>
            have := after.advanced
            (readText after.cursor (meant :: read)).from (by omega)
      else if c.toNat < 0x20 then next.fail .controlCharacter
      else (readText next (c :: read)).from (Nat.le_of_lt shorter)
termination_by cursor.size

end RefLint.Json
