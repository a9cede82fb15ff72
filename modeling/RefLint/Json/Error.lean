/-!
# Syntax errors of JSON texts

An error is a cause at a line and a column. Lines count from one; the column
is the number of bytes read on the line, so it is zero just after a line end.
-/

namespace RefLint.Json

set_option autoImplicit false

structure Position where
  line : Nat
  column : Nat
  deriving DecidableEq

namespace Position

def start : Position := ⟨1, 0⟩

def after (position : Position) (c : Char) : Position :=
  if c = '\n' then ⟨position.line + 1, 0⟩ else ⟨position.line, position.column + c.utf8Size⟩

/-- The position once the first byte of `c` has been read. -/
def afterFirstByte (position : Position) (c : Char) : Position :=
  if c = '\n' then ⟨position.line + 1, 0⟩ else ⟨position.line, position.column + 1⟩

end Position

inductive Cause where
  | endInValue | endInObject | endInList | endInString
  | expectedValue | expectedIdent | expectedListEnd | expectedObjectEnd | expectedColon
  | keyNotString | trailingComma | trailingCharacters
  | invalidNumber | numberOutOfRange
  | invalidEscape | unpairedHexEscape | loneLeadingSurrogate | controlCharacter
  | recursionLimit
  deriving DecidableEq

def Cause.message : Cause → String
  | endInValue => "EOF while parsing a value"
  | endInObject => "EOF while parsing an object"
  | endInList => "EOF while parsing a list"
  | endInString => "EOF while parsing a string"
  | expectedValue => "expected value"
  | expectedIdent => "expected ident"
  | expectedListEnd => "expected `,` or `]`"
  | expectedObjectEnd => "expected `,` or `\x7d`"
  | expectedColon => "expected `:`"
  | keyNotString => "key must be a string"
  | trailingComma => "trailing comma"
  | trailingCharacters => "trailing characters"
  | invalidNumber => "invalid number"
  | numberOutOfRange => "number out of range"
  | invalidEscape => "invalid escape"
  | unpairedHexEscape => "unexpected end of hex escape"
  | loneLeadingSurrogate => "lone leading surrogate in hex escape"
  | controlCharacter => "control character (\\u0000-\\u001F) found while parsing a string"
  | recursionLimit => "recursion limit exceeded"

structure SyntaxError where
  cause : Cause
  position : Position
  deriving DecidableEq

def SyntaxError.message (error : SyntaxError) : String :=
  error.cause.message ++ " at line " ++ toString error.position.line ++ " column "
    ++ toString error.position.column

end RefLint.Json
