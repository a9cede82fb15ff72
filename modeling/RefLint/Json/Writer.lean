import RefLint.HexDigit
import RefLint.Value

/-!
# Writing JSON

The compact form has no blanks. The indented form puts each item and member on
a line of its own, two spaces deeper than its container, and leaves an empty
container on one line.
-/

namespace RefLint.Json

set_option autoImplicit false

/-- Doubles are positional while the exponent of their first digit lies from -5
to 15, whole doubles keep `.0`, and a positive exponent has its sign. -/
def floatStyle : Decimal.Style := ⟨-5, 16, true, true⟩

/-- Infinities and values that are not numbers have no JSON form. -/
def writeFloat (value : Binary64) : String :=
  if value.isFinite then Decimal.renderBinary64 floatStyle value else "null"

def writeNumber : Number → String
  | .integer value => toString value
  | .float value => writeFloat value

/-- Quotes, backslashes and control characters are escaped; all else stands for itself. -/
def escapeChar : Char → List Char
  | '"' => ['\\', '"']
  | '\\' => ['\\', '\\']
  | '\x08' => ['\\', 'b']
  | '\x0c' => ['\\', 'f']
  | '\n' => ['\\', 'n']
  | '\r' => ['\\', 'r']
  | '\t' => ['\\', 't']
  | c => if c.toNat < 0x20 then '\\' :: 'u' :: hexDigits c.toNat 4 else [c]

def writeString (text : String) : String :=
  String.ofList (['"'] ++ text.toList.flatMap escapeChar ++ ['"'])

def writeBool (value : Bool) : String := if value then "true" else "false"

def write : Value → String
  | .null => "null"
  | .bool value => writeBool value
  | .number value => writeNumber value
  | .string text => writeString text
  | .array items => "[" ++ ",".intercalate (writeItems items) ++ "]"
  | .object members => "\x7b" ++ ",".intercalate (writeMembers members) ++ "\x7d"
where
  writeItems : List Value → List String
    | [] => []
    | item :: rest => write item :: writeItems rest
  writeMembers : List (String × Value) → List String
    | [] => []
    | (key, value) :: rest => (writeString key ++ ":" ++ write value) :: writeMembers rest

def indentation (depth : Nat) : String := String.ofList (List.replicate (2 * depth) ' ')

/-- The indented form of a value that stands `depth` levels deep. -/
def writeIndented (depth : Nat) : Value → String
  | .null => "null"
  | .bool value => writeBool value
  | .number value => writeNumber value
  | .string text => writeString text
  | .array [] => "[]"
  | .array (item :: items) =>
      "[\n" ++ ",\n".intercalate (writeItems depth (item :: items)) ++ "\n"
        ++ indentation depth ++ "]"
  | .object [] => "\x7b\x7d"
  | .object (member :: members) =>
      "\x7b\n" ++ ",\n".intercalate (writeMembers depth (member :: members)) ++ "\n"
        ++ indentation depth ++ "\x7d"
where
  writeItems (depth : Nat) : List Value → List String
    | [] => []
    | item :: rest =>
        (indentation (depth + 1) ++ writeIndented (depth + 1) item) :: writeItems depth rest
  writeMembers (depth : Nat) : List (String × Value) → List String
    | [] => []
    | (key, value) :: rest =>
        (indentation (depth + 1) ++ writeString key ++ ": " ++ writeIndented (depth + 1) value)
          :: writeMembers depth rest

end RefLint.Json
