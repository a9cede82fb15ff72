import RefLint.Json.Writer
import RefLint.Yaml.Character
import RefLint.Yaml.Scalar

/-!
# Writing YAML

Documents are written in block style. Mappings and the items inside items are
indented by two columns, sequences under a key are not, and an empty collection
stands on one line. A text is written plainly where it reads back as itself;
texts of several lines become literal blocks.
-/

namespace RefLint.Yaml

set_option autoImplicit false

/-- As in JSON, but a positive exponent has no sign. -/
def floatStyle : Decimal.Style := { Json.floatStyle with signsExponent := false }

def writeFloat (value : Binary64) : String :=
  if value.isFinite then Decimal.renderBinary64 floatStyle value else ".nan"

def writeNumber : Number → String
  | .integer value => toString value
  | .float value => writeFloat value

/-! ## The form of a text -/

inductive TextForm where
  | plain | singleQuoted | doubleQuoted | literal
  deriving DecidableEq

/-- Whether a character can stand for itself. Tabs, carriage returns and other controls
cannot, nor can the byte order mark. -/
def isPrintable (c : Char) : Bool :=
  let n := c.toNat
  n == 0x0A || (0x20 ≤ n && n ≤ 0x7E) || (0xA0 ≤ n && n ≤ 0xFFFD && c != byteOrderMark)
    || 0x10000 ≤ n

def hasInnerIndicator (previous : Char) : List Char → Bool
  | [] => false
  | c :: rest =>
      (c == ':' && startsBlank rest) || (c == '#' && (isBlank previous || isBreak previous))
        || hasInnerIndicator c rest

def hasIndicator (text : List Char) : Bool :=
  match text with
  | [] => false
  | first :: rest =>
      "---".toList.isPrefixOf text || "...".toList.isPrefixOf text
        || (isIndicator first && (!isBlockIndicator first || startsBlank rest))
        || hasInnerIndicator first rest

def hasPair (isFirst isSecond : Char → Bool) : List Char → Bool
  | c :: d :: rest => (isFirst c && isSecond d) || hasPair isFirst isSecond (d :: rest)
  | _ => false

def isSpace (c : Char) : Bool := c == ' '

def fitsSingleQuotes (text : List Char) : Bool :=
  text.all isPrintable && !hasPair isSpace isBreak text && !hasPair isBreak isSpace text

def fitsPlain (text : List Char) : Bool :=
  text.all isPrintable && !text.any isBreak && text.head? != some ' ' && text.getLast? != some ' '
    && !hasIndicator text

def fitsLiteral (text : List Char) : Bool :=
  !text.isEmpty && text.all isPrintable && !hasPair isSpace isBreak text
    && text.getLast? != some ' '

/-- Whether a plain scalar with this text would be read as something else than a string, or
as digits that are no number. -/
def readsOtherwise (text : String) : Bool :=
  match Scalar.ofPlain? text with
  | some (.string _) => hasLeadingZero text.toList
  | _ => true

def textForm (text : String) : TextForm :=
  let chars := text.toList
  if chars.contains '\n' then if fitsLiteral chars then .literal else .doubleQuoted
  else if !readsOtherwise text && fitsPlain chars then .plain
  else if fitsSingleQuotes chars then .singleQuoted
  else .doubleQuoted

/-! ## Texts -/

def spaces (count : Nat) : List Char := List.replicate count ' '

def indentLines (indent : Nat) (atStart : Bool) : List Char → List Char
  | [] => []
  | c :: rest =>
      if isBreak c then c :: indentLines indent true rest
      else (if atStart then spaces indent else []) ++ c :: indentLines indent false rest

def upperHex (value width : Nat) : List Char := (hexDigits value width).map Char.toUpper

def escapeCode (c : Char) : List Char :=
  let n := c.toNat
  if n ≤ 0xFF then 'x' :: upperHex n 2
  else if n ≤ 0xFFFF then 'u' :: upperHex n 4
  else 'U' :: upperHex n 8

def doubleQuotedChar : Char → List Char
  | '"' => ['\\', '"']
  | '\\' => ['\\', '\\']
  | '\x00' => ['\\', '0']
  | '\x07' => ['\\', 'a']
  | '\x08' => ['\\', 'b']
  | '\t' => ['\\', 't']
  | '\n' => ['\\', 'n']
  | '\x0b' => ['\\', 'v']
  | '\x0c' => ['\\', 'f']
  | '\r' => ['\\', 'r']
  | '\x1b' => ['\\', 'e']
  | '\x85' => ['\\', 'N']
  | '\u2028' => ['\\', 'L']
  | '\u2029' => ['\\', 'P']
  | c => if isPrintable c then [c] else '\\' :: escapeCode c

def writeDoubleQuoted (text : String) : String :=
  String.ofList (['"'] ++ text.toList.flatMap doubleQuotedChar ++ ['"'])

def singleQuotedChar : Char → List Char
  | '\'' => ['\'', '\'']
  | c => [c]

def writeSingleQuoted (indent : Nat) (text : String) : String :=
  String.ofList
    (indentLines indent false (['\''] ++ text.toList.flatMap singleQuotedChar ++ ['\'']))

/-- How the line breaks at the end of a literal block are kept: none, one or all of them. -/
def chompMark (text : List Char) : String :=
  match text.reverse with
  | last :: before =>
      if !isBreak last then "-"
      else
        match before with
        | [] => "+"
        | c :: _ => if isBreak c then "+" else ""
  | [] => "-"

/-- A blank or break in front hides the indentation, which is then told. -/
def indentMark (text : List Char) : String :=
  match text with
  | c :: _ => if isSpace c || isBreak c then "2" else ""
  | [] => ""

def writeLiteral (indent : Nat) (text : String) : String :=
  let chars := text.toList
  let ending := if (chars.getLast?.map isBreak).getD false then "" else "\n"
  "|" ++ indentMark chars ++ chompMark chars ++ "\n"
    ++ String.ofList (indentLines indent true chars) ++ ending

/-- A text without the end of its line, unless it is a literal block. -/
def writeText (indent : Nat) (text : String) : String :=
  match textForm text with
  | .plain => text
  | .singleQuoted => writeSingleQuoted indent text
  | .doubleQuoted => writeDoubleQuoted text
  | .literal => writeLiteral indent text

def writeTextLine (indent : Nat) (text : String) : String :=
  if textForm text = .literal then writeText indent text else writeText indent text ++ "\n"

/-- Whether a key and its value can begin on one line. -/
def isSimpleKey (key : String) : Bool := !key.toList.any isBreak && key.utf8ByteSize ≤ 128

/-! ## Values -/

def indentation (indent : Nat) : String := String.ofList (spaces indent)

def isCollection : Value → Bool
  | .array (_ :: _) => true
  | .object (_ :: _) => true
  | _ => false

def separator (indent : Nat) : Value → String
  | .array (_ :: _) => "\n" ++ indentation indent
  | .object (_ :: _) => "\n" ++ indentation (indent + 2)
  | _ => " "

def valueIndent (indent : Nat) : Value → Nat
  | .array (_ :: _) => indent
  | _ => indent + 2

def writeKey (indent : Nat) (key : String) : String :=
  if isSimpleKey key then writeText (indent + 2) key ++ ":"
  else "? " ++ writeTextLine (indent + 2) key ++ indentation indent ++ ":"

/-- A value whose first line begins at a column that is already reached. -/
def writeBlock (indent : Nat) : Value → String
  | .null => "null\n"
  | .bool value => Json.writeBool value ++ "\n"
  | .number value => writeNumber value ++ "\n"
  | .string text => writeTextLine (max 2 indent) text
  | .array [] => "[]\n"
  | .object [] => "\x7b\x7d\n"
  | .array (item :: items) => (indentation indent).intercalate (writeItems indent (item :: items))
  | .object (member :: members) =>
      (indentation indent).intercalate (writeMembers indent (member :: members))
where
  writeItems (indent : Nat) : List Value → List String
    | [] => []
    | item :: rest => ("- " ++ writeBlock (indent + 2) item) :: writeItems indent rest
  writeMembers (indent : Nat) : List (String × Value) → List String
    | [] => []
    | (key, value) :: rest =>
        (writeKey indent key
          ++ (if isSimpleKey key then
                separator indent value ++ writeBlock (valueIndent indent value) value
              else " " ++ writeBlock (indent + 2) value))
        :: writeMembers indent rest

def write (value : Value) : String := writeBlock 0 value

end RefLint.Yaml
