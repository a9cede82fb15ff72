import RefLint.HexDigit
import RefLint.Splitting

/-!
# Templates of addresses

A template is a text in which expressions in braces stand for parts that are still to be
filled in. An expression is a row of names, each perhaps with a length or a star.
-/

namespace RefLint.Template

set_option autoImplicit false

/-- A digit of a percent-encoded octet; letters are small. -/
def isSmallHexDigit (c : Char) : Bool := c.isDigit || ('a' ≤ c && c ≤ 'f')

def isLiteral (c : Char) : Bool :=
  0x20 < c.toNat && c ∉ ['"', '\'', '<', '>', '%', '\\', '^', '\x60', '\x7b', '|', '\x7d']

def isNameRest : List Char → Bool
  | [] => true
  | '%' :: high :: low :: rest => isSmallHexDigit high && isSmallHexDigit low && isNameRest rest
  | c :: rest => (c.isLower || c.isDigit || c == '_') && isNameRest rest

def isLength (digits : List Char) : Bool :=
  !digits.isEmpty && digits.length ≤ 4 && digits.all Char.isDigit && digits.head? != some '0'

def isVariable (text : List Char) : Bool :=
  let name :=
    match splitOnce? [':'] text with
    | some (name, digits) => if isLength digits then name else []
    | none => if text.getLast? = some '*' then text.dropLast else text
  !name.isEmpty && isNameRest name

def isOperator (c : Char) : Bool := c ∈ ['+', '#', '.', '/', ';', '?', '&', '=', ',', '!', '@', '|']

def isExpression (text : List Char) : Bool :=
  let list :=
    match text with
    | c :: rest => if isOperator c then rest else text
    | [] => []
  (splitAt ',' list).all isVariable

/-- Read a template; every round takes a character or more. -/
def isTemplateFrom : Nat → List Char → Bool
  | _, [] => true
  | 0, _ => false
  | fuel + 1, '%' :: high :: low :: rest =>
      isSmallHexDigit high && isSmallHexDigit low && isTemplateFrom fuel rest
  | fuel + 1, '\x7b' :: rest =>
      match splitOnce? ['\x7d'] rest with
      | some (expression, behind) => isExpression expression && isTemplateFrom fuel behind
      | none => false
  | fuel + 1, c :: rest => isLiteral c && isTemplateFrom fuel rest

def isTemplate (text : List Char) : Bool := isTemplateFrom text.length text

end RefLint.Template
