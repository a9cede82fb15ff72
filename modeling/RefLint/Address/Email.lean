import RefLint.Address.Host
import RefLint.WhiteSpace

/-!
# Addresses of mail boxes

A local part and a domain with `@` between them, perhaps in angle brackets behind a name. The
local part is a row of words with dots between them or a quoted text, and the domain is the
name of a host or its network address in brackets.
-/

namespace RefLint.Email

set_option autoImplicit false

def size (text : List Char) : Nat := (text.map Char.utf8Size).foldl (· + ·) 0

def isWordChar (c : Char) : Bool :=
  c.isAlphanum || 0x80 ≤ c.toNat
    || c ∈ ['!', '#', '$', '%', '&', '\'', '*', '+', '-', '/', '=', '?', '^', '_', '\x60', '\x7b',
      '|', '\x7d', '~']

def isWord (text : List Char) : Bool := !text.isEmpty && text.all isWordChar

def isPrinted (c : Char) : Bool := '\x21' ≤ c && c ≤ '\x7e'

/-- The inside of a quoted text: a backslash takes the meaning of the character behind it. -/
def isQuotable : List Char → Bool
  | [] => true
  | '\\' :: c :: rest => isPrinted c && isQuotable rest
  | c :: rest =>
      (c == ' ' || c == '\t' || 0x80 ≤ c.toNat || (isPrinted c && c != '"' && c != '\\'))
        && isQuotable rest

def localLimit : Nat := 64

def isLocalPart (text : List Char) : Bool :=
  !text.isEmpty && size text ≤ localLimit
    && if text.head? = some '"' && text.getLast? = some '"' then
        text.length > 2 && isQuotable ((text.drop 1).dropLast)
      else (splitAt '.' text).all isWord

def domainLimit : Nat := 254

def isDomain (text : List Char) : Bool :=
  !text.isEmpty && size text ≤ domainLimit
    && if text.head? = some '[' && text.getLast? = some ']' then
        ((text.drop 1).dropLast).all fun c =>
          0x80 ≤ c.toNat || (isPrinted c && c != '[' && c != '\\' && c != ']')
      else (splitAt '.' text).all fun part => isWord part && size part ≤ Host.labelLimit

def splitLast? (separator : List Char) (text : List Char) : Option (List Char × List Char) :=
  (splitOnce? separator.reverse text.reverse).map fun (behind, before) =>
    (before.reverse, behind.reverse)

/-- The address without the name before it and its angle brackets. -/
def bare? (text : List Char) : Option (List Char) :=
  match splitLast? [' ', '<'] text with
  | none => some text
  | some (_, address) =>
      match (address.reverse.dropWhile isWhiteSpace) with
      | '>' :: inside => some (inside.reverse.dropWhile isWhiteSpace)
      | _ => none

/-- Whether a domain is a network address in brackets or the name of a host. -/
def isReachable (isName : List Char → Bool) (domain : List Char) : Bool :=
  if domain.head? = some '[' && domain.getLast? = some ']' then
    match (domain.drop 1).dropLast with
    | 'I' :: 'P' :: 'v' :: '6' :: ':' :: address => Network.isVersion6 address
    | address => Network.isVersion4 address
  else isName domain

def isAddress (isName : List Char → Bool) (text : List Char) : Bool :=
  match (bare? text).bind (splitLast? ['@']) with
  | some (localPart, domain) =>
      isLocalPart localPart && isDomain domain && isReachable isName domain
  | none => false

end RefLint.Email
