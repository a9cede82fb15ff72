import RefLint.Address.Network

/-!
# Addresses of resources

An address has a scheme, an authority, a path, a query and a fragment, of which a reference
may leave out some. `Uri.parse` reads a reference and tells where it goes wrong; `Uri.resolve`
gives the address that a reference means at a place with an address of its own.
-/

namespace RefLint

set_option autoImplicit false

/-- What is wrong with a reference, with the number of octets before it. -/
inductive UriFault where
  | unexpected (index : Nat)
  | invalidOctet (index : Nat)
  deriving DecidableEq

def UriFault.message : UriFault → String
  | unexpected index => "unexpected character at index " ++ toString index
  | invalidOctet index => "invalid percent-encoded octet at index " ++ toString index

structure Uri where
  scheme : Option (List Char) := none
  authority : Option (List Char) := none
  path : List Char := []
  query : Option (List Char) := none
  fragment : Option (List Char) := none
  deriving DecidableEq

namespace Uri

def isUnreserved (c : Char) : Bool := c.isAlphanum || c ∈ ['-', '.', '_', '~']

def isSubDelimiter (c : Char) : Bool :=
  c ∈ ['!', '$', '&', '\'', '(', ')', '*', '+', ',', ';', '=']

def isInternational (c : Char) : Bool :=
  let n := c.toNat
  (0xA0 ≤ n && n ≤ 0xD7FF) || (0xF900 ≤ n && n ≤ 0xFDCF) || (0xFDF0 ≤ n && n ≤ 0xFFEF)
    || (0x10000 ≤ n && n ≤ 0xEFFFD && n % 0x10000 ≤ 0xFFFD && !(0xE0000 ≤ n && n < 0xE1000))

def isPrivate (c : Char) : Bool :=
  let n := c.toNat
  (0xE000 ≤ n && n ≤ 0xF8FF) || (0xF0000 ≤ n && n ≤ 0x10FFFD && n % 0x10000 ≤ 0xFFFD)

def isSchemeChar (c : Char) : Bool := c.isAlphanum || c ∈ ['+', '-', '.']

structure Charset where
  international : Bool

namespace Charset

def name (charset : Charset) (c : Char) : Bool :=
  isUnreserved c || isSubDelimiter c || (charset.international && isInternational c)

def user (charset : Charset) (c : Char) : Bool := charset.name c || c == ':'

def pathChar (charset : Charset) (c : Char) : Bool :=
  charset.name c || c ∈ [':', '@', '/']

def queryChar (charset : Charset) (c : Char) : Bool :=
  charset.name c || c ∈ [':', '@', '/', '?'] || (charset.international && isPrivate c)

def fragmentChar (charset : Charset) (c : Char) : Bool :=
  charset.name c || c ∈ [':', '@', '/', '?']

end Charset

def octets (c : Char) : Nat := c.utf8Size

/-- Take the longest run of accepted characters and percent-encoded octets. -/
def takeRun (accepts : Char → Bool) (index : Nat) : List Char →
    Except UriFault (List Char × Nat × List Char)
  | '%' :: high :: low :: rest =>
      if (hexDigit? high).isSome && (hexDigit? low).isSome then do
        let (run, after) ← takeRun accepts (index + 3) rest
        pure ('%' :: high :: low :: run, after)
      else .error (.invalidOctet index)
  | '%' :: _ => .error (.invalidOctet index)
  | c :: rest =>
      if accepts c then do
        let (run, after) ← takeRun accepts (index + octets c) rest
        pure (c :: run, after)
      else .ok ([], index, c :: rest)
  | [] => .ok ([], index, [])

def takeBracketed (index : Nat) (chars : List Char) :
    Except UriFault (List Char × Nat × List Char) :=
  let inside := chars.takeWhile (· ≠ ']')
  let isFuture : Bool :=
    match inside with
    | v :: rest =>
        (v == 'v' || v == 'V') && (rest.takeWhile (· ≠ '.')).all (fun c => (hexDigit? c).isSome)
          && !(rest.takeWhile (· ≠ '.')).isEmpty
          && ((rest.dropWhile (· ≠ '.')).drop 1).all (fun c =>
            isUnreserved c || isSubDelimiter c || c == ':')
          && !((rest.dropWhile (· ≠ '.')).drop 1).isEmpty
    | [] => false
  match chars.dropWhile (· ≠ ']') with
  | _ :: rest =>
      if isFuture || Network.isVersion6 inside then
        .ok ('[' :: inside ++ [']'], index + inside.length + 2, rest)
      else .error (.unexpected index)
  | [] => .error (.unexpected index)

def takeHost (charset : Charset) (index : Nat) (chars : List Char) :
    Except UriFault (List Char × Nat × List Char) := do
  let (host, index, rest) ←
    match chars with
    | '[' :: rest => takeBracketed index rest
    | _ => takeRun charset.name index chars
  match rest with
  | ':' :: rest =>
      let port := rest.takeWhile Char.isDigit
      pure (host ++ ':' :: port, index + 1 + port.length, rest.drop port.length)
  | _ => pure (host, index, rest)

def takeAuthority (charset : Charset) (index : Nat) (chars : List Char) :
    Except UriFault (List Char × Nat × List Char) := do
  let (user, afterUser, rest) ← takeRun charset.user index chars
  let (authority, index, rest) ←
    match rest with
    | '@' :: rest => do
        let (host, index, rest) ← takeHost charset (afterUser + 1) rest
        pure (user ++ '@' :: host, index, rest)
    | _ => takeHost charset index chars
  match rest with
  | c :: _ =>
      if c ∈ ['/', '?', '#'] then pure (authority, index, rest) else .error (.unexpected index)
  | [] => pure (authority, index, rest)

/-- The query and the fragment behind a path. -/
def parseEnd (charset : Charset) (index : Nat) (before : Uri) (chars : List Char) :
    Except UriFault Uri := do
  let (query, index, rest) ←
    match chars with
    | '?' :: rest => do
        let (query, index, rest) ← takeRun charset.queryChar (index + 1) rest
        pure (some query, index, rest)
    | _ => pure (none, index, chars)
  match rest with
  | '#' :: rest => do
      let (fragment, index, rest) ← takeRun charset.fragmentChar (index + 1) rest
      if rest.isEmpty then pure { before with query := query, fragment := some fragment }
      else .error (.unexpected index)
  | _ :: _ => .error (.unexpected index)
  | [] => pure { before with query := query }

def parsePath (charset : Charset) (index : Nat) (before : Uri) (chars : List Char) :
    Except UriFault Uri := do
  let (path, index, rest) ← takeRun charset.pathChar index chars
  parseEnd charset index { before with path := path } rest

/-- What follows the scheme, or the whole of a reference without one. -/
def parseHierarchy (charset : Charset) (index : Nat) (before : Uri) (chars : List Char) :
    Except UriFault Uri := do
  match chars with
  | '/' :: '/' :: rest => do
      let (authority, index, rest) ← takeAuthority charset (index + 2) rest
      parsePath charset index { before with authority := some authority } rest
  | _ => parsePath charset index before chars

/-- The number of octets before a colon in the first segment of a path. -/
def colonIndex? (charset : Charset) (chars : List Char) : Option Nat :=
  let first := chars.takeWhile fun c => c ≠ ':' && c ≠ '/' && (charset.pathChar c || c == '%')
  match chars.drop first.length with
  | ':' :: _ => some ((first.map octets).foldl (· + ·) 0)
  | _ => none

def parseWith (charset : Charset) (text : String) : Except UriFault Uri :=
  let chars := text.toList
  let scheme := chars.takeWhile isSchemeChar
  match chars.drop scheme.length with
  | ':' :: rest =>
      if scheme.head?.any Char.isAlpha then
        parseHierarchy charset (scheme.length + 1) { scheme := some scheme } rest
      else .error (.unexpected 0)
  | _ =>
      match parseHierarchy charset 0 {} chars with
      | .error fault => .error fault
      | .ok uri =>
          match uri.authority, colonIndex? charset chars with
          | none, some index => .error (.unexpected index)
          | _, _ => .ok uri

def parse (text : String) : Except UriFault Uri := parseWith ⟨false⟩ text

def toText (uri : Uri) : String :=
  let part (opening closing : List Char) : Option (List Char) → List Char
    | some chars => opening ++ chars ++ closing
    | none => []
  String.ofList (part [] [':'] uri.scheme ++ part ['/', '/'] [] uri.authority ++ uri.path
    ++ part ['?'] [] uri.query ++ part ['#'] [] uri.fragment)

/-- Follow the segments `.` and `..` of a path; `before` holds the segments so far, last first. -/
def followDots (before : List (List Char)) : List (List Char) → List (List Char)
  | [] => before.reverse
  | [['.']] => ([] :: before).reverse
  | [['.', '.']] => ([] :: before.drop 1).reverse
  | ['.'] :: rest => followDots before rest
  | ['.', '.'] :: rest => followDots (before.drop 1) rest
  | segment :: rest => followDots (segment :: before) rest

def withoutDots (path : List Char) : List Char :=
  match path with
  | '/' :: rest => '/' :: List.intercalate ['/'] (followDots [] (splitAt '/' rest))
  | path => path

def mergePath (base : Uri) (path : List Char) : List Char :=
  if base.authority.isSome && base.path.isEmpty then '/' :: path
  else (base.path.reverse.dropWhile (· ≠ '/')).reverse ++ path

/-- Hexadecimal digits in capitals, and unreserved characters not encoded. -/
def plainOctets : List Char → List Char
  | '%' :: high :: low :: rest =>
      match hexDigit? high, hexDigit? low with
      | some h, some l =>
          let c := Char.ofNat (16 * h + l)
          if isUnreserved c then c :: plainOctets rest
          else '%' :: high.toUpper :: low.toUpper :: plainOctets rest
      | _, _ => '%' :: high :: low :: plainOctets rest
  | c :: rest => c :: plainOctets rest
  | [] => []

/-- The form of an address that equal ones share. -/
def normal (uri : Uri) : Uri where
  scheme := uri.scheme.map (·.map Char.toLower)
  authority := uri.authority.map fun authority => plainOctets (authority.map Char.toLower)
  path := withoutDots (plainOctets uri.path)
  query := uri.query.map plainOctets
  fragment := uri.fragment.map plainOctets

def resolveAgainst (base reference : Uri) : Uri :=
  if reference.scheme.isSome then reference
  else if reference.authority.isSome then { reference with scheme := base.scheme }
  else if reference.path.isEmpty then
    { base with
      query := reference.query.or base.query
      fragment := reference.fragment }
  else
    let path :=
      match reference.path with
      | '/' :: _ => reference.path
      | path => mergePath base path
    { reference with scheme := base.scheme, authority := base.authority, path := path }

/-- Whether an address has a path without a root, against which no path can be resolved. -/
def isOpaque (uri : Uri) : Bool := uri.authority.isNone && uri.path.head? != some '/'

def splitFragment (reference : List Char) : List Char × List Char :=
  match reference.reverse.span (· ≠ '#') with
  | (fragment, _ :: before) => (before.reverse, fragment.reverse)
  | (_, []) => (reference, [])

/-- What the percent-encoded octets of a text stand for, if they are UTF-8. -/
def decode? (text : List Char) : Option String :=
  String.fromUTF8? ⟨(bytes text).toArray⟩
where
  bytes : List Char → List UInt8
    | '%' :: high :: low :: rest =>
        match hexDigit? high, hexDigit? low with
        | some h, some l => UInt8.ofNat (16 * h + l) :: bytes rest
        | _, _ => '%'.toUInt8 :: bytes (high :: low :: rest)
    | c :: rest => (String.singleton c).toUTF8.toList ++ bytes rest
    | [] => []

end Uri

end RefLint
