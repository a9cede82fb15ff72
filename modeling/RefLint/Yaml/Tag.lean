import RefLint.Yaml.Character
import RefLint.HexDigit

/-!
# Tags and directives

A tag is written with a handle and a suffix, or in full between `!<` and `>`.
The suffix may hold characters of a URI and percent escapes.
-/

namespace RefLint.Yaml

set_option autoImplicit false

structure WrittenTag where
  /-- Empty for a tag that is written in full. -/
  handle : String
  suffix : String

def isUriChar (c : Char) : Bool :=
  isNameChar c
    || c ∈ [';', '/', '?', ':', '@', '&', '=', '+', '$', '.', '!', '~', '*', '\'', '(', ')']

/-- Flow indicators that a tag may hold when it is written in full. -/
def isFullUriChar (c : Char) : Bool := isUriChar c || c == ',' || c == '[' || c == ']'

/-- How many octets the UTF-8 form has that starts with the given one. -/
def utf8Width? (octet : Nat) : Option Nat :=
  if octet < 0x80 then some 1
  else if octet / 32 == 0b110 then some 2
  else if octet / 16 == 0b1110 then some 3
  else if octet / 8 == 0b11110 then some 4
  else none

def isContinuation (octet : Nat) : Bool := octet / 64 == 0b10

def readOctets? : Nat → List Char → Option (List Nat × List Char)
  | 0, text => some ([], text)
  | count + 1, '%' :: high :: low :: rest => do
      let high ← hexDigit? high
      let low ← hexDigit? low
      let (octets, rest) ← readOctets? count rest
      pure ((high * 16 + low) :: octets, rest)
  | _ + 1, _ => none

def readEscape? (text : List Char) : Option (Char × Nat) := do
  let (first, _) ← readOctets? 1 text
  let width ← utf8Width? (first.headD 0)
  let (octets, _) ← readOctets? width text
  if !(octets.drop 1).all isContinuation then none
  else
    let bytes := ByteArray.mk (octets.map UInt8.ofNat).toArray
    let decoded ← String.fromUTF8? bytes
    let c ← decoded.toList.head?
    pure (c, 3 * width)

/-- Read the URI part of a tag; at most `fuel` characters, which the caller takes
from the length of the text. -/
def readUriFrom (accepts : Char → Bool) : Nat → Place → List Char → Option (List Char × Place)
  | 0, place, read => some (read.reverse, place)
  | fuel + 1, place, read =>
      match place.rest with
      | '%' :: _ => do
          let (c, width) ← readEscape? place.rest
          readUriFrom accepts fuel (place.skip width) (c :: read)
      | c :: _ =>
          if accepts c then readUriFrom accepts fuel (place.skip 1) (c :: read)
          else some (read.reverse, place)
      | [] => some (read.reverse, place)

def readUri (accepts : Char → Bool) (place : Place) : Option (List Char × Place) :=
  readUriFrom accepts place.rest.length place []

def readHandle? (place : Place) : Option (List Char × Place) :=
  match place.rest with
  | '!' :: _ =>
      let (name, after) := (place.skip 1).takeWhile isNameChar
      if after.startsWith '!' then some ('!' :: name ++ ['!'], after.skip 1)
      else some ('!' :: name, after)
  | _ => none

/-- Whether a handle is complete: `!!` or a name between two marks. -/
def isCompleteHandle (handle : List Char) : Bool :=
  handle.length > 1 && handle.getLast? == some '!'

def readTag? (inFlow : Bool) (place : Place) : Option (WrittenTag × Place) := do
  let (tag, after) ←
    match place.rest with
    | '!' :: '<' :: _ => do
        let (uri, after) ← readUri isFullUriChar (place.skip 2)
        if uri.isEmpty || !after.startsWith '>' then none
        else pure (⟨"", String.ofList uri⟩, after.skip 1)
    | _ => do
        let (handle, after) ← readHandle? place
        if isCompleteHandle handle then
          let (uri, after) ← readUri isUriChar after
          if uri.isEmpty then none else pure (⟨String.ofList handle, String.ofList uri⟩, after)
        else
          let (uri, after) ← readUri isUriChar after
          -- What looked like the start of a handle belongs to the suffix.
          let suffix := handle.drop 1 ++ uri
          if suffix.isEmpty then pure (⟨"", "!"⟩, after)
          else pure (⟨"!", String.ofList suffix⟩, after)
  if (inFlow && after.startsWith ',') || startsBlank after.rest then pure (tag, after) else none

inductive Directive where
  | version (major minor : Nat)
  | tag (handle handlePrefix : String)

def readVersionNumber? (place : Place) : Option (Nat × Place) :=
  let (digits, after) := place.takeWhile Char.isDigit
  if digits.isEmpty || digits.length > 9 then none
  else some (digits.foldl (fun value c => value * 10 + (c.toNat - '0'.toNat)) 0, after)

/-- Read a directive up to the end of its line; the place is behind its `%`. -/
def readDirective? (place : Place) : Option (Directive × Place) := do
  let (name, afterName) := place.takeWhile isNameChar
  if name.isEmpty || !startsBlank afterName.rest then none
  else
    let argument := afterName.dropWhile isBlank
    let (directive, after) ←
      if name = ['Y', 'A', 'M', 'L'] then do
        let (major, dot) ← readVersionNumber? argument
        if !dot.startsWith '.' then none
        else
          let (minor, after) ← readVersionNumber? (dot.skip 1)
          pure (Directive.version major minor, after)
      else if name = ['T', 'A', 'G'] then do
        let (handle, afterHandle) ← readHandle? argument
        if !(handle == ['!'] || isCompleteHandle handle) then none
        else if !(afterHandle.rest.head?.any isBlank) then none
        else
          let (uri, after) ← readUri isFullUriChar (afterHandle.dropWhile isBlank)
          if uri.isEmpty || !startsBlank after.rest then none
          else pure (Directive.tag (String.ofList handle) (String.ofList uri), after)
      else none
    let lineEnd ← after.toLineEnd?
    pure (directive, lineEnd)

end RefLint.Yaml
