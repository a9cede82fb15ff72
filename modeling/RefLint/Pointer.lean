import RefLint.Splitting
import RefLint.Value

/-!
# Pointers into a document

A pointer such as `#/paths/~1users/get` names a place by the keys and positions
that lead to it. A key is written with `~` as `~0` and `/` as `~1`, so a slash
always separates two steps.
-/

namespace RefLint

set_option autoImplicit false

inductive ReferenceError where
  /-- No member or item has the name that the pointer asks for. -/
  | unresolvable (pointer : String)
  /-- A step has to be looked up on a scalar. -/
  | invalidPath (pointer segment : String) (actual : Kind)
  /-- The target is still being resolved. -/
  | circular (pointer : String)
  deriving DecidableEq

namespace ReferenceError

def pointer : ReferenceError → String
  | unresolvable pointer => pointer
  | invalidPath pointer _ _ => pointer
  | circular pointer => pointer

def message : ReferenceError → String
  | unresolvable pointer =>
      "unresolvable reference " ++ pointer ++ ": nothing defined at that location"
  | invalidPath pointer segment actual =>
      "invalid reference path " ++ pointer ++ ": cannot traverse \"" ++ segment ++ "\" on "
        ++ actual.name
  | circular pointer =>
      "circular reference " ++ pointer ++ ": target is still being resolved"

end ReferenceError

namespace Pointer

def escapeChars : List Char → List Char
  | [] => []
  | '~' :: rest => '~' :: '0' :: escapeChars rest
  | '/' :: rest => '~' :: '1' :: escapeChars rest
  | c :: rest => c :: escapeChars rest

/-- The key that a written segment stands for; a `~` before anything but `0` and
`1` stands for itself. -/
def unescapeChars : List Char → List Char
  | [] => []
  | '~' :: '1' :: rest => '/' :: unescapeChars rest
  | '~' :: '0' :: rest => '~' :: unescapeChars rest
  | c :: rest => c :: unescapeChars rest

def escape (key : String) : String := String.ofList (escapeChars key.toList)

/-- The written segments of a pointer. One leading `#` and one `/` after it are
not part of them, and `#` alone has none. -/
def writtenSegments (pointer : List Char) : List (List Char) :=
  let path :=
    match pointer with
    | '#' :: rest => rest
    | path => path
  match path with
  | [] => []
  | '/' :: rest => splitAt '/' rest
  | path => splitAt '/' path

/-- The keys that a pointer goes through, root first. -/
def segments (pointer : String) : List String :=
  (writtenSegments pointer.toList).map fun part => String.ofList (unescapeChars part)

def ofKeys (keys : List String) : String :=
  "#" ++ String.join (keys.map fun key => "/" ++ escape key)

/-- Whether a reference stays inside its document. -/
def isLocal (pointer : String) : Bool :=
  match pointer.toList with
  | '#' :: _ => true
  | _ => false

/-- The position in a sequence that a segment spells: decimal digits only. -/
def index? (segment : String) : Option Nat :=
  let digits := segment.toList
  if digits.isEmpty || !digits.all Char.isDigit then none
  else some (digits.foldl (fun value c => value * 10 + (c.toNat - '0'.toNat)) 0)

inductive StepError where
  | absent
  | scalar (actual : Kind)
  deriving DecidableEq

def step (value : Value) (segment : String) : Except StepError Value :=
  match value with
  | .object members =>
      match Members.get? segment members with
      | some member => .ok member
      | none => .error .absent
  | .array items =>
      match (index? segment).bind fun position => items[position]? with
      | some item => .ok item
      | none => .error .absent
  | scalar => .error (.scalar scalar.kind)

/-- Follow segments from a value; a failing step is told with its segment. -/
def descend (value : Value) : List String → Except (String × StepError) Value
  | [] => .ok value
  | segment :: rest =>
      match step value segment with
      | .ok next => descend next rest
      | .error error => .error (segment, error)

/-- The value that a pointer names in a document. -/
def navigate (root : Value) (pointer : String) : Except ReferenceError Value :=
  match descend root (segments pointer) with
  | .ok value => .ok value
  | .error (_, .absent) => .error (.unresolvable pointer)
  | .error (segment, .scalar actual) => .error (.invalidPath pointer segment actual)

/-- Remove the member that a path names, if there is one. Items of sequences are
never removed, so that the positions in other pointers stay right. -/
def removePath (value : Value) : List String → Option Value
  | [] => none
  | [leaf] =>
      match value with
      | .object members =>
          if Members.has leaf members then some (.object (Members.erase leaf members)) else none
      | _ => none
  | segment :: next :: rest =>
      match value with
      | .object members => do
          let member ← Members.get? segment members
          let changed ← removePath member (next :: rest)
          pure (.object (Members.insert segment changed members))
      | .array items => do
          let position ← index? segment
          let item ← items[position]?
          let changed ← removePath item (next :: rest)
          pure (.array (items.set position changed))
      | _ => none

/-- The document without the member that a pointer names; `none` when the member
or its parent is absent. -/
def remove (root : Value) (pointer : String) : Option Value := removePath root (segments pointer)

end Pointer

end RefLint
