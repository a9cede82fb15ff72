import RefLint.Json.Writer
import RefLint.Rules.Rule
import RefLint.Unicode.Visible

/-!
# Decoding rules

A record is written as a mapping or as a sequence of its fields. The members of a
mapping are decoded in the order in which they stand, unknown ones are passed
over, and only then is the first missing field told. Fields that may be left out
may be cut off at the end of a sequence. Where a value has several forms, they
are tried in turn and a failure does not tell which of them came near.
-/

namespace RefLint.Rules

set_option autoImplicit false

inductive Expected where
  | text | boolean | rule | action | functionName | unit
  deriving DecidableEq

def Expected.name : Expected → String
  | text => "a string"
  | boolean => "a boolean"
  | rule => "struct Rule"
  | action => "struct RuleAction"
  | functionName => "string or map"
  | unit => "unit"

inductive DecodeError where
  | wrongType (found : Value) (expected : Expected)
  /-- A mapping that should name one function has no or several members. -/
  | notSingleKey
  /-- A sequence ends before the field that must follow. -/
  | tooShort (length : Nat) (expected : Expected) (fields : Nat)
  | tooLong (length : Nat)
  | missingField (name : String)
  | unknownFunction (name : String)
  | unknownSeverity (name : String)
  | levelOutOfRange (level : Int)
  | noSeverity
  | noClause

namespace DecodeError

/-- A character inside quotes: what has no visible form of its own is written by its code. -/
def quotedChar : Char → List Char
  | '"' => ['\\', '"']
  | '\\' => ['\\', '\\']
  | '\n' => ['\\', 'n']
  | '\r' => ['\\', 'r']
  | '\t' => ['\\', 't']
  | '\x00' => ['\\', '0']
  | c =>
      if Unicode.isVisible c then [c]
      else ['\\', 'u', '\x7b'] ++ Nat.toDigits 16 c.toNat ++ ['\x7d']

def quote (text : String) : String :=
  String.ofList (['"'] ++ text.toList.flatMap quotedChar ++ ['"'])

/-- How an error text names a value that was found. -/
def describe : Value → String
  | .null => "null"
  | .bool value => "boolean `" ++ Json.writeBool value ++ "`"
  | .number (.integer value) => "integer `" ++ toString value ++ "`"
  | .number (.float value) => "floating point `" ++ Json.writeFloat value ++ "`"
  | .string text => "string " ++ quote text
  | .array _ => "sequence"
  | .object _ => "map"

def message : DecodeError → String
  | wrongType found expected => "invalid type: " ++ describe found ++ ", expected " ++ expected.name
  | notSingleKey => "invalid value: map, expected map with a single key"
  | tooShort length expected fields =>
      "invalid length " ++ toString length ++ ", expected " ++ expected.name ++ " with "
        ++ toString fields ++ " elements"
  | tooLong length =>
      "invalid length " ++ toString length ++ ", expected fewer elements in array"
  | missingField name => "missing field `" ++ name ++ "`"
  | unknownFunction name =>
      let known := AssertionFunction.all.map fun assertion => "`" ++ assertion.name ++ "`"
      "unknown variant `" ++ name ++ "`, expected one of " ++ ", ".intercalate known
  | unknownSeverity name => "unknown severity \"" ++ name ++ "\""
  | levelOutOfRange level => "severity level " ++ toString level ++ " out of range 0..=3"
  | noSeverity => "data did not match any variant of untagged enum SeverityRepr"
  | noClause => "data did not match any variant of untagged enum Then"

end DecodeError

abbrev Decoded (α : Type) := Except DecodeError α

def decodeText : Value → Decoded String
  | .string text => .ok text
  | other => .error (.wrongType other .text)

def decodeBool : Value → Decoded Bool
  | .bool value => .ok value
  | other => .error (.wrongType other .boolean)

/-- Null stands for nothing. -/
def decodeOptionalText : Value → Decoded (Option String)
  | .null => .ok none
  | other => (decodeText other).map some

def optionsOf : Value → Option Value
  | .null => none
  | value => some value

/-- A severity is a name, or a level held as an integer of one byte. -/
def decodeSeverity : Value → Decoded Severity
  | .string name =>
      match Severity.ofName? name with
      | some severity => .ok severity
      | none => .error (.unknownSeverity name)
  | .number (.integer level) =>
      if level < 0 || 255 < level then .error .noSeverity
      else
        match Severity.ofLevel? level.toNat with
        | some severity => .ok severity
        | none => .error (.levelOutOfRange level)
  | _ => .error .noSeverity

def functionNamed (name : String) : Decoded AssertionFunction :=
  match AssertionFunction.ofName? name with
  | some assertion => .ok assertion
  | none => .error (.unknownFunction name)

/-- A function is its name, or a mapping from its name to null. -/
def decodeFunction : Value → Decoded AssertionFunction
  | .string name => functionNamed name
  | .object [(name, content)] => do
      let assertion ← functionNamed name
      match content with
      | .null => pure assertion
      | other => .error (.wrongType other .unit)
  | .object _ => .error .notSingleKey
  | other => .error (.wrongType other .functionName)

/-- Decode the members of a record in the order in which they stand. -/
def checkMembers (check : String → Value → Decoded Unit) : Members → Decoded Unit
  | [] => .ok ()
  | (key, value) :: rest => do
      check key value
      checkMembers check rest

def needField {α : Type} (decode : Value → Decoded α) (key : String) (members : Members) :
    Decoded α :=
  match Members.get? key members with
  | some value => decode value
  | none => .error (.missingField key)

def fieldOr {α : Type} (default : α) (decode : Value → Decoded α) (key : String)
    (members : Members) : Decoded α :=
  match Members.get? key members with
  | some value => decode value
  | none => .ok default

/-- The field at a position of a record that is written as a sequence. -/
def needItem {α : Type} (decode : Value → Decoded α) (position : Nat) (expected : Expected)
    (fields : Nat) (items : List Value) : Decoded α :=
  match items[position]? with
  | some value => decode value
  | none => .error (.tooShort position expected fields)

def itemOr {α : Type} (default : α) (decode : Value → Decoded α) (position : Nat)
    (items : List Value) : Decoded α :=
  match items[position]? with
  | some value => decode value
  | none => .ok default

def refuseLonger (fields : Nat) (items : List Value) : Decoded Unit :=
  if fields < items.length then .error (.tooLong items.length) else .ok ()

namespace RuleAction

def checkMember (key : String) (value : Value) : Decoded Unit :=
  match key with
  | "field" => (decodeOptionalText value).map fun _ => ()
  | "function" => (decodeFunction value).map fun _ => ()
  | _ => .ok ()

def ofValue : Value → Decoded RuleAction
  | .object members => do
      checkMembers checkMember members
      let field ← fieldOr none decodeOptionalText "field" members
      let function ← needField decodeFunction "function" members
      pure ⟨field, function, (Members.get? "functionOptions" members).bind optionsOf⟩
  | .array items => do
      let field ← itemOr none decodeOptionalText 0 items
      let function ← needItem decodeFunction 1 .action 3 items
      refuseLonger 3 items
      pure ⟨field, function, items[2]?.bind optionsOf⟩
  | other => .error (.wrongType other .action)

end RuleAction

/-- A single action is tried first, so a sequence can be an action before it is a list. -/
def Clause.ofValue (value : Value) : Decoded Clause :=
  match RuleAction.ofValue value with
  | .ok action => .ok (.one action)
  | .error _ =>
      match value with
      | .array items =>
          match items.mapM RuleAction.ofValue with
          | .ok actions => .ok (.many actions)
          | .error _ => .error .noClause
      | _ => .error .noClause

namespace Rule

def checkMember (key : String) (value : Value) : Decoded Unit :=
  match key with
  | "description" => (decodeText value).map fun _ => ()
  | "message" => (decodeText value).map fun _ => ()
  | "severity" => (decodeSeverity value).map fun _ => ()
  | "given" => (decodeText value).map fun _ => ()
  | "then" => (Clause.ofValue value).map fun _ => ()
  | "recommended" => (decodeBool value).map fun _ => ()
  | _ => .ok ()

def ofValue : Value → Decoded Rule
  | .object members => do
      checkMembers checkMember members
      let description ← needField decodeText "description" members
      let message ← needField decodeText "message" members
      let severity ← needField decodeSeverity "severity" members
      let given ← needField decodeText "given" members
      let clause ← needField Clause.ofValue "then" members
      let recommended ← fieldOr true decodeBool "recommended" members
      pure ⟨description, message, severity, given, clause, recommended⟩
  | .array items => do
      let description ← needItem decodeText 0 .rule 6 items
      let message ← needItem decodeText 1 .rule 6 items
      let severity ← needItem decodeSeverity 2 .rule 6 items
      let given ← needItem decodeText 3 .rule 6 items
      let clause ← needItem Clause.ofValue 4 .rule 6 items
      let recommended ← itemOr true decodeBool 5 items
      refuseLonger 6 items
      pure ⟨description, message, severity, given, clause, recommended⟩
  | other => .error (.wrongType other .rule)

end Rule

end RefLint.Rules
