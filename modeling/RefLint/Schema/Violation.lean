import RefLint.Json.Writer
import RefLint.Pointer
import RefLint.Schema.Basic
import RefLint.Utf8

/-!
# Violations of a schema
-/

namespace RefLint

set_option autoImplicit false

inductive Fault where
  | wrongType (allowed : List TypeName)
  | notListed (options : List Value)
  | notConstant (expected : Value)
  | missing (name : String)
  | wrongSize (measure : Measure) (side : Side) (limit : Nat)
  | outOfBounds (side : Side) (strict : Bool) (limit : Number)
  | notMultiple (divisor : Number)
  | noMatch (pattern : String)
  /-- The search for a match was given up. -/
  | searchExhausted
  | wrongFormat (format : TextFormat)
  | notOctets
  /-- The octets that a text writes are no text. -/
  | notText (flaw : Utf8.Flaw)
  | notDocument
  | repeatedItems
  | noneContained
  | unexpected (names : List String)
  | unexpectedItems (items : List Value)
  | unevaluated (names : List String)
  | unevaluatedItems (items : List Value)
  | forbidden
  | noAlternative (keyword : String)
  | severalAlternatives
  | excluded (schema : Value)

namespace Fault

/-- A divisor is written as the double nearest to it, without an exponent. -/
def divisorStyle : Decimal.Style := ⟨-400, 400, false, false⟩

def quoteName (name : String) : String := "'" ++ name ++ "'"

def unexpectedText (parts : List String) : String :=
  "(" ++ ", ".intercalate parts ++ (if parts.length = 1 then " was" else " were") ++ " unexpected)"

def countText (limit : Nat) (singular plural : String) : String :=
  toString limit ++ " " ++ if limit = 1 then singular else plural

def sizeText : Measure → Side → Nat → String
  | .characters, .least, limit => "is shorter than " ++ countText limit "character" "characters"
  | .characters, .most, limit => "is longer than " ++ countText limit "character" "characters"
  | .items, .least, limit => "has less than " ++ countText limit "item" "items"
  | .items, .most, limit => "has more than " ++ countText limit "item" "items"
  | .properties, .least, limit => "has less than " ++ countText limit "property" "properties"
  | .properties, .most, limit => "has more than " ++ countText limit "property" "properties"

def boundText : Side → Bool → String
  | .least, false => "is less than the minimum of "
  | .most, false => "is greater than the maximum of "
  | .least, true => "is less than or equal to the minimum of "
  | .most, true => "is greater than or equal to the maximum of "

def message (value : Value) : Fault → String
  | wrongType [only] =>
      Json.write value ++ " is not of type " ++ Json.writeString only.name
  | wrongType allowed =>
      let listed := TypeName.all.filter fun typeName => allowed.contains typeName
      Json.write value ++ " is not of types "
        ++ ", ".intercalate (listed.map fun typeName => Json.writeString typeName.name)
  | notListed options => Json.write value ++ " is not one of " ++ Json.write (.array options)
  | notConstant expected => Json.write expected ++ " was expected"
  | missing name => Json.writeString name ++ " is a required property"
  | wrongSize measure side limit => Json.write value ++ " " ++ sizeText measure side limit
  | outOfBounds side strict limit =>
      Json.write value ++ " " ++ boundText side strict ++ Json.writeNumber limit
  | notMultiple divisor =>
      Json.write value ++ " is not a multiple of "
        ++ Decimal.renderBinary64 divisorStyle divisor.toBinary64
  | noMatch pattern => Json.write value ++ " does not match \"" ++ pattern ++ "\""
  | searchExhausted => "Error executing regex: Max limit for backtracking count exceeded"
  | wrongFormat format => Json.write value ++ " is not a \"" ++ format.name ++ "\""
  | notOctets => Json.write value ++ " is not compliant with \"base64\" content encoding"
  | notText flaw => flaw.message
  | notDocument => Json.write value ++ " is not compliant with \"application/json\" media type"
  | repeatedItems => Json.write value ++ " has non-unique elements"
  | noneContained => "None of " ++ Json.write value ++ " are valid under the given schema"
  | unexpected names =>
      "Additional properties are not allowed " ++ unexpectedText (names.map quoteName)
  | unexpectedItems items =>
      "Additional items are not allowed " ++ unexpectedText (items.map Json.write)
  | unevaluated names =>
      "Unevaluated properties are not allowed " ++ unexpectedText (names.map quoteName)
  | unevaluatedItems items =>
      "Unevaluated items are not allowed "
        ++ unexpectedText (items.map fun item => quoteName (Json.write item))
  | forbidden => "False schema does not allow " ++ Json.write value
  | noAlternative keyword =>
      Json.write value ++ " is not valid under any of the schemas listed in the "
        ++ quoteName keyword ++ " keyword"
  | severalAlternatives =>
      Json.write value
        ++ " is valid under more than one of the schemas listed in the 'oneOf' keyword"
  | excluded schema => Json.write schema ++ " is not allowed for " ++ Json.write value

end Fault

structure Violation where
  /-- The keys and positions that lead to the value. -/
  path : List String
  /-- The keywords and positions that lead to the broken condition. -/
  condition : List String
  value : Value
  fault : Fault

namespace Violation

def here (value : Value) (fault : Fault) : Violation := ⟨[], [], value, fault⟩

/-- The violation as seen from the container that has it at `step`. Octets that are no text are
told without a place. -/
def inside (step : String) (violation : Violation) : Violation :=
  match violation.fault with
  | .notText _ => violation
  | _ => { violation with path := step :: violation.path }

/-- The violation as seen from the condition that contains the broken one. -/
def under (steps : List String) (violation : Violation) : Violation :=
  { violation with condition := steps ++ violation.condition }

def message (violation : Violation) : String := violation.fault.message violation.value

end Violation

/-- The keys as a pointer without its leading mark; the root has the empty one. -/
def pathText (keys : List String) : String :=
  String.join (keys.map fun key => "/" ++ Pointer.escape key)

structure Finding where
  path : String
  message : String
  deriving DecidableEq

namespace Finding

def line (finding : Finding) : String := finding.path ++ ": " ++ finding.message

def ofViolation (violation : Violation) : Finding := ⟨pathText violation.path, violation.message⟩

end Finding

end RefLint
