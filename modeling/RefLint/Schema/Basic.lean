import RefLint.Schema.TextFormat

/-!
# Schemas

A schema is a list of keywords, each a condition on a value. The keywords stand
in the order of the schema's text, which is the order of the violations. A
reference names a schema of a table that goes with the whole.

Some keywords evaluate parts of a value: they have schemas for these parts. What
no keyword of a schema has evaluated can be told to fit a schema too.
-/

namespace RefLint

set_option autoImplicit false

/-- The types that a schema can ask for, in the order in which error texts list them. -/
inductive TypeName where
  | array | boolean | integer | null | number | object | string
  deriving DecidableEq

namespace TypeName

def all : List TypeName := [array, boolean, integer, null, number, object, string]

def name : TypeName → String
  | array => "array"
  | boolean => "boolean"
  | integer => "integer"
  | null => "null"
  | number => "number"
  | object => "object"
  | string => "string"

def ofName? (name : String) : Option TypeName := all.find? fun typeName => typeName.name == name

/-- Whether a value is of the type. A whole number is an integer however it is held. -/
def admits (typeName : TypeName) : Value → Bool
  | .null => typeName == null
  | .bool _ => typeName == boolean
  | .number value => typeName == number || (typeName == integer && value.isWhole)
  | .string _ => typeName == string
  | .array _ => typeName == array
  | .object _ => typeName == object

def admitsHeld (typeName : TypeName) : Value → Bool
  | .number value => typeName == number || (typeName == integer && !value.isFloat)
  | value => typeName.admits value

end TypeName

inductive Measure where
  | characters | items | properties
  deriving DecidableEq

/-- The number of characters, items or members; `none` where there is nothing to count. -/
def Measure.of? : Measure → Value → Option Nat
  | characters, .string text => some text.length
  | items, .array list => some list.length
  | properties, .object members => some members.length
  | _, _ => none

inductive Side where
  | least | most
  deriving DecidableEq

inductive Content where
  /-- Octets in base 64. -/
  | octets
  | document
  /-- A document whose text is in base 64. -/
  | documentOctets
  deriving DecidableEq

/-- The ways to write conditions on a mapping that has a certain member. -/
inductive DependentForm where
  | dependencies | dependentRequired | dependentSchemas
  deriving DecidableEq

def DependentForm.name : DependentForm → String
  | dependencies => "dependencies"
  | dependentRequired => "dependentRequired"
  | dependentSchemas => "dependentSchemas"

mutual

inductive Schema where
  | anything
  | nothing
  | all (keywords : List Keyword)

inductive Keyword where
  | type (allowed : List TypeName)
  /-- A whole number that is held as a float is no integer. -/
  | heldType (allowed : List TypeName)
  | oneOfValues (options : List Value)
  | constant (expected : Value)
  | required (names : List String)
  | size (measure : Measure) (side : Side) (limit : Nat)
  /-- A number is at or within a limit; strictly within it when `strict` is set. -/
  | bound (side : Side) (strict : Bool) (limit : Number)
  | multipleOf (divisor : Number)
  | pattern (pattern : Pattern)
  | format (format : TextFormat)
  | content (content : Content)
  | uniqueItems
  /-- The first items, each with its own schema. -/
  | prefixItems (schemas : List Schema)
  /-- The items behind the first `skipped` ones. -/
  | laterItems (skipped : Nat) (schema : Schema)
  /-- No items behind the first `limit` ones. -/
  | noLaterItems (limit : Nat)
  /-- A number of items fits the schema; they are evaluated when `evaluates` is set. -/
  | contains (least : Nat) (most : Option Nat) (evaluates : Bool) (schema : Schema)
  | properties (named : List (String × Schema))
  | patternProperties (patterns : List (Pattern × Schema))
  /-- Every member: by its name, else by the patterns that its name matches, else by `others`. -/
  | additionalProperties (named : List (String × Schema)) (patterns : List (Pattern × Schema))
      (others : Schema)
  /-- No member at all. -/
  | noProperties
  | propertyNames (schema : Schema)
  /-- Members that a mapping needs and schemas that apply to it when it has a member. -/
  | dependent (form : DependentForm) (entries : List (String × List String × Schema))
  | conditional (test : Schema) (holds fails : Schema)
  | allOf (schemas : List Schema)
  | anyOf (schemas : List Schema)
  | oneOf (schemas : List Schema)
  | not (schema : Schema) (written : Value)
  /-- A schema of the table; `label` is the keyword that refers to it. -/
  | reference (label target : String)
  /-- The members that the keywords `beside` do not evaluate. -/
  | unevaluatedProperties (beside : List Keyword) (schema : Schema)
  /-- The items that the keywords `beside` do not evaluate. -/
  | unevaluatedItems (beside : List Keyword) (schema : Schema)

end

namespace Keyword

def name : Keyword → String
  | type _ => "type"
  | heldType _ => "type"
  | oneOfValues _ => "enum"
  | constant _ => "const"
  | required _ => "required"
  | size .characters .least _ => "minLength"
  | size .characters .most _ => "maxLength"
  | size .items .least _ => "minItems"
  | size .items .most _ => "maxItems"
  | size .properties .least _ => "minProperties"
  | size .properties .most _ => "maxProperties"
  | bound .least false _ => "minimum"
  | bound .most false _ => "maximum"
  | bound .least true _ => "exclusiveMinimum"
  | bound .most true _ => "exclusiveMaximum"
  | multipleOf _ => "multipleOf"
  | pattern _ => "pattern"
  | format _ => "format"
  | content .document => "contentMediaType"
  | content .octets => "contentEncoding"
  | content .documentOctets => "contentMediaType"
  | uniqueItems => "uniqueItems"
  | prefixItems _ => "prefixItems"
  | laterItems _ _ => "items"
  | noLaterItems _ => "additionalItems"
  | contains _ _ _ _ => "contains"
  | properties _ => "properties"
  | patternProperties _ => "patternProperties"
  | additionalProperties _ _ _ => "additionalProperties"
  | noProperties => "additionalProperties"
  | propertyNames _ => "propertyNames"
  | dependent form _ => form.name
  | conditional _ _ _ => "if"
  | allOf _ => "allOf"
  | anyOf _ => "anyOf"
  | oneOf _ => "oneOf"
  | not _ _ => "not"
  | reference label _ => label
  | unevaluatedProperties _ _ => "unevaluatedProperties"
  | unevaluatedItems _ _ => "unevaluatedItems"

end Keyword

abbrev Definitions := List (String × Schema)

def Definitions.get? (name : String) : Definitions → Option Schema
  | [] => none
  | (other, schema) :: rest => if other = name then some schema else get? name rest

structure SchemaDocument where
  root : Schema
  definitions : Definitions
  /-- More than the number of schemas that can apply to one value inside one another. -/
  depth : Nat

end RefLint
