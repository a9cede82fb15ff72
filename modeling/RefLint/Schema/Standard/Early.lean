import RefLint.Schema.Standard.Parts

/-!
# The schemas of the first generations

Each of these generations is described by one document, which stands for itself as `#`.
-/

namespace RefLint.Standard

set_option autoImplicit false

def self : Value := refer "#"

def definition (name : String) : Value := refer ("#/definitions/" ++ name)

structure SizeNames where
  size : String
  optionalSize : String

/-- Sizes are whole numbers from zero on. -/
def earlyDefinitions (names : SizeNames) (stringArray : Value) : Value := .object [
  ("schemaArray", schemaArray self),
  (names.size, nonNegativeInteger),
  (names.optionalSize, only "allOf" (.array [definition names.size, only "default" (.ofNat 0)])),
  ("simpleTypes", simpleTypes),
  ("stringArray", stringArray)]

/-! ## The fourth draft -/

def booleanOrSchema : Value := either (ofType "boolean") self

def draft4 : Value := .object [
  ("id", .string "http://json-schema.org/draft-04/schema#"),
  ("$schema", .string "http://json-schema.org/draft-04/schema#"),
  ("definitions", earlyDefinitions ⟨"positiveInteger", "positiveIntegerDefault0"⟩ (.object [
    ("type", .string "array"), ("items", ofType "string"), ("minItems", .ofNat 1),
    ("uniqueItems", .bool true)])),
  ("type", .string "object"),
  ("properties", .object [
    ("id", ofType "string"),
    ("$schema", ofType "string"),
    ("title", ofType "string"),
    ("description", ofType "string"),
    ("default", .object []),
    ("multipleOf", .object [
      ("type", .string "number"), ("minimum", .ofNat 0), ("exclusiveMinimum", .bool true)]),
    ("maximum", ofType "number"),
    ("exclusiveMaximum", ofType "boolean"),
    ("minimum", ofType "number"),
    ("exclusiveMinimum", ofType "boolean"),
    ("maxLength", definition "positiveInteger"),
    ("minLength", definition "positiveIntegerDefault0"),
    ("pattern", ofFormat "regex"),
    ("additionalItems", booleanOrSchema),
    ("items", either self (definition "schemaArray")),
    ("maxItems", definition "positiveInteger"),
    ("minItems", definition "positiveIntegerDefault0"),
    ("uniqueItems", ofType "boolean"),
    ("maxProperties", definition "positiveInteger"),
    ("minProperties", definition "positiveIntegerDefault0"),
    ("required", definition "stringArray"),
    ("additionalProperties", booleanOrSchema),
    ("definitions", mappingTo self),
    ("properties", mappingTo self),
    ("patternProperties", mappingTo self),
    ("dependencies", mappingTo (either self (definition "stringArray"))),
    ("enum", distinctValues),
    ("type", typeNames (definition "simpleTypes")),
    ("format", ofType "string"),
    ("allOf", definition "schemaArray"),
    ("anyOf", definition "schemaArray"),
    ("oneOf", definition "schemaArray"),
    ("not", self)]),
  ("dependencies", .object [
    ("exclusiveMaximum", texts ["maximum"]),
    ("exclusiveMinimum", texts ["minimum"])])]

/-! ## The sixth and the seventh draft -/

def sizeNames : SizeNames := ⟨"nonNegativeInteger", "nonNegativeIntegerDefault0"⟩

def addressKeywords : Members := [
  ("$id", ofFormat "uri-reference"),
  ("$schema", ofFormat "uri"),
  ("$ref", ofFormat "uri-reference")]

/-- The conditions that both drafts know, up to those on the names of members. -/
def sharedKeywords (patternProperties : Value) : Members := [
  ("multipleOf", positiveNumber),
  ("maximum", ofType "number"),
  ("exclusiveMaximum", ofType "number"),
  ("minimum", ofType "number"),
  ("exclusiveMinimum", ofType "number"),
  ("maxLength", definition "nonNegativeInteger"),
  ("minLength", definition "nonNegativeIntegerDefault0"),
  ("pattern", ofFormat "regex"),
  ("additionalItems", self),
  ("items", either self (definition "schemaArray")),
  ("maxItems", definition "nonNegativeInteger"),
  ("minItems", definition "nonNegativeIntegerDefault0"),
  ("uniqueItems", ofType "boolean"),
  ("contains", self),
  ("maxProperties", definition "nonNegativeInteger"),
  ("minProperties", definition "nonNegativeIntegerDefault0"),
  ("required", definition "stringArray"),
  ("additionalProperties", self),
  ("definitions", mappingTo self),
  ("properties", mappingTo self),
  ("patternProperties", patternProperties),
  ("dependencies", mappingTo (either self (definition "stringArray"))),
  ("propertyNames", self)]

def combinations : Members := [
  ("allOf", definition "schemaArray"),
  ("anyOf", definition "schemaArray"),
  ("oneOf", definition "schemaArray"),
  ("not", self)]

def draft6 : Value := .object [
  ("$schema", .string "http://json-schema.org/draft-06/schema#"),
  ("$id", .string "http://json-schema.org/draft-06/schema#"),
  ("definitions", earlyDefinitions sizeNames stringArray),
  ("type", objectOrBoolean),
  ("properties", .object (addressKeywords
    ++ [
      ("title", ofType "string"),
      ("description", ofType "string"),
      ("default", .object []),
      ("examples", ofType "array")]
    ++ sharedKeywords (mappingTo self)
    ++ [
      ("const", .object []),
      ("enum", distinctValues),
      ("type", typeNames (definition "simpleTypes")),
      ("format", ofType "string")]
    ++ combinations))]

def draft7 : Value := .object [
  ("$schema", .string "http://json-schema.org/draft-07/schema#"),
  ("$id", .string "http://json-schema.org/draft-07/schema#"),
  ("definitions", earlyDefinitions sizeNames stringArray),
  ("type", objectOrBoolean),
  ("properties", .object (addressKeywords
    ++ [
      ("$comment", ofType "string"),
      ("title", ofType "string"),
      ("description", ofType "string"),
      ("default", .bool true),
      ("readOnly", ofType "boolean"),
      ("examples", ofType "array")]
    ++ sharedKeywords (.object [
      ("type", .string "object"),
      ("additionalProperties", self),
      ("propertyNames", only "format" (.string "regex"))])
    ++ [
      ("const", .bool true),
      ("enum", ofType "array"),
      ("type", typeNames (definition "simpleTypes")),
      ("format", ofType "string"),
      ("contentMediaType", ofType "string"),
      ("contentEncoding", ofType "string"),
      ("if", self),
      ("then", self),
      ("else", self)]
    ++ combinations))]

end RefLint.Standard
