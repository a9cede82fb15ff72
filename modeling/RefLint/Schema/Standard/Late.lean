import RefLint.Schema.Standard.Parts

/-!
# The schemas of the later generations

Each of these generations is described by several documents, the vocabularies, and one that
brings them together. A schema inside a schema may belong to a language that has more
vocabularies, so the vocabularies refer to the document that is in use.
-/

namespace RefLint.Standard

set_option autoImplicit false

/-- A size of which nothing is said counts as zero. -/
def optionalSize : Value := refer "#/$defs/nonNegativeInteger"

def sizeDefinitions : Members := [
  ("nonNegativeInteger", nonNegativeInteger),
  ("nonNegativeIntegerDefault0", optionalSize),
  ("simpleTypes", simpleTypes),
  ("stringArray", stringArray)]

def limits : Members := [
  ("multipleOf", positiveNumber),
  ("maximum", ofType "number"),
  ("exclusiveMaximum", ofType "number"),
  ("minimum", ofType "number"),
  ("exclusiveMinimum", ofType "number"),
  ("maxLength", refer "#/$defs/nonNegativeInteger"),
  ("minLength", refer "#/$defs/nonNegativeIntegerDefault0"),
  ("pattern", ofFormat "regex"),
  ("maxItems", refer "#/$defs/nonNegativeInteger"),
  ("minItems", refer "#/$defs/nonNegativeIntegerDefault0"),
  ("uniqueItems", ofType "boolean"),
  ("maxContains", refer "#/$defs/nonNegativeInteger"),
  ("minContains", refer "#/$defs/nonNegativeInteger"),
  ("maxProperties", refer "#/$defs/nonNegativeInteger"),
  ("minProperties", refer "#/$defs/nonNegativeIntegerDefault0"),
  ("required", refer "#/$defs/stringArray"),
  ("dependentRequired", mappingTo (refer "#/$defs/stringArray"))]

def remarks : Members := [
  ("title", ofType "string"),
  ("description", ofType "string"),
  ("default", .bool true),
  ("deprecated", ofType "boolean"),
  ("readOnly", ofType "boolean"),
  ("writeOnly", ofType "boolean"),
  ("examples", ofType "array")]

def patternsTo (schema : Value) : Value := .object [
  ("type", .string "object"),
  ("additionalProperties", schema),
  ("propertyNames", only "format" (.string "regex"))]

def conditions (schema : Value) : Members := [
  ("propertyNames", schema),
  ("if", schema),
  ("then", schema),
  ("else", schema),
  ("allOf", refer "#/$defs/schemaArray"),
  ("anyOf", refer "#/$defs/schemaArray"),
  ("oneOf", refer "#/$defs/schemaArray"),
  ("not", schema)]

def addressWithoutFragment : String := "^[^#]*#?$"

/-! ## The edition of 2019 -/

namespace Edition2019

def anySchema : Value := only "$recursiveRef" (.string "#")

def document (name : String) (members : Members) : Value := .object ([
  ("$schema", .string "https://json-schema.org/draft/2019-09/schema"),
  ("$id", .string ("https://json-schema.org/draft/2019-09/" ++ name)),
  ("$recursiveAnchor", .bool true)] ++ members)

def vocabulary (name : String) (keywords definitions : Members) : Value :=
  document ("meta/" ++ name) [
    ("type", objectOrBoolean),
    ("properties", .object keywords),
    ("$defs", .object definitions)]

def core : Value := vocabulary "core" [
  ("$id", .object [
    ("type", .string "string"), ("format", .string "uri-reference"),
    ("pattern", .string addressWithoutFragment)]),
  ("$schema", ofFormat "uri"),
  ("$anchor", .object [
    ("type", .string "string"), ("pattern", .string "^[A-Za-z][-A-Za-z0-9.:_]*$")]),
  ("$ref", ofFormat "uri-reference"),
  ("$recursiveRef", ofFormat "uri-reference"),
  ("$recursiveAnchor", ofType "boolean"),
  ("$vocabulary", .object [
    ("type", .string "object"),
    ("propertyNames", ofFormat "uri"),
    ("additionalProperties", ofType "boolean")]),
  ("$comment", ofType "string"),
  ("$defs", mappingTo anySchema)] []

def applicator : Value := vocabulary "applicator" ([
  ("additionalItems", anySchema),
  ("unevaluatedItems", anySchema),
  ("items", either anySchema (refer "#/$defs/schemaArray")),
  ("contains", anySchema),
  ("additionalProperties", anySchema),
  ("unevaluatedProperties", anySchema),
  ("properties", mappingTo anySchema),
  ("patternProperties", patternsTo anySchema),
  ("dependentSchemas", mappingTo anySchema)] ++ conditions anySchema)
  [("schemaArray", schemaArray anySchema)]

def validation : Value := vocabulary "validation" (limits ++ [
  ("const", .bool true),
  ("enum", ofType "array"),
  ("type", typeNames (refer "#/$defs/simpleTypes"))]) sizeDefinitions

def metaData : Value := vocabulary "meta-data" remarks []

def format : Value := vocabulary "format" [("format", ofType "string")] []

def content : Value := vocabulary "content" [
  ("contentMediaType", ofType "string"),
  ("contentEncoding", ofType "string"),
  ("contentSchema", anySchema)] []

def schema : Value := document "schema" [
  ("allOf", .array [
    refer "meta/core", refer "meta/applicator", refer "meta/validation", refer "meta/meta-data",
    refer "meta/format", refer "meta/content"]),
  ("type", objectOrBoolean),
  ("properties", .object [
    ("definitions", mappingTo anySchema),
    ("dependencies",
      mappingTo (either anySchema (refer "meta/validation#/$defs/stringArray")))])]

def documents : List Value := [
  schema, core, applicator, validation, metaData, format, content]

end Edition2019

/-! ## The edition of 2020 -/

namespace Edition2020

def anySchema : Value := only "$dynamicRef" (.string "#meta")

def document (name : String) (members : Members) : Value := .object ([
  ("$schema", .string "https://json-schema.org/draft/2020-12/schema"),
  ("$id", .string ("https://json-schema.org/draft/2020-12/" ++ name)),
  ("$dynamicAnchor", .string "meta")] ++ members)

def vocabulary (name : String) (keywords definitions : Members) : Value :=
  document ("meta/" ++ name) [
    ("type", objectOrBoolean),
    ("properties", .object keywords),
    ("$defs", .object definitions)]

def core : Value := vocabulary "core" [
  ("$id", .object [
    ("$ref", .string "#/$defs/uriReferenceString"),
    ("pattern", .string addressWithoutFragment)]),
  ("$schema", refer "#/$defs/uriString"),
  ("$ref", refer "#/$defs/uriReferenceString"),
  ("$anchor", refer "#/$defs/anchorString"),
  ("$dynamicRef", refer "#/$defs/uriReferenceString"),
  ("$dynamicAnchor", refer "#/$defs/anchorString"),
  ("$vocabulary", .object [
    ("type", .string "object"),
    ("propertyNames", refer "#/$defs/uriString"),
    ("additionalProperties", ofType "boolean")]),
  ("$comment", ofType "string"),
  ("$defs", mappingTo anySchema)] [
  ("anchorString", .object [
    ("type", .string "string"), ("pattern", .string "^[A-Za-z_][-A-Za-z0-9._]*$")]),
  ("uriString", ofFormat "uri"),
  ("uriReferenceString", ofFormat "uri-reference")]

def applicator : Value := vocabulary "applicator" ([
  ("prefixItems", refer "#/$defs/schemaArray"),
  ("items", anySchema),
  ("contains", anySchema),
  ("additionalProperties", anySchema),
  ("properties", mappingTo anySchema),
  ("patternProperties", patternsTo anySchema),
  ("dependentSchemas", mappingTo anySchema)] ++ conditions anySchema)
  [("schemaArray", schemaArray anySchema)]

def unevaluated : Value := vocabulary "unevaluated" [
  ("unevaluatedItems", anySchema),
  ("unevaluatedProperties", anySchema)] []

def validation : Value := vocabulary "validation" ([
  ("type", typeNames (refer "#/$defs/simpleTypes")),
  ("const", .bool true),
  ("enum", ofType "array")] ++ limits) sizeDefinitions

def metaData : Value := vocabulary "meta-data" remarks []

def formatAnnotation : Value := vocabulary "format-annotation" [("format", ofType "string")] []

def content : Value := vocabulary "content" [
  ("contentEncoding", ofType "string"),
  ("contentMediaType", ofType "string"),
  ("contentSchema", anySchema)] []

def schema : Value := document "schema" [
  ("allOf", .array [
    refer "meta/core", refer "meta/applicator", refer "meta/unevaluated",
    refer "meta/validation", refer "meta/meta-data", refer "meta/format-annotation",
    refer "meta/content"]),
  ("type", objectOrBoolean),
  ("properties", .object [
    ("definitions", mappingTo anySchema),
    ("dependencies",
      mappingTo (either anySchema (refer "meta/validation#/$defs/stringArray"))),
    ("$recursiveAnchor", refer "meta/core#/$defs/anchorString"),
    ("$recursiveRef", refer "meta/core#/$defs/uriReferenceString")])]

def documents : List Value := [
  schema, core, applicator, unevaluated, validation, metaData, formatAnnotation, content]

end Edition2020

end RefLint.Standard
