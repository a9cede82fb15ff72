import RefLint.Schema.Dialect

/-!
# What the schemas of schemas are made of

Every generation of the schema language describes itself by documents in that language. These
are the pieces which their documents share. Remarks that put no condition are left out.
-/

namespace RefLint.Standard

set_option autoImplicit false

def texts (list : List String) : Value := .array (list.map Value.string)

def only (keyword : String) (value : Value) : Value := .object [(keyword, value)]

def refer (target : String) : Value := only "$ref" (.string target)

def ofType (name : String) : Value := only "type" (.string name)

def ofFormat (format : String) : Value :=
  .object [("type", .string "string"), ("format", .string format)]

def mappingTo (schema : Value) : Value :=
  .object [("type", .string "object"), ("additionalProperties", schema)]

def either (first second : Value) : Value := only "anyOf" (.array [first, second])

def schemaArray (self : Value) : Value :=
  .object [("type", .string "array"), ("minItems", .ofNat 1), ("items", self)]

def nonNegativeInteger : Value :=
  .object [("type", .string "integer"), ("minimum", .ofNat 0)]

def simpleTypes : Value :=
  only "enum" (texts ["array", "boolean", "integer", "null", "number", "object", "string"])

def stringArray : Value := .object [
  ("type", .string "array"), ("items", ofType "string"), ("uniqueItems", .bool true)]

def typeNames (simpleTypes : Value) : Value :=
  either simpleTypes (.object [
    ("type", .string "array"), ("items", simpleTypes), ("minItems", .ofNat 1),
    ("uniqueItems", .bool true)])

def positiveNumber : Value :=
  .object [("type", .string "number"), ("exclusiveMinimum", .ofNat 0)]

/-- A list that is not empty and has no value twice. -/
def distinctValues : Value := .object [
  ("type", .string "array"), ("minItems", .ofNat 1), ("uniqueItems", .bool true)]

def objectOrBoolean : Value := texts ["object", "boolean"]

end RefLint.Standard
