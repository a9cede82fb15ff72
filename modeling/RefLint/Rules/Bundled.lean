import RefLint.Lint.Diagnostic
import RefLint.Rules.Ruleset

/-!
# The bundled ruleset

JSON:API v1.0 as rules for the schemas of its media type.
-/

namespace RefLint.Rules

set_option autoImplicit false

namespace Bundled

/-! ## Selectors -/

def body : String := "$..content['" ++ Lint.jsonApiMediaType ++ "'].schema"

def resource : String := body ++ ".properties.data.properties"

def attributes : String := resource ++ ".attributes"

def errors : String := body ++ ".properties.errors"

def errorObject : String := errors ++ ".items"

def responseResource : String :=
  "$.paths.*.*.responses.*.content['" ++ Lint.jsonApiMediaType
    ++ "'].schema.properties.data.properties"

/-! ## Actions -/

/-- The place in a message where the name of the selected member goes. -/
def property : String := "\x7b\x7bproperty\x7d\x7d"

def strings (names : List String) : Value := .array (names.map Value.string)

def oneOfValues (field : String) (values : List String) : Clause :=
  .one ⟨some field, .enumeration, some (.object [("values", strings values)])⟩

def keysAmong (keys : List String) : Clause := oneOfValues "@key" keys

def typeIs (name : String) : Clause := oneOfValues "type" [name]

def isThere (field : String) : Clause := .one ⟨some field, .truthy, none⟩

def isAbsent (field : String) : RuleAction := ⟨some field, .falsy, none⟩

def satisfies (field : Option String) (schema : Members) : Clause :=
  .one ⟨field, .schema, some (.object [("schema", .object schema)])⟩

def requires (names : List String) : Value := .object [("required", strings names)]

/-! ## Rules -/

def mediaTypeRules : List (String × Rule) := [
  ("jsonapi-response-media-type",
    { description := "Responses with a body MUST use the JSON:API media type."
      message := "Response content type " ++ property ++ " is not " ++ Lint.jsonApiMediaType
      severity := .error
      given := "$.paths.*.*.responses[?(@property != '204')].content"
      clause := keysAmong [Lint.jsonApiMediaType] }),
  ("jsonapi-request-media-type",
    { description := "Request bodies MUST use the JSON:API media type."
      message := "Request content type " ++ property ++ " is not " ++ Lint.jsonApiMediaType
      severity := .error
      given := "$.paths.*[post,patch].requestBody.content"
      clause := keysAmong [Lint.jsonApiMediaType] })]

def topLevelRules : List (String × Rule) := [
  ("jsonapi-top-level-required-member",
    { description := "A JSON:API document MUST contain at least one of data, errors or meta."
      message := "Document schema must define data, errors or meta"
      severity := .error
      given := body
      clause := satisfies none [
        ("type", .string "object"),
        ("required", strings ["properties"]),
        ("properties", .object [("properties", .object [
          ("anyOf", .array [requires ["data"], requires ["errors"], requires ["meta"]])])])] }),
  ("jsonapi-top-level-data-and-errors",
    { description := "The members data and errors MUST NOT coexist in the same document."
      message := "Document schema defines both data and errors"
      severity := .error
      given := body
      clause := satisfies (some "properties") [("not", requires ["data", "errors"])] }),
  ("jsonapi-top-level-allowed-members",
    { description :=
        "Top-level members are limited to data, errors, meta, jsonapi, links and included."
      message := property ++ " is not a JSON:API top-level member"
      severity := .error
      given := body ++ ".properties"
      clause := keysAmong ["data", "errors", "meta", "jsonapi", "links", "included"] })]

def resourceRules : List (String × Rule) := [
  ("jsonapi-resource-object-type",
    { description := "A resource object MUST contain a type member."
      message := "Resource object schema is missing type"
      severity := .error
      given := resource
      clause := isThere "type" }),
  ("jsonapi-resource-object-id",
    { description :=
        "A resource object MUST contain an id member, except when it originates at the client."
      message := "Resource object schema is missing id"
      severity := .error
      given := responseResource
      clause := isThere "id" }),
  ("jsonapi-resource-object-type-string",
    { description := "The value of the type member MUST be a string."
      message := "Resource object type must be a string"
      severity := .error
      given := resource ++ ".type"
      clause := typeIs "string" }),
  ("jsonapi-resource-object-id-string",
    { description := "The value of the id member MUST be a string."
      message := "Resource object id must be a string"
      severity := .error
      given := resource ++ ".id"
      clause := typeIs "string" }),
  ("jsonapi-resource-object-allowed-members",
    { description :=
        "Resource objects are limited to id, type, attributes, relationships, links and meta."
      message := property ++ " is not a resource object member"
      severity := .error
      given := resource
      clause := keysAmong ["id", "type", "attributes", "relationships", "links", "meta"] })]

def attributeRules : List (String × Rule) := [
  ("jsonapi-attributes-object",
    { description := "The value of the attributes key MUST be an object."
      message := "attributes must be an object"
      severity := .error
      given := attributes
      clause := typeIs "object" }),
  ("jsonapi-attributes-reserved-members",
    { description := "An attributes object MUST NOT contain relationships or links members."
      message := "attributes must not define " ++ property
      severity := .error
      given := attributes ++ ".properties"
      clause := .many [isAbsent "relationships", isAbsent "links"] }),
  ("jsonapi-member-names",
    { description := "Member names MUST start and end with a globally allowed character."
      message := "Member name " ++ property ++ " is not a valid JSON:API member name"
      severity := .warn
      given := attributes ++ ".properties"
      clause := .one ⟨some "@key", .pattern,
        some (.object [("match", .string "^[a-zA-Z0-9](?:[-_a-zA-Z0-9]*[a-zA-Z0-9])?$")])⟩ })]

def errorRules : List (String × Rule) := [
  ("jsonapi-errors-array",
    { description := "The errors member MUST be an array of error objects."
      message := "errors must be an array"
      severity := .error
      given := errors
      clause := typeIs "array" }),
  ("jsonapi-error-object-allowed-members",
    { description :=
        "Error objects are limited to id, links, status, code, title, detail, source and meta."
      message := property ++ " is not an error object member"
      severity := .error
      given := errorObject ++ ".properties"
      clause := keysAmong
        ["id", "links", "status", "code", "title", "detail", "source", "meta"] }),
  ("jsonapi-error-object-not-empty",
    { description := "An error object SHOULD define at least one member."
      message := "Error object schema defines no members"
      severity := .warn
      given := errorObject
      clause := .one ⟨some "properties", .length, some (.object [("min", .ofNat 1)])⟩
      recommended := false }),
  ("jsonapi-error-object-status-string",
    { description := "The status member of an error object MUST be a string."
      message := "Error status must be a string"
      severity := .error
      given := errorObject ++ ".properties.status"
      clause := typeIs "string" })]

end Bundled

def bundledRuleset : Ruleset :=
  .ofRules (Bundled.mediaTypeRules ++ Bundled.topLevelRules ++ Bundled.resourceRules
    ++ Bundled.attributeRules ++ Bundled.errorRules)

end RefLint.Rules
