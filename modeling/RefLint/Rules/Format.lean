import RefLint.Rules.Action
import RefLint.Schema.Conformance
import RefLint.Severity

/-!
# The form of a ruleset document

A ruleset is a mapping with `rules`, and each rule has texts, a severity by name
or by level, a selector that starts with `$`, and one action or a list of them.
Members that are not mentioned are allowed, except in an action.
-/

namespace RefLint.Rules

set_option autoImplicit false

def nonEmptyText : Schema := .all [.type [.string], .size .characters .least 1]

def namesOf (names : List String) : Schema := .all [.oneOfValues (names.map Value.string)]

def severitySchema : Schema := .all [.oneOf [
  namesOf (Severity.all.map Severity.name),
  .all [.type [.integer], .bound .least false (.integer 0), .bound .most false (.integer 3)]]]

def dollarFirst : Pattern where
  text := "^\\$"
  expression := .sequence (.at .textStart) (.oneOf (.single '$'))
  referenced := []

def selectorSchema : Schema := .all [.type [.string], .pattern dollarFirst]

def actionReference : Schema := .all [.reference "$ref" "action"]

def clauseSchema : Schema := .all [.oneOf [
  actionReference,
  .all [.type [.array], .size .items .least 1, .laterItems 0 actionReference]]]

def ruleSchema : Schema := .all [
  .type [.object],
  .required ["description", "message", "severity", "given", "then"],
  .properties [
    ("description", nonEmptyText),
    ("message", nonEmptyText),
    ("severity", severitySchema),
    ("given", selectorSchema),
    ("recommended", .all [.type [.boolean]]),
    ("then", clauseSchema)]]

def actionSchema : Schema := .all [
  .type [.object],
  .required ["function"],
  .additionalProperties [
    ("field", nonEmptyText),
    ("function", namesOf (AssertionFunction.all.map AssertionFunction.name)),
    ("functionOptions", .all [.type [.object]])] [] .nothing]

def rulesSchema : Schema := .all [
  .type [.object],
  .additionalProperties [] [] (.all [.reference "$ref" "rule"])]

def rulesetSchema : SchemaDocument where
  root := .all [
    .type [.object],
    .required ["rules"],
    .properties [("rules", rulesSchema)]]
  definitions := [("rule", ruleSchema), ("action", actionSchema)]
  depth := 6

def rulesetFindings (document : Value) : List Finding :=
  (rulesetSchema.violations document).map Finding.ofViolation

end RefLint.Rules
