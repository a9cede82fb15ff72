import RefLint.Schema.Violation

/-!
# Which parts of a value a schema evaluates

A keyword evaluates the members and items for which it has schemas, and what the schemas inside
it evaluate when these apply. A part is told by its key or by its position in digits, as in the
paths of violations.
-/

namespace RefLint

set_option autoImplicit false

abbrev Check := Schema → Value → List Violation

def Check.isValid (check : Check) (value : Value) (schema : Schema) : Bool :=
  (check schema value).isEmpty

/-- Whether a schema consists of keywords; a mere yes or no evaluates nothing. -/
def Schema.hasKeywords : Schema → Bool
  | .all _ => true
  | _ => false

namespace Keyword

def keysWhere (condition : String → Value → Bool) : Value → List String
  | .object members => (members.filter fun (key, member) => condition key member).map (·.1)
  | _ => []

def positionsFrom (condition : Nat → Value → Bool) : Nat → List Value → List String
  | _, [] => []
  | position, item :: rest =>
      if condition position item then
        toString position :: positionsFrom condition (position + 1) rest
      else positionsFrom condition (position + 1) rest

def positionsWhere (condition : Nat → Value → Bool) : Value → List String
  | .array items => positionsFrom condition 0 items
  | _ => []

def fitsNamed (check : Check) (named : List (String × Schema)) (key : String) (member : Value) :
    Bool :=
  (Definitions.get? key named).any (check.isValid member)

def fitsPattern (check : Check) (patterns : List (Pattern × Schema)) (key : String)
    (member : Value) : Bool :=
  patterns.any fun (regex, schema) => regex.found key && check.isValid member schema

def dependentParts (evaluated : Schema → List String)
    (entries : List (String × List String × Schema)) : Value → List String
  | .object members =>
      entries.flatMap fun (name, _, schema) =>
        if Members.has name members then evaluated schema else []
  | _ => []

/-- The parts of a value that a keyword evaluates; `evaluated` tells those that a schema
does. -/
def evaluatedParts (check : Check) (definitions : Definitions)
    (evaluated : Schema → List String) (value : Value) : Keyword → List String
  | properties named => keysWhere (fitsNamed check named) value
  | patternProperties patterns => keysWhere (fitsPattern check patterns) value
  | additionalProperties named patterns others =>
      keysWhere (fun key member => fitsNamed check named key member
        || fitsPattern check patterns key member || check.isValid member others) value
  | unevaluatedProperties _ schema => keysWhere (fun _ member => check.isValid member schema) value
  | prefixItems schemas => positionsWhere (fun position _ => position < schemas.length) value
  | laterItems _ _ => positionsWhere (fun _ _ => true) value
  | noLaterItems _ => positionsWhere (fun _ _ => true) value
  | contains _ _ evaluates schema =>
      positionsWhere (fun _ item => evaluates && check.isValid item schema) value
  | unevaluatedItems _ schema => positionsWhere (fun _ item => check.isValid item schema) value
  | dependent .dependentSchemas entries => dependentParts evaluated entries value
  | conditional test holds fails =>
      if !test.hasKeywords then []
      else if check.isValid value test then evaluated test ++ evaluated holds
      else evaluated fails
  | allOf schemas =>
      let inner := schemas.filter Schema.hasKeywords
      if inner.all (check.isValid value) then inner.flatMap evaluated else []
  | anyOf schemas => (schemas.filter (check.isValid value)).flatMap evaluated
  | oneOf schemas =>
      match (schemas.filter Schema.hasKeywords).filter (check.isValid value) with
      | [schema] => evaluated schema
      | _ => []
  | reference _ target =>
      match definitions.get? target with
      | some schema => evaluated schema
      | none => []
  | _ => []

end Keyword

/-- The parts of a value that a schema evaluates, on a budget. -/
def Schema.evaluated (check : Check) (definitions : Definitions) :
    Nat → Schema → Value → List String
  | budget + 1, .all keywords, value =>
      keywords.flatMap fun keyword =>
        keyword.evaluatedParts check definitions
          (fun schema => evaluated check definitions budget schema value) value
  | _, _, _ => []

end RefLint
