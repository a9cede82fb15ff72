import RefLint.Base64
import RefLint.Json.Reader
import RefLint.Schema.Evaluated
import RefLint.Schema.Sameness

/-!
# Checking values against schemas

`SchemaDocument.violations` lists what is wrong with a value, keyword by keyword.
The keywords that stand for other schemas take the check of a schema as an
argument; the recursion itself is on a budget that covers every chain of schemas
which does not run in a circle without going deeper into the value.
-/

namespace RefLint

set_option autoImplicit false

namespace Number

/-- Whether dividing by the divisor leaves no rest. A whole divisor is tried exactly; else
the rounded quotient has to be less than 2^-52 above a whole number, or to be negative. Where
the quotient is too large for a double, the shortest decimals of both numbers are divided. -/
def isMultipleOf (value divisor : Number) : Bool :=
  let x := value.toBinary64
  let y := divisor.toBinary64
  if y.isIntegral then
    let (a, b) := (Number.float x).ratio
    let (c, d) := (Number.float y).ratio
    (a * d) % (c * b) == 0
  else
    let quotient := x.div y
    if !quotient.isFinite then (Decimal.shortest x).isMultipleOf (Decimal.shortest y)
    else
      let (numerator, denominator) := (Number.float quotient).ratio
      let rest := numerator - numerator.tdiv denominator * denominator
      rest * Nat.pow 2 52 < denominator

def isWithin (value : Number) (side : Side) (strict : Bool) (limit : Number) : Bool :=
  match side, strict with
  | .least, false => !value.lt limit
  | .least, true => limit.lt value
  | .most, false => !limit.lt value
  | .most, true => value.lt limit

end Number

/-! ## What texts contain -/

def isDocument (text : String) : Bool :=
  match Json.read text with
  | .ok _ => true
  | .error _ => false

def Content.fault? (content : Content) (text : String) : Option Fault :=
  match content, Base64.decode? text.toList with
  | .document, _ => if isDocument text then none else some .notDocument
  | .octets, some _ => none
  | _, none => some .notOctets
  | .documentOctets, some decoded =>
      match Utf8.flaw? decoded, String.fromUTF8? ⟨decoded.toArray⟩ with
      | some flaw, _ => some (.notText flaw)
      | none, some inside => if isDocument inside then none else some .notDocument
      | none, none => none

/-! ## Keywords -/

/-- The check of schemas, as the keywords that contain schemas use it. -/
structure Checker where
  violations : Check
  /-- The parts of a value that a schema evaluates. -/
  evaluated : Schema → Value → List String

namespace Keyword

def isValid (check : Checker) (value : Value) (schema : Schema) : Bool :=
  check.violations.isValid value schema

def zipViolations (check : Checker) : Nat → List Schema → List Value → List Violation
  | position, schema :: schemas, item :: items =>
      let step := toString position
      (check.violations schema item).map (Violation.under [step] ∘ Violation.inside step)
        ++ zipViolations check (position + 1) schemas items
  | _, _, _ => []

def itemViolations (check : Checker) (schema : Schema) : Nat → List Value → List Violation
  | _, [] => []
  | position, item :: rest =>
      (check.violations schema item).map (Violation.inside (toString position))
        ++ itemViolations check schema (position + 1) rest

/-- The members that the schemas by name apply to, in the order of the schemas. -/
def namedViolations (check : Checker) (named : List (String × Schema)) (members : Members) :
    List Violation :=
  named.flatMap fun (name, schema) =>
    match Members.get? name members with
    | some value =>
        (check.violations schema value).map (Violation.under [name] ∘ Violation.inside name)
    | none => []

def patternViolations (check : Checker) (patterns : List (Pattern × Schema)) (key : String)
    (value : Value) : List Violation :=
  patterns.flatMap fun (regex, schema) =>
    if regex.found key then (check.violations schema value).map (Violation.inside key) else []

def isCovered (named : List (String × Schema)) (patterns : List (Pattern × Schema)) (key : String) :
    Bool :=
  (Definitions.get? key named).isSome || patterns.any fun (regex, _) => regex.found key

def coveredViolations (check : Checker) (named : List (String × Schema))
    (patterns : List (Pattern × Schema)) (key : String) (value : Value) : List Violation :=
  (match Definitions.get? key named with
    | some schema => (check.violations schema value).map (Violation.inside key)
    | none => [])
  ++ patternViolations check patterns key value

/-- Where no member but the covered ones is allowed, the others are told all at once. -/
def closedViolations (check : Checker) (named : List (String × Schema))
    (patterns : List (Pattern × Schema)) (members : Members) : List Violation :=
  let unexpected := (members.filter fun (key, _) => !isCovered named patterns key).map (·.1)
  members.flatMap (fun (key, value) => coveredViolations check named patterns key value)
    ++ (if unexpected.isEmpty then []
        else [Violation.here (.object members) (.unexpected unexpected)])

def openViolations (check : Checker) (named : List (String × Schema))
    (patterns : List (Pattern × Schema)) (others : Schema) (members : Members) : List Violation :=
  members.flatMap fun (key, value) =>
    if isCovered named patterns key then coveredViolations check named patterns key value
    else (check.violations others value).map (Violation.inside key)

def allViolations (check : Checker) (value : Value) : Nat → List Schema → List Violation
  | _, [] => []
  | position, schema :: rest =>
      (check.violations schema value).map (Violation.under [toString position])
        ++ allViolations check value (position + 1) rest

def countValid (check : Checker) (value : Value) (schemas : List Schema) : Nat :=
  (schemas.filter (isValid check value)).length

def missingViolations (names : List String) (members : Members) : List Violation :=
  (names.filter fun name => !Members.has name members).map fun name =>
    Violation.here (.object members) (.missing name)

/-- What is wrong with a mapping by the conditions that its members bring. The names of missing
members are a condition of the keyword itself, a schema is one of its own. -/
def dependentViolations (check : Checker) (entries : List (String × List String × Schema))
    (members : Members) : List Violation :=
  entries.flatMap fun (name, names, schema) =>
    if Members.has name members then
      missingViolations names members
        ++ (check.violations schema (.object members)).map (Violation.under [name])
    else []

/-- The members that neither the keywords beside nor the schema for the rest accept. -/
def unevaluatedMembers (check : Checker) (beside : List Keyword) (schema : Schema)
    (members : Members) : List Violation :=
  let evaluated := check.evaluated (.all beside) (.object members)
  let unexpected := members.filter fun (key, member) =>
    !evaluated.contains key && !isValid check member schema
  if unexpected.isEmpty then []
  else [Violation.here (.object members) (.unevaluated (unexpected.map (·.1)))]

def unevaluatedRest (check : Checker) (beside : List Keyword) (schema : Schema)
    (items : List Value) : List Violation :=
  let evaluated := check.evaluated (.all beside) (.array items)
  let unexpected := items.zipIdx.filter fun (item, position) =>
    !evaluated.contains (toString position) && !isValid check item schema
  if unexpected.isEmpty then []
  else [Violation.here (.array items) (.unevaluatedItems (unexpected.map (·.1)))]

def violations (check : Checker) (definitions : Definitions) (value : Value) :
    Keyword → List Violation
  | type allowed =>
      if allowed.any fun typeName => typeName.admits value then []
      else [Violation.here value (.wrongType allowed)]
  | heldType allowed =>
      if allowed.any fun typeName => typeName.admitsHeld value then []
      else [Violation.here value (.wrongType allowed)]
  | oneOfValues options =>
      if options.any value.sameAs then [] else [Violation.here value (.notListed options)]
  | constant expected =>
      if Value.isConstant expected value then [] else [Violation.here value (.notConstant expected)]
  | required names =>
      match value with
      | .object members => missingViolations names members
      | _ => []
  | size measure side limit =>
      match measure.of? value with
      | some count =>
          let isKept : Bool :=
            match side with
            | .least => limit ≤ count
            | .most => count ≤ limit
          if isKept then [] else [Violation.here value (.wrongSize measure side limit)]
      | none => []
  | bound side strict limit =>
      match value with
      | .number number =>
          if number.isWithin side strict limit then []
          else [Violation.here value (.outOfBounds side strict limit)]
      | _ => []
  | multipleOf divisor =>
      match value with
      | .number number =>
          if number.isMultipleOf divisor then [] else [Violation.here value (.notMultiple divisor)]
      | _ => []
  | pattern regex =>
      match value with
      | .string subject =>
          match regex.search subject with
          | .found => []
          | .absent => [Violation.here value (.noMatch regex.text)]
          | .exhausted => [Violation.here value .searchExhausted]
      | _ => []
  | format form =>
      match value with
      | .string text =>
          if form.accepts text then [] else [Violation.here value (.wrongFormat form)]
      | _ => []
  | content inside =>
      match value with
      | .string text => ((inside.fault? text).map (Violation.here value)).toList
      | _ => []
  | uniqueItems =>
      match value with
      | .array items =>
          if Value.hasRepetition items then [Violation.here value .repeatedItems] else []
      | _ => []
  | prefixItems schemas =>
      match value with
      | .array items => zipViolations check 0 schemas items
      | _ => []
  | laterItems skipped schema =>
      match value with
      | .array items => itemViolations check schema skipped (items.drop skipped)
      | _ => []
  | noLaterItems limit =>
      match value with
      | .array items =>
          if items.length ≤ limit then []
          else [Violation.here value (.unexpectedItems (items.drop limit))]
      | _ => []
  | contains least most _ schema =>
      match value with
      | .array items =>
          let count := (items.filter fun item => isValid check item schema).length
          if least ≤ count && most.all fun limit => count ≤ limit then []
          else [Violation.here value .noneContained]
      | _ => []
  | properties named =>
      match value with
      | .object members => namedViolations check named members
      | _ => []
  | patternProperties patterns =>
      match value with
      | .object members =>
          patterns.flatMap fun (regex, schema) =>
            members.flatMap fun (key, member) =>
              patternViolations check [(regex, schema)] key member
      | _ => []
  | additionalProperties named patterns others =>
      match value with
      | .object members =>
          match others with
          | .nothing => closedViolations check named patterns members
          | _ => openViolations check named patterns others members
      | _ => []
  | noProperties =>
      match value with
      | .object ((_, member) :: _) => [Violation.here member .forbidden]
      | _ => []
  | propertyNames schema =>
      match value, schema with
      | .object [], _ => []
      | .object _, .nothing => [Violation.here value .forbidden]
      | .object members, schema =>
          members.flatMap fun (key, _) => check.violations schema (.string key)
      | _, _ => []
  | dependent _ entries =>
      match value with
      | .object members => dependentViolations check entries members
      | _ => []
  | conditional test holds fails =>
      if isValid check value test then check.violations holds value
      else check.violations fails value
  | allOf schemas => allViolations check value 0 schemas
  | anyOf schemas =>
      if schemas.any (isValid check value) then []
      else [Violation.here value (.noAlternative "anyOf")]
  | oneOf schemas =>
      match countValid check value schemas with
      | 0 => [Violation.here value (.noAlternative "oneOf")]
      | 1 => []
      | _ => [Violation.here value .severalAlternatives]
  | not schema written =>
      if isValid check value schema then [Violation.here value (.excluded written)] else []
  | reference _ target =>
      match definitions.get? target with
      | some schema => check.violations schema value
      | none => []
  | unevaluatedProperties beside schema =>
      match value with
      | .object members => unevaluatedMembers check beside schema members
      | _ => []
  | unevaluatedItems beside schema =>
      match value with
      | .array items => unevaluatedRest check beside schema items
      | _ => []

end Keyword

namespace Schema

/-- What is wrong with a value, in the order of the keywords. -/
def violations (definitions : Definitions) : Nat → Schema → Value → List Violation
  | 0, _, _ => []
  | _ + 1, anything, _ => []
  | _ + 1, nothing, value => [Violation.here value .forbidden]
  | budget + 1, all keywords, value =>
      let check := violations definitions budget
      keywords.flatMap fun keyword =>
        (keyword.violations ⟨check, evaluated check definitions budget⟩ definitions value).map
          (Violation.under [keyword.name])

end Schema

namespace SchemaDocument

def violations (document : SchemaDocument) (value : Value) : List Violation :=
  document.root.violations document.definitions ((value.depth + 2) * (document.depth + 1)) value

end SchemaDocument

end RefLint
