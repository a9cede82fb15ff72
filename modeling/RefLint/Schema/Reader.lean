import RefLint.Schema.Sameness
import RefLint.Schema.Scope

/-!
# Reading schemas

A schema is read from a document, keyword by keyword. Keywords that its generation does not know
are passed over. Every schema that a reference names is read once for each scope from which it is
named, when the first such reference is met, and kept in a table.
-/

namespace RefLint

set_option autoImplicit false

namespace Value

def count : Value → Nat
  | array items => ofItems items + 1
  | object members => ofMembers members + 1
  | _ => 1
where
  ofItems : List Value → Nat
    | [] => 0
    | item :: rest => item.count + ofItems rest
  ofMembers : List (String × Value) → Nat
    | [] => 0
    | (_, value) :: rest => value.count + ofMembers rest

end Value

/-- The generations that know a keyword: the first one and the last one. -/
def Dialect.keywords : List (String × Dialect × Dialect) :=
  let always := [
    "$ref", "additionalItems", "additionalProperties", "allOf", "anyOf", "dependencies", "enum",
    "items", "maxItems", "maxLength", "maxProperties", "maximum", "minItems", "minLength",
    "minProperties", "minimum", "multipleOf", "not", "oneOf", "pattern", "patternProperties",
    "properties", "required", "type", "uniqueItems"]
  always.map (fun name => (name, draft4, draft2020)) ++ [
    ("format", draft4, draft7),
    ("const", draft6, draft2020),
    ("contains", draft6, draft2020),
    ("exclusiveMaximum", draft6, draft2020),
    ("exclusiveMinimum", draft6, draft2020),
    ("propertyNames", draft6, draft2020),
    ("contentEncoding", draft6, draft7),
    ("contentMediaType", draft6, draft7),
    ("if", draft7, draft2020),
    ("dependentRequired", draft2019, draft2020),
    ("dependentSchemas", draft2019, draft2020),
    ("unevaluatedItems", draft2019, draft2020),
    ("unevaluatedProperties", draft2019, draft2020),
    ("$recursiveRef", draft2019, draft2019),
    ("$dynamicRef", draft2020, draft2020),
    ("prefixItems", draft2020, draft2020)]

def Dialect.knows (dialect : Dialect) (keyword : String) : Bool :=
  keywords.any fun (name, first, last) =>
    name == keyword && first.isSince dialect && last.isUntil dialect

namespace Schema

/-! ## Values of keywords -/

def demand {α : Type} (type : TypeName) (take : Value → Option α) (value : Value) :
    Except SchemaFault α :=
  match take value with
  | some taken => .ok taken
  | none => .error (.wrongType value [type])

def demandString : Value → Except SchemaFault String :=
  demand .string fun
    | .string text => some text
    | _ => none

def demandNumber : Value → Except SchemaFault Number :=
  demand .number fun
    | .number number => some number
    | _ => none

def demandBoolean : Value → Except SchemaFault Bool :=
  demand .boolean fun
    | .bool isSet => some isSet
    | _ => none

def demandItems : Value → Except SchemaFault (List Value) :=
  demand .array fun
    | .array items => some items
    | _ => none

def demandMembers : Value → Except SchemaFault Members :=
  demand .object fun
    | .object members => some members
    | _ => none

def natural? : Value → Option Nat
  | .number number =>
      let (numerator, denominator) := number.ratio
      if number.isWhole && 0 ≤ numerator then some (numerator.toNat / denominator) else none
  | _ => none

/-- A size. All generations but the fourth draft take a whole number that is held as a float,
and a negative one for zero. -/
def readSize (dialect : Dialect) (value : Value) : Except SchemaFault Nat :=
  match value with
  | .number (.integer limit) =>
      if 0 ≤ limit then .ok limit.toNat
      else .error (.unfit value (.outOfBounds .least false (.integer 0)))
  | .number (.float limit) =>
      if dialect ≠ .draft4 && limit.isIntegral then .ok ((natural? value).getD 0)
      else .error (.wrongType value [.integer])
  | _ => .error (.wrongType value [.integer])

def typeNameValues : List Value := TypeName.all.map fun type => .string type.name

def readOnlyType (value : Value) : Except SchemaFault TypeName := do
  let name ← demandString value
  match TypeName.ofName? name with
  | some type => pure type
  | none => .error .unknownType

def readListedType (value : Value) : Except SchemaFault TypeName := do
  let name ← demandString value
  match TypeName.ofName? name with
  | some type => pure type
  | none => .error (.unfit value (.notListed typeNameValues))

def readTypes (value : Value) : Except SchemaFault (List TypeName) :=
  match value with
  | .string _ => do
      let type ← readOnlyType value
      pure [type]
  | .array [item] => do
      let type ← readOnlyType item
      pure [type]
  | .array items => items.mapM readListedType
  | _ => .error (.wrongType value [.array, .string])

def readNames (value : Value) : Except SchemaFault (List String) := do
  let items ← demandItems value
  items.mapM demandString

/-- An expression; `told` is what is reported when it is none. -/
def readPattern (text : String) (told : Value) : Except SchemaFault Pattern :=
  match Pattern.ofText? text with
  | some pattern => .ok pattern
  | none => .error (.unfit told (.wrongFormat .regex))

def readFormat (dialect : Dialect) (value : Value) : Except SchemaFault (List Keyword) := do
  let name ← demandString value
  pure ((TextFormat.ofName? dialect name).map Keyword.format).toList

/-- What a text contains by its type. Its encoding, where it has one, belongs to it. -/
def readMediaType (members : Members) (value : Value) : Except SchemaFault (List Keyword) := do
  let mediaType ← demandString value
  if mediaType ≠ "application/json" then pure []
  else
    match Members.get? "contentEncoding" members with
    | none => pure [.content .document]
    | some written => do
        let encoding ← demandString written
        pure (if encoding = "base64" then [.content .documentOctets] else [])

def readEncoding (members : Members) (value : Value) : Except SchemaFault (List Keyword) :=
  if Members.has "contentMediaType" members then .ok []
  else do
    let encoding ← demandString value
    pure (if encoding = "base64" then [.content .octets] else [])

def sizeKeyword? : String → Option (Measure × Side)
  | "minLength" => some (.characters, .least)
  | "maxLength" => some (.characters, .most)
  | "minItems" => some (.items, .least)
  | "maxItems" => some (.items, .most)
  | "minProperties" => some (.properties, .least)
  | "maxProperties" => some (.properties, .most)
  | _ => none

/-- Whether the limit of a keyword is not itself allowed. In the fourth draft another keyword
tells so. -/
def isStrict (dialect : Dialect) (members : Members) (keyword : String) : Bool :=
  match dialect, Members.get? keyword members with
  | .draft4, some (.bool isSet) => isSet
  | _, _ => false

def boundKeyword? (dialect : Dialect) (members : Members) : String → Option (Side × Bool)
  | "minimum" => some (.least, isStrict dialect members "exclusiveMinimum")
  | "maximum" => some (.most, isStrict dialect members "exclusiveMaximum")
  | "exclusiveMinimum" => some (.least, true)
  | "exclusiveMaximum" => some (.most, true)
  | _ => none

/-- The conditions that contain no schemas. -/
def readPlain (dialect : Dialect) (members : Members) (name : String) (value : Value) :
    Except SchemaFault (List Keyword) :=
  match name with
  | "type" => do
      let allowed ← readTypes value
      pure [if dialect = .draft4 then .heldType allowed else .type allowed]
  | "enum" => do
      let options ← demandItems value
      pure [.oneOfValues options]
  | "const" => .ok [.constant value]
  | "required" => do
      let names ← readNames value
      pure [.required names]
  | "multipleOf" => do
      let divisor ← demandNumber value
      pure [.multipleOf divisor]
  | "uniqueItems" => do
      let isSet ← demandBoolean value
      pure (if isSet then [.uniqueItems] else [])
  | "pattern" => do
      let text ← demandString value
      let pattern ← readPattern text value
      pure [.pattern pattern]
  | "format" => readFormat dialect value
  | "contentMediaType" => readMediaType members value
  | "contentEncoding" => readEncoding members value
  | _ =>
      match sizeKeyword? name, boundKeyword? dialect members name with
      | some (measure, side), _ => do
          let limit ← readSize dialect value
          pure [.size measure side limit]
      | _, some (side, strict) => do
          let limit ← demandNumber value
          pure [.bound side strict limit]
      | _, _ => .ok []

/-! ## The table of schemas that references name -/

structure Target where
  keyword : String
  address : Uri
  scope : Scope
  deriving DecidableEq

structure Table where
  /-- The targets that have been met, with their names in the table. -/
  names : List (Target × String)
  definitions : Definitions
  /-- The number of values in the documents of all definitions. -/
  weight : Nat

abbrev Reading := StateT Table (Except SchemaFault)

structure Surroundings where
  scope : Scope
  /-- All members of the schema. -/
  members : Members
  /-- Read a schema that stands in the one at hand. -/
  read : Value → Reading Schema
  /-- Read a schema that stands in a scope of its own. -/
  readIn : Scope → Value → Reading Schema

/-! ## Keywords that contain schemas -/

def readList (around : Surroundings) (value : Value) : Reading (List Schema) := do
  let items ← demandItems value
  items.mapM around.read

def readNamed (around : Surroundings) : Option Value → Reading (List (String × Schema))
  | none => pure []
  | some value => do
      let members ← demandMembers value
      members.mapM fun (name, value) => do
        let schema ← around.read value
        pure (name, schema)

/-- Schemas by expressions; in the place of a bad expression its schema is told. -/
def readPatterns (around : Surroundings) : Option Value → Reading (List (Pattern × Schema))
  | none => pure []
  | some value => do
      let members ← demandMembers value
      members.mapM fun (text, value) => do
        let pattern ← readPattern text value
        let schema ← around.read value
        pure (pattern, schema)

/-- Whether `additionalProperties` checks the members that have schemas of their own too. -/
def closesProperties (members : Members) : Bool :=
  match Members.get? "additionalProperties" members with
  | some (.bool false) => true
  | some (.object _) => true
  | _ => false

def readAdditional (around : Surroundings) (value : Value) : Reading (List Keyword) := do
  let named := Members.get? "properties" around.members
  let patterns := Members.get? "patternProperties" around.members
  let patternSchemas ← readPatterns around patterns
  match value, named, patterns with
  | .bool true, _, _ => pure [.additionalProperties [] [] .anything]
  | .bool false, none, none => pure [.noProperties]
  | _, _, _ => do
      let namedSchemas ← readNamed around named
      let others ← around.read value
      pure [.additionalProperties namedSchemas patternSchemas others]

/-- A list of names asks for these members; anything else is a schema. -/
def readDependencies (around : Surroundings) (value : Value) : Reading (List Keyword) := do
  let members ← demandMembers value
  let entries ← members.mapM fun (name, value) => do
    match value with
    | .array _ =>
        let names ← readNames value
        pure (name, names, Schema.anything)
    | _ =>
        let schema ← around.read value
        pure (name, [], schema)
  pure [.dependent .dependencies entries]

def readDependentRequired (value : Value) : Except SchemaFault (List Keyword) := do
  let members ← demandMembers value
  let entries ← members.mapM fun (name, value) => do
    let items ← demandItems value
    if Value.hasRepetition items then .error (.unfit value .repeatedItems)
    else
      let names ← items.mapM demandString
      pure (name, names, Schema.anything)
  pure [.dependent .dependentRequired entries]

def readDependentSchemas (around : Surroundings) (value : Value) : Reading (List Keyword) := do
  let named ← readNamed around (some value)
  pure [.dependent .dependentSchemas (named.map fun (name, schema) => (name, [], schema))]

def readOptional (around : Surroundings) : Option Value → Reading Schema
  | some value => around.read value
  | none => pure .anything

/-- A test without consequences evaluates parts of the value all the same; if it cannot be read,
it does nothing. -/
def readConditional (around : Surroundings) (value : Value) : Reading (List Keyword) := do
  let holds := Members.get? "then" around.members
  let fails := Members.get? "else" around.members
  if holds.isNone && fails.isNone then
    tryCatch
      (do
        let test ← around.read value
        pure [.conditional test .anything .anything])
      fun _ => pure []
  else do
    let test ← around.read value
    let holds ← readOptional around holds
    let fails ← readOptional around fails
    pure [.conditional test holds fails]

def lengthOfItems : Option Value → Nat
  | some (.array items) => items.length
  | _ => 0

/-- In all generations but the last one the first items can have schemas of their own. -/
def readItems (around : Surroundings) (value : Value) : Reading (List Keyword) :=
  match around.scope.dialect, value with
  | .draft2020, _ => do
      let schema ← around.read value
      pure [.laterItems (lengthOfItems (Members.get? "prefixItems" around.members)) schema]
  | _, .array items => do
      let schemas ← items.mapM around.read
      pure [.prefixItems schemas]
  | _, _ => do
      let schema ← around.read value
      pure [.laterItems 0 schema]

def readAdditionalItems (around : Surroundings) (value : Value) : Reading (List Keyword) :=
  match Members.get? "items" around.members, value with
  | some (.array items), .bool false => pure [.noLaterItems items.length]
  | some (.array items), .bool true => pure [.laterItems items.length .anything]
  | some (.array items), .object _ => do
      let schema ← around.read value
      pure [.laterItems items.length schema]
  | _, _ => pure []

def readContains (around : Surroundings) (value : Value) : Reading (List Keyword) := do
  let schema ← around.read value
  let dialect := around.scope.dialect
  let limit? (name : String) :=
    if Dialect.draft2019.isSince dialect then (Members.get? name around.members).bind natural?
    else none
  let least := (limit? "minContains").getD 1
  pure [.contains least (limit? "maxContains") (dialect = .draft2020) schema]

/-- Names of members are texts; in this place a document that is no schema asks for nothing. -/
def readPropertyNames (around : Surroundings) (value : Value) : Reading (List Keyword) :=
  match value with
  | .bool false => pure [.propertyNames .nothing]
  | .object _ => do
      let schema ← around.read value
      pure [.propertyNames schema]
  | _ => pure []

/-- A reference. The schema that it names is read when the table does not have it yet; its name
is in the table before that, so that it can refer to itself. -/
def readReference (registry : Registry) (around : Surroundings) (keyword text : String) :
    Reading (List Keyword) := do
  let address ← Registry.resolve around.scope.base text
  let target : Target := ⟨keyword, address, around.scope⟩
  let table ← get
  match table.names.lookup target with
  | some name => pure [.reference keyword name]
  | none => do
      let name := toString table.names.length
      set { table with names := (target, name) :: table.names }
      let (contents, scope) ←
        if keyword = "$recursiveRef" then Scope.lookupRecursive registry around.scope
        else Scope.lookup registry around.scope text
      let schema ← around.readIn { scope with dialect := scope.dialect.ofPart contents } contents
      modify fun table => { table with
        definitions := (name, schema) :: table.definitions
        weight := table.weight + contents.count }
      pure [.reference keyword name]

def readKeyword (registry : Registry) (around : Surroundings) (name : String) (value : Value) :
    Reading (List Keyword) :=
  match name with
  | "$ref" => do
      let text ← demandString value
      readReference registry around name text
  | "$dynamicRef" => do
      let text ← demandString value
      readReference registry around name text
  | "$recursiveRef" => readReference registry around name "#"
  | "properties" =>
      if closesProperties around.members then pure []
      else do
        let named ← readNamed around (some value)
        pure [.properties named]
  | "patternProperties" =>
      if closesProperties around.members then pure []
      else do
        let patterns ← readPatterns around (some value)
        pure [.patternProperties patterns]
  | "additionalProperties" => readAdditional around value
  | "propertyNames" => readPropertyNames around value
  | "items" => readItems around value
  | "additionalItems" => readAdditionalItems around value
  | "prefixItems" => do
      let schemas ← readList around value
      pure [.prefixItems schemas]
  | "contains" => readContains around value
  | "dependencies" => readDependencies around value
  | "dependentRequired" => readDependentRequired value
  | "dependentSchemas" => readDependentSchemas around value
  | "allOf" => do
      let schemas ← readList around value
      pure [.allOf schemas]
  | "anyOf" => do
      let schemas ← readList around value
      pure [.anyOf schemas]
  | "oneOf" => do
      let schemas ← readList around value
      pure [.oneOf schemas]
  | "not" => do
      let schema ← around.read value
      pure [.not schema value]
  | "if" => readConditional around value
  | "unevaluatedProperties" => do
      let schema ← around.read value
      pure [.unevaluatedProperties [] schema]
  | "unevaluatedItems" => do
      let schema ← around.read value
      pure [.unevaluatedItems [] schema]
  | _ => readPlain around.scope.dialect around.members name value

/-- Tell the keywords that look at unevaluated parts which keywords evaluate the others. -/
def settle (keywords : List Keyword) : List Keyword :=
  let beside := keywords.filter fun
    | .unevaluatedProperties _ _ => false
    | .unevaluatedItems _ _ => false
    | _ => true
  keywords.map fun
    | .unevaluatedProperties _ schema => .unevaluatedProperties beside schema
    | .unevaluatedItems _ schema => .unevaluatedItems beside schema
    | keyword => keyword

/-- The members that have an effect. In the earlier generations a reference takes it from all
others. -/
def effective (dialect : Dialect) (members : Members) : Members :=
  match Members.get? "$ref" members with
  | some target =>
      if Dialect.draft7.isUntil dialect then [("$ref", target)]
      else members.filter fun member => dialect.knows member.1
  | none => members.filter fun member => dialect.knows member.1

/-- Read a schema in its scope. Schemas in schemas, also by references, are read up to the given
depth. -/
def read (registry : Registry) : Nat → Scope → Value → Reading Schema
  | _, _, .bool true => pure .anything
  | _, _, .bool false => pure .nothing
  | 0, _, _ => pure .anything
  | depth + 1, scope, .object members => do
      let around : Surroundings := {
        scope := scope
        members := members
        read := fun value => do
          let inner ← { scope with dialect := scope.dialect.ofPart value }.enter value
          read registry depth inner value
        readIn := read registry depth }
      let keywords ← (effective scope.dialect members).mapM fun (name, value) =>
        readKeyword registry around name value
      pure (.all (settle keywords.flatten))
  | _, _, value => throw (.wrongType value [.boolean, .object])

/-- More than the number of schemas that are read inside one another, as long as no schema is
reached in more scopes than there are pairs of addresses. -/
def readingDepth (registry : Registry) : Nat :=
  let values := registry.resources.foldl (fun sum (_, resource) => sum + resource.contents.count) 0
  (values + 1) * Nat.pow (registry.resources.length + 1) 2

end Schema

def SchemaDocument.ofRegistry (registry : Registry) (address : Uri) (resource : Resource) :
    Except SchemaFault SchemaDocument := do
  let scope ← Scope.enter ⟨address, [], none, resource.dialect⟩ resource.contents
  let (schema, table) ←
    (Schema.read registry (Schema.readingDepth registry) scope resource.contents).run ⟨[], [], 0⟩
  pure ⟨schema, table.definitions, table.weight + resource.contents.count⟩

end RefLint
