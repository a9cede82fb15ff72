import RefLint.Schema.Fault
import RefLint.Schema.Standard.Early
import RefLint.Schema.Standard.Late

/-!
# Schemas by their addresses

A document can contain schemas with addresses of their own and with anchors, which are names for
places in the schema that contains them. A registry finds both by address. What a reference
means depends on where it stands: on the address of the schema around it and, for anchors that
are dynamic, on the schemas from which references have led there.
-/

namespace RefLint

set_option autoImplicit false

structure Resource where
  contents : Value
  dialect : Dialect

/-! ## Addresses and anchors that a schema gives itself -/

namespace Resource

def text? (resource : Resource) (keyword : String) : Option String :=
  match resource.contents.member? keyword with
  | some (.string text) => some text
  | _ => none

def idKeyword (resource : Resource) : String :=
  if resource.dialect = .draft4 then "id" else "$id"

/-- The address that the schema gives itself. In the earlier generations a reference takes the
effect from all keywords beside it, and a mere fragment is an anchor. -/
def id? (resource : Resource) : Option String :=
  (resource.text? resource.idKeyword).bind fun id =>
    if Dialect.draft7.isUntil resource.dialect
        && ((resource.contents.member? "$ref").isSome || Pointer.isLocal id) then none
    else some (Dialect.trimAddress id)

def anchorNames (resource : Resource) : List (String × Bool) :=
  let plain := ((resource.text? "$anchor").map fun name => (name, false)).toList
  match resource.dialect with
  | .draft2020 => plain ++ ((resource.text? "$dynamicAnchor").map fun name => (name, true)).toList
  | .draft2019 => plain
  | _ =>
      match (resource.text? resource.idKeyword).map String.toList with
      | some ('#' :: name) => [(String.ofList name, false)]
      | _ => []

def isRecursive (resource : Resource) : Bool :=
  match resource.contents.member? "$recursiveAnchor" with
  | some (.bool isSet) => isSet
  | _ => false

end Resource

/-! ## Schemas inside a schema -/

inductive Holding where
  /-- The value is a schema. -/
  | itself
  /-- The value is a list of schemas. -/
  | items
  /-- The value is a mapping whose members are schemas. -/
  | members
  /-- The value is a schema or a list of schemas. -/
  | itselfOrItems
  deriving DecidableEq

namespace Dialect

/-- What the keywords that hold schemas hold, with the generations that know them. -/
def holdings : List (String × Holding × Dialect × Dialect) := [
  ("not", .itself, draft4, draft2020),
  ("additionalProperties", .itself, draft4, draft2020),
  ("additionalItems", .itself, draft4, draft2019),
  ("contains", .itself, draft6, draft2020),
  ("propertyNames", .itself, draft6, draft2020),
  ("if", .itself, draft7, draft2020),
  ("then", .itself, draft7, draft2020),
  ("else", .itself, draft7, draft2020),
  ("contentSchema", .itself, draft2019, draft2020),
  ("unevaluatedItems", .itself, draft2019, draft2020),
  ("unevaluatedProperties", .itself, draft2019, draft2020),
  ("items", .itselfOrItems, draft4, draft2019),
  ("items", .itself, draft2020, draft2020),
  ("allOf", .items, draft4, draft2020),
  ("anyOf", .items, draft4, draft2020),
  ("oneOf", .items, draft4, draft2020),
  ("prefixItems", .items, draft2020, draft2020),
  ("properties", .members, draft4, draft2020),
  ("patternProperties", .members, draft4, draft2020),
  ("definitions", .members, draft4, draft2020),
  ("dependencies", .members, draft4, draft7),
  ("$defs", .members, draft2019, draft2020),
  ("dependentSchemas", .members, draft2019, draft2020)]

def holding? (dialect : Dialect) (keyword : String) : Option Holding :=
  (holdings.find? fun (name, _, first, last) =>
    name == keyword && first.isSince dialect && last.isUntil dialect).map (·.2.1)

def parts (dialect : Dialect) (keyword : String) (value : Value) : List Value :=
  match dialect.holding? keyword, value with
  | some .itself, value => [value]
  | some .items, .array items => items
  | some .itselfOrItems, .array items => items
  | some .itselfOrItems, value => [value]
  | some .members, .object members => members.map (·.2)
  | _, _ => []

/-- Whether the steps lead from schemas to schemas that they hold. -/
def isPartPath (dialect : Dialect) : List String → Bool
  | [] => true
  | keyword :: rest =>
      match dialect.holding? keyword, rest with
      | some .itself, rest => dialect.isPartPath rest
      | some .itselfOrItems, step :: rest =>
          if (Pointer.index? step).isSome then dialect.isPartPath rest
          else dialect.isPartPath (step :: rest)
      | some .itselfOrItems, [] => true
      | some _, _ :: rest => dialect.isPartPath rest
      | _, _ => false

end Dialect

namespace Resource

def parts (resource : Resource) : List Value :=
  match resource.contents with
  | .object members =>
      members.flatMap fun (keyword, value) => resource.dialect.parts keyword value
  | _ => []

end Resource

/-! ## The registry -/

structure Anchor where
  name : String
  isDynamic : Bool
  resource : Resource

/-- The latest of several entries with one address or name stands first. -/
structure Registry where
  resources : List (Uri × Resource)
  anchors : List (Uri × Anchor)
  /-- The addresses that references ask for, without those of well-known documents. -/
  needed : List Uri

namespace Registry

def empty : Registry := ⟨[], [], []⟩

def resource? (registry : Registry) (address : Uri) : Option Resource :=
  registry.resources.lookup address

def anchor? (registry : Registry) (address : Uri) (name : String) : Option Anchor :=
  (registry.anchors.find? fun (other, anchor) => other = address && anchor.name == name).map (·.2)

/-- The address of a document that gives itself none, or only a relative one. -/
def rootAddress : Uri :=
  { scheme := some "json-schema".toList, authority := some [], path := ['/'] }

def resolve (base : Uri) (reference : String) : Except SchemaFault Uri :=
  match Uri.parse reference with
  | .error fault => .error (.badReference reference fault)
  | .ok uri =>
      let needsNoPath := reference.isEmpty || Pointer.isLocal reference
      if base.isOpaque && uri.scheme.isNone && !needsNoPath then
        .error (.opaqueBase reference base.toText)
      else .ok (base.resolveAgainst uri).normal

def enter (base : Uri) (resource : Resource) : Except SchemaFault Uri :=
  match resource.id? with
  | some id => resolve base id
  | none => .ok base

def isWellKnown (reference : String) : Bool :=
  Dialect.all.any fun dialect => dialect.family.toList.isPrefixOf reference.toList

/-- The addresses outside of its own that a schema at `base` names. Nothing is sought for a schema
whose address is a mere name. -/
def neededBy (base : Uri) (resource : Resource) : Except SchemaFault (List Uri) :=
  let references := ["$ref", "$schema"].filterMap resource.text?
  let outside := references.filter fun reference =>
    !Pointer.isLocal reference && !isWellKnown reference
  if base.scheme = some "urn".toList then .ok []
  else outside.mapM fun reference => do
    let uri ← resolve base reference
    pure { uri with fragment := none }

/-- A schema that the registry has still to take in, and the address around it. -/
abbrev Waiting := Uri × Resource

/-- Take in one schema; the schemas that it holds wait. -/
def take (registry : Registry) : Waiting → Except SchemaFault (Registry × List Waiting)
  | (around, resource) => do
      let base ← enter around resource
      let resources :=
        if resource.id?.isSome then (base, resource) :: registry.resources
        else registry.resources
      let anchors := resource.anchorNames.map fun (name, isDynamic) =>
        (base, Anchor.mk name isDynamic resource)
      let needed ← neededBy base resource
      let waiting ← resource.parts.mapM fun part =>
        match Dialect.declared? part with
        | none => pure (base, Resource.mk part resource.dialect)
        | some address =>
            match Dialect.ofAddress? address with
            | some dialect => pure (base, Resource.mk part dialect)
            | none => .error (.unknownDialect (Dialect.trimAddress address))
      pure (⟨resources, anchors.reverse ++ registry.anchors, registry.needed ++ needed⟩, waiting)

def takeAll (registry : Registry) : List Waiting → Except SchemaFault (Registry × List Waiting)
  | [] => .ok (registry, [])
  | waiting :: rest => do
      let (registry, inner) ← registry.take waiting
      let (registry, others) ← takeAll registry rest
      pure (registry, inner ++ others)

/-- Take in schemas and all schemas inside them, outer ones first; they stand inside one another
at most `depth` deep. -/
def takeLevels (registry : Registry) : Nat → List Waiting → Except SchemaFault Registry
  | 0, _ => .ok registry
  | depth + 1, level => do
      let (registry, inner) ← registry.takeAll level
      if inner.isEmpty then pure registry else takeLevels registry depth inner

/-- Why a resource cannot be fetched: there is no network, and no file has such an address. -/
def fetchFailure (address : Uri) : String :=
  match address.scheme.map String.ofList with
  | some "http" => "error sending request for url (" ++ address.toText ++ ")"
  | some "https" => "error sending request for url (" ++ address.toText ++ ")"
  | some "file" => "No such file or directory (os error 2)"
  | scheme => "Unknown scheme " ++ scheme.getD ""

def add (registry : Registry) (address : Uri) (document : Resource) :
    Except SchemaFault Registry :=
  { registry with resources := (address, document) :: registry.resources }.takeLevels
    (document.contents.depth + 1) [(address, document)]

def demandComplete (registry : Registry) : Except SchemaFault Unit :=
  match registry.needed.find? fun address => (registry.resource? address).isNone with
  | some missing => .error (.noResource missing.toText (fetchFailure missing))
  | none => .ok ()

/-! ## The registry of the schemas of schemas -/

/-- The documents that describe a generation; the first one describes all of it. -/
def standardDocuments : Dialect → List Value
  | .draft4 => [Standard.draft4]
  | .draft6 => [Standard.draft6]
  | .draft7 => [Standard.draft7]
  | .draft2019 => Standard.Edition2019.documents
  | .draft2020 => Standard.Edition2020.documents

def addStandard (registry : Registry) (resource : Resource) : Registry :=
  match (resolve rootAddress (resource.id?.getD "")).bind fun address =>
      registry.add address resource with
  | .ok registry => registry
  | .error _ => registry

def standard : Registry :=
  (Dialect.all.flatMap fun dialect =>
    (standardDocuments dialect).map fun document => Resource.mk document dialect).foldl
    addStandard empty

end Registry

end RefLint
