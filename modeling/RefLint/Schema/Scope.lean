import RefLint.Schema.Registry

/-!
# Where references lead

A reference is followed from a scope: the address of the schema around it and the addresses of
the schemas from which references have led there.
-/

namespace RefLint

set_option autoImplicit false

structure Scope where
  /-- The address of the schema around the reference. -/
  base : Uri
  /-- The addresses from which references have led there, the last one first. Of an address that
  comes several times only the outermost place counts. -/
  outer : List Uri
  /-- The address at the outer end of the addresses from the last one on that are all those of
  recursive schemas. -/
  recursive : Option Uri
  dialect : Dialect
  deriving DecidableEq

namespace Scope

variable (registry : Registry)

def isRecursive (address : Uri) : Bool :=
  match registry.resource? address with
  | some resource => resource.isRecursive
  | none => false

def follow (scope : Scope) (address : Uri) : Scope :=
  if scope.outer.isEmpty || address ≠ scope.base then
    { scope with
      base := address
      outer := if scope.base ∈ scope.outer then scope.outer else scope.base :: scope.outer
      recursive :=
        if isRecursive registry scope.base then scope.recursive.or (some scope.base) else none }
  else scope

def enter (scope : Scope) (contents : Value) : Except SchemaFault Scope := do
  let base ← Registry.enter scope.base ⟨contents, scope.dialect⟩
  pure { scope with base := base }

/-- The position that a step of a pointer writes; it may have a sign and zeros in front. -/
def position? (segment : List Char) : Option Nat :=
  let digits :=
    match segment with
    | '+' :: digits => digits
    | digits => digits
  (Pointer.index? (String.ofList digits)).filter (· < Nat.pow 2 64)

/-- Follow the steps of a pointer. `steps` leads from the last schema with an address of its own
to the value. -/
def descend (pointer : String) (scope : Scope) (steps : List String) (value : Value) :
    List (List Char) → Except SchemaFault (Value × Scope)
  | [] => .ok (value, scope)
  | segment :: rest => do
      let (step, next) ←
        match value with
        | .array items =>
            match position? segment with
            | none => .error (.badIndex pointer (String.ofList segment))
            | some position =>
                match items[position]? with
                | some item => pure (toString position, item)
                | none => .error (.noPointer pointer)
        | value =>
            let key := String.ofList (Pointer.unescapeChars segment)
            match value.member? key with
            | some member => pure (key, member)
            | none => .error (.noPointer pointer)
      let steps := steps ++ [step]
      if scope.dialect.isPartPath steps then
        let inner ← scope.enter next
        descend pointer inner (if inner.base = scope.base then steps else []) next rest
      else descend pointer scope steps next rest

def lookup (scope : Scope) (reference : String) : Except SchemaFault (Value × Scope) := do
  let (before, fragment) := Uri.splitFragment reference.toList
  let address ←
    if Pointer.isLocal reference then pure scope.base
    else Registry.resolve scope.base (String.ofList before)
  let resource ←
    match registry.resource? address with
    | some resource => pure resource
    | none =>
        .error (.noResource address.toText
          "Retrieving external resources is not supported once the registry is populated")
  let behind := { scope.follow registry address with dialect := resource.dialect }
  match fragment with
  | [] => pure (resource.contents, behind)
  | '/' :: path =>
      let pointer := String.ofList fragment
      match Uri.decode? path with
      | none => .error (.badOctets pointer)
      | some path => descend pointer behind [] resource.contents (splitAt '/' path.toList)
  | name => lookupAnchor address behind (String.ofList name)
where
  /-- An anchor of a resource, which may stand under the address that the resource has by its own
  account. -/
  findAnchor? (address : Uri) (name : String) : Option Anchor :=
    (registry.anchor? address name).or do
      let resource ← registry.resource? address
      let id ← resource.id?
      let canonical ← (Registry.resolve Registry.rootAddress id).toOption
      registry.anchor? canonical name
  lookupAnchor (address : Uri) (behind : Scope) (name : String) :
      Except SchemaFault (Value × Scope) :=
    match findAnchor? address name with
    | none => .error (if name.contains '/' then .badAnchor name else .noAnchor name)
    | some anchor =>
        if anchor.isDynamic then do
          -- The outermost schema with such an anchor counts.
          let dynamic := behind.outer.filterMap fun outer =>
            (findAnchor? outer name).filter Anchor.isDynamic
          let resource := (dynamic.getLast?.getD anchor).resource
          let inner ← { behind with dialect := resource.dialect }.enter resource.contents
          pure (resource.contents, inner)
        else pure (anchor.resource.contents, { behind with dialect := anchor.resource.dialect })

/-- The schema that a recursive reference names: the resource around it or, where that is
recursive, the outermost one of the recursive resources from which references have led there. -/
def lookupRecursive (scope : Scope) : Except SchemaFault (Value × Scope) :=
  match scope.recursive with
  | some outermost =>
      if isRecursive registry scope.base then lookup registry scope outermost.toText
      else lookup registry scope "#"
  | none => lookup registry scope "#"

end Scope

end RefLint
