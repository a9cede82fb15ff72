import RefLint.Yaml.Node
import RefLint.Yaml.Scalar

/-!
# YAML data

The data that a node tree stands for: aliases are replaced by what they name,
scalars have a type, and a tag of the text's own wraps the value it stands at.
No mapping has a key twice.
-/

namespace RefLint.Yaml

set_option autoImplicit false

inductive Datum where
  | scalar (value : Scalar)
  | sequence (items : List Datum)
  | mapping (pairs : List (Datum × Datum))
  | tagged (tag : String) (content : Datum)

def sameFloat (x y : Binary64) : Bool :=
  if x.isFinite && y.isFinite then x == y || (x.isZero && y.isZero)
  else if x.isFinite || y.isFinite then false
  else x == y

def Scalar.same : Scalar → Scalar → Bool
  | null, null => true
  | bool x, bool y => x == y
  | integer x, integer y => x == y
  | float x, float y => sameFloat x y
  | string x, string y => x == y
  | _, _ => false

namespace Datum

/-- Whether two data are the same; the order of pairs does not matter. -/
def same : Datum → Datum → Bool
  | scalar x, scalar y => x.same y
  | sequence xs, sequence ys => sameItems xs ys
  | mapping xs, mapping ys => xs.length == ys.length && samePairs xs ys
  | tagged t x, tagged u y => t == u && same x y
  | _, _ => false
where
  sameItems : List Datum → List Datum → Bool
    | [], [] => true
    | x :: xs, y :: ys => same x y && sameItems xs ys
    | _, _ => false
  samePairs : List (Datum × Datum) → List (Datum × Datum) → Bool
    | [], _ => true
    | (k, v) :: xs, ys => ys.any (fun pair => same k pair.1 && same v pair.2) && samePairs xs ys

end Datum

namespace Node

def properties : Node → Properties
  | aliasOf _ => {}
  | scalar properties _ _ => properties
  | sequence properties _ => properties
  | mapping properties _ => properties

def eventCount : Node → Nat
  | aliasOf _ => 1
  | scalar _ _ _ => 1
  | sequence _ items => 2 + ofItems items
  | mapping _ pairs => 2 + ofPairs pairs
where
  ofItems : List Node → Nat
    | [] => 0
    | item :: rest => item.eventCount + ofItems rest
  ofPairs : List (Node × Node) → Nat
    | [] => 0
    | (key, value) :: rest => key.eventCount + value.eventCount + ofPairs rest

def anchored (node : Node) : List (Nat × Node) :=
  (node.properties.anchor.map fun number => (number, node)).toList ++
    match node with
    | sequence _ items => ofItems items
    | mapping _ pairs => ofPairs pairs
    | _ => []
where
  ofItems : List Node → List (Nat × Node)
    | [] => []
    | item :: rest => item.anchored ++ ofItems rest
  ofPairs : List (Node × Node) → List (Nat × Node)
    | [] => []
    | (key, value) :: rest => key.anchored ++ value.anchored ++ ofPairs rest

end Node

def ownTag? (tag : Option String) : Option String :=
  match tag.map String.toList with
  | some ['!'] => some "!"
  | some ('!' :: name) => some (String.ofList name)
  | _ => none

/-- The meaning of a scalar under a tag of the core schema, or without one. -/
def scalarValue? (tag : Option String) (text : String) (style : ScalarStyle) : Option Scalar :=
  match tag with
  | none => untagged
  | some tag =>
      if tag = Node.coreTagPrefix ++ "bool" then (bool? text).map Scalar.bool
      else if tag = Node.coreTagPrefix ++ "int" then
        match readInteger text.toList with
        | .integer value => some (.integer value)
        | _ => none
      else if tag = Node.coreTagPrefix ++ "float" then (float? text).map Scalar.float
      else if tag = Node.coreTagPrefix ++ "null" then
        if isNull text then some .null else none
      else if (ownTag? (some tag)).isSome then untagged
      else some (.string text)
where
  untagged : Option Scalar :=
    if style = .plain then Scalar.ofPlain? text else some (.string text)

/-- Aliases are followed at most this many times for each mark of the text. -/
def aliasLimit : Nat := 100

def nestingLimit : Nat := 127

structure Document where
  /-- The anchored nodes, last first. -/
  targets : List (Nat × Node)
  /-- How many aliases may be followed. -/
  followed : Nat

def Document.ofNode (node : Node) : Document :=
  ⟨node.anchored.reverse, node.eventCount * aliasLimit⟩

def Document.target? (document : Document) (number : Nat) : Option Node :=
  (document.targets.find? fun target => target.1 == number).map (·.2)

namespace Datum

/-- Evaluation counts the aliases it follows. -/
abbrev Evaluation := StateT Nat Option

def wrap (tag : Option String) (content : Datum) : Datum :=
  match ownTag? tag with
  | some name => tagged name content
  | none => content

mutual

/-- The datum of a node; `depth` is the number of levels that may still be opened. -/
def ofNode (document : Document) (depth : Nat) (node : Node) : Evaluation Datum :=
  match node with
  | .aliasOf number => do
      let count := (← get) + 1
      set count
      if count > document.followed then failure
      else
        match document.target? number with
        | some target => ofContent document depth target
        | none => failure
  | node => ofContent document depth node
termination_by (depth, 1, 0)

def ofContent (document : Document) (depth : Nat) (node : Node) : Evaluation Datum :=
  match node with
  | .aliasOf _ => failure
  | .scalar properties text style =>
      match scalarValue? properties.tag text style with
      | some value => pure (wrap properties.tag (scalar value))
      | none => failure
  | .sequence properties items =>
      match depth with
      | 0 => failure
      | depth + 1 => do
          let items ← ofItems document depth items
          pure (wrap properties.tag (sequence items))
  | .mapping properties pairs =>
      match depth with
      | 0 => failure
      | depth + 1 => do
          let pairs ← ofPairs document depth pairs []
          pure (wrap properties.tag (mapping pairs))
termination_by (depth, 0, 0)

def ofItems (document : Document) (depth : Nat) (items : List Node) : Evaluation (List Datum) :=
  match items with
  | [] => pure []
  | item :: rest => do
      let first ← ofNode document depth item
      let others ← ofItems document depth rest
      pure (first :: others)
termination_by (depth, 2, items.length)

def ofPairs (document : Document) (depth : Nat) (pairs : List (Node × Node))
    (read : List (Datum × Datum)) : Evaluation (List (Datum × Datum)) :=
  match pairs with
  | [] => pure read.reverse
  | (key, value) :: rest => do
      let key ← ofNode document depth key
      if read.any fun pair => same pair.1 key then failure
      else
        let value ← ofNode document depth value
        ofPairs document depth rest ((key, value) :: read)
termination_by (depth, 2, pairs.length)

end

def ofText? (text : String) : Option Datum := do
  let tokens ← tokens? text
  match ← Node.ofTokens? tokens with
  | none => pure (scalar .null)
  | some node => do
      let (datum, _) ← (ofNode (.ofNode node) nestingLimit node).run 0
      pure datum

end Datum

end RefLint.Yaml
