import RefLint.Yaml.Tokens

/-!
# The node tree of a YAML text

Tokens are grouped into scalars, sequences and mappings. A missing node is an
empty plain scalar. Anchors are numbered as they are met: a new one takes the
count of distinct names so far, so a name that is used twice can make a later
name share its number.
-/

namespace RefLint.Yaml

set_option autoImplicit false

/-- What stands in front of a node: an anchor's number and a tag in full. -/
structure Properties where
  anchor : Option Nat := none
  tag : Option String := none

inductive Node where
  | aliasOf (anchor : Nat)
  | scalar (properties : Properties) (text : String) (style : ScalarStyle)
  | sequence (properties : Properties) (items : List Node)
  | mapping (properties : Properties) (pairs : List (Node × Node))

namespace Node

def empty (properties : Properties) : Node := scalar properties "" .plain

/-- The anchors of a document by name, each name once. -/
abbrev Anchors := List (String × Nat)

namespace Anchors

def set (name : String) (number : Nat) : Anchors → Anchors
  | [] => [(name, number)]
  | (other, old) :: rest =>
      if other = name then (name, number) :: rest else (other, old) :: set name number rest

def define (anchors : Anchors) (name : String) : Nat × Anchors :=
  (anchors.length, set name anchors.length anchors)

def number? (anchors : Anchors) (name : String) : Option Nat :=
  (anchors.find? fun anchor => anchor.1 == name).map (·.2)

end Anchors

abbrev Handles := List (String × String)

def coreTagPrefix : String := "tag:yaml.org,2002:"

def defaultHandles : Handles := [("!", "!"), ("!!", coreTagPrefix)]

def fullTag? (handles : Handles) (tag : WrittenTag) : Option String :=
  if tag.handle = "" then some tag.suffix
  else (handles.find? fun handle => handle.1 == tag.handle).map fun handle => handle.2 ++ tag.suffix

/-- An empty tag counts as none. -/
def nonemptyTag (tag : String) : Option String := if tag = "" then none else some tag

structure Remaining where
  tokens : List Token
  anchors : Anchors := []

/-- A rule of the grammar; it fails where the text is not YAML. -/
abbrev Rule := StateT Remaining Option

namespace Rule

def peek : Rule Token := do
  match (← get).tokens with
  | token :: _ => pure token
  | [] => failure

def skip : Rule Unit := modify fun remaining => { remaining with tokens := remaining.tokens.drop 1 }

def defineAnchor (name : String) : Rule Nat := do
  let remaining ← get
  let (number, anchors) := remaining.anchors.define name
  set { remaining with anchors := anchors }
  pure number

def anchorNumber (name : String) : Rule Nat := do
  match (← get).anchors.number? name with
  | some number => pure number
  | none => failure

end Rule

open Rule

def readTag (handles : Handles) (tag : WrittenTag) : Rule (Option String) := do
  skip
  match fullTag? handles tag with
  | some full => pure (nonemptyTag full)
  | none => failure

def readProperties (handles : Handles) : Rule (Properties × Bool) := do
  match ← peek with
  | .anchor name => do
      skip
      let number ← defineAnchor name
      match ← peek with
      | .tag tag => pure (⟨some number, ← readTag handles tag⟩, true)
      | _ => pure (⟨some number, none⟩, true)
  | .tag tag => do
      let full ← readTag handles tag
      match ← peek with
      | .anchor name => do
          skip
          pure (⟨some (← defineAnchor name), full⟩, true)
      | _ => pure (⟨none, full⟩, true)
  | _ => pure ({}, false)

structure Spot where
  /-- Block collections may start here. -/
  inBlock : Bool
  /-- A sequence may start here without an indentation of its own. -/
  indentless : Bool

def Spot.flow : Spot := ⟨false, false⟩

def Spot.blockItem : Spot := ⟨true, false⟩

def Spot.blockMember : Spot := ⟨true, true⟩

def endsBlockItem : Token → Bool
  | .blockEntry | .blockEnd => true
  | _ => false

def endsIndentlessItem : Token → Bool
  | .blockEntry | .key | .value | .blockEnd => true
  | _ => false

def endsBlockMember : Token → Bool
  | .key | .value | .blockEnd => true
  | _ => false

def endsPairKey : Token → Bool
  | .value | .flowEntry | .flowSequenceEnd => true
  | _ => false

def endsPairValue : Token → Bool
  | .flowEntry | .flowSequenceEnd => true
  | _ => false

def endsFlowKey : Token → Bool
  | .value | .flowEntry | .flowMappingEnd => true
  | _ => false

def endsFlowValue : Token → Bool
  | .flowEntry | .flowMappingEnd => true
  | _ => false

mutual

/-- Read one node. Every rule hands on less fuel than it got. -/
def readNode (handles : Handles) : Nat → Spot → Rule Node
  | 0, _ => failure
  | fuel + 1, spot => do
      match ← peek with
      | .aliasOf name => do
          skip
          pure (.aliasOf (← anchorNumber name))
      | _ => do
          let (properties, present) ← readProperties handles
          let missing : Rule Node := if present then pure (empty properties) else failure
          match ← peek with
          | .scalar text style => do
              skip
              pure (.scalar properties text style)
          | .flowSequenceStart => do
              skip
              pure (.sequence properties (← readFlowItems handles fuel true))
          | .flowMappingStart => do
              skip
              pure (.mapping properties (← readFlowPairs handles fuel true))
          | .blockSequenceStart =>
              if spot.inBlock then do
                skip
                pure (.sequence properties (← readBlockItems handles fuel))
              else missing
          | .blockMappingStart =>
              if spot.inBlock then do
                skip
                pure (.mapping properties (← readBlockPairs handles fuel))
              else missing
          | .blockEntry =>
              if spot.indentless then
                return .sequence properties (← readIndentlessItems handles fuel)
              else missing
          | _ => missing

def readUnless (handles : Handles) : Nat → (Token → Bool) → Spot → Rule Node
  | 0, _, _ => failure
  | fuel + 1, isEmpty, spot => do
      if isEmpty (← peek) then pure (empty {}) else readNode handles fuel spot

def readBlockItems (handles : Handles) : Nat → Rule (List Node)
  | 0 => failure
  | fuel + 1 => do
      match ← peek with
      | .blockEntry => do
          skip
          let item ← readUnless handles fuel endsBlockItem .blockItem
          pure (item :: (← readBlockItems handles fuel))
      | .blockEnd => do
          skip
          pure []
      | _ => failure

def readIndentlessItems (handles : Handles) : Nat → Rule (List Node)
  | 0 => failure
  | fuel + 1 => do
      match ← peek with
      | .blockEntry => do
          skip
          let item ← readUnless handles fuel endsIndentlessItem .blockItem
          pure (item :: (← readIndentlessItems handles fuel))
      | _ => pure []

def readBlockPairs (handles : Handles) : Nat → Rule (List (Node × Node))
  | 0 => failure
  | fuel + 1 => do
      match ← peek with
      | .key => do
          skip
          let key ← readUnless handles fuel endsBlockMember .blockMember
          match ← peek with
          | .value => do
              skip
              let value ← readUnless handles fuel endsBlockMember .blockMember
              pure ((key, value) :: (← readBlockPairs handles fuel))
          | _ => pure ((key, empty {}) :: (← readBlockPairs handles fuel))
      | .blockEnd => do
          skip
          pure []
      | _ => failure

/-- Read the items of a flow sequence; items after the first follow a comma. -/
def readFlowItems (handles : Handles) : Nat → Bool → Rule (List Node)
  | 0, _ => failure
  | fuel + 1, first => do
      match ← peek with
      | .flowSequenceEnd => do
          skip
          pure []
      | token => do
          if !first then
            match token with
            | .flowEntry => skip
            | _ => failure
          match ← peek with
          | .flowSequenceEnd => do
              skip
              pure []
          | .key => do
              skip
              let pair ← readSinglePair handles fuel
              pure (.mapping {} [pair] :: (← readFlowItems handles fuel false))
          | _ => do
              let item ← readNode handles fuel .flow
              pure (item :: (← readFlowItems handles fuel false))

/-- Read a pair that is an item of a flow sequence. When its key is empty, the
token after the key mark is passed over. -/
def readSinglePair (handles : Handles) : Nat → Rule (Node × Node)
  | 0 => failure
  | fuel + 1 => do
      let key ←
        if endsPairKey (← peek) then do
          skip
          pure (empty {})
        else readNode handles fuel .flow
      match ← peek with
      | .value => do
          skip
          pure (key, ← readUnless handles fuel endsPairValue .flow)
      | _ => pure (key, empty {})

def readFlowPairs (handles : Handles) : Nat → Bool → Rule (List (Node × Node))
  | 0, _ => failure
  | fuel + 1, first => do
      match ← peek with
      | .flowMappingEnd => do
          skip
          pure []
      | token => do
          if !first then
            match token with
            | .flowEntry => skip
            | _ => failure
          match ← peek with
          | .flowMappingEnd => do
              skip
              pure []
          | .key => do
              skip
              let key ← readUnless handles fuel endsFlowKey .flow
              match ← peek with
              | .value => do
                  skip
                  let value ← readUnless handles fuel endsFlowValue .flow
                  pure ((key, value) :: (← readFlowPairs handles fuel false))
              | _ => pure ((key, empty {}) :: (← readFlowPairs handles fuel false))
          | _ => do
              let key ← readNode handles fuel .flow
              pure ((key, empty {}) :: (← readFlowPairs handles fuel false))

end

def isKnownVersion (major minor : Nat) : Bool := major == 1 && (minor == 1 || minor == 2)

/-- Read the directives of a document: at most one version, and no handle twice. -/
def readDirectives (seenVersion : Bool) (handles : Handles) : List Token →
    Option (Handles × List Token)
  | .directive (.version major minor) :: rest =>
      if seenVersion || !isKnownVersion major minor then none
      else readDirectives true handles rest
  | .directive (.tag handle handlePrefix) :: rest =>
      if handles.any (·.1 == handle) then none
      else readDirectives seenVersion (handles ++ [(handle, handlePrefix)]) rest
  | rest => some (handles, rest)

/-- The handles of a document; its own take precedence over the default ones. -/
def withDefaults (handles : Handles) : Handles :=
  handles ++ defaultHandles.filter fun handle => !handles.any (·.1 == handle.1)

def isDirective : Token → Bool
  | .directive _ => true
  | _ => false

def endsDocument : Token → Bool
  | .directive _ | .documentStart | .documentEnd | .streamEnd => true
  | _ => false

def isOver : List Token → Bool
  | .documentEnd :: rest => isOver rest
  | [.streamEnd] => true
  | _ => false

/-- More than the number of rules that can be open on so many tokens. -/
def ruleFuel (tokens : List Token) : Nat := 4 * tokens.length + 4

/-- The root node of a text with at most one document; none when it is empty. -/
def ofTokens? (tokens : List Token) : Option (Option Node) :=
  match tokens with
  | [.streamEnd] => some none
  | tokens => do
      let (handles, opened, content) ←
        match tokens with
        | .documentStart :: rest => some (defaultHandles, true, rest)
        | first :: _ =>
            if isDirective first then do
              let (handles, rest) ← readDirectives false [] tokens
              match rest with
              | .documentStart :: rest => some (withDefaults handles, true, rest)
              | _ => none
            else some (defaultHandles, false, tokens)
        | [] => none
      let rule : Rule Node := do
        if opened && endsDocument (← peek) then pure (empty {})
        else readNode handles (ruleFuel content) .blockItem
      let (node, remaining) ← rule.run { tokens := content }
      if isOver remaining.tokens then some (some node) else none

end Node

end RefLint.Yaml
