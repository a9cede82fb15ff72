import RefLint.Regex.Basic

/-!
# Expressions with references and surroundings

What a pattern can ask for beyond a regular expression: the text that a group has
matched, what stands before or behind a place, matches that are not given up again, and
conditions on groups. Such an expression depends on the order in which matches are tried.
-/

namespace RefLint

set_option autoImplicit false

inductive Direction where
  | ahead | behind
  deriving DecidableEq

inductive Place where
  | textStart | textEnd | lineStart | lineEnd
  /-- Between a word character and something else. -/
  | wordEdge
  | noWordEdge
  | wordStart
  | wordEnd
  deriving DecidableEq

inductive Expression where
  | nothing
  | oneOf (set : CharSet)
  | at (place : Place)
  | sequence (first second : Expression)
  | either (first second : Expression)
  /-- Tries another repetition before going on when `greedy` is set. -/
  | repeated (body : Expression) (least : Nat) (most : Option Nat) (greedy : Bool)
  | group (number : Nat) (body : Expression)
  /-- Takes no character; tells whether a match of the body starts or ends here. -/
  | look (direction : Direction) (expected : Bool) (body : Expression)
  /-- Only the first match of the body is tried. -/
  | atomic (body : Expression)
  /-- The text that a group has matched. -/
  | sameAs (group : Nat)
  | hasMatched (group : Nat)
  | conditional (test holds fails : Expression)

namespace Expression

/-- The number of characters of every match, if it is the same for all. -/
def width? : Expression → Option Nat
  | nothing => some 0
  | oneOf _ => some 1
  | .at _ => some 0
  | sequence first second => do
      let a ← first.width?
      let b ← second.width?
      pure (a + b)
  | either first second => do
      let a ← first.width?
      let b ← second.width?
      if a = b then some a else none
  | repeated body least most _ => do
      let a ← body.width?
      if most = some least then some (a * least) else none
  | group _ body => body.width?
  | look _ _ _ => some 0
  | atomic body => body.width?
  | sameAs _ => none
  | hasMatched _ => some 0
  | conditional test holds fails => do
      let a ← test.width?
      let b ← holds.width?
      let c ← fails.width?
      if a + b = c then some c else none

/-- The regular expression that has the same matches, if there is one that shows it at once:
nothing in it depends on the neighbourhood of words, on the order of attempts, or on a group
that is referred to. -/
def regular? (referenced : List Nat) : Expression → Option Regex
  | nothing => some .nothing
  | oneOf set => some (.oneOf set)
  | .at .textStart => some .textStart
  | .at .textEnd => some .textEnd
  | .at .lineStart => some .lineStart
  | .at .lineEnd => some .lineEnd
  | .at _ => none
  | sequence first second => do
      let a ← first.regular? referenced
      let b ← second.regular? referenced
      pure (.sequence a b)
  | either first second => do
      let a ← first.regular? referenced
      let b ← second.regular? referenced
      pure (.either a b)
  | repeated body least most _ => (body.regular? referenced).map fun a => .repeated a least most
  | group number body => if referenced.contains number then none else body.regular? referenced
  | _ => none

def parts : Expression → List Expression
  | sequence first second => first :: second.parts
  | nothing => []
  | other => [other]

def ofParts : List Expression → Expression
  | [] => nothing
  | [only] => only
  | first :: rest => sequence first (ofParts rest)

def alternatives : Expression → List Expression
  | either first second => first :: second.alternatives
  | other => [other]

def ofAlternatives : List Expression → Expression
  | [] => nothing
  | [only] => only
  | first :: rest => either first (ofAlternatives rest)

/-- Whether a quantifier may follow: there is something in it that can be taken. -/
def isRepeatable : Expression → Bool
  | nothing => false
  | .at _ => false
  | look _ _ _ => false
  | _ => true

/-- What stands behind a place must have a fixed width, each alternative by itself. Looking for
one of several alternatives is looking for each of them in turn. -/
def settle? : Expression → Option Expression
  | sequence first second => do
      let a ← first.settle?
      let b ← second.settle?
      pure (sequence a b)
  | either first second => do
      let a ← first.settle?
      let b ← second.settle?
      pure (either a b)
  | repeated body least most greedy => (body.settle?).map fun a => repeated a least most greedy
  | group number body => (body.settle?).map (group number)
  | look .ahead expected body => (body.settle?).map (look .ahead expected)
  | look .behind expected body => do
      let settled ← body.settle?
      if settled.width?.isSome then pure (look .behind expected settled)
      else
        let each := settled.alternatives.map (look .behind expected)
        if !settled.alternatives.all fun part => part.width?.isSome then none
        else if expected then pure (ofAlternatives each)
        else pure (ofParts each)
  | atomic body => (body.settle?).map atomic
  | conditional test holds fails => do
      let a ← test.settle?
      let b ← holds.settle?
      let c ← fails.settle?
      pure (conditional a b c)
  | other => some other

/-- Whether every group that is referred to has begun before, given how many have; the number of
groups that have begun behind the expression. -/
def groupsAfter? (begun : Nat) : Expression → Option Nat
  | sequence first second => do
      let middle ← first.groupsAfter? begun
      second.groupsAfter? middle
  | either first second => do
      let middle ← first.groupsAfter? begun
      second.groupsAfter? middle
  | repeated body _ _ _ => body.groupsAfter? begun
  | group _ body => body.groupsAfter? (begun + 1)
  | look _ _ body => body.groupsAfter? begun
  | atomic body => body.groupsAfter? begun
  | sameAs number => if number < begun then some begun else none
  | hasMatched number => if number < begun then some begun else none
  | conditional test holds fails => do
      let first ← test.groupsAfter? begun
      let second ← holds.groupsAfter? first
      fails.groupsAfter? second
  | _ => some begun

end Expression

end RefLint
