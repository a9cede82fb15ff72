import RefLint.Regex.Reader
import RefLint.Regex.Search

/-!
# Patterns

A pattern is a text that writes an expression. A regular expression is matched by the places
where matches can end, any other one by attempts.
-/

namespace RefLint

set_option autoImplicit false

structure Pattern where
  text : String
  expression : Expression
  /-- The groups that are referred to. -/
  referenced : List Nat

namespace Pattern

/-- Whether a text is one that the grammar of patterns does not refuse at once. What it asks for
beyond regular expressions is not looked at. -/
def isAcceptable (text : String) : Bool :=
  match Regex.grammarOf text with
  | .malformed => false
  | _ => true

def ofText? (text : String) : Option Pattern := do
  let (expression, referenced) ←
    match Regex.grammarOf text with
    | .regular chars => Regex.readExpression? true chars
    | .extended chars => Regex.readExpression? false chars
    | .malformed => none
  pure ⟨text, expression, referenced⟩

def search (pattern : Pattern) (text : String) : Regex.Outcome :=
  match pattern.expression.regular? pattern.referenced with
  | some regex => if regex.found text then .found else .absent
  | none => Regex.search pattern.expression pattern.referenced text

def found (pattern : Pattern) (text : String) : Bool := pattern.search text = .found

end Pattern

end RefLint
