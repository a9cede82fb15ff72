import RefLint.Value

/-!
# Actions of rules
-/

namespace RefLint.Rules

set_option autoImplicit false

inductive AssertionFunction where
  | enumeration | pattern | falsy | truthy | schema | length
  deriving DecidableEq

namespace AssertionFunction

def all : List AssertionFunction := [enumeration, pattern, falsy, truthy, schema, length]

def name : AssertionFunction → String
  | enumeration => "enumeration"
  | pattern => "pattern"
  | falsy => "falsy"
  | truthy => "truthy"
  | schema => "schema"
  | length => "length"

def ofName? (name : String) : Option AssertionFunction :=
  all.find? fun assertion => assertion.name == name

end AssertionFunction

structure RuleAction where
  /-- The member of the selected node to assert on; `@key` means the key itself. -/
  field : Option String
  function : AssertionFunction
  options : Option Value

/-- A single action, or a list of them. The two are written differently. -/
inductive Clause where
  | one (action : RuleAction)
  | many (actions : List RuleAction)

def optionalMember (key : String) : Option Value → Members
  | some value => [(key, value)]
  | none => []

def RuleAction.toValue (action : RuleAction) : Value :=
  .object (optionalMember "field" (action.field.map Value.string)
    ++ [("function", .string action.function.name)]
    ++ optionalMember "functionOptions" action.options)

namespace Clause

def actions : Clause → List RuleAction
  | one action => [action]
  | many actions => actions

def isList : Clause → Bool
  | one _ => false
  | many _ => true

def toValue : Clause → Value
  | one action => action.toValue
  | many actions => .array (actions.map RuleAction.toValue)

end Clause

end RefLint.Rules
