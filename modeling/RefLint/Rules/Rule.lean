import RefLint.Rules.Action
import RefLint.Severity

/-!
# Rules

A rule selects nodes of a document and asserts something about each. Rules are
data here; they are run by an engine that is not part of this library.
-/

namespace RefLint.Rules

set_option autoImplicit false

structure Rule where
  description : String
  message : String
  severity : Severity
  /-- The selector of the nodes that the rule is about. -/
  given : String
  clause : Clause
  /-- Whether the rule is enabled from the start. -/
  recommended : Bool := true

def Rule.toValue (rule : Rule) : Value :=
  .object [
    ("description", .string rule.description),
    ("message", .string rule.message),
    ("severity", .string rule.severity.name),
    ("given", .string rule.given),
    ("then", rule.clause.toValue),
    ("recommended", .bool rule.recommended)]

end RefLint.Rules
