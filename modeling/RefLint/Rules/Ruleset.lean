import RefLint.LoadError
import RefLint.NameSet
import RefLint.Rules.Decoding
import RefLint.Rules.Format

/-!
# Rulesets

A ruleset holds rules by name, in increasing order of the names, and the set of
those that are enabled. Enabling and disabling never change the rules.
-/

namespace RefLint.Rules

set_option autoImplicit false

inductive RulesetError where
  | notLoaded (error : LoadError)
  | invalid (findings : List Finding)
  | malformed (error : DecodeError)
  | unknownRule (name : String)

namespace RulesetError

def message : RulesetError → String
  | notLoaded error => error.message
  | invalid findings => "ruleset is invalid with " ++ toString findings.length ++ " error(s)"
  | malformed error => "malformed ruleset: " ++ error.message
  | unknownRule name => "unknown rule \"" ++ name ++ "\""

def exitCode : RulesetError → Nat
  | notLoaded error => error.exitCode
  | invalid _ => 1
  | malformed _ => 2
  | unknownRule _ => 2

end RulesetError

/-- Put a rule into its place by name; a rule with the same name is replaced. -/
def insertRule (name : String) (rule : Rule) : List (String × Rule) → List (String × Rule)
  | [] => [(name, rule)]
  | (other, old) :: rest =>
      if name < other then (name, rule) :: (other, old) :: rest
      else if name = other then (name, rule) :: rest
      else (other, old) :: insertRule name rule rest

def ruleNamed? (name : String) : List (String × Rule) → Option Rule
  | [] => none
  | (other, rule) :: rest => if other = name then some rule else ruleNamed? name rest

structure Ruleset where
  rules : List (String × Rule)
  enabled : NameSet

namespace Ruleset

/-- The ruleset of named rules, with the recommended ones enabled. -/
def ofRules (named : List (String × Rule)) : Ruleset :=
  let rules := named.foldl (fun rules (name, rule) => insertRule name rule rules) []
  ⟨rules, .ofList ((rules.filter fun (_, rule) => rule.recommended).map (·.1))⟩

def decodeRules : Value → Decoded (List (String × Rule))
  | .object members =>
      match Members.get? "rules" members with
      | some (.object rules) => rules.mapM fun (name, value) => do
          let rule ← Rule.ofValue value
          pure (name, rule)
      | _ => .ok []
  | _ => .ok []

def ofValue (document : Value) : Except RulesetError Ruleset :=
  match rulesetFindings document with
  | [] => ((decodeRules document).map ofRules).mapError .malformed
  | findings => .error (.invalid findings)

def names (ruleset : Ruleset) : List String := ruleset.rules.map (·.1)

def get? (ruleset : Ruleset) (name : String) : Option Rule := ruleNamed? name ruleset.rules

def isKnown (ruleset : Ruleset) (name : String) : Bool := (ruleset.get? name).isSome

def isEnabled (ruleset : Ruleset) (name : String) : Bool := ruleset.enabled.contains name

def enable (ruleset : Ruleset) (name : String) : Except RulesetError Ruleset :=
  if ruleset.isKnown name then .ok { ruleset with enabled := ruleset.enabled.insert name }
  else .error (.unknownRule name)

def disable (ruleset : Ruleset) (name : String) : Except RulesetError Ruleset :=
  if ruleset.isKnown name then .ok { ruleset with enabled := ruleset.enabled.erase name }
  else .error (.unknownRule name)

/-- Enable the named rules and no others; nothing changes when a name is unknown. -/
def enableOnly (ruleset : Ruleset) (names : List String) : Except RulesetError Ruleset :=
  match names.find? fun name => !ruleset.isKnown name with
  | some unknown => .error (.unknownRule unknown)
  | none => .ok { ruleset with enabled := .ofList names }

/-- Enable some rules, then disable others; the first unknown name is told. -/
def select (ruleset : Ruleset) (enabling disabling : List String) :
    Except RulesetError Ruleset := do
  let enabled ← enabling.foldlM enable ruleset
  disabling.foldlM disable enabled

def enabledRules (ruleset : Ruleset) : List (String × Rule) :=
  ruleset.rules.filter fun (name, _) => ruleset.isEnabled name

def documentOf (rules : List (String × Rule)) : Value :=
  .object [("rules", .object (rules.map fun (name, rule) => (name, rule.toValue)))]

def toValue (ruleset : Ruleset) : Value := documentOf ruleset.rules

end Ruleset

end RefLint.Rules
