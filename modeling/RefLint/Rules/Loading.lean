import RefLint.Files.Tree
import RefLint.Rules.Ruleset

/-!
# Loading rulesets from files
-/

namespace RefLint.Rules

set_option autoImplicit false

def loadRuleset (tree : FileTree) (path : String) : Except RulesetError Ruleset :=
  match tree.load path with
  | .ok document => Ruleset.ofValue document
  | .error error => .error (.notLoaded error)

end RefLint.Rules
