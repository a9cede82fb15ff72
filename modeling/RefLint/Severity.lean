/-!
# Severities
-/

namespace RefLint

set_option autoImplicit false

inductive Severity where
  | error | warn | info | hint
  deriving DecidableEq

namespace Severity

def all : List Severity := [error, warn, info, hint]

def name : Severity → String
  | error => "error"
  | warn => "warn"
  | info => "info"
  | hint => "hint"

/-- From 0, the most severe, to 3. -/
def level : Severity → Nat
  | error => 0
  | warn => 1
  | info => 2
  | hint => 3

def ofName? (name : String) : Option Severity := all.find? fun severity => severity.name == name

def ofLevel? (level : Nat) : Option Severity := all.find? fun severity => severity.level == level

end Severity

end RefLint
