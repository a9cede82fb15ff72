import RefLint.Json.Error

/-!
# Why a document cannot be loaded
-/

namespace RefLint

set_option autoImplicit false

inductive ReadFailure where
  | isDirectory
  | notUtf8
  deriving DecidableEq

def ReadFailure.message : ReadFailure → String
  | isDirectory => "Is a directory (os error 21)"
  | notUtf8 => "stream did not contain valid UTF-8"

/-- Why a text has no JSON value. The last two arise from keys of a YAML text. -/
inductive JsonFault where
  | malformed (error : Json.SyntaxError)
  | keyNotString
  | keyNotFinite
  deriving DecidableEq

def JsonFault.message : JsonFault → String
  | malformed error => error.message
  | keyNotString => "key must be a string"
  | keyNotFinite => "float key must be finite (got NaN or +/-inf)"

inductive LoadError where
  | fileNotFound (path : String)
  | unreadable (path : String) (failure : ReadFailure)
  | invalidJson (fault : JsonFault)
  | invalidYaml
  deriving DecidableEq

namespace LoadError

def message : LoadError → String
  | fileNotFound path => "file not found: " ++ path
  | unreadable path failure => "cannot read " ++ path ++ ": " ++ failure.message
  | invalidJson fault => "invalid JSON: " ++ fault.message
  | invalidYaml => "invalid YAML"

/-- Three when the file could not be had, two when its content is at fault. -/
def exitCode : LoadError → Nat
  | fileNotFound _ => 3
  | unreadable _ _ => 3
  | invalidJson _ => 2
  | invalidYaml => 2

end LoadError

end RefLint
