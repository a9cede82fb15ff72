import RefLint.LoadError
import RefLint.Pointer
import RefLint.Severity

/-!
# Diagnostics

What the linter has to say about a document. A problem fixes the code, the
severity and the wording; a diagnostic adds the file and the place in it.
-/

namespace RefLint.Lint

set_option autoImplicit false

def jsonApiMediaType : String := "application/vnd.api+json"

inductive Problem where
  | notLoaded (error : LoadError)
  | broken (error : ReferenceError)
  | circular (pointer : String)
  | external (pointer : String)
  | noVersion
  | noJsonApiContent
  deriving DecidableEq

namespace Problem

def code : Problem → String
  | notLoaded _ => "E001"
  | broken (.invalidPath _ _ _) => "E003"
  | broken _ => "E002"
  | circular _ => "W001"
  | external _ => "W002"
  | noVersion => "W003"
  | noJsonApiContent => "W004"

def severity : Problem → Severity
  | notLoaded _ => .error
  | broken _ => .error
  | _ => .warn

def message : Problem → String
  | notLoaded error => "syntax error: " ++ error.message
  | broken error => error.message
  | circular pointer => "circular reference: " ++ pointer
  | external pointer => "external reference left unresolved: " ++ pointer
  | noVersion => "document missing openapi version field"
  | noJsonApiContent =>
      "no " ++ jsonApiMediaType ++ " content found; JSON:API rules will not match"

end Problem

structure Diagnostic where
  problem : Problem
  file : String
  /-- The offending place, as a pointer without its `#`. -/
  path : String

namespace Diagnostic

def severity (diagnostic : Diagnostic) : Severity := diagnostic.problem.severity

/-- The whole document is written as a single slash. -/
def atPath (problem : Problem) (file path : String) : Diagnostic :=
  ⟨problem, file, if path = "" then "/" else path⟩

def toValue (diagnostic : Diagnostic) : Value :=
  .object [
    ("severity", .string diagnostic.severity.name),
    ("code", .string diagnostic.problem.code),
    ("file", .string diagnostic.file),
    ("path", .string diagnostic.path),
    ("message", .string diagnostic.problem.message)]

end Diagnostic

end RefLint.Lint
