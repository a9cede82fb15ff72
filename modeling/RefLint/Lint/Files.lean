import RefLint.Files.Tree
import RefLint.Lint.Document

/-!
# Linting files

A file is linted when its name says that it is a document. A directory is
searched to any depth, and its documents are reported in path order.
-/

namespace RefLint.Lint

set_option autoImplicit false

inductive Status where
  | ok | warning | error
  deriving DecidableEq

def Status.name : Status → String
  | ok => "ok"
  | warning => "warning"
  | error => "error"

structure FileReport where
  /-- The file as seen from the path that was linted. -/
  file : String
  diagnostics : List Diagnostic

namespace FileReport

def status (report : FileReport) : Status :=
  if report.diagnostics.any fun diagnostic => diagnostic.severity = .error then .error
  else if report.diagnostics.isEmpty then .ok
  else .warning

def count (report : FileReport) (severity : Severity) : Nat :=
  (report.diagnostics.filter fun diagnostic => diagnostic.severity = severity).length

def toValue (report : FileReport) : Value :=
  .object ([("file", .string report.file), ("status", .string report.status.name)] ++
    if report.diagnostics.isEmpty then []
    else [("diagnostics", .array (report.diagnostics.map Diagnostic.toValue))])

end FileReport

/-- Lint one file, whatever its name is. -/
def lintFile (tree : FileTree) (file base : String) : FileReport :=
  { file := Path.displayed base file
    diagnostics :=
      match tree.load file with
      | .ok document => lintDocument document file
      | .error error => [Diagnostic.atPath (.notLoaded error) file "/"] }

def namesLe (names others : List String) : Bool := !decide (others < names)

/-- The documents that linting a path looks at, in path order. -/
def documentsAt (tree : FileTree) (path : String) : List String :=
  match tree.at? path with
  | none => []
  | some (.file _) => if Path.isDocument path then [path] else []
  | some (.directory entries) =>
      ((FileTree.directory entries).documents.mergeSort namesLe).map fun names =>
        names.foldl Path.join path

structure Report where
  path : String
  /-- Whether a file with warnings counts as failed. -/
  strict : Bool
  results : List FileReport

def lint (tree : FileTree) (path : String) (strict : Bool) : Report :=
  ⟨path, strict, (documentsAt tree path).map fun file => lintFile tree file path⟩

namespace Report

def filesChecked (report : Report) : Nat := report.results.length

def isFailed (strict : Bool) (result : FileReport) : Bool :=
  if strict then result.status ≠ .ok else result.status = .error

def failed (report : Report) : Nat := (report.results.filter (isFailed report.strict)).length

def passed (report : Report) : Nat := report.filesChecked - report.failed

def total (report : Report) (severity : Severity) : Nat :=
  report.results.foldl (fun sum result => sum + result.count severity) 0

def errors (report : Report) : Nat := report.total .error

def warnings (report : Report) : Nat := report.total .warn

/-- Whether there is no error; warnings do not matter. -/
def isOk (report : Report) : Bool := report.errors == 0

def isPassed (report : Report) : Bool := report.isOk && (!report.strict || report.warnings == 0)

def toValue (report : Report) : Value :=
  .object [
    ("path", .string report.path),
    ("files_checked", .ofNat report.filesChecked),
    ("passed", .ofNat report.passed),
    ("failed", .ofNat report.failed),
    ("errors", .ofNat report.errors),
    ("warnings", .ofNat report.warnings),
    ("results", .array (report.results.map FileReport.toValue))]

end Report

end RefLint.Lint
