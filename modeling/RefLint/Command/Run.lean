import RefLint.Command.Invocation
import RefLint.Lint.Files
import RefLint.Pruning
import RefLint.Rules.Bundled
import RefLint.Rules.Loading
import RefLint.WhiteSpace
import RefLint.Yaml.Writer

/-!
# Running commands

A run is a function from the files to what is printed, the exit code and the
files afterwards. Only `resolve` with an output file changes a file.
-/

namespace RefLint.Command

set_option autoImplicit false

structure Response where
  code : Nat
  stdout : String
  stderr : String
  tree : FileTree

/-- End with an error that leaves the files alone. -/
def failure (tree : FileTree) (code : Nat) (stderr : String) : Response := ⟨code, "", stderr, tree⟩

def errorLine (message : String) : String := "Error: " ++ message ++ "\n"

/-! ## Resolving -/

def Rendering.render : Rendering → Value → String
  | compact, value => Json.write value
  | indented, value => Json.writeIndented 0 value
  | yaml, value => Yaml.write value

/-- White space at the end of a printed document is replaced by one line end. -/
def printed (rendered : String) : String := trimEnd rendered ++ "\n"

def ResolveRequest.run (request : ResolveRequest) (tree : FileTree) : Response :=
  match tree.loadSource request.document with
  | .error error => failure tree error.exitCode (errorLine error.message)
  | .ok document =>
      match dereference document request.options with
      | .error error => failure tree 2 (errorLine error.message)
      | .ok resolved =>
          let rendered := request.rendering.render resolved
          match request.output with
          | none => ⟨0, printed rendered, "", tree⟩
          | some path =>
              match tree.write path rendered with
              | .ok written => ⟨0, "", "", written⟩
              | .error error =>
                  failure tree 3 ("Error writing to " ++ path ++ ": " ++ error.message ++ "\n")

/-! ## Checking -/

def colored (color text : String) : String := "\x1b[" ++ color ++ "m" ++ text ++ "\x1b[0m"

def green : String := "32"

def yellow : String := "33"

def red : String := "31"

def statusMark : Lint.Status → String
  | .ok => colored green "✓"
  | .warning => colored yellow "⚠"
  | .error => colored red "✗"

def diagnosticLine (diagnostic : Lint.Diagnostic) : String :=
  let color := if diagnostic.severity = .error then red else yellow
  "    " ++ colored color (diagnostic.severity.name ++ "[" ++ diagnostic.problem.code ++ "]")
    ++ ": " ++ diagnostic.path ++ " - " ++ diagnostic.problem.message ++ "\n"

/-- The lines about one file. Quiet ones leave out files without findings and warnings. -/
def fileLines (quiet : Bool) (result : Lint.FileReport) : String :=
  let heading :=
    if !quiet || result.status ≠ .ok then
      "  " ++ statusMark result.status ++ " " ++ result.file ++ "\n"
    else ""
  let shown := result.diagnostics.filter fun diagnostic => !quiet || diagnostic.severity = .error
  heading ++ String.join (shown.map diagnosticLine)

def summaryLine (report : Lint.Report) : String :=
  let checked := toString report.filesChecked ++ " files checked"
  if report.isPassed then colored green ("✓ " ++ checked ++ ", all passed")
  else
    colored red ("✗ " ++ checked ++ ": " ++ toString report.passed ++ " passed, "
      ++ toString report.failed ++ " failed (" ++ toString report.errors ++ " errors, "
      ++ toString report.warnings ++ " warnings)")

def reportText (report : Lint.Report) (quiet : Bool) : String :=
  (if quiet then "" else "Checking " ++ report.path ++ " ...\n\n")
    ++ String.join (report.results.map (fileLines quiet)) ++ "\n" ++ summaryLine report ++ "\n"

def CheckRequest.run (request : CheckRequest) (tree : FileTree) : Response :=
  match tree.at? request.path with
  | none => failure tree 2 (errorLine ("path not found: " ++ request.path))
  | some _ =>
      let report := Lint.lint tree request.path request.strict
      let text :=
        if request.asJson then Json.writeIndented 0 report.toValue ++ "\n"
        else reportText report request.quiet
      ⟨if report.isPassed then 0 else 1, text, "", tree⟩

/-! ## Listing rules -/

def padded (width : Nat) (text : String) : String :=
  text ++ String.ofList (List.replicate (width - text.length) ' ')

def ruleLine (name : String) (rule : Rules.Rule) : String :=
  padded 5 rule.severity.name ++ "  " ++ name ++ "  " ++ rule.description ++ "\n"

/-- An invalid ruleset is told together with its findings. -/
def rulesetErrorText (error : Rules.RulesetError) : String :=
  errorLine error.message
    ++ match error with
      | .invalid findings => String.join (findings.map fun finding => "  " ++ finding.line ++ "\n")
      | _ => ""

def RulesRequest.selected (request : RulesRequest) (tree : FileTree) :
    Except Rules.RulesetError Rules.Ruleset := do
  let ruleset ←
    match request.ruleset with
    | some path => Rules.loadRuleset tree path
    | none => .ok Rules.bundledRuleset
  ruleset.select request.enabling request.disabling

def RulesRequest.run (request : RulesRequest) (tree : FileTree) : Response :=
  match request.selected tree with
  | .error error => failure tree error.exitCode (rulesetErrorText error)
  | .ok ruleset =>
      let text :=
        if request.asJson then
          Json.write (Rules.Ruleset.documentOf ruleset.enabledRules) ++ "\n"
        else String.join (ruleset.enabledRules.map fun (name, rule) => ruleLine name rule)
      ⟨0, text, "", tree⟩

/-! ## Arguments -/

def versionText : String := "jsonapi-lint 0.1.0\n"

def misuseText : String := "error: the arguments are not understood; try '--help'\n"

def helpText : String :=
  "Dereference OpenAPI documents and inspect JSON:API lint rules\n\n"
    ++ "Usage: jsonapi-lint [OPTIONS] <COMMAND>\n\n"
    ++ "Commands:\n"
    ++ "  resolve  Inline every $ref pointer in a document\n"
    ++ "  check    Check documents for broken, circular and external references\n"
    ++ "  rules    Validate and list a ruleset (the bundled JSON:API rules by default)\n"
    ++ "  help     Print this message or the help of the given subcommand(s)\n\n"
    ++ "Options:\n"
    ++ "  -v, --verbose  Log resolution details to stderr\n"
    ++ "  -h, --help     Print help\n"
    ++ "  -V, --version  Print version\n"

def Request.run (request : Request) (tree : FileTree) : Response :=
  match request with
  | .resolve request => request.run tree
  | .check request => request.run tree
  | .rules request => request.run tree

def run (arguments : List String) (tree : FileTree) : Response :=
  match Request.ofArguments arguments with
  | .ok request => request.run tree
  | .error .misuse => failure tree 2 misuseText
  | .error .help => ⟨0, helpText, "", tree⟩
  | .error .version => ⟨0, versionText, "", tree⟩

end RefLint.Command
