import RefLint.Command.Arguments
import RefLint.Options

/-!
# Commands

The three things that the program can be asked to do, and how arguments ask for
them.
-/

namespace RefLint.Command

set_option autoImplicit false

inductive Rendering where
  | compact | indented | yaml
  deriving DecidableEq

structure ResolveRequest where
  document : String
  /-- The file to write instead of the standard output. -/
  output : Option String
  rendering : Rendering
  options : RefOptions

structure CheckRequest where
  path : String
  asJson : Bool
  strict : Bool
  quiet : Bool

structure RulesRequest where
  /-- The file of the ruleset; without one it is the bundled ruleset. -/
  ruleset : Option String
  asJson : Bool
  enabling : List String
  disabling : List String

inductive Request where
  | resolve (request : ResolveRequest)
  | check (request : CheckRequest)
  | rules (request : RulesRequest)

def Request.readPaths : Request → List String
  | resolve request => [request.document]
  | check request => [request.path]
  | rules request => request.ruleset.toList

def Request.outputPath? : Request → Option String
  | resolve request => request.output
  | _ => none

def commonFlags : List (String × Option Char) := [("verbose", some 'v'), ("help", some 'h')]

def resolveGrammar : Grammar where
  flags := commonFlags ++ [("pretty", none), ("yaml", none), ("keep-definitions", none),
    ("preserve-cycles", none)]
  single := ["output", "definitions-prefix"]

def checkGrammar : Grammar where
  flags := commonFlags ++ [("strict", none), ("quiet", some 'q')]
  single := ["format"]

def rulesGrammar : Grammar where
  flags := commonFlags
  single := ["ruleset", "format"]
  several := ["enable", "disable"]

def isPath (path : Option String) : Bool := path ≠ some ""

def isJsonFormat (given : Given) : Bool := given.value? "format" = some "json"

def resolveRequest (given : Given) : Except Interruption Request :=
  match given.positional with
  | [document] =>
      let wantsBoth := given.hasFlag "pretty" && given.hasFlag "yaml"
      let output := given.value? "output"
      if wantsBoth || !isPath output then .error .misuse
      else
        let base : RefOptions :=
          { prune := !given.hasFlag "keep-definitions"
            onCycle := if given.hasFlag "preserve-cycles" then .preserve else .refuse }
        .ok (.resolve {
          document := document
          output := output
          rendering :=
            if given.hasFlag "yaml" then .yaml
            else if given.hasFlag "pretty" then .indented
            else .compact
          options := base.withDefinitionsPrefix
            ((given.value? "definitions-prefix").getD defaultDefinitionsPrefix) })
  | _ => .error .misuse

def checkRequest (given : Given) : Except Interruption Request :=
  match given.positional with
  | [path] =>
      if !isPath (some path) then .error .misuse
      else .ok (.check ⟨path, isJsonFormat given, given.hasFlag "strict", given.hasFlag "quiet"⟩)
  | _ => .error .misuse

def rulesRequest (given : Given) : Except Interruption Request :=
  let ruleset := given.value? "ruleset"
  if !given.positional.isEmpty || !isPath ruleset then .error .misuse
  else
    .ok (.rules ⟨ruleset, isJsonFormat given, given.valuesOf "enable", given.valuesOf "disable"⟩)

/-- The options that can stand in front of a command. -/
def leadingGrammar : Grammar where
  flags := commonFlags ++ [("version", some 'V')]
  single := []

/-- Split arguments at the name of the command, the first one that is no option. -/
def splitAtCommand (arguments : List String) : List String × List String :=
  let isOption (argument : String) : Bool :=
    match Argument.ofText argument with
    | .positional _ => false
    | _ => true
  (arguments.takeWhile isOption, arguments.dropWhile isOption)

def Request.ofArguments (arguments : List String) : Except Interruption Request := do
  let (leading, rest) := splitAtCommand arguments
  if leading.contains "--" then .error .misuse
  let _ ← leadingGrammar.scan .empty leading
  match rest with
  | "resolve" :: rest => do
      let given ← resolveGrammar.scan .empty rest
      resolveRequest given
  | "check" :: rest => do
      let given ← checkGrammar.scan .empty rest
      checkRequest given
  | "rules" :: rest => do
      let given ← rulesGrammar.scan .empty rest
      rulesRequest given
  | ["help"] => .error .help
  | ["help", name] =>
      .error (if name ∈ ["resolve", "check", "rules", "help"] then .help else .misuse)
  | _ => .error .misuse

end RefLint.Command
