import RefLint.Splitting

/-!
# Paths of files

A path is a text whose parts are separated by slashes. Empty parts and single
dots name no step of their own, except for a slash or a dot at the very start.
-/

namespace RefLint.Path

set_option autoImplicit false

inductive Component where
  | root | current | parent
  | normal (name : String)
  deriving DecidableEq

def parts (path : String) : List String := (splitAt '/' path.toList).map String.ofList

/-- The step that a part behind the first one names, if any. -/
def laterStep? (part : String) : Option Component :=
  if part = "" || part = "." then none
  else if part = ".." then some .parent
  else some (.normal part)

def steps (path : String) : List (String × Option Component) :=
  match parts path with
  | first :: second :: rest =>
      let opening :=
        if first = "" then some Component.root
        else if first = "." then some .current
        else laterStep? first
      (first, opening) :: (second :: rest).map fun part => (part, laterStep? part)
  | [only] => [(only, if only = "." then some .current else laterStep? only)]
  | [] => []

def components (path : String) : List Component := (steps path).filterMap (·.2)

/-- The last step of a path, if it is a name. -/
def fileName? (path : String) : Option String :=
  match (components path).getLast? with
  | some (.normal name) => some name
  | _ => none

/-- What follows the last dot of a file name, unless nothing precedes it. -/
def extension? (path : String) : Option String := do
  let name ← fileName? path
  let reversed := name.toList.reverse
  let ending := reversed.takeWhile (· ≠ '.')
  match reversed.dropWhile (· ≠ '.') with
  | '.' :: _ :: _ => some (String.ofList ending.reverse)
  | _ => none

/-- Whether a file is taken for a document, by its extension alone. -/
def isDocument (path : String) : Bool :=
  match extension? path with
  | some ending => ending ∈ ["json", "yaml", "yml"]
  | none => false

def dropSteps : List Component → List (String × Option Component) →
    Option (List (String × Option Component))
  | [], rest => some rest
  | step :: base, (_, none) :: rest => dropSteps (step :: base) rest
  | step :: base, (_, some found) :: rest =>
      if step = found then dropSteps base rest else none
  | _ :: _, [] => none

def dropIdle (parts : List (String × Option Component)) : List (String × Option Component) :=
  parts.dropWhile (·.2.isNone)

def relativeTo? (base path : String) : Option String := do
  let baseSteps := components base
  let below ← dropSteps baseSteps (steps path)
  let front := if baseSteps.isEmpty then below else dropIdle below
  let trimmed := (dropIdle front.reverse).reverse
  pure ("/".intercalate (trimmed.map (·.1)))

/-- How reports name a file found under a base: relative to it, unless it is the base itself. -/
def displayed (base path : String) : String :=
  match relativeTo? base path with
  | some "" => path
  | some below => below
  | none => path

def join (directory name : String) : String :=
  match directory.toList.getLast? with
  | some '/' => directory ++ name
  | _ => directory ++ "/" ++ name

end RefLint.Path
