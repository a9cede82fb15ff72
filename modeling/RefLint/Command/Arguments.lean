/-!
# Arguments

Arguments are options and positional ones. A long option takes its value behind
an equals sign or from the next argument, flags with short names can share a
dash, and everything after `--` is positional.
-/

namespace RefLint.Command

set_option autoImplicit false

inductive Interruption where
  | misuse | help | version
  deriving DecidableEq

structure Grammar where
  /-- Flags by their long names, with the short one if there is one. -/
  flags : List (String × Option Char)
  /-- Options with a value that can be given once. -/
  single : List String
  /-- Options with a value that can be given several times. -/
  several : List String := []

/-- The arguments that were given, values and positional ones in their order. -/
structure Given where
  flags : List String
  values : List (String × String)
  positional : List String

namespace Given

def empty : Given := ⟨[], [], []⟩

def hasFlag (given : Given) (name : String) : Bool := given.flags.contains name

def valuesOf (given : Given) (name : String) : List String :=
  (given.values.filter fun value => value.1 = name).map (·.2)

def value? (given : Given) (name : String) : Option String := (given.valuesOf name).head?

end Given

/-- A flag that is set; some of them interrupt, and none can be set twice. -/
def setFlag (name : String) (given : Given) : Except Interruption Given :=
  match name with
  | "help" => .error .help
  | "version" => .error .version
  | _ =>
      if given.hasFlag name then .error .misuse
      else .ok { given with flags := given.flags ++ [name] }

def setValue (grammar : Grammar) (name value : String) (given : Given) :
    Except Interruption Given :=
  if grammar.single.contains name && (given.value? name).isSome then .error .misuse
  else .ok { given with values := given.values ++ [(name, value)] }

def setShortFlags (grammar : Grammar) : List Char → Given → Except Interruption Given
  | [], given => .ok given
  | c :: rest, given =>
      match grammar.flags.find? fun flag => flag.2 = some c with
      | some (name, _) => do
          let more ← setFlag name given
          setShortFlags grammar rest more
      | none => .error .misuse

inductive Argument where
  | positional (text : String)
  | separator
  | long (name : String)
  | longWithValue (name value : String)
  | short (letters : List Char)

/-- A dash on its own is positional. -/
def Argument.ofText (text : String) : Argument :=
  match text.toList with
  | ['-', '-'] => .separator
  | '-' :: '-' :: rest =>
      let name := String.ofList (rest.takeWhile (· ≠ '='))
      match rest.dropWhile (· ≠ '=') with
      | _ :: value => .longWithValue name (String.ofList value)
      | [] => .long (String.ofList rest)
  | '-' :: first :: rest => .short (first :: rest)
  | _ => .positional text

namespace Grammar

def hasFlag (grammar : Grammar) (name : String) : Bool :=
  grammar.flags.any fun flag => flag.1 = name

def hasValue (grammar : Grammar) (name : String) : Bool :=
  grammar.single.contains name || grammar.several.contains name

/-- Sort arguments into those that were given. A value that looks like an option has to
stand behind an equals sign. -/
def scan (grammar : Grammar) (given : Given) : List String → Except Interruption Given
  | [] => .ok given
  | argument :: rest =>
      match Argument.ofText argument with
      | .positional text =>
          scan grammar { given with positional := given.positional ++ [text] } rest
      | .separator => .ok { given with positional := given.positional ++ rest }
      | .short letters => do
          let more ← setShortFlags grammar letters given
          scan grammar more rest
      | .longWithValue name value =>
          if grammar.hasValue name then do
            let more ← setValue grammar name value given
            scan grammar more rest
          else .error .misuse
      | .long name =>
          if grammar.hasFlag name then do
            let more ← setFlag name given
            scan grammar more rest
          else if grammar.hasValue name then
            match rest with
            | next :: rest =>
                match Argument.ofText next with
                | .positional value => do
                    let more ← setValue grammar name value given
                    scan grammar more rest
                | _ => .error .misuse
            | [] => .error .misuse
          else .error .misuse

end Grammar

end RefLint.Command
