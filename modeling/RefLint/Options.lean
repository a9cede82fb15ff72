/-!
# Options of reference resolution
-/

namespace RefLint

set_option autoImplicit false

inductive CyclePolicy where
  /-- The resolution fails. -/
  | refuse
  /-- The reference node stays, so that the result is finite. -/
  | preserve
  deriving DecidableEq

/-- The subtree of shared definitions in an OpenAPI document. -/
def defaultDefinitionsPrefix : String := "#/components/"

structure RefOptions where
  /-- Pointers with this prefix name shared definitions. -/
  definitionsPrefix : String := defaultDefinitionsPrefix
  /-- Whether definitions are dropped once they have been inlined. -/
  prune : Bool := true
  onCycle : CyclePolicy := .refuse

/-- `#/`, the given text without its surrounding marks, and `/`. The final slash
keeps `#/components` from covering `#/componentsExtra`. -/
def normalizePrefix (text : String) : String :=
  let unmarked := (text.toList.dropWhile (· == '#')).dropWhile (· == '/')
  let trimmed := (unmarked.reverse.dropWhile (· == '/')).reverse
  "#/" ++ String.ofList trimmed ++ "/"

namespace RefOptions

def withDefinitionsPrefix (options : RefOptions) (text : String) : RefOptions :=
  { options with definitionsPrefix := normalizePrefix text }

def isDefinition (options : RefOptions) (pointer : String) : Bool :=
  options.definitionsPrefix.toList.isPrefixOf pointer.toList

end RefOptions

end RefLint
