import RefLint.Lint.Diagnostic
import RefLint.Resolution

/-!
# Linting a document

Reference nodes are met by descending mappings and sequences, without looking
inside a reference node. External references are warned about, references that
lead nowhere are errors, and references on a cycle are warned about.
-/

namespace RefLint.Lint

set_option autoImplicit false

structure Occurrence where
  pointer : String
  path : String
  deriving DecidableEq

/-- The reference nodes of a value that stands at `path`, in document order. -/
def occurrences (path : String) : Value → List Occurrence
  | .object members =>
      match referencePointer? members with
      | some pointer => [⟨pointer, path⟩]
      | none => ofMembers path members
  | .array items => ofItems path 0 items
  | _ => []
where
  ofItems (path : String) (position : Nat) : List Value → List Occurrence
    | [] => []
    | item :: rest =>
        occurrences (path ++ "/" ++ toString position) item ++ ofItems path (position + 1) rest
  ofMembers (path : String) : List (String × Value) → List Occurrence
    | [] => []
    | (key, value) :: rest =>
        occurrences (path ++ "/" ++ Pointer.escape key) value ++ ofMembers path rest

/-- Whether a `content` mapping somewhere in the value has the JSON:API media type. -/
def hasJsonApiContent : Value → Bool
  | .object members =>
      (match Members.get? "content" members with
        | some (.object content) => Members.has jsonApiMediaType content
        | _ => false)
        || inMembers members
  | .array items => inItems items
  | _ => false
where
  inItems : List Value → Bool
    | [] => false
    | item :: rest => hasJsonApiContent item || inItems rest
  inMembers : List (String × Value) → Bool
    | [] => false
    | (_, value) :: rest => hasJsonApiContent value || inMembers rest

def pointerProblem? (document : Value) (pointer : String) : Option Problem :=
  if Pointer.isLocal pointer then
    match Pointer.navigate document pointer with
    | .ok _ => none
    | .error error => some (.broken error)
  else some (.external pointer)

/-- Cycles are preserved, so that one search reports each pointer that closes one. -/
def searchOptions : RefOptions := { prune := false, onCycle := .preserve }

/-- The pointers that close a cycle when the resolution starts from one pointer. A
search that meets a broken reference finds nothing; that reference is reported
where it stands. -/
def cyclesFrom (document : Value) (pointer : String) : NameSet :=
  match resolveRefs (.object [(referenceKey, .string pointer)]) document searchOptions with
  | .ok resolution => resolution.preserved
  | .error _ => .empty

def pathsOf (found : List Occurrence) (pointer : String) : List String :=
  (found.filter fun occurrence => occurrence.pointer = pointer).map (·.path)

def lintDocument (document : Value) (file : String) : List Diagnostic :=
  let found := occurrences "" document
  let pointers := NameSet.ofList (found.map (·.pointer))
  let report (problem : Problem) (pointer : String) : List Diagnostic :=
    (pathsOf found pointer).map (Diagnostic.atPath problem file)
  let flawed := pointers.toList.flatMap fun pointer =>
    match pointerProblem? document pointer with
    | some problem => report problem pointer
    | none => []
  let followable := pointers.toList.filter fun pointer =>
    (pointerProblem? document pointer).isNone
  let circular := followable.foldl (fun names pointer => names.union (cyclesFrom document pointer))
    NameSet.empty
  let cycles := circular.toList.flatMap fun pointer => report (.circular pointer) pointer
  let version :=
    if (document.member? "openapi").isNone && (document.member? "swagger").isNone then
      [Diagnostic.atPath .noVersion file "/"]
    else []
  let content :=
    if hasJsonApiContent document then [] else [Diagnostic.atPath .noJsonApiContent file "/"]
  flawed ++ cycles ++ version ++ content

end RefLint.Lint
