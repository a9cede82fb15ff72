import RefLint.Resolution

/-!
# Pruning inlined definitions

A shared definition that has been inlined everywhere can be dropped, unless a
reference that stayed in place still needs it.
-/

namespace RefLint

set_option autoImplicit false

/-- Whether `inner` is spelled as `outer` or as a place below it. -/
def Pointer.contains (outer inner : String) : Bool :=
  match (inner.toList.drop outer.toList.length) with
  | [] => outer == inner
  | c :: _ => c == '/' && outer.toList.isPrefixOf inner.toList

/-- Remove each named member in turn; tells how many were there. -/
def removeAll (root : Value) : List String → Value × Nat
  | [] => (root, 0)
  | pointer :: rest =>
      match Pointer.remove root pointer with
      | some smaller =>
          let (pruned, count) := removeAll smaller rest
          (pruned, count + 1)
      | none => removeAll root rest

def pruneConsumed (root : Value) (pointers : NameSet) : Value × Nat :=
  removeAll root pointers.toList

namespace Resolution

/-- The inlined definitions that no preserved pointer is or lies inside. -/
def prunable (resolution : Resolution) : NameSet :=
  resolution.consumed.filter fun consumed =>
    !resolution.preserved.toList.any fun preserved => Pointer.contains consumed preserved

def prune (resolution : Resolution) (root : Value) : Value × Nat :=
  pruneConsumed root resolution.prunable

end Resolution

/-- Resolve a value; with pruning on, the root that comes back has lost the
definitions that were inlined. -/
def resolve (value root : Value) (options : RefOptions) :
    Except ReferenceError (Value × Value) :=
  match resolveRefs value root options with
  | .error error => .error error
  | .ok resolution =>
      .ok (resolution.value, if options.prune then (resolution.prune root).1 else root)

/-- Resolve a document against itself; with pruning on, the inlined definitions
are dropped from the result. -/
def dereference (document : Value) (options : RefOptions) : Except ReferenceError Value :=
  match resolveRefs document document options with
  | .error error => .error error
  | .ok resolution =>
      .ok (if options.prune then (resolution.prune resolution.value).1 else resolution.value)

end RefLint
