import RefLint.Pointer

/-!
# Reference nodes

A mapping whose `$ref` is a string stands for the value that the string points
at. Any other `$ref` is an ordinary member. The last part lists every local
pointer that a value spells anywhere, which bounds how far references can be
followed.
-/

namespace RefLint

set_option autoImplicit false

def referenceKey : String := "$ref"

/-- The pointer of a mapping that is a reference node. -/
def referencePointer? (members : Members) : Option String :=
  match Members.get? referenceKey members with
  | some (.string pointer) => some pointer
  | _ => none

/-- A value as the resolver and the linter look at it. -/
inductive Node where
  | reference (pointer : String)
  | mapping (members : Members)
  | sequence (items : List Value)
  | scalar (value : Value)

def Value.node : Value → Node
  | .object members =>
      match referencePointer? members with
      | some pointer => .reference pointer
      | none => .mapping members
  | .array items => .sequence items
  | scalar => .scalar scalar

def ownLocalPointer (members : Members) : List String :=
  match referencePointer? members with
  | some pointer => if Pointer.isLocal pointer then [pointer] else []
  | none => []

/-- Every local pointer spelled in a value, also inside reference nodes. -/
def Value.localPointers : Value → List String
  | .object members => ownLocalPointer members ++ ofMembers members
  | .array items => ofItems items
  | _ => []
where
  ofItems : List Value → List String
    | [] => []
    | item :: rest => item.localPointers ++ ofItems rest
  ofMembers : List (String × Value) → List String
    | [] => []
    | (_, value) :: rest => value.localPointers ++ ofMembers rest

theorem mem_local_pointers_of_items {pointer : String} {item : Value} {items : List Value}
    (present : item ∈ items) (spelled : pointer ∈ item.localPointers) :
    pointer ∈ Value.localPointers.ofItems items := by
  induction items with
  | nil => simp at present
  | cons first rest ih =>
      simp only [Value.localPointers.ofItems, List.mem_append]
      rcases List.mem_cons.1 present with rfl | later
      · exact Or.inl spelled
      · exact Or.inr (ih later)

theorem mem_local_pointers_of_members {pointer key : String} {value : Value} {members : Members}
    (found : Members.get? key members = some value) (spelled : pointer ∈ value.localPointers) :
    pointer ∈ Value.localPointers.ofMembers members := by
  induction members with
  | nil => simp [Members.get?] at found
  | cons first rest ih =>
      obtain ⟨name, other⟩ := first
      simp only [Value.localPointers.ofMembers, List.mem_append]
      simp only [Members.get?] at found
      split at found
      · injection found with same
        subst same
        exact Or.inl spelled
      · exact Or.inr (ih found)

namespace Pointer

theorem local_pointers_of_step {value next : Value} {segment pointer : String}
    (stepped : step value segment = .ok next) (spelled : pointer ∈ next.localPointers) :
    pointer ∈ value.localPointers := by
  cases value with
  | object members =>
      simp only [step] at stepped
      split at stepped
      · rename_i found
        injection stepped with same
        subst same
        exact List.mem_append_right _ (mem_local_pointers_of_members found spelled)
      · simp at stepped
  | array items =>
      simp only [step] at stepped
      split at stepped
      · rename_i found
        injection stepped with same
        subst same
        obtain ⟨position, _, at_position⟩ := Option.bind_eq_some_iff.1 found
        exact mem_local_pointers_of_items (List.mem_of_getElem? at_position) spelled
      · simp at stepped
  | null => simp [step] at stepped
  | bool => simp [step] at stepped
  | number => simp [step] at stepped
  | string => simp [step] at stepped

theorem local_pointers_of_descend {value target : Value} {path : List String} {pointer : String}
    (reached : descend value path = .ok target) (spelled : pointer ∈ target.localPointers) :
    pointer ∈ value.localPointers := by
  induction path generalizing value with
  | nil =>
      injection reached with same
      exact same ▸ spelled
  | cons segment rest ih =>
      simp only [descend] at reached
      split at reached
      · rename_i stepped
        exact local_pointers_of_step stepped (ih reached)
      · simp at reached

/-- A target spells no pointer that its document does not spell. -/
theorem local_pointers_of_navigate {root target : Value} {pointer spelledPointer : String}
    (reached : navigate root pointer = .ok target)
    (spelled : spelledPointer ∈ target.localPointers) : spelledPointer ∈ root.localPointers := by
  simp only [navigate] at reached
  split at reached
  · rename_i found
    injection reached with same
    exact local_pointers_of_descend found (same ▸ spelled)
  · simp at reached
  · simp at reached

end Pointer

end RefLint
