import Mathlib.Logic.Relation
import RefLint.Proofs.ResolverRules

/-!
# The graph of pointers

The local pointers of a document form a graph: a pointer leads to those that are
met in its target. Descending stops at reference nodes, so a pointer that is only
spelled beside a `$ref` is not met.
-/

namespace RefLint

set_option autoImplicit false

/-- A local pointer of a reference node that is met by descending mappings and sequences. -/
inductive Visible : Value → String → Prop where
  | here {members : Members} {pointer : String} (node : LocalReference members pointer) :
      Visible (.object members) pointer
  | member {members : Members} {key pointer : String} {value : Value}
      (plain : referencePointer? members = none) (present : (key, value) ∈ members)
      (deeper : Visible value pointer) : Visible (.object members) pointer
  | item {items : List Value} {value : Value} {pointer : String}
      (present : value ∈ items) (deeper : Visible value pointer) : Visible (.array items) pointer

/-- The second pointer is visible in the target of the first. -/
def Edge (root : Value) (source next : String) : Prop :=
  ∃ target, Pointer.navigate root source = .ok target ∧ Visible target next

abbrev Reaches (root : Value) : String → String → Prop := Relation.TransGen (Edge root)

/-- The pointers that are visible in a value or that one of those leads to. -/
def Reachable (root value : Value) (pointer : String) : Prop :=
  ∃ first, Visible value first ∧ Relation.ReflTransGen (Edge root) first pointer

section Visible

variable {members : Members} {items : List Value} {value : Value} {pointer other : String}

theorem Visible.is_local (visible : Visible value pointer) : Pointer.isLocal pointer = true := by
  induction visible with
  | here node => exact node.isLocal
  | member _ _ _ ih => exact ih
  | item _ _ ih => exact ih

theorem not_visible_of_scalar (scalar : value.IsScalar) : ¬Visible value pointer := by
  intro visible
  cases visible <;> exact scalar

theorem not_visible_of_external (reference : referencePointer? members = some pointer)
    (isExternal : Pointer.isLocal pointer = false) : ¬Visible (.object members) other := by
  intro visible
  cases visible with
  | here node =>
      obtain rfl := Option.some.inj (node.reference.symm.trans reference)
      simp [node.isLocal] at isExternal
  | member plain => simp [plain] at reference

theorem visible_reference_iff (node : LocalReference members pointer) :
    Visible (.object members) other ↔ other = pointer := by
  constructor
  · intro visible
    cases visible with
    | here node' => exact Option.some.inj (node'.reference.symm.trans node.reference)
    | member plain => simp [node.reference] at plain
  · rintro rfl
    exact .here node

theorem visible_mapping_iff (plain : referencePointer? members = none) :
    Visible (.object members) pointer ↔ ∃ value ∈ members.map (·.2), Visible value pointer := by
  constructor
  · intro visible
    cases visible with
    | here node => simp [node.reference] at plain
    | member _ present deeper => exact ⟨_, List.mem_map_of_mem present, deeper⟩
  · rintro ⟨value, present, deeper⟩
    obtain ⟨⟨key, _⟩, listed, rfl⟩ := List.mem_map.1 present
    exact .member plain listed deeper

theorem visible_sequence_iff :
    Visible (.array items) pointer ↔ ∃ item ∈ items, Visible item pointer := by
  constructor
  · intro visible
    cases visible with
    | item present deeper => exact ⟨_, present, deeper⟩
  · rintro ⟨item, present, deeper⟩
    exact .item present deeper

end Visible

section Reachable

variable {root value target : Value} {members : Members} {pointer next : String}

theorem edge_iff (reached : Pointer.navigate root pointer = .ok target) :
    Edge root pointer next ↔ Visible target next := by
  constructor
  · rintro ⟨other, reached', visible⟩
    obtain rfl := Except.ok.inj (reached'.symm.trans reached)
    exact visible
  · intro visible
    exact ⟨target, reached, visible⟩

theorem is_local_of_reaches (path : Reaches root pointer next) : Pointer.isLocal next = true := by
  obtain ⟨_, _, target, _, visible⟩ := Relation.TransGen.tail'_iff.1 path
  exact visible.is_local

theorem Visible.reachable (visible : Visible value pointer) : Reachable root value pointer :=
  ⟨pointer, visible, .refl⟩

theorem Reachable.tail (reachable : Reachable root value pointer) (edge : Edge root pointer next) :
    Reachable root value next := by
  obtain ⟨first, visible, path⟩ := reachable
  exact ⟨first, visible, path.tail edge⟩

theorem Reachable.reaches (reachable : Reachable root value pointer)
    (path : Reaches root pointer next) : Reachable root value next := by
  obtain ⟨first, visible, before⟩ := reachable
  exact ⟨first, visible, before.trans path.to_reflTransGen⟩

/-- What holds of the visible pointers and is handed on along edges holds of all
reachable ones. -/
theorem Reachable.closed {holds : String → Prop} (start : ∀ first, Visible value first → holds first)
    (step : ∀ source next, holds source → Edge root source next → holds next)
    (reachable : Reachable root value pointer) : holds pointer := by
  obtain ⟨first, visible, path⟩ := reachable
  induction path with
  | refl => exact start first visible
  | tail _ edge ih => exact step _ _ ih edge

theorem Reachable.of_target (node : LocalReference members pointer)
    (reached : Pointer.navigate root pointer = .ok target)
    (reachable : Reachable root target next) : Reachable root (.object members) next := by
  obtain ⟨first, visible, path⟩ := reachable
  exact ⟨pointer, .here node, .head ⟨target, reached, visible⟩ path⟩

theorem Reachable.of_item {items : List Value} (present : value ∈ items)
    (reachable : Reachable root value pointer) : Reachable root (.array items) pointer := by
  obtain ⟨first, visible, path⟩ := reachable
  exact ⟨first, .item present visible, path⟩

theorem Reachable.of_member (plain : referencePointer? members = none)
    (present : value ∈ members.map (·.2)) (reachable : Reachable root value pointer) :
    Reachable root (.object members) pointer := by
  obtain ⟨first, visible, path⟩ := reachable
  exact ⟨first, (visible_mapping_iff plain).2 ⟨value, present, visible⟩, path⟩

end Reachable

end RefLint
