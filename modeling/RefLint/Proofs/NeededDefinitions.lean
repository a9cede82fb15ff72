import RefLint.Proofs.PointerSpelling
import RefLint.Proofs.ReachablePointers
import RefLint.Proofs.Removal

/-!
# The definitions that references in place still need

Which consumed definitions are pruned is decided by comparing texts. For pointers in
canonical spelling the comparison is right: pruning takes no target away from a preserved
pointer, and of the definitions that stay none could be removed without doing so.
-/

namespace RefLint

set_option autoImplicit false

namespace Pointer

theorem route_of_prefix {value : Value} {path longer : List String} {route : Route}
    (starts : path <+: longer) (routed : route? value longer = some route) :
    ∃ front, route? value path = some front ∧ front <+: route := by
  induction path generalizing value longer route with
  | nil => exact ⟨[], rfl, List.nil_prefix⟩
  | cons segment rest ih =>
      obtain ⟨more, rfl⟩ := starts
      obtain ⟨taken, next, onward, step, child, further, rfl⟩ := route_cons_iff.1 routed
      obtain ⟨front, frontRouted, before⟩ := ih (List.prefix_append rest more) further
      exact ⟨taken :: front, route_cons_iff.2 ⟨taken, next, front, step, child, frontRouted, rfl⟩,
        (List.prefix_cons_inj taken).2 before⟩

variable {root : Value} {pointer other : String} {pointers : List String}

theorem route_of_navigates (navigates : Navigates root pointer) :
    ∃ route, route? root (segments pointer) = some route := by
  obtain ⟨target, reached⟩ := navigates
  obtain ⟨route, routed, _⟩ := navigate_eq_ok_iff_route.1 reached
  exact ⟨route, routed⟩

/-- A member stands above a target exactly when its pointer contains the other one. -/
theorem stands_above_iff (canonical : Canonical root pointer) (otherCanonical : Canonical root other)
    (navigates : Navigates root other) {route : Route} (named : NamesMember root pointer route) :
    StandsAbove root pointer other ↔ contains pointer other = true := by
  obtain ⟨keys, rfl, positions⟩ := canonical
  obtain ⟨otherKeys, rfl, otherPositions⟩ := otherCanonical
  rw [contains_of_keys_iff]
  constructor
  · rintro ⟨above, below, ⟨aboveRouted, _⟩, belowRouted, before⟩
    rw [segments_of_keys] at aboveRouted belowRouted
    rw [positions above aboveRouted, otherPositions below belowRouted]
    exact before.map Step.segment
  · intro before
    obtain ⟨below, belowRouted⟩ := route_of_navigates navigates
    rw [segments_of_keys] at belowRouted
    obtain ⟨above, aboveRouted, aboveBelow⟩ := route_of_prefix before belowRouted
    have same : above = route := by
      rw [NamesMember, segments_of_keys, aboveRouted] at named
      exact Option.some.inj named.1
    subst same
    exact ⟨above, below, named, by rwa [segments_of_keys], aboveBelow⟩

theorem remove_all_single {smaller : Value} (removal : remove root pointer = some smaller) :
    (removeAll root [pointer]).1 = smaller := by
  simp [removeAll, removal]

end Pointer

open Pointer

section Needed

variable {value root : Value} {options : RefOptions} {resolution : Resolution}

theorem mem_prunable_iff {pointer : String} : pointer ∈ resolution.prunable ↔
    pointer ∈ resolution.consumed ∧
      ∀ kept ∈ resolution.preserved, ¬contains pointer kept = true := by
  rw [Resolution.prunable, NameSet.mem_filter]
  simp [NameSet.mem_def]

/-- The prunable definitions are those that no preserved pointer needs: all of them can be
dropped together, and no other one alone. -/
theorem needed_definitions_kept (resolved : resolveRefs value root options = .ok resolution)
    (canonical : ∀ pointer, Reachable root value pointer → Canonical root pointer) :
    (∀ pointer ∈ resolution.preserved, Navigates (resolution.prune root).1 pointer) ∧
      ∀ consumed ∈ resolution.consumed, consumed ∉ resolution.prunable →
        ∀ route, NamesMember root consumed route →
          ∃ smaller, remove root consumed = some smaller ∧
            ∃ pointer ∈ resolution.preserved,
              Navigates root pointer ∧ ¬Navigates smaller pointer := by
  have searched := searched_of_resolved resolved
  have reachable : ∀ pointer ∈ resolution.preserved, Reachable root value pointer :=
    fun pointer kept => (searched.preserved pointer kept).2.1
  have consumedReachable : ∀ pointer ∈ resolution.consumed, Reachable root value pointer :=
    fun pointer consumed => ((searched.consumed pointer).1 consumed).1
  constructor
  · -- A prunable pointer above the target would contain the preserved one as a text.
    intro pointer kept
    have navigates := searched.navigates pointer (reachable pointer kept)
    refine (remaining_target_iff root _ pointer).2 ⟨navigates, fun removed listed above => ?_⟩
    obtain ⟨consumed, free⟩ := mem_prunable_iff.1 listed
    have ⟨_, _, named, _⟩ := above
    refine free pointer kept ((stands_above_iff ?_ ?_ navigates named).1 above)
    · exact canonical removed (consumedReachable removed consumed)
    · exact canonical pointer (reachable pointer kept)
  · intro consumed present needed route named
    obtain ⟨smaller, removal⟩ := remove_path_of_route named.1 named.2
    obtain ⟨pointer, kept, holds⟩ : ∃ pointer ∈ resolution.preserved,
        contains consumed pointer = true := by
      by_contra free
      push Not at free
      exact needed (mem_prunable_iff.2 ⟨present, free⟩)
    have navigates := searched.navigates pointer (reachable pointer kept)
    refine ⟨smaller, removal, pointer, kept, navigates, fun still => ?_⟩
    have above := (stands_above_iff (canonical consumed (consumedReachable consumed present))
      (canonical pointer (reachable pointer kept)) navigates named).2 holds
    rw [← remove_all_single removal] at still
    exact ((remaining_target_iff root [consumed] pointer).1 still).2 consumed
      List.mem_cons_self above

end Needed

section Tree

def treeDocument : Value := .object [("components", .object [
  ("tree", .object [("nodes", .array [
    .object [("child", .object (referenceTo "#/components/tree/nodes/0"))]])]),
  ("text", .string "text")])]

def treeValue : Value := .array [.object (referenceTo "#/components/tree"),
  .object (referenceTo "#/components/text")]

def treeResolution : Resolution where
  value := .array [
    .object [("nodes", .array [.object [("child",
      .object [("child", .object (referenceTo "#/components/tree/nodes/0"))])]])],
    .string "text"]
  consumed := ((NameSet.empty.insert "#/components/tree/nodes/0").insert
    "#/components/tree").insert "#/components/text"
  preserved := NameSet.empty.insert "#/components/tree/nodes/0"

theorem tree_targets :
    navigate treeDocument "#/components/tree" = .ok (.object [("nodes", .array [
        .object [("child", .object (referenceTo "#/components/tree/nodes/0"))]])]) ∧
      navigate treeDocument "#/components/tree/nodes/0" =
        .ok (.object [("child", .object (referenceTo "#/components/tree/nodes/0"))]) ∧
      navigate treeDocument "#/components/text" = .ok (.string "text") :=
  ⟨rfl, rfl, rfl⟩

theorem tree_resolution :
    resolveRefs treeValue treeDocument { onCycle := .preserve } = .ok treeResolution := by
  obtain ⟨tree, node, text⟩ := tree_targets
  have definition : ∀ pointer ∈ ["#/components/tree", "#/components/tree/nodes/0",
      "#/components/text"], RefOptions.isDefinition { onCycle := .preserve } pointer = true := by
    decide
  have nodes : referencePointer? [("nodes", .array [
      .object [("child", .object (referenceTo "#/components/tree/nodes/0"))]])] = none := rfl
  have child : referencePointer? [("child",
      .object (referenceTo "#/components/tree/nodes/0"))] = none := rfl
  simp [resolveRefs, treeValue,
    resolve_local_reference (node_of_reference_to "#/components/tree" rfl),
    resolve_local_reference (node_of_reference_to "#/components/tree/nodes/0" rfl),
    resolve_local_reference (node_of_reference_to "#/components/text" rfl), tree, node, text,
    definition, resolve_plain_mapping nodes, resolve_plain_mapping child, resolveValue,
    resolveItems, resolveMembers, treeResolution, Progress.start, Progress.enter,
    Progress.cached?, Members.get?, Progress.keep, Progress.finish]

def treePointers : List String :=
  ["#/components/tree", "#/components/tree/nodes/0", "#/components/text"]

theorem tree_edges {source next : String}
    (inTree : source ∈ ["#/components/tree", "#/components/tree/nodes/0"])
    (edge : Edge treeDocument source next) : next = "#/components/tree/nodes/0" := by
  obtain ⟨tree, node, _⟩ := tree_targets
  have child {shown : String} : Visible (.object [("child",
      .object (referenceTo "#/components/tree/nodes/0"))]) shown ↔
        shown = "#/components/tree/nodes/0" := by
    rw [visible_mapping_iff rfl]
    simp [visible_reference_iff (node_of_reference_to "#/components/tree/nodes/0" rfl)]
  simp only [List.mem_cons, List.not_mem_nil, or_false] at inTree
  rcases inTree with rfl | rfl
  · rw [edge_iff tree, visible_mapping_iff rfl] at edge
    simpa [visible_sequence_iff, child] using edge
  · rwa [edge_iff node, child] at edge

theorem tree_reachable {pointer : String} :
    Reachable treeDocument treeValue pointer → pointer ∈ treePointers := by
  obtain ⟨_, _, text⟩ := tree_targets
  have treeNode := node_of_reference_to "#/components/tree" rfl
  have textNode := node_of_reference_to "#/components/text" rfl
  have scalar {shown : String} : ¬Visible (.string "text") shown := not_visible_of_scalar trivial
  refine Reachable.closed (fun first visible => ?_) fun source next known edge => ?_
  · rw [treeValue, visible_sequence_iff] at visible
    simp [visible_reference_iff treeNode, visible_reference_iff textNode] at visible
    grind [treePointers]
  · simp only [treePointers, List.mem_cons, List.not_mem_nil, or_false] at known
    rcases known with rfl | rfl | rfl
    · simp [tree_edges (by simp) edge, treePointers]
    · simp [tree_edges (by simp) edge, treePointers]
    · rw [edge_iff text] at edge
      exact absurd edge scalar

theorem tree_canonical : ∀ pointer ∈ treePointers, Canonical treeDocument pointer := by
  simp only [treePointers, List.forall_mem_cons]
  refine ⟨?_, ?_, ?_, by simp⟩
  · exact canonical_of_route [.key "components", .key "tree"] rfl
  · exact canonical_of_route [.key "components", .key "tree", .key "nodes", .position 0] rfl
  · exact canonical_of_route [.key "components", .key "text"] rfl

/-- The text is dropped, and the tree stays because a node inside it is still pointed at. -/
theorem tree_definition_needed :
    resolveRefs treeValue treeDocument { onCycle := .preserve } = .ok treeResolution ∧
      (∀ pointer, Reachable treeDocument treeValue pointer → Canonical treeDocument pointer) ∧
      "#/components/text" ∈ treeResolution.prunable ∧
      Navigates (treeResolution.prune treeDocument).1 "#/components/tree/nodes/0" ∧
      ∃ smaller, remove treeDocument "#/components/tree" = some smaller ∧
        ∃ pointer ∈ treeResolution.preserved,
          Navigates treeDocument pointer ∧ ¬Navigates smaller pointer := by
  have canonical : ∀ pointer, Reachable treeDocument treeValue pointer →
      Canonical treeDocument pointer :=
    fun pointer reachable => tree_canonical pointer (tree_reachable reachable)
  have kept := needed_definitions_kept tree_resolution canonical
  refine ⟨tree_resolution, canonical, by decide, kept.1 _ (by decide), ?_⟩
  exact kept.2 "#/components/tree" (by decide) (by decide) [.key "components", .key "tree"]
    ⟨rfl, "tree", rfl⟩

end Tree

end RefLint
