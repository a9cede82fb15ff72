import RefLint.Proofs.NeededDefinitions
import RefLint.Proofs.ResolverOptions

/-!
# Resolutions that share a root

A resolution reads its root only where the pointers that it follows lead. Another
resolution may take members out of the root in between: as long as they are at other
places, neither above nor below those that are read, nothing changes.
-/

namespace RefLint

set_option autoImplicit false

open Pointer

def Route.Apart (route other : Route) : Prop := ¬route <+: other ∧ ¬other <+: route

section TakenOut

variable {root : Value} {pointers : List String} {pointer : String} {leaf route : Route}

/-- The places of the members that are removed in turn. A pointer whose member has gone
with an earlier one removes nothing. -/
inductive TakenOut : Value → List String → Route → Prop where
  | now {root : Value} {pointer : String} {rest : List String} {leaf : Route}
      (named : NamesMember root pointer leaf) : TakenOut root (pointer :: rest) leaf
  | later {root : Value} {pointer : String} {rest : List String} {leaf : Route}
      (taken : TakenOut (removeAll root [pointer]).1 rest leaf) :
      TakenOut root (pointer :: rest) leaf

/-- Each member that the pointers name goes with a member that is removed. -/
theorem exists_taken_above (listed : pointer ∈ pointers) (named : NamesMember root pointer route) :
    ∃ leaf, TakenOut root pointers leaf ∧ leaf <+: route := by
  induction pointers generalizing root with
  | nil => simp at listed
  | cons first rest ih =>
      rcases List.mem_cons.1 listed with rfl | listedLater
      · exact ⟨route, .now named, List.prefix_refl route⟩
      obtain ⟨smaller, leaf, firstNamed, removed, same⟩ | ⟨_, same⟩ := remove_all_cons root first []
      · -- The first removal takes the member along, or the member is still named after it.
        by_cases above : leaf <+: route
        · exact ⟨leaf, .now firstNamed, above⟩
        · obtain ⟨member, found⟩ := at_of_route named.1
          have remains := removed.remains above (by simp [found])
          have stillNamed : NamesMember smaller pointer route :=
            ⟨route_remains removed.shrunk named.1 remains, named.2⟩
          obtain ⟨leaf, taken, above⟩ := ih listedLater stillNamed
          exact ⟨leaf, .later (by rwa [same]), above⟩
      · obtain ⟨leaf, taken, above⟩ := ih listedLater named
        exact ⟨leaf, .later (by rwa [same]), above⟩

theorem unchanged_apart (apart : ∀ leaf, TakenOut root pointers leaf → leaf.Apart route) :
    (removeAll root pointers).1.at? route = root.at? route := by
  apply remove_all_apart
  intro pointer listed place named
  obtain ⟨leaf, taken, above⟩ := exists_taken_above listed named
  obtain ⟨notAbove, notBelow⟩ := apart leaf taken
  constructor
  · intro before
    exact notAbove (above.trans before)
  · intro behind
    exact (List.prefix_or_prefix_of_prefix above behind).elim notAbove notBelow

theorem navigate_apart {target : Value}
    (apart : ∀ leaf, TakenOut root pointers leaf →
      ∀ route, route? root (segments pointer) = some route → leaf.Apart route)
    (reached : navigate root pointer = .ok target) :
    navigate (removeAll root pointers).1 pointer = .ok target := by
  obtain ⟨route, routed, ends⟩ := navigate_eq_ok_iff_route.1 reached
  have stands := (unchanged_apart fun leaf taken => apart leaf taken route routed).trans ends
  have remains := route_remains (remove_all_shrunk root pointers) routed (by simp [stands])
  exact navigate_eq_ok_iff_route.2 ⟨route, remains, stands⟩

end TakenOut

section Runs

variable {root other whole : Value} {options : RefOptions}

def SameTargets (root other whole : Value) : Prop :=
  ∀ pointer, Reachable root whole pointer → ∀ target, navigate root pointer = .ok target →
    navigate other pointer = .ok target

def TransferredRun (root other whole : Value) (options : RefOptions) : GoodRun :=
  fun before value result after =>
    Admitted root whole before.inProgress value → RunsTo other options before value result after

theorem walk_transferred {before after : Progress} {values results : List Value}
    (walked : Threaded (TransferredRun root other whole options) before values results after)
    (admitted : ∀ value ∈ values, Admitted root whole before.inProgress value) :
    Threaded (RunsTo other options) before values results after := by
  induction walked with
  | nil progress => exact .nil progress
  | cons first sameOpen _ ih =>
      rw [sameOpen] at ih
      have head := first (admitted _ List.mem_cons_self)
      exact .cons head sameOpen (ih fun value later => admitted value (List.mem_cons_of_mem _ later))

theorem resolver_transfers (same : SameTargets root other whole) :
    StepRule root options (TransferredRun root other whole options) Unconstrained :=
  have runs := resolver_runs other options
  { scalar := fun scalar _ => runs.scalar scalar
    external := fun reference isExternal _ => runs.external reference isExternal
    cached := fun node found _ => runs.cached node found
    kept := fun preserves node uncached opened _ => runs.kept preserves node uncached opened
    followed := by
      -- This is the only step that reads the root.
      intro progress after members pointer target result node fresh reached inner opened admitted
      have sameTarget := same pointer (admitted.reachable pointer (.here node)) target reached
      exact runs.followed node fresh sameTarget (inner (admitted.follow node reached)) opened
    sequence := by
      intro progress after items results walked admitted
      exact runs.sequence (walk_transferred walked fun _ => admitted.item)
    mapping := by
      intro progress after members resolved plain sameKeys walked admitted
      exact runs.mapping plain sameKeys (walk_transferred walked fun _ => admitted.member plain) }

theorem resolve_refs_transfer {resolution : Resolution} (same : SameTargets root other whole)
    (resolved : resolveRefs whole root options = .ok resolution) :
    resolveRefs whole other options = .ok resolution := by
  obtain ⟨done, finished, rfl⟩ := resolve_refs_eq_ok resolved
  exact resolve_refs_of_run ((resolver_transfers same).of_finished finished .start)

end Runs

section Shared

variable {first second root inlined pruned : Value} {options others : RefOptions}
  {resolution : Resolution}

/-- The places of the members that a call of the resolver removes from its root. -/
def RemovedBy (value root : Value) (options : RefOptions) (leaf : Route) : Prop :=
  options.prune = true ∧ ∃ resolution, resolveRefs value root options = .ok resolution ∧
    TakenOut root resolution.prunable.toList leaf

/-- After a first call on the same root the second one resolves as it did before, if the
first removed nothing at, above or below a place to which the second follows a pointer. -/
theorem resolution_of_shared_root (earlier : resolve first root options = .ok (inlined, pruned))
    (resolved : resolveRefs second root others = .ok resolution)
    (apart : ∀ leaf, RemovedBy first root options leaf →
      ∀ pointer, Reachable root second pointer →
        ∀ route, route? root (segments pointer) = some route → leaf.Apart route) :
    resolveRefs second pruned others = .ok resolution := by
  obtain ⟨firstResolution, firstResolved, rfl, rfl⟩ := resolve_eq_ok.1 earlier
  split
  · rename_i prunes
    refine resolve_refs_transfer (fun pointer reachable target reached => ?_) resolved
    refine navigate_apart (fun leaf taken => ?_) reached
    exact apart leaf ⟨prunes, firstResolution, firstResolved, taken⟩ pointer reachable
  · exact resolved

end Shared

section Tree

def treeAlone : Value := .object [("components", .object [
  ("tree", .object [("nodes", .array [
    .object [("child", .object (referenceTo "#/components/tree/nodes/0"))]])])])]

def treeAloneResolution : Resolution where
  value := .object [("nodes", .array [.object [("child",
    .object [("child", .object (referenceTo "#/components/tree/nodes/0"))])]])]
  consumed := (NameSet.empty.insert "#/components/tree/nodes/0").insert "#/components/tree"
  preserved := NameSet.empty.insert "#/components/tree/nodes/0"

def textResolution : Resolution :=
  ⟨.string "text", NameSet.empty.insert "#/components/text", .empty⟩

theorem text_resolution :
    resolveRefs (.object (referenceTo "#/components/text")) treeDocument {} =
      .ok textResolution := by
  obtain ⟨_, _, text⟩ := tree_targets
  have definition : RefOptions.isDefinition {} "#/components/text" = true := by decide
  simp [resolveRefs, resolve_local_reference (node_of_reference_to "#/components/text" rfl), text,
    definition, resolveValue, textResolution, Progress.start, Progress.enter, Progress.cached?,
    Members.get?, Progress.finish]

theorem text_taken_out :
    resolve (.object (referenceTo "#/components/text")) treeDocument {} =
      .ok (.string "text", treeAlone) := by
  rw [resolve, text_resolution]
  rfl

theorem tree_alone_resolution :
    resolveRefs (.object (referenceTo "#/components/tree")) treeDocument
      { onCycle := .preserve } = .ok treeAloneResolution := by
  obtain ⟨tree, node, _⟩ := tree_targets
  have definition : ∀ pointer ∈ ["#/components/tree", "#/components/tree/nodes/0"],
      RefOptions.isDefinition { onCycle := .preserve } pointer = true := by
    decide
  have nodes : referencePointer? [("nodes", .array [
      .object [("child", .object (referenceTo "#/components/tree/nodes/0"))]])] = none := rfl
  have child : referencePointer? [("child",
      .object (referenceTo "#/components/tree/nodes/0"))] = none := rfl
  simp [resolveRefs, resolve_local_reference (node_of_reference_to "#/components/tree" rfl),
    resolve_local_reference (node_of_reference_to "#/components/tree/nodes/0" rfl), tree, node,
    definition, resolve_plain_mapping nodes, resolve_plain_mapping child, resolveValue,
    resolveItems, resolveMembers, treeAloneResolution, Progress.start, Progress.enter,
    Progress.cached?, Members.get?, Progress.keep, Progress.finish]

theorem removed_text {leaf : Route}
    (removed : RemovedBy (.object (referenceTo "#/components/text")) treeDocument {} leaf) :
    leaf = [.key "components", .key "text"] := by
  obtain ⟨_, resolution, resolved, taken⟩ := removed
  obtain rfl := Except.ok.inj (text_resolution.symm.trans resolved)
  have listed : textResolution.prunable.toList = ["#/components/text"] := rfl
  rw [listed] at taken
  cases taken with
  | now named => exact (Option.some.inj named.1).symm
  | later taken => cases taken

/-- The text is taken out of the document that the tree is then resolved in. -/
theorem tree_resolved_without_text :
    resolve (.object (referenceTo "#/components/text")) treeDocument {} =
        .ok (.string "text", treeAlone) ∧
      resolveRefs (.object (referenceTo "#/components/tree")) treeDocument
        { onCycle := .preserve } = .ok treeAloneResolution ∧
      resolveRefs (.object (referenceTo "#/components/tree")) treeAlone
        { onCycle := .preserve } = .ok treeAloneResolution := by
  refine ⟨text_taken_out, tree_alone_resolution,
    resolution_of_shared_root text_taken_out tree_alone_resolution ?_⟩
  intro leaf removed pointer reachable route routed
  obtain rfl := removed_text removed
  have inTree : pointer ∈ ["#/components/tree", "#/components/tree/nodes/0"] := by
    refine Reachable.closed (fun first visible => ?_) (fun source next known edge => ?_) reachable
    · have node := node_of_reference_to "#/components/tree" rfl
      simp [(visible_reference_iff node).1 visible]
    · simp [tree_edges known edge]
  simp only [List.mem_cons, List.not_mem_nil, or_false] at inTree
  rcases inTree with rfl | rfl
  · obtain rfl : [.key "components", .key "tree"] = route := Option.some.inj routed
    simp [Route.Apart]
  · obtain rfl : [.key "components", .key "tree", .key "nodes", .position 0] = route :=
      Option.some.inj routed
    simp [Route.Apart]

end Tree

end RefLint
