import Mathlib.Data.Fintype.EquivFin
import Mathlib.Data.Fintype.Sets
import Mathlib.Order.WellFounded
import RefLint.Proofs.CyclePolicies
import RefLint.Proofs.NeededDefinitions
import RefLint.Proofs.RemovedReferences

/-!
# Resolving against a pruned root again

A resolution that refuses cycles removes from its root the definitions that it has
inlined. The same value does not resolve against that root again: the pointers to the
removed definitions still stand in the value, or in a definition that has not been
removed.
-/

namespace RefLint

set_option autoImplicit false

open Pointer

section Failing

variable {root smaller value : Value} {path : List String} {pointer : String}

theorem step_fails_absent {segment : String} {next : Value} {error : StepError}
    (kinds : smaller.kind = value.kind) (stepped : step value segment = .ok next)
    (failed : step smaller segment = .error error) : error = .absent := by
  cases smaller with
  | object members =>
      simp only [step] at failed
      split at failed
      · contradiction
      · exact (Except.error.inj failed).symm
  | array items =>
      simp only [step] at failed
      split at failed
      · contradiction
      · exact (Except.error.inj failed).symm
  | null | bool | number | string =>
      cases value <;> simp [Value.kind] at kinds
      contradiction

/-- Where a path once led somewhere, it now fails for want of a member or an item. -/
theorem descend_fails_absent {target : Value} {segment : String} {error : StepError}
    (shrunk : Shrunk smaller value) (reached : descend value path = .ok target)
    (failed : descend smaller path = .error (segment, error)) : error = .absent := by
  induction path generalizing smaller value with
  | nil => contradiction
  | cons first rest ih =>
      rw [descend] at reached failed
      split at reached
      · rename_i whole steppedWhole
        split at failed
        · rename_i part steppedPart
          obtain ⟨taken, spelled, child⟩ := step_eq_ok_iff.1 steppedPart
          obtain ⟨other, childWhole, shrunkPart⟩ := shrunk.child child
          rw [step_of_kind shrunk.kind] at spelled
          have again := step_eq_ok_iff.2 ⟨taken, spelled, childWhole⟩
          obtain rfl := Except.ok.inj (again.symm.trans steppedWhole)
          exact ih shrunkPart reached failed
        · rename_i failedPart
          obtain ⟨_, rfl⟩ := Prod.mk.inj (Except.error.inj failed)
          exact step_fails_absent shrunk.kind steppedWhole failedPart
      · contradiction

theorem navigate_fails_unresolvable {error : ReferenceError} (shrunk : Shrunk smaller root)
    (navigates : Navigates root pointer) (failed : navigate smaller pointer = .error error) :
    error = .unresolvable pointer := by
  obtain ⟨target, reached⟩ := navigates
  rw [navigate_eq_ok_iff] at reached
  unfold navigate at failed
  split at failed
  · contradiction
  · exact (Except.error.inj failed).symm
  · rename_i stopped
    have absent := descend_fails_absent shrunk reached stopped
    contradiction

end Failing

section Removals

variable {root : Value} {pointers : List String}

theorem unchanged_of_nothing_removed (nothing : (removeAll root pointers).2 = 0) :
    (removeAll root pointers).1 = root := by
  induction pointers with
  | nil => rfl
  | cons first rest ih =>
      obtain ⟨smaller, _, same⟩ | ⟨_, same⟩ := remove_all_step root first rest
      · rw [same] at nothing
        contradiction
      · rw [same] at nothing ⊢
        exact ih nothing

theorem exists_removed (something : 0 < (removeAll root pointers).2) :
    ∃ pointer ∈ pointers, ∃ route, NamesMember root pointer route := by
  induction pointers with
  | nil => contradiction
  | cons first rest ih =>
      obtain ⟨smaller, removal, _⟩ | ⟨_, same⟩ := remove_all_step root first rest
      · obtain ⟨route, routed, cut⟩ := cut_of_remove_path removal
        exact ⟨first, List.mem_cons_self, route, routed, cut.removed.ends_at_member⟩
      · rw [same] at something
        obtain ⟨pointer, listed, named⟩ := ih something
        exact ⟨pointer, List.mem_cons_of_mem _ listed, named⟩

theorem not_navigates_of_removed {pointer : String} {route : Route} (listed : pointer ∈ pointers)
    (named : NamesMember root pointer route) : ¬Navigates (removeAll root pointers).1 pointer := by
  intro navigates
  have free := ((remaining_target_iff root pointers pointer).1 navigates).2
  exact free pointer listed ⟨route, route, named, named.1, List.prefix_refl route⟩

end Removals

section Repeated

variable {value root : Value} {options : RefOptions} {pointers : List String} {pointer : String}

theorem reachable_before_removals (spares : ∀ pointer ∈ pointers, ¬EndsAtReference pointer)
    (reachable : Reachable (removeAll root pointers).1 value pointer) :
    Reachable root value pointer := by
  refine Reachable.closed (fun first visible => visible.reachable) ?_ reachable
  intro source next known edge
  exact known.tail (edge_before_removals spares edge)

def RemovedPointer (root : Value) (pointers : List String) (pointer : String) : Prop :=
  pointer ∈ pointers ∧ ∃ route, NamesMember root pointer route

/-- If every pointer that is still reachable leads somewhere, then what is no longer
reachable was reached through removed members. -/
theorem reachable_or_behind_removed (distinct : root.KeysDistinct)
    (spares : ∀ pointer ∈ pointers, ¬EndsAtReference pointer)
    (navigates : ∀ pointer, Reachable (removeAll root pointers).1 value pointer →
      Navigates (removeAll root pointers).1 pointer)
    (reachable : Reachable root value pointer) :
    Reachable (removeAll root pointers).1 value pointer ∨
      ∃ removed, RemovedPointer root pointers removed ∧ Reaches root removed pointer := by
  obtain ⟨first, visible, path⟩ := reachable
  induction path with
  | refl => exact .inl visible.reachable
  | tail _ edge ih =>
      rcases ih with still | ⟨removed, gone, path⟩
      · rcases edge_after_removals distinct spares (navigates _ still) edge with
          kept | ⟨removed, listed, named, lost⟩
        · exact .inl (still.tail kept)
        · exact .inr ⟨removed, ⟨listed, named⟩, .single lost⟩
      · exact .inr ⟨removed, gone, path.tail edge⟩

/-- Among finitely many pointers of which none leads back to itself there is one that no
other leads to. -/
theorem exists_first (acyclic : ∀ pointer ∈ pointers, ¬Reaches root pointer pointer)
    (chosen : String → Prop) (listed : ∀ pointer, chosen pointer → pointer ∈ pointers)
    (present : chosen pointer) :
    ∃ first, chosen first ∧ ∀ other, chosen other → ¬Reaches root other first := by
  let leads : {pointer // pointer ∈ pointers} → {pointer // pointer ∈ pointers} → Prop :=
    fun source next => Reaches root source next
  have transitive : IsTrans _ leads := ⟨fun _ _ _ => Relation.TransGen.trans⟩
  have irreflexive : Std.Irrefl leads := ⟨fun pointer => acyclic pointer pointer.2⟩
  have wellFounded : WellFounded leads := Finite.wellFounded_of_trans_of_irrefl leads
  obtain ⟨first, isChosen, minimal⟩ := wellFounded.has_min
    {pointer | chosen pointer} ⟨⟨pointer, listed pointer present⟩, present⟩
  refine ⟨first, isChosen, fun other otherChosen path => ?_⟩
  exact minimal ⟨other, listed other otherChosen⟩ otherChosen path

theorem exists_dangling (distinct : root.KeysDistinct)
    (spares : ∀ pointer ∈ pointers, ¬EndsAtReference pointer)
    (reachable : ∀ pointer ∈ pointers, Reachable root value pointer)
    (acyclic : ∀ pointer ∈ pointers, ¬Reaches root pointer pointer)
    (something : 0 < (removeAll root pointers).2) :
    ∃ pointer, Reachable (removeAll root pointers).1 value pointer ∧
      ¬Navigates (removeAll root pointers).1 pointer := by
  -- Otherwise the removed pointer that no other one leads to would still lead somewhere.
  by_contra none
  push Not at none
  obtain ⟨removed, listed, named⟩ := exists_removed something
  obtain ⟨first, gone, minimal⟩ := exists_first acyclic (RemovedPointer root pointers)
    (fun _ gone => gone.1) ⟨listed, named⟩
  obtain ⟨firstListed, route, firstNamed⟩ := gone
  rcases reachable_or_behind_removed distinct spares none (reachable first firstListed) with
    still | ⟨other, otherGone, path⟩
  · exact not_navigates_of_removed firstListed firstNamed (none first still)
  · exact minimal other otherGone path

end Repeated

section Results

variable {value root result pruned : Value} {options : RefOptions} {resolution : Resolution}

theorem prunable_of_refuse (refuses : options.onCycle = .refuse)
    (resolved : resolveRefs value root options = .ok resolution) {pointer : String} :
    pointer ∈ resolution.prunable ↔ pointer ∈ resolution.consumed := by
  rw [mem_prunable_iff, preserves_nothing refuses resolved]
  simp

/-- The same value resolves against the pruned root exactly when nothing was removed from
it, and then to the same result; otherwise a pointer that the first call followed now
leads nowhere. The keys of every document are distinct (`document_keys_distinct`). -/
theorem second_resolution_of_pruned_root (refuses : options.onCycle = .refuse)
    (prunes : options.prune = true) (distinct : root.KeysDistinct)
    (resolved : resolveRefs value root options = .ok resolution)
    (first : resolve value root options = .ok (result, pruned))
    (spares : ∀ pointer ∈ resolution.consumed, ¬EndsAtReference pointer) :
    (0 < (resolution.prune root).2 →
        ∃ pointer, Reachable root value pointer ∧
          resolve value pruned options = .error (.unresolvable pointer)) ∧
      ((resolution.prune root).2 = 0 → resolve value pruned options = .ok (result, pruned)) := by
  obtain ⟨same, sameResolved, rfl, rfl⟩ := resolve_eq_ok.1 first
  obtain rfl := Except.ok.inj (resolved.symm.trans sameResolved)
  rw [if_pos prunes] at first ⊢
  have acyclic := (resolve_refs_refuse_iff refuses).1 ⟨resolution, resolved⟩
  have consumed : ∀ pointer ∈ resolution.prunable.toList, pointer ∈ resolution.consumed :=
    fun pointer listed => (prunable_of_refuse refuses resolved).1 listed
  have reachable : ∀ pointer ∈ resolution.prunable.toList, Reachable root value pointer := by
    intro pointer listed
    exact (((searched_of_resolved resolved).consumed pointer).1 (consumed pointer listed)).1
  have sparesAll : ∀ pointer ∈ resolution.prunable.toList, ¬EndsAtReference pointer :=
    fun pointer listed => spares pointer (consumed pointer listed)
  constructor
  · intro something
    obtain ⟨pointer, stillReachable, dangling⟩ := exists_dangling distinct sparesAll reachable
      (fun pointer listed => (acyclic pointer (reachable pointer listed)).2) something
    cases run : resolveRefs value (resolution.prune root).1 options with
    | ok second => exact (dangling ((searched_of_resolved run).navigates pointer stillReachable)).elim
    | error error =>
        rcases blamed_of_failed run with ⟨blamed, blamedReachable, failed⟩ |
          ⟨_, blamed, blamedReachable, cyclic, _⟩
        · have followed := reachable_before_removals sparesAll blamedReachable
          have unresolvable :=
            navigate_fails_unresolvable (remove_all_shrunk root _) (acyclic blamed followed).1 failed
          exact ⟨blamed, followed, by rw [resolve, run, unresolvable]⟩
        · -- The pruned root has no cycle that the root did not have.
          have fewer : Edge (resolution.prune root).1 ≤ Edge root :=
            fun source next => edge_before_removals sparesAll
          exact absurd (Relation.TransGen.mono fewer blamed blamed cyclic)
            (acyclic blamed (reachable_before_removals sparesAll blamedReachable)).2
  · intro nothing
    have same := unchanged_of_nothing_removed nothing
    rwa [Resolution.prune, pruneConsumed, same] at first ⊢

end Results

section Inner

def outerDefinition : Value := .object [
  ("inner", .string "text"),
  ("items", .array [.object (referenceTo "#/components/outer/inner")])]

def outerDocument : Value := .object [("components", .object [("outer", outerDefinition)])]

def outerResolution : Resolution where
  value := .object [("inner", .string "text"), ("items", .array [.string "text"])]
  consumed := (NameSet.empty.insert "#/components/outer/inner").insert "#/components/outer"
  preserved := .empty

theorem outer_resolution :
    resolveRefs (.object (referenceTo "#/components/outer")) outerDocument {} =
      .ok outerResolution := by
  have outer : navigate outerDocument "#/components/outer" = .ok outerDefinition := rfl
  have inner : navigate outerDocument "#/components/outer/inner" = .ok (.string "text") := rfl
  have definition : ∀ pointer ∈ ["#/components/outer", "#/components/outer/inner"],
      RefOptions.isDefinition {} pointer = true := by
    decide
  have plain : referencePointer? [("inner", .string "text"),
      ("items", .array [.object (referenceTo "#/components/outer/inner")])] = none := rfl
  simp [resolveRefs, resolve_local_reference (node_of_reference_to "#/components/outer" rfl),
    resolve_local_reference (node_of_reference_to "#/components/outer/inner" rfl), outer, inner,
    definition, outerDefinition, resolve_plain_mapping plain, resolveValue, resolveItems,
    resolveMembers, outerResolution, Progress.start, Progress.enter, Progress.cached?,
    Members.get?, Progress.finish]

/-- The outer definition takes the inner one with it, so one member is removed, and the
value is left without a target. -/
theorem outer_definition_gone :
    outerDocument.KeysDistinct ∧
      resolve (.object (referenceTo "#/components/outer")) outerDocument {} =
        .ok (outerResolution.value, .object [("components", .object [])]) ∧
      (∀ pointer ∈ outerResolution.consumed.toList, ¬EndsAtReference pointer) ∧
      (outerResolution.prune outerDocument).2 = 1 ∧
      ∃ pointer,
        Reachable outerDocument (.object (referenceTo "#/components/outer")) pointer ∧
          resolve (.object (referenceTo "#/components/outer"))
            (.object [("components", .object [])]) {} = .error (.unresolvable pointer) := by
  have distinct : outerDocument.KeysDistinct := by
    simp [outerDocument, outerDefinition, Value.KeysDistinct, Value.all_mappings_object,
      Value.all_mappings_array, Value.all_mappings_scalar, Members.keys, Value.kind, referenceTo]
  have first : resolve (.object (referenceTo "#/components/outer")) outerDocument {} =
      .ok (outerResolution.value, .object [("components", .object [])]) := by
    rw [resolve, outer_resolution]
    rfl
  have spares : ∀ pointer ∈ outerResolution.consumed.toList, ¬EndsAtReference pointer := by
    decide
  have count : (outerResolution.prune outerDocument).2 = 1 := rfl
  have second := second_resolution_of_pruned_root rfl rfl distinct outer_resolution first spares
  exact ⟨distinct, first, spares, count, second.1 (by simp [count])⟩

end Inner

end RefLint
