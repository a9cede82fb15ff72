import RefLint.Proofs.Removal
import RefLint.Proofs.ResolverOptions

/-!
# Pruning and the references that stay

A reference node that is preserved still names a place of the dereferenced
document. Pruning compares the spellings of pointers, not the places they name,
and looks for preserved pointers inside consumed ones only. What a pointer names
is therefore kept exactly when no pruned pointer leads to a member at, above or
below the same place.
-/

namespace RefLint

set_option autoImplicit false

open Pointer

/-- The first part says when a pointer still leads somewhere, the second when it
leads to the same value as without pruning. -/
theorem pruning_keeps_target_iff {document off on : Value} {options : RefOptions}
    {resolution : Resolution} (resolved : resolveRefs document document options = .ok resolution)
    (unpruned : dereference document { options with prune := false } = .ok off)
    (pruned : dereference document { options with prune := true } = .ok on) (pointer : String) :
    ((∃ target, navigate on pointer = .ok target) ↔
        (∃ target, navigate off pointer = .ok target) ∧
          ∀ consumed ∈ resolution.prunable, ¬StandsAbove off consumed pointer) ∧
      ((∀ target, navigate on pointer = .ok target ↔ navigate off pointer = .ok target) ↔
        ∀ consumed ∈ resolution.prunable,
          ¬StandsAbove off consumed pointer ∧ ¬StandsBelow off consumed pointer) := by
  obtain ⟨sameOff, resolvedOff, offValue⟩ := dereference_eq_ok.1 unpruned
  obtain ⟨sameOn, resolvedOn, onValue⟩ := dereference_eq_ok.1 pruned
  rw [resolve_refs_prune, resolved] at resolvedOff resolvedOn
  obtain rfl := Except.ok.inj resolvedOff
  obtain rfl := Except.ok.inj resolvedOn
  rw [if_neg (by simp)] at offValue
  rw [if_pos rfl] at onValue
  subst offValue onValue
  exact ⟨remaining_target_iff _ _ _, unchanged_target_iff _ _ _⟩

section Respelled

def usualReference : Members := [(referenceKey, .string "#/components/schemas/A")]

def respelledReference : Members := [(referenceKey, .string "#components/schemas/A")]

def respelledMembers : Members := [
  ("a", .object usualReference),
  ("components", .object [("schemas", .object [
    ("A", .object [("next", .object respelledReference)])])])]

/-- The document names `A` as usual, and `A` names itself in another spelling. -/
def respelledDocument : Value := .object respelledMembers

def respelledInlined : Value :=
  .object [("next", .object [("next", .object respelledReference)])]

def respelledResolution : Resolution where
  value := .object [
    ("a", respelledInlined),
    ("components", .object [("schemas", .object [("A", respelledInlined)])])]
  consumed := NameSet.empty.insert "#/components/schemas/A"
  preserved := NameSet.empty.insert "#components/schemas/A"

def respelledPruned : Value := .object [
  ("a", respelledInlined),
  ("components", .object [("schemas", .object [])])]

theorem respelled_resolution :
    resolveRefs respelledDocument respelledDocument { onCycle := .preserve } =
      .ok respelledResolution := by
  have usual : LocalReference usualReference "#/components/schemas/A" := ⟨rfl, rfl⟩
  have respelled : LocalReference respelledReference "#components/schemas/A" := ⟨rfl, rfl⟩
  have reached : navigate respelledDocument "#/components/schemas/A" =
      .ok (.object [("next", .object respelledReference)]) := rfl
  have reachedAgain : navigate respelledDocument "#components/schemas/A" =
      .ok (.object [("next", .object respelledReference)]) := rfl
  have definition : RefOptions.isDefinition { onCycle := .preserve } "#/components/schemas/A" =
      true := by decide
  have elsewhere : RefOptions.isDefinition { onCycle := .preserve } "#components/schemas/A" =
      false := by decide
  have document : referencePointer? respelledMembers = none := rfl
  have schemas : referencePointer? [("schemas", .object [
      ("A", .object [("next", .object respelledReference)])])] = none := rfl
  have definitions : referencePointer? [("A", .object [("next", .object respelledReference)])] =
      none := rfl
  have plain : referencePointer? [("next", .object respelledReference)] = none := rfl
  -- The root stays folded: only the value is opened.
  have run := @resolve_plain_mapping respelledDocument { onCycle := .preserve } .start _ document
  rw [← respelledDocument] at run
  rw [resolveRefs, run, respelledMembers]
  simp [resolve_plain_mapping plain, resolve_plain_mapping definitions,
    resolve_plain_mapping schemas, resolveMembers, resolve_local_reference usual,
    resolve_local_reference respelled, reached, reachedAgain, definition, elsewhere,
    respelledResolution, respelledInlined, Progress.start, Progress.enter, Progress.cached?,
    Members.get?, Progress.keep, Progress.finish]

theorem respelled_unpruned :
    dereference respelledDocument { onCycle := .preserve, prune := false } =
      .ok respelledResolution.value := by
  rw [dereference_eq_ok, resolve_refs_prune _ _ { onCycle := .preserve }, respelled_resolution]
  exact ⟨respelledResolution, rfl, rfl⟩

theorem respelled_pruned :
    dereference respelledDocument { onCycle := .preserve, prune := true } =
      .ok respelledPruned := by
  rw [dereference_eq_ok, respelled_resolution]
  exact ⟨respelledResolution, rfl, rfl⟩

/-- The definition is dropped although a reference to it stays. -/
theorem pruning_leaves_dangling_reference :
    resolveRefs respelledDocument respelledDocument { onCycle := .preserve } =
        .ok respelledResolution ∧
      dereference respelledDocument { onCycle := .preserve, prune := false } =
        .ok respelledResolution.value ∧
      dereference respelledDocument { onCycle := .preserve, prune := true } =
        .ok respelledPruned ∧
      "#components/schemas/A" ∈ respelledResolution.preserved ∧
      navigate respelledResolution.value "#components/schemas/A" = .ok respelledInlined ∧
      navigate respelledPruned "#components/schemas/A" =
        .error (.unresolvable "#components/schemas/A") :=
  ⟨respelled_resolution, respelled_unpruned, respelled_pruned, by decide, rfl, rfl⟩

theorem respelled_target_pruned :
    ((∃ target, navigate respelledPruned "#components/schemas/A" = .ok target) ↔
        (∃ target, navigate respelledResolution.value "#components/schemas/A" = .ok target) ∧
          ∀ consumed ∈ respelledResolution.prunable,
            ¬StandsAbove respelledResolution.value consumed "#components/schemas/A") ∧
      ((∀ target, navigate respelledPruned "#components/schemas/A" = .ok target ↔
          navigate respelledResolution.value "#components/schemas/A" = .ok target) ↔
        ∀ consumed ∈ respelledResolution.prunable,
          ¬StandsAbove respelledResolution.value consumed "#components/schemas/A" ∧
            ¬StandsBelow respelledResolution.value consumed "#components/schemas/A") :=
  pruning_keeps_target_iff respelled_resolution respelled_unpruned respelled_pruned _

end Respelled

end RefLint
