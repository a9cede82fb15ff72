import RefLint.Proofs.LazyLookup
import RefLint.Proofs.ReachablePointers

/-!
# References that are left

A reference node that stays in place is copied wherever the value around it goes, also
into the cache and out of it again. In the end the local pointers that are visible in
the resolved value are those that were preserved, neither more nor fewer.
-/

namespace RefLint

set_option autoImplicit false

def Announced (progress : Progress) : Prop :=
  ∀ pointer resolved, progress.cached? pointer = some resolved →
    ∀ shown, Visible resolved shown → shown ∈ progress.preserved

/-- A stretch of a resolution whose results show the pointers `shown`. -/
structure Residue (shown : String → Prop) (before after : Progress) : Prop where
  preserved : ∀ pointer, pointer ∈ after.preserved ↔ pointer ∈ before.preserved ∨ shown pointer
  announced : Announced after

namespace Residue

variable {shown others : String → Prop} {options : RefOptions} {before middle after : Progress}
  {pointer : String} {result : Value}

theorem refl (announced : Announced before)
    (known : ∀ pointer, shown pointer → pointer ∈ before.preserved) :
    Residue shown before before where
  preserved other := ⟨.inl, fun present => present.elim id (known other)⟩
  announced := announced

theorem trans (first : Residue shown before middle) (second : Residue others middle after) :
    Residue (fun pointer => shown pointer ∨ others pointer) before after where
  preserved other := by rw [second.preserved, first.preserved, or_assoc]
  announced := second.announced

theorem congr (residue : Residue shown before after)
    (same : ∀ pointer, others pointer ↔ shown pointer) : Residue others before after where
  preserved other := by rw [residue.preserved, same]
  announced := residue.announced

theorem keep (announced : Announced before) : Residue (· = pointer) before (before.keep pointer) where
  preserved other := by rw [Progress.keep, NameSet.mem_insert, or_comm]
  announced := by
    intro source resolved found other visible
    exact NameSet.mem_insert.2 (.inr (announced source resolved found other visible))

/-- The resolved target is cached, so what it shows has to be preserved by then. -/
theorem finish (inner : Residue (Visible result) (before.enter pointer) after) :
    Residue (Visible result) before (after.finish options pointer result) where
  preserved := inner.preserved
  announced := by
    intro source resolved found other visible
    rw [Progress.preserved_finish]
    obtain ⟨rfl, rfl⟩ | earlier := Progress.cached_of_finish found
    · exact (inner.preserved other).2 (.inr visible)
    · exact inner.announced source resolved earlier other visible

end Residue

section Resolver

variable {root : Value} {options : RefOptions}

def ResidueRun : GoodRun := fun before value result after =>
  value.ReferencesAreTexts → Announced before → Residue (Visible result) before after

theorem residue_of_threaded {before after : Progress} {values results : List Value}
    (walked : Threaded ResidueRun before values results after)
    (texts : ∀ value ∈ values, value.ReferencesAreTexts) (announced : Announced before) :
    Residue (fun pointer => ∃ result ∈ results, Visible result pointer) before after := by
  induction walked with
  | nil => exact .refl announced (by simp)
  | cons first _ _ ih =>
      have head := first (texts _ List.mem_cons_self) announced
      have tail := ih (fun value later => texts value (List.mem_cons_of_mem _ later)) head.announced
      refine (head.trans tail).congr fun pointer => ?_
      rw [List.exists_mem_cons_iff]

theorem resolver_announces (rootTexts : root.ReferencesAreTexts) :
    StepRule root options ResidueRun Unconstrained where
  scalar := by
    intro progress value scalar _ announced
    exact .refl announced fun pointer visible => absurd visible (not_visible_of_scalar scalar)
  external := by
    intro progress members pointer reference isExternal _ announced
    exact .refl announced fun other visible =>
      absurd visible (not_visible_of_external reference isExternal)
  cached := by
    intro progress members pointer resolved _ found _ announced
    exact .refl announced (announced pointer resolved found)
  kept := by
    intro progress members pointer _ node _ _ _ announced
    exact (Residue.keep announced).congr fun other => visible_reference_iff node
  followed := by
    intro progress after members pointer target result _ _ reached inner _ _ announced
    have targetTexts := rootTexts.inside (Pointer.inside_of_navigate reached)
    exact (inner targetTexts announced).finish
  sequence := by
    intro progress after items results walked texts announced
    refine (residue_of_threaded walked (fun _ => texts.of_item) announced).congr fun pointer => ?_
    exact visible_sequence_iff
  mapping := by
    intro progress after members resolved plain sameKeys walked texts announced
    -- A mapping that became a reference node would hide what its members show.
    have resolvedPlain := resolved_mapping_plain texts plain sameKeys
    refine (residue_of_threaded walked (fun _ => texts.of_member) announced).congr fun pointer => ?_
    exact visible_mapping_iff resolvedPlain

end Resolver

section Residual

variable {value root : Value} {options : RefOptions} {resolution : Resolution}

/-- The local pointers that a resolved value still shows are the preserved ones, and
there are none where cycles are refused. -/
theorem residual_pointers_are_preserved (valueTexts : value.ReferencesAreTexts)
    (rootTexts : root.ReferencesAreTexts)
    (resolved : resolveRefs value root options = .ok resolution) :
    (∀ pointer, Visible resolution.value pointer ↔ pointer ∈ resolution.preserved) ∧
      (options.onCycle = .refuse → ∀ pointer, ¬Visible resolution.value pointer) := by
  have shown : ∀ pointer, Visible resolution.value pointer ↔ pointer ∈ resolution.preserved := by
    obtain ⟨done, finished, rfl⟩ := resolve_refs_eq_ok resolved
    have nothingCached : Announced .start := by
      intro pointer resolved found
      simp at found
    have residue := (resolver_announces rootTexts).of_finished finished valueTexts nothingCached
    intro pointer
    simpa using (residue.preserved pointer).symm
  refine ⟨shown, fun refuses pointer visible => ?_⟩
  have preserves := ((searched_of_resolved resolved).preserved pointer ((shown pointer).1 visible)).1
  simp [refuses] at preserves

end Residual

section Nested

/-- Both nodes that close a cycle are left in the list, and nothing else is. -/
theorem nested_residue :
    Value.ReferencesAreTexts (.object (referenceTo "#/components/a")) ∧
      nestedDocument.ReferencesAreTexts ∧
      resolveRefs (.object (referenceTo "#/components/a")) nestedDocument
        { onCycle := .preserve } = .ok nestedResolution ∧
      ∀ pointer, Visible nestedResolution.value pointer ↔ pointer ∈ nestedResolution.preserved := by
  have valueTexts : Value.ReferencesAreTexts (.object (referenceTo "#/components/a")) := by
    simp [referenceTo, references_are_texts_mapping, references_are_texts_string]
  have rootTexts : nestedDocument.ReferencesAreTexts := by
    simp [nestedDocument, nestedDefinitions, referenceTo, referenceKey,
      references_are_texts_mapping, references_are_texts_sequence, references_are_texts_string]
  exact ⟨valueTexts, rootTexts, nested_resolution,
    (residual_pointers_are_preserved valueTexts rootTexts nested_resolution).1⟩

end Nested

end RefLint
