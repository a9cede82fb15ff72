import RefLint.Proofs.PointerSearch

/-!
# What resolves

A resolution follows the reachable pointers and no others. With cycles preserved
it fails only where one of them leads nowhere; with cycles refused it also fails
where one of them leads back to itself.
-/

namespace RefLint

set_option autoImplicit false

section Trace

variable {root whole value target : Value} {options : RefOptions} {opened : List String}
  {members : Members} {items : List Value} {pointer : String} {before after : Progress}

/-- A value that is met while `whole` is resolved and the pointers `opened` are in progress. -/
structure Admitted (root whole : Value) (opened : List String) (value : Value) : Prop where
  reachable : ∀ pointer, Visible value pointer → Reachable root whole pointer
  below : ∀ above ∈ opened, ∀ pointer, Visible value pointer → Reaches root above pointer

theorem Admitted.start : Admitted root whole [] whole where
  reachable _ visible := visible.reachable
  below := by simp

theorem Admitted.item (admitted : Admitted root whole opened (.array items))
    (present : value ∈ items) : Admitted root whole opened value where
  reachable pointer visible := admitted.reachable pointer (.item present visible)
  below above member pointer visible := admitted.below above member pointer (.item present visible)

theorem Admitted.member (admitted : Admitted root whole opened (.object members))
    (plain : referencePointer? members = none) (present : value ∈ members.map (·.2)) :
    Admitted root whole opened value where
  reachable pointer visible :=
    admitted.reachable pointer ((visible_mapping_iff plain).2 ⟨value, present, visible⟩)
  below above member pointer visible :=
    admitted.below above member pointer ((visible_mapping_iff plain).2 ⟨value, present, visible⟩)

theorem Admitted.follow (admitted : Admitted root whole opened (.object members))
    (node : LocalReference members pointer) (reached : Pointer.navigate root pointer = .ok target) :
    Admitted root whole (pointer :: opened) target where
  reachable next visible :=
    (admitted.reachable pointer (.here node)).tail ((edge_iff reached).2 visible)
  below := by
    intro above member next visible
    have edge : Edge root pointer next := (edge_iff reached).2 visible
    rcases List.mem_cons.1 member with rfl | outer
    · exact .single edge
    · exact (admitted.below above outer pointer (.here node)).tail edge

/-- A reference node whose pointer is open closes a cycle. -/
theorem Admitted.on_cycle (admitted : Admitted root whole opened (.object members))
    (node : LocalReference members pointer) (present : pointer ∈ opened) :
    Reachable root whole pointer ∧ Reaches root pointer pointer :=
  ⟨admitted.reachable pointer (.here node), admitted.below pointer present pointer (.here node)⟩

structure Traced (root whole : Value) (options : RefOptions) (before after : Progress) : Prop where
  finished : ∀ pointer ∈ after.finished, pointer ∈ before.finished ∨ Reachable root whole pointer
  preserved : ∀ pointer ∈ after.preserved, pointer ∈ before.preserved ∨
    options.onCycle = .preserve ∧ Reachable root whole pointer ∧ Reaches root pointer pointer

theorem Traced.refl : Traced root whole options before before :=
  ⟨fun _ present => .inl present, fun _ present => .inl present⟩

theorem Traced.trans {middle : Progress} (first : Traced root whole options before middle)
    (second : Traced root whole options middle after) : Traced root whole options before after where
  finished := by
    intro pointer present
    rcases second.finished pointer present with earlier | reachable
    · exact first.finished pointer earlier
    · exact .inr reachable
  preserved := by
    intro pointer present
    rcases second.preserved pointer present with earlier | cyclic
    · exact first.preserved pointer earlier
    · exact .inr cyclic

theorem Traced.keep (preserves : options.onCycle = .preserve)
    (reachable : Reachable root whole pointer) (cyclic : Reaches root pointer pointer) :
    Traced root whole options before (before.keep pointer) where
  finished _ present := .inl present
  preserved := by
    intro other present
    rcases NameSet.mem_insert.1 present with rfl | earlier
    · exact .inr ⟨preserves, reachable, cyclic⟩
    · exact .inl earlier

theorem Traced.finish (inner : Traced root whole options (before.enter pointer) after)
    (reachable : Reachable root whole pointer) (resolved : Value) :
    Traced root whole options before (after.finish options pointer resolved) where
  finished := by
    intro other present
    rcases List.mem_cons.1 present with rfl | older
    · exact .inr reachable
    · exact inner.finished other older
  preserved := inner.preserved

def Blamed (root whole : Value) (options : RefOptions) (error : ReferenceError) : Prop :=
  (∃ pointer, Reachable root whole pointer ∧ Pointer.navigate root pointer = .error error) ∨
    options.onCycle = .refuse ∧
      ∃ pointer, Reachable root whole pointer ∧ Reaches root pointer pointer ∧
        error = .circular pointer

end Trace

section Resolver

variable {root whole : Value} {options : RefOptions}

def TracedRun (root whole : Value) (options : RefOptions) : GoodRun :=
  fun before value _ after =>
    Admitted root whole before.inProgress value → Traced root whole options before after

def BlamedRun (root whole : Value) (options : RefOptions) : BadRun :=
  fun before value error =>
    Admitted root whole before.inProgress value → Blamed root whole options error

theorem traced_of_threaded {before after : Progress} {values results : List Value}
    (walked : Threaded (TracedRun root whole options) before values results after)
    (admitted : ∀ value ∈ values, Admitted root whole before.inProgress value) :
    Traced root whole options before after := by
  induction walked with
  | nil => exact .refl
  | cons first sameOpen _ ih =>
      rw [sameOpen] at ih
      have head := first (admitted _ List.mem_cons_self)
      exact head.trans (ih fun value later => admitted value (List.mem_cons_of_mem _ later))

theorem blamed_of_stopped {before : Progress} {values : List Value} {error : ReferenceError}
    (stopped : Stopped (TracedRun root whole options) (BlamedRun root whole options)
      before values error)
    (admitted : ∀ value ∈ values, Admitted root whole before.inProgress value) :
    Blamed root whole options error := by
  induction stopped with
  | here failed => exact failed (admitted _ List.mem_cons_self)
  | later _ sameOpen _ ih =>
      rw [sameOpen] at ih
      exact ih fun value later => admitted value (List.mem_cons_of_mem _ later)

theorem resolver_stays_reachable (root whole : Value) (options : RefOptions) :
    StepRule root options (TracedRun root whole options) (BlamedRun root whole options) where
  scalar := fun _ _ => .refl
  external := fun _ _ _ => .refl
  cached := fun _ _ _ => .refl
  kept := by
    intro progress members pointer preserves node _ opened admitted
    obtain ⟨reachable, cyclic⟩ := admitted.on_cycle node opened
    exact .keep preserves reachable cyclic
  followed := by
    intro progress after members pointer target result node _ reached inner _ admitted
    exact (inner (admitted.follow node reached)).finish (admitted.reachable pointer (.here node)) _
  sequence := by
    intro progress after items results walked admitted
    exact traced_of_threaded walked fun _ => admitted.item
  mapping := by
    intro progress after members resolved plain _ walked admitted
    exact traced_of_threaded walked fun _ => admitted.member plain
  refused := by
    intro progress members pointer refuses node _ opened admitted
    obtain ⟨reachable, cyclic⟩ := admitted.on_cycle node opened
    exact .inr ⟨refuses, pointer, reachable, cyclic, rfl⟩
  broken := by
    intro progress members pointer error node _ failed admitted
    exact .inl ⟨pointer, admitted.reachable pointer (.here node), failed⟩
  abandoned := by
    intro progress members pointer target error node _ reached inner admitted
    exact inner (admitted.follow node reached)
  sequenceStopped := by
    intro progress items error stopped admitted
    exact blamed_of_stopped stopped fun _ => admitted.item
  mappingStopped := by
    intro progress members error plain stopped admitted
    exact blamed_of_stopped stopped fun _ => admitted.member plain

end Resolver

section Outcome

variable {value root : Value} {options : RefOptions} {resolution : Resolution}
  {error : ReferenceError} {pointer : String}

structure Searched (root value : Value) (options : RefOptions) (resolution : Resolution) : Prop where
  navigates : ∀ pointer, Reachable root value pointer → Navigates root pointer
  consumed : ∀ pointer, pointer ∈ resolution.consumed ↔
    Reachable root value pointer ∧ options.isDefinition pointer = true
  preserved : ∀ pointer ∈ resolution.preserved, options.onCycle = .preserve ∧
    Reachable root value pointer ∧ Reaches root pointer pointer
  meets : ∀ cycle : String → Prop,
    (∀ pointer, cycle pointer → Reachable root value pointer) →
    (∀ pointer, cycle pointer → ∃ next, cycle next ∧ Edge root pointer next) →
    ∀ pointer, cycle pointer → ∃ kept ∈ resolution.preserved, cycle kept

theorem searched_of_resolved (resolved : resolveRefs value root options = .ok resolution) :
    Searched root value options resolution := by
  obtain ⟨done, finished, rfl⟩ := resolve_refs_eq_ok resolved
  have explored := (resolver_explores root options).of_finished finished
  have traced := (resolver_stays_reachable root value options).of_finished finished .start
  have disciplined := explored.disciplined .start
  have ordered := explored.ordered .nil
  -- No pointer is open in the end, so the finished ones are closed under edges.
  have finished_iff : ∀ pointer, pointer ∈ done.after.finished ↔ Reachable root value pointer := by
    intro pointer
    constructor
    · intro present
      exact (traced.finished pointer present).resolve_left (by simp)
    · refine Reachable.closed (fun first visible => ?_) fun source next present edge => ?_
      · exact (explored.met first visible).resolve_right (by simp)
      · refine (disciplined.closed source present next edge).resolve_right ?_
        rw [done.sameOpen]
        simp
  refine ⟨fun pointer reachable => ?_, fun pointer => ?_, fun pointer present => ?_,
    fun cycle reachable onward pointer onCycle => ?_⟩
  · exact disciplined.navigates pointer ((finished_iff pointer).2 reachable)
  · rw [disciplined.consumed, finished_iff]
  · exact (traced.preserved pointer present).resolve_left (by simp)
  · exact ordered.meets_preserved onward ((finished_iff pointer).2 (reachable pointer onCycle))
      onCycle

theorem blamed_of_failed (failed : resolveRefs value root options = .error error) :
    Blamed root value options error :=
  (resolver_stays_reachable root value options).of_stopped (resolve_refs_eq_error failed) .start

theorem Searched.meets_cycle (searched : Searched root value options resolution)
    (reachable : Reachable root value pointer) (cyclic : Reaches root pointer pointer) :
    ∃ kept ∈ resolution.preserved, Reaches root pointer kept ∧ Reaches root kept pointer := by
  refine searched.meets (fun between => Reaches root pointer between ∧ Reaches root between pointer)
    (fun between leads => reachable.reaches leads.1) (fun between leads => ?_) pointer
    ⟨cyclic, cyclic⟩
  -- From any pointer between, the first step of the way back stays between.
  obtain ⟨next, edge, back⟩ := Relation.TransGen.head'_iff.1 leads.2
  refine ⟨next, ⟨leads.1.tail edge, ?_⟩, edge⟩
  rcases Relation.reflTransGen_iff_eq_or_transGen.1 back with rfl | back
  · exact cyclic
  · exact back

theorem resolve_refs_preserve_iff (preserves : options.onCycle = .preserve) :
    (∃ resolution, resolveRefs value root options = .ok resolution) ↔
      ∀ pointer, Reachable root value pointer → Navigates root pointer := by
  constructor
  · rintro ⟨resolution, resolved⟩
    exact (searched_of_resolved resolved).navigates
  · intro navigates
    cases run : resolveRefs value root options with
    | ok resolution => exact ⟨resolution, rfl⟩
    | error error =>
        rcases blamed_of_failed run with ⟨pointer, reachable, failed⟩ | ⟨refuses, _⟩
        · exact absurd (navigates pointer reachable) (not_navigates_iff.2 ⟨error, failed⟩)
        · simp [preserves] at refuses

theorem resolve_refs_refuse_iff (refuses : options.onCycle = .refuse) :
    (∃ resolution, resolveRefs value root options = .ok resolution) ↔
      ∀ pointer, Reachable root value pointer →
        Navigates root pointer ∧ ¬Reaches root pointer pointer := by
  constructor
  · rintro ⟨resolution, resolved⟩ pointer reachable
    have searched := searched_of_resolved resolved
    refine ⟨searched.navigates pointer reachable, fun cyclic => ?_⟩
    obtain ⟨kept, present, _⟩ := searched.meets_cycle reachable cyclic
    have preserves := (searched.preserved kept present).1
    simp [refuses] at preserves
  · intro acyclic
    cases run : resolveRefs value root options with
    | ok resolution => exact ⟨resolution, rfl⟩
    | error error =>
        rcases blamed_of_failed run with ⟨pointer, reachable, failed⟩ |
          ⟨_, pointer, reachable, cyclic, _⟩
        · exact absurd (acyclic pointer reachable).1 (not_navigates_iff.2 ⟨error, failed⟩)
        · exact absurd cyclic (acyclic pointer reachable).2

theorem is_definition_iff : options.isDefinition pointer = true ↔
    options.definitionsPrefix.toList <+: pointer.toList :=
  List.isPrefixOf_iff_prefix

/-- The reachable pointers decide whether a resolution succeeds and what it consumes,
and one of them is to blame when it fails. -/
theorem resolution_explores_reachable (value root : Value) (options : RefOptions) :
    ((∃ resolution,
        resolveRefs value root { options with onCycle := .preserve } = .ok resolution) ↔
      ∀ pointer, Reachable root value pointer → Navigates root pointer) ∧
    ((∃ resolution,
        resolveRefs value root { options with onCycle := .refuse } = .ok resolution) ↔
      (∀ pointer, Reachable root value pointer → Navigates root pointer) ∧
        ∀ pointer, Reachable root value pointer → ¬Reaches root pointer pointer) ∧
    (∀ resolution, resolveRefs value root options = .ok resolution →
      ∀ pointer, pointer ∈ resolution.consumed ↔
        Reachable root value pointer ∧ options.definitionsPrefix.toList <+: pointer.toList) ∧
    ∀ error, resolveRefs value root options = .error error →
      (∃ pointer, Reachable root value pointer ∧ Pointer.navigate root pointer = .error error) ∨
        options.onCycle = .refuse ∧
          ∃ pointer, Reachable root value pointer ∧ Reaches root pointer pointer ∧
            error = .circular pointer := by
  refine ⟨resolve_refs_preserve_iff rfl, ?_, fun resolution resolved pointer => ?_,
    fun error failed => blamed_of_failed failed⟩
  · rw [resolve_refs_refuse_iff rfl]
    simp only [forall_and]
  · rw [(searched_of_resolved resolved).consumed, is_definition_iff]

end Outcome

section Nested

/-- Two cycles that share a step: `b` and `c` lead to each other, and `c` also
leads back to `a`, which leads to `b`. -/
def nestedDefinitions : Members := [
  ("a", .object (referenceTo "#/components/b")),
  ("b", .object (referenceTo "#/components/c")),
  ("c", .array [.object (referenceTo "#/components/b"), .object (referenceTo "#/components/a")])]

def nestedDocument : Value := .object [("components", .object nestedDefinitions)]

def nestedResolution : Resolution where
  value := .array [.object (referenceTo "#/components/b"), .object (referenceTo "#/components/a")]
  consumed :=
    ((NameSet.empty.insert "#/components/c").insert "#/components/b").insert "#/components/a"
  preserved := (NameSet.empty.insert "#/components/b").insert "#/components/a"

theorem nested_targets :
    Pointer.navigate nestedDocument "#/components/a" =
        .ok (.object (referenceTo "#/components/b")) ∧
      Pointer.navigate nestedDocument "#/components/b" =
        .ok (.object (referenceTo "#/components/c")) ∧
      Pointer.navigate nestedDocument "#/components/c" =
        .ok (.array [.object (referenceTo "#/components/b"),
          .object (referenceTo "#/components/a")]) :=
  ⟨rfl, rfl, rfl⟩

theorem nested_resolution :
    resolveRefs (.object (referenceTo "#/components/a")) nestedDocument { onCycle := .preserve } =
      .ok nestedResolution := by
  obtain ⟨reachedA, reachedB, reachedC⟩ := nested_targets
  have definitionA : RefOptions.isDefinition { onCycle := .preserve } "#/components/a" = true := by
    decide
  have definitionB : RefOptions.isDefinition { onCycle := .preserve } "#/components/b" = true := by
    decide
  have definitionC : RefOptions.isDefinition { onCycle := .preserve } "#/components/c" = true := by
    decide
  simp [resolveRefs, resolve_local_reference (node_of_reference_to "#/components/a" rfl),
    resolve_local_reference (node_of_reference_to "#/components/b" rfl),
    resolve_local_reference (node_of_reference_to "#/components/c" rfl), reachedA, reachedB,
    reachedC, definitionA, definitionB, definitionC, resolveValue, resolveItems, nestedResolution,
    Progress.start, Progress.enter, Progress.cached?, Members.get?, Progress.keep, Progress.finish]

/-- All three definitions are consumed, whichever of the cycles they are on. -/
theorem nested_definitions_consumed :
    resolveRefs (.object (referenceTo "#/components/a")) nestedDocument { onCycle := .preserve } =
        .ok nestedResolution ∧
      ∀ pointer, pointer ∈ nestedResolution.consumed ↔
        Reachable nestedDocument (.object (referenceTo "#/components/a")) pointer ∧
          defaultDefinitionsPrefix.toList <+: pointer.toList :=
  ⟨nested_resolution,
    (resolution_explores_reachable _ _ { onCycle := .preserve }).2.2.1 _ nested_resolution⟩

end Nested

end RefLint
