import RefLint.Proofs.CyclePolicies
import RefLint.Proofs.LazyLookup
import RefLint.Proofs.NeededDefinitions
import RefLint.Proofs.RemovedReferences

/-!
# Dereferencing a second time

Where cycles are refused, a dereferenced document has no reference left, so that
dereferencing it again changes nothing. There are two ways to miss this. A `$ref` that is
no text is an ordinary member, but the text that it is resolved to can make its mapping a
reference node. And pruning the `$ref` of an external node makes it an ordinary mapping,
whose other members are then looked at.
-/

namespace RefLint

set_option autoImplicit false

open Pointer

/-- A mapping whose `$ref` is no text, but is resolved to the text of a local pointer. -/
def BecomesReference (root : Value) (members : Members) : Prop :=
  referencePointer? members = none ∧ ∃ member text,
    Members.get? referenceKey members = some member ∧ Pointer.isLocal text = true ∧
      Lookup root member [] (.string text)

def Value.StaysResolved (value root : Value) : Prop :=
  value.AllMappings fun members => ¬BecomesReference root members

section Resolver

variable {root value result : Value} {options : RefOptions} {members : Members} {pointer : String}

/-- A resolved value without local references; if it is a text, the value led to it. -/
structure Dissolved (root value result : Value) : Prop where
  shown : ∀ pointer, ¬Visible result pointer
  text : ∀ text, result = .string text → Lookup root value [] (.string text)

def DissolvedCache (root : Value) (progress : Progress) : Prop :=
  ∀ pointer resolved, progress.cached? pointer = some resolved →
    ∀ members, LocalReference members pointer → Dissolved root (.object members) resolved

theorem Dissolved.follow {target : Value} (node : LocalReference members pointer)
    (reached : navigate root pointer = .ok target) (dissolved : Dissolved root target result) :
    Dissolved root (.object members) result where
  shown := dissolved.shown
  text text same := .follow (local_pointer_iff.2 node) reached (dissolved.text text same)

theorem nothing_shown {values results : List Value}
    (dissolved : List.Forall₂ (Dissolved root) values results) :
    ¬∃ part ∈ results, Visible part pointer := by
  induction dissolved with
  | nil => simp
  | cons first _ ih =>
      rw [List.exists_mem_cons_iff, not_or]
      exact ⟨first.shown pointer, ih⟩

theorem Dissolved.sequence {items results : List Value}
    (dissolved : List.Forall₂ (Dissolved root) items results) :
    Dissolved root (.array items) (.array results) where
  shown _ visible := nothing_shown dissolved (visible_sequence_iff.1 visible)
  text := by simp

theorem reference_pointer_iff : referencePointer? members = some pointer ↔
    Members.get? referenceKey members = some (.string pointer) := by
  unfold referencePointer?
  split <;> simp_all

theorem Dissolved.mapping {resolved : Members} (plain : referencePointer? members = none)
    (stays : ¬BecomesReference root members)
    (correspond : Members.Correspond (Dissolved root) members resolved) :
    Dissolved root (.object members) (.object resolved) where
  shown := by
    intro pointer visible
    cases own : referencePointer? resolved with
    | none => exact nothing_shown correspond.2 ((visible_mapping_iff own).1 visible)
    | some text =>
        -- The text of the new reference node was looked up from the old member.
        have related := Members.get_of_correspond correspond referenceKey
        rw [reference_pointer_iff.1 own] at related
        cases found : Members.get? referenceKey members with
        | none =>
            rw [found] at related
            cases related
        | some member =>
            rw [found] at related
            cases related with
            | some dissolved =>
                have lookup := dissolved.text text rfl
                have isExternal : Pointer.isLocal text = false := by
                  by_contra isLocal
                  exact stays ⟨plain, member, text, found, by simpa using isLocal, lookup⟩
                exact not_visible_of_external own isExternal visible
  text := by simp

theorem resolver_dissolves (refuses : options.onCycle = .refuse)
    (rootStays : root.StaysResolved root) :
    StepRule root options
      (fun before value result after => value.StaysResolved root → DissolvedCache root before →
        Dissolved root value result ∧ DissolvedCache root after) Unconstrained where
  scalar := by
    intro progress value scalar _ cache
    refine ⟨⟨fun pointer => not_visible_of_scalar scalar, fun text same => ?_⟩, cache⟩
    subst same
    exact .here rfl
  external := by
    intro progress members pointer reference isExternal _ cache
    exact ⟨⟨fun other => not_visible_of_external reference isExternal, by simp⟩, cache⟩
  cached := by
    intro progress members pointer resolved node found _ cache
    exact ⟨cache pointer resolved found members node, cache⟩
  kept := by
    intro progress members pointer preserves
    rw [refuses] at preserves
    contradiction
  followed := by
    intro progress after members pointer target result node _ reached inner _ _ cache
    have targetStays := rootStays.inside (inside_of_navigate reached)
    obtain ⟨dissolved, cacheAfter⟩ := inner targetStays cache
    refine ⟨dissolved.follow node reached, ?_⟩
    intro other resolved found others otherNode
    obtain ⟨rfl, rfl⟩ | earlier := Progress.cached_of_finish found
    · exact dissolved.follow otherNode reached
    · exact cacheAfter other resolved earlier others otherNode
  sequence := by
    intro progress after items results walked stays cache
    obtain ⟨dissolved, cacheAfter⟩ :=
      walked.carry (fun step => step) (Value.all_mappings_array.1 stays) cache
    exact ⟨.sequence dissolved, cacheAfter⟩
  mapping := by
    intro progress after members resolved plain sameKeys walked stays cache
    obtain ⟨own, parts⟩ := Value.all_mappings_object.1 stays
    obtain ⟨dissolved, cacheAfter⟩ := walked.carry (fun step => step) parts cache
    exact ⟨.mapping plain own ⟨sameKeys, dissolved⟩, cacheAfter⟩

end Resolver

section Clean

variable {value root : Value} {options : RefOptions}

theorem members_ext {members others : Members} (sameKeys : Members.keys others = Members.keys members)
    (sameValues : members.map (·.2) = others.map (·.2)) : others = members := by
  have split (list : Members) : list = (Members.keys list).zip (list.map (·.2)) := by
    rw [Members.keys, List.zip_map', List.map_id']
  rw [split others, split members, sameKeys, sameValues]

theorem clean_walk {before after : Progress} {values results : List Value}
    (walked : Threaded (fun before value result after => (∀ pointer, ¬Visible value pointer) →
      value = result ∧ after = before) before values results after)
    (clean : ∀ value ∈ values, ∀ pointer, ¬Visible value pointer) :
    values = results ∧ after = before := by
  induction walked with
  | nil => exact ⟨rfl, rfl⟩
  | cons first _ _ ih =>
      obtain ⟨cleanFirst, cleanRest⟩ := List.forall_mem_cons.1 clean
      obtain ⟨rfl, rfl⟩ := first cleanFirst
      obtain ⟨rfl, rfl⟩ := ih cleanRest
      exact ⟨rfl, rfl⟩

theorem resolver_leaves_clean (root : Value) (options : RefOptions) :
    StepRule root options
      (fun before value result after => (∀ pointer, ¬Visible value pointer) →
        value = result ∧ after = before) Unconstrained where
  scalar := fun _ _ => ⟨rfl, rfl⟩
  external := fun _ _ _ => ⟨rfl, rfl⟩
  cached := fun node _ clean => (clean _ (.here node)).elim
  kept := fun _ node _ _ clean => (clean _ (.here node)).elim
  followed := fun node _ _ _ _ clean => (clean _ (.here node)).elim
  sequence := by
    intro progress after items results walked clean
    obtain ⟨same, unchanged⟩ :=
      clean_walk walked fun item present pointer visible => clean pointer (.item present visible)
    exact ⟨congrArg Value.array same, unchanged⟩
  mapping := by
    intro progress after members resolved plain sameKeys walked clean
    obtain ⟨same, unchanged⟩ := clean_walk walked fun part present pointer visible =>
      clean pointer ((visible_mapping_iff plain).2 ⟨part, present, visible⟩)
    exact ⟨congrArg Value.object (members_ext sameKeys same).symm, unchanged⟩

theorem resolve_refs_clean (clean : ∀ pointer, ¬Visible value pointer) :
    resolveRefs value root options = .ok ⟨value, .empty, .empty⟩ := by
  have unreachable : ∀ pointer, ¬Reachable root value pointer := by
    rintro pointer ⟨first, visible, _⟩
    exact clean first visible
  cases run : resolveRefs value root options with
  | error error =>
      rcases blamed_of_failed run with ⟨pointer, reachable, _⟩ | ⟨_, pointer, reachable, _⟩
      · exact (unreachable pointer reachable).elim
      · exact (unreachable pointer reachable).elim
  | ok resolution =>
      obtain ⟨done, finished, rfl⟩ := resolve_refs_eq_ok run
      obtain ⟨same, unchanged⟩ := (resolver_leaves_clean root options).of_finished finished clean
      rw [← same, unchanged]
      rfl

theorem dereference_clean (clean : ∀ pointer, ¬Visible value pointer) :
    dereference value options = .ok value := by
  have nothing : (Resolution.prune ⟨value, .empty, .empty⟩ value).1 = value := rfl
  rw [dereference, resolve_refs_clean clean]
  simp only [nothing, ite_self]

end Clean

section Repeated

variable {document result : Value} {options others : RefOptions} {resolution : Resolution}

/-- A document that was dereferenced shows no local reference, and dereferencing it again
leaves it as it is, whatever the options are then. -/
theorem dereference_again (refuses : options.onCycle = .refuse)
    (resolved : resolveRefs document document options = .ok resolution)
    (first : dereference document options = .ok result)
    (stays : document.StaysResolved document)
    (spares : ∀ pointer ∈ resolution.consumed, ¬EndsAtReference pointer) :
    (∀ pointer, ¬Visible result pointer) ∧ dereference result others = .ok result := by
  have clean : ∀ pointer, ¬Visible result pointer := by
    obtain ⟨same, sameResolved, rfl⟩ := dereference_eq_ok.1 first
    obtain rfl := Except.ok.inj (resolved.symm.trans sameResolved)
    have inlined : ∀ pointer, ¬Visible resolution.value pointer := by
      obtain ⟨done, finished, rfl⟩ := resolve_refs_eq_ok resolved
      have nothingCached : DissolvedCache document .start := by
        intro pointer resolved found
        simp at found
      exact ((resolver_dissolves refuses stays).of_finished finished stays nothingCached).1.shown
    intro pointer visible
    split at visible
    · refine inlined pointer (shown_before_removals (fun removed listed => ?_) visible)
      exact spares removed (mem_prunable_iff.1 listed).1
    · exact inlined pointer visible
  exact ⟨clean, dereference_clean clean⟩

end Repeated

section Property

def propertyMembers : Members := [
  ("properties", .object [(referenceKey, .object (referenceTo "#/components/text"))]),
  ("components", .object [("text", .object [("type", .string "string")])])]

def propertyDocument : Value := .object propertyMembers

def propertyResolution : Resolution where
  value := .object [
    ("properties", .object [(referenceKey, .object [("type", .string "string")])]),
    ("components", .object [("text", .object [("type", .string "string")])])]
  consumed := NameSet.empty.insert "#/components/text"
  preserved := .empty

def propertyInlined : Value := .object [
  ("properties", .object [(referenceKey, .object [("type", .string "string")])]),
  ("components", .object [])]

theorem property_resolution :
    resolveRefs propertyDocument propertyDocument {} = .ok propertyResolution := by
  have reached : navigate propertyDocument "#/components/text" =
      .ok (.object [("type", .string "string")]) := rfl
  have definition : RefOptions.isDefinition {} "#/components/text" = true := by decide
  have document : referencePointer? propertyMembers = none := rfl
  have property : referencePointer?
      [(referenceKey, .object (referenceTo "#/components/text"))] = none := rfl
  have components : referencePointer?
      [("text", .object [("type", .string "string")])] = none := rfl
  have type : referencePointer? [("type", .string "string")] = none := rfl
  have run := @resolve_plain_mapping propertyDocument {} .start _ document
  rw [← propertyDocument] at run
  rw [resolveRefs, run, propertyMembers]
  simp [resolve_plain_mapping property, resolve_plain_mapping components,
    resolve_plain_mapping type, resolve_local_reference
      (node_of_reference_to "#/components/text" rfl), reached, definition, resolveValue,
    resolveMembers, propertyResolution, Progress.start, Progress.enter, Progress.cached?,
    Members.get?, Progress.finish]

theorem property_dereferenced : dereference propertyDocument {} = .ok propertyInlined :=
  dereference_eq_ok.2 ⟨propertyResolution, property_resolution, rfl⟩

theorem property_stays_resolved : propertyDocument.StaysResolved propertyDocument := by
  have mappings {holds : Members → Prop} : propertyDocument.AllMappings holds ↔
      holds propertyMembers ∧
        (holds [(referenceKey, .object (referenceTo "#/components/text"))] ∧
          holds (referenceTo "#/components/text")) ∧
        holds [("text", .object [("type", .string "string")])] ∧
          holds [("type", .string "string")] := by
    simp [propertyDocument, propertyMembers, Value.all_mappings_object, Value.all_mappings_scalar,
      Value.kind]
  have described : Lookup propertyDocument (.object (referenceTo "#/components/text")) []
      (.object [("type", .string "string")]) :=
    .follow (local_pointer_iff.2 (node_of_reference_to "#/components/text" rfl)) rfl (.here rfl)
  have noText (text : String) : ¬Lookup propertyDocument
      (.object (referenceTo "#/components/text")) [] (.string text) := by
    intro lookup
    have same := lookup_unique described lookup
    contradiction
  refine mappings.2 ⟨?_, ⟨?_, ?_⟩, ?_, ?_⟩
  all_goals rintro ⟨plain, member, text, found, _, lookup⟩
  · contradiction
  · obtain rfl := Option.some.inj found
    exact noText text lookup
  · contradiction
  · contradiction
  · contradiction

/-- The property stays a property, and a second pass finds nothing to do. -/
theorem property_dereferenced_again :
    resolveRefs propertyDocument propertyDocument {} = .ok propertyResolution ∧
      dereference propertyDocument {} = .ok propertyInlined ∧
      propertyDocument.StaysResolved propertyDocument ∧
      (∀ pointer ∈ propertyResolution.consumed.toList, ¬EndsAtReference pointer) ∧
      (∀ pointer, ¬Visible propertyInlined pointer) ∧
      dereference propertyInlined {} = .ok propertyInlined := by
  have spares : ∀ pointer ∈ propertyResolution.consumed.toList, ¬EndsAtReference pointer := by
    decide
  exact ⟨property_resolution, property_dereferenced, property_stays_resolved, spares,
    dereference_again rfl property_resolution property_dereferenced property_stays_resolved spares⟩

end Property

section Chained

def chainedMembers : Members := [
  ("a", .object [(referenceKey, .object (referenceTo "#/b"))]),
  ("b", .string "#/c"),
  ("c", .string "text")]

def chainedDocument : Value := .object chainedMembers

def chainedOnce : Value := .object [
  ("a", .object (referenceTo "#/c")),
  ("b", .string "#/c"),
  ("c", .string "text")]

def chainedTwice : Value := .object [
  ("a", .string "text"),
  ("b", .string "#/c"),
  ("c", .string "text")]

theorem chained_first : dereference chainedDocument {} = .ok chainedOnce := by
  have reached : navigate chainedDocument "#/b" = .ok (.string "#/c") := rfl
  have elsewhere : RefOptions.isDefinition {} "#/b" = false := by decide
  have document : referencePointer? chainedMembers = none := rfl
  have plain : referencePointer? [(referenceKey, .object (referenceTo "#/b"))] = none := rfl
  have run := @resolve_plain_mapping chainedDocument {} .start _ document
  rw [← chainedDocument] at run
  rw [dereference_eq_ok]
  refine ⟨⟨chainedOnce, .empty, .empty⟩, ?_, rfl⟩
  rw [resolveRefs, run, chainedMembers]
  simp [resolve_plain_mapping plain, resolve_local_reference (node_of_reference_to "#/b" rfl),
    reached, elsewhere, resolveValue, resolveMembers, chainedOnce, referenceTo, Progress.start,
    Progress.enter, Progress.cached?, Members.get?, Progress.finish]

theorem chained_second : dereference chainedOnce {} = .ok chainedTwice := by
  have reached : navigate chainedOnce "#/c" = .ok (.string "text") := rfl
  have elsewhere : RefOptions.isDefinition {} "#/c" = false := by decide
  have document : referencePointer? [("a", .object (referenceTo "#/c")), ("b", .string "#/c"),
      ("c", .string "text")] = none := rfl
  have run := @resolve_plain_mapping chainedOnce {} .start _ document
  rw [← chainedOnce] at run
  rw [dereference_eq_ok]
  refine ⟨⟨chainedTwice, .empty, .empty⟩, ?_, rfl⟩
  rw [resolveRefs, run]
  simp [resolve_local_reference (node_of_reference_to "#/c" rfl), reached, elsewhere,
    resolveValue, resolveMembers, chainedTwice, Progress.start, Progress.enter,
    Progress.cached?, Members.get?, Progress.finish]

/-- Inlining the text makes `a` a reference node, which the second pass then follows. -/
theorem chained_reference_appears :
    dereference chainedDocument {} = .ok chainedOnce ∧
      dereference chainedOnce {} = .ok chainedTwice ∧ chainedTwice ≠ chainedOnce := by
  refine ⟨chained_first, chained_second, fun same => ?_⟩
  have kinds := congrArg (fun value => (value.member? "a").map Value.kind) same
  contradiction

end Chained

section Uncovered

def uncoveredMembers : Members := [
  ("components", .object [("x", .object [
    (referenceKey, .string "other.yaml"), ("side", .object (referenceTo "#/b"))])]),
  ("a", .object (referenceTo "#/components/x/$ref")),
  ("b", .string "text")]

def uncoveredDocument : Value := .object uncoveredMembers

def uncoveredOnce : Value := .object [
  ("components", .object [("x", .object [("side", .object (referenceTo "#/b"))])]),
  ("a", .string "other.yaml"),
  ("b", .string "text")]

/-- The definition that `a` inlines is the `$ref` of an external reference node. Pruning it
shows the reference beside it. -/
theorem pruning_uncovers_reference :
    dereference uncoveredDocument {} = .ok uncoveredOnce ∧ Visible uncoveredOnce "#/b" := by
  have reached : navigate uncoveredDocument "#/components/x/$ref" = .ok (.string "other.yaml") := rfl
  have definition : RefOptions.isDefinition {} "#/components/x/$ref" = true := by decide
  have document : referencePointer? uncoveredMembers = none := rfl
  have components : referencePointer? [("x", .object [
      (referenceKey, .string "other.yaml"), ("side", .object (referenceTo "#/b"))])] = none := rfl
  have external : referencePointer? [(referenceKey, .string "other.yaml"),
      ("side", .object (referenceTo "#/b"))] = some "other.yaml" := rfl
  have run := @resolve_plain_mapping uncoveredDocument {} .start _ document
  rw [← uncoveredDocument] at run
  constructor
  · rw [dereference_eq_ok]
    refine ⟨⟨.object [
      ("components", .object [("x", .object [
        (referenceKey, .string "other.yaml"), ("side", .object (referenceTo "#/b"))])]),
      ("a", .string "other.yaml"), ("b", .string "text")],
      NameSet.empty.insert "#/components/x/$ref", .empty⟩, ?_, rfl⟩
    rw [resolveRefs, run, uncoveredMembers]
    simp [resolve_plain_mapping components, resolve_external_reference external rfl,
      resolve_local_reference (node_of_reference_to "#/components/x/$ref" rfl), reached,
      definition, resolveValue, resolveMembers, Progress.start, Progress.enter, Progress.cached?,
      Members.get?, Progress.finish]
  · have side : Visible (.object (referenceTo "#/b")) "#/b" := .here (node_of_reference_to "#/b" rfl)
    exact .member rfl List.mem_cons_self (.member rfl List.mem_cons_self
      (.member rfl List.mem_cons_self side))

end Uncovered

end RefLint
