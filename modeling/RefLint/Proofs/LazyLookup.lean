import RefLint.Proofs.Places
import RefLint.Proofs.ResolverRules

/-!
# Lazy lookup through references

A path can be followed through a value that still has references: a reference
node is left for its target when it is met, and not before. This gives every
value a meaning, also one whose references go round in circles. Resolving a
value does not change what is found along any path, whether cycles are
refused or preserved.
-/

namespace RefLint

set_option autoImplicit false

def Value.localPointer? : Value → Option String
  | .object members => (referencePointer? members).filter Pointer.isLocal
  | _ => none

/-- What a path leads to in a value whose references are followed into `root`. A
path may end anywhere but at a local reference node, which is always left. -/
inductive Lookup (root : Value) : Value → Route → Value → Prop where
  | here {value : Value} (ended : value.localPointer? = none) : Lookup root value [] value
  | follow {value target found : Value} {pointer : String} {path : Route}
      (reference : value.localPointer? = some pointer)
      (reached : Pointer.navigate root pointer = .ok target)
      (onward : Lookup root target path found) : Lookup root value path found
  | member {members : Members} {key : String} {value found : Value} {path : Route}
      (plain : referencePointer? members = none)
      (present : Members.get? key members = some value)
      (onward : Lookup root value path found) :
      Lookup root (.object members) (.key key :: path) found
  | item {items : List Value} {index : Nat} {value found : Value} {path : Route}
      (present : items[index]? = some value)
      (onward : Lookup root value path found) :
      Lookup root (.array items) (.position index :: path) found

/-- What can be seen of a value without going into it. A reference node is seen whole. -/
inductive Shape where
  | scalar (value : Value)
  | sequence (length : Nat)
  | mapping (keys : List String)
  | reference (members : Members)

def Value.shape : Value → Shape
  | .array items => .sequence items.length
  | .object members =>
      match referencePointer? members with
      | some _ => .reference members
      | none => .mapping (Members.keys members)
  | scalar => .scalar scalar

/-- Every `$ref` member anywhere in a value is a string. -/
def Value.ReferencesAreTexts (value : Value) : Prop :=
  ∀ members, Inside (.object members) value → ∀ member, (referenceKey, member) ∈ members →
    ∃ text, member = .string text

theorem local_pointer_iff {members : Members} {pointer : String} :
    Value.localPointer? (.object members) = some pointer ↔ LocalReference members pointer := by
  simp only [Value.localPointer?, Option.filter_eq_some_iff]
  exact ⟨fun split => ⟨split.1, split.2⟩, fun node => ⟨node.reference, node.isLocal⟩⟩

theorem local_pointer_plain {members : Members} (plain : referencePointer? members = none) :
    Value.localPointer? (.object members) = none := by
  simp [Value.localPointer?, plain]

theorem lookup_unique {root value found other : Value} {path : Route}
    (first : Lookup root value path found) (second : Lookup root value path other) :
    found = other := by
  induction first with
  | here ended =>
      cases second with
      | here => rfl
      | follow reference => simp [ended] at reference
  | follow reference reached _ ih =>
      cases second with
      | here ended => simp [ended] at reference
      | follow reference' reached' onward =>
          obtain rfl := Option.some.inj (reference.symm.trans reference')
          obtain rfl := Except.ok.inj (reached.symm.trans reached')
          exact ih onward
      | member plain => simp [local_pointer_plain plain] at reference
      | item => simp [Value.localPointer?] at reference
  | member plain present _ ih =>
      cases second with
      | follow reference => simp [local_pointer_plain plain] at reference
      | member _ present' onward =>
          obtain rfl := Option.some.inj (present.symm.trans present')
          exact ih onward
  | item present _ ih =>
      cases second with
      | follow reference => simp [Value.localPointer?] at reference
      | item present' onward =>
          obtain rfl := Option.some.inj (present.symm.trans present')
          exact ih onward

/-- A path leads to something of the given shape. -/
def Found (root value : Value) (path : Route) (shape : Shape) : Prop :=
  ∃ found, Lookup root value path found ∧ found.shape = shape

/-- Two values in which every path leads to the same shapes. -/
def Alike (root value other : Value) : Prop :=
  ∀ path shape, Found root value path shape ↔ Found root other path shape

theorem Alike.refl (root value : Value) : Alike root value value := fun _ _ => Iff.rfl

theorem Alike.trans {root value middle other : Value} (first : Alike root value middle)
    (second : Alike root middle other) : Alike root value other :=
  fun path shape => (first path shape).trans (second path shape)

theorem alike_target {root target : Value} {members : Members} {pointer : String}
    (node : LocalReference members pointer) (reached : Pointer.navigate root pointer = .ok target) :
    Alike root (.object members) target := by
  have reference := local_pointer_iff.2 node
  intro path shape
  constructor
  · rintro ⟨found, lookup, same⟩
    refine ⟨found, ?_, same⟩
    cases lookup with
    | here ended => simp [ended] at reference
    | follow reference' reached' onward =>
        obtain rfl := Option.some.inj (reference.symm.trans reference')
        obtain rfl := Except.ok.inj (reached.symm.trans reached')
        exact onward
    | member plain => simp [local_pointer_plain plain] at reference
  · rintro ⟨found, lookup, same⟩
    exact ⟨found, .follow reference reached lookup, same⟩

theorem found_item_iff {root : Value} {items : List Value} {index : Nat} {path : Route}
    {shape : Shape} :
    Found root (.array items) (.position index :: path) shape ↔
      ∃ item, items[index]? = some item ∧ Found root item path shape := by
  constructor
  · rintro ⟨found, lookup, same⟩
    cases lookup with
    | follow reference => simp [Value.localPointer?] at reference
    | item present onward => exact ⟨_, present, found, onward, same⟩
  · rintro ⟨item, present, found, onward, same⟩
    exact ⟨found, .item present onward, same⟩

theorem found_member_iff {root : Value} {members : Members} {key : String} {path : Route}
    {shape : Shape} (plain : referencePointer? members = none) :
    Found root (.object members) (.key key :: path) shape ↔
      ∃ value, Members.get? key members = some value ∧ Found root value path shape := by
  constructor
  · rintro ⟨found, lookup, same⟩
    cases lookup with
    | follow reference => simp [local_pointer_plain plain] at reference
    | member _ present onward => exact ⟨_, present, found, onward, same⟩
  · rintro ⟨value, present, found, onward, same⟩
    exact ⟨found, .member plain present onward, same⟩

theorem found_nil_iff {root value : Value} {shape : Shape} (ended : value.localPointer? = none) :
    Found root value [] shape ↔ value.shape = shape := by
  constructor
  · rintro ⟨found, lookup, same⟩
    cases lookup with
    | here => exact same
    | follow reference => simp [ended] at reference
  · intro same
    exact ⟨value, .here ended, same⟩

theorem not_found_key {root : Value} {items : List Value} {key : String} {path : Route}
    {shape : Shape} : ¬Found root (.array items) (.key key :: path) shape := by
  rintro ⟨found, lookup, _⟩
  cases lookup with
  | follow reference => simp [Value.localPointer?] at reference

theorem not_found_position {root : Value} {members : Members} {index : Nat} {path : Route}
    {shape : Shape} (plain : referencePointer? members = none) :
    ¬Found root (.object members) (.position index :: path) shape := by
  rintro ⟨found, lookup, _⟩
  cases lookup with
  | follow reference => simp [local_pointer_plain plain] at reference

theorem alike_sequence {root : Value} {items others : List Value}
    (correspond : List.Forall₂ (Alike root) items others) :
    Alike root (.array items) (.array others) := by
  intro path shape
  cases path with
  | nil =>
      rw [found_nil_iff rfl, found_nil_iff rfl, Value.shape, Value.shape, correspond.length_eq]
  | cons step path =>
      cases step with
      | key key => simp only [not_found_key]
      | position index =>
          rw [found_item_iff, found_item_iff]
          constructor
          · rintro ⟨item, present, found⟩
            obtain ⟨inRange, same⟩ := List.getElem?_eq_some_iff.1 present
            have otherInRange : index < others.length := correspond.length_eq ▸ inRange
            have alike := correspond.get inRange otherInRange
            rw [List.get_eq_getElem, List.get_eq_getElem, same] at alike
            exact ⟨_, List.getElem?_eq_getElem otherInRange, (alike path shape).1 found⟩
          · rintro ⟨other, present, found⟩
            obtain ⟨otherInRange, same⟩ := List.getElem?_eq_some_iff.1 present
            have inRange : index < items.length := correspond.length_eq ▸ otherInRange
            have alike := correspond.get inRange otherInRange
            rw [List.get_eq_getElem, List.get_eq_getElem, same] at alike
            exact ⟨_, List.getElem?_eq_getElem inRange, (alike path shape).2 found⟩

theorem alike_mapping {root : Value} {members others : Members}
    (plain : referencePointer? members = none) (otherPlain : referencePointer? others = none)
    (correspond : Members.Correspond (Alike root) members others) :
    Alike root (.object members) (.object others) := by
  intro path shape
  cases path with
  | nil =>
      rw [found_nil_iff (local_pointer_plain plain), found_nil_iff (local_pointer_plain otherPlain)]
      simp only [Value.shape, plain, otherPlain, correspond.1]
  | cons step path =>
      cases step with
      | position index =>
          simp only [not_found_position plain, not_found_position otherPlain]
      | key key =>
          rw [found_member_iff plain, found_member_iff otherPlain]
          have related := Members.get_of_correspond correspond key
          generalize Members.get? key members = left at related
          generalize Members.get? key others = right at related
          cases related with
          | none => simp
          | some alike => simpa using alike path shape

theorem Value.ReferencesAreTexts.inside {part whole : Value} (texts : whole.ReferencesAreTexts)
    (inner : Inside part whole) : part.ReferencesAreTexts :=
  Value.AllMappings.inside texts inner

theorem references_are_texts_sequence {items : List Value} :
    Value.ReferencesAreTexts (.array items) ↔ ∀ item ∈ items, item.ReferencesAreTexts :=
  Value.all_mappings_array

theorem Value.ReferencesAreTexts.of_item {items : List Value} {item : Value}
    (texts : Value.ReferencesAreTexts (.array items)) (present : item ∈ items) :
    item.ReferencesAreTexts :=
  references_are_texts_sequence.1 texts item present

theorem Value.ReferencesAreTexts.of_member {members : Members} {value : Value}
    (texts : Value.ReferencesAreTexts (.object members)) (present : value ∈ members.map (·.2)) :
    value.ReferencesAreTexts :=
  (Value.all_mappings_object.1 texts).2 value present

theorem references_are_texts_mapping {members : Members} :
    Value.ReferencesAreTexts (.object members) ↔ ∀ member ∈ members,
      (member.1 = referenceKey → ∃ text, member.2 = .string text) ∧
        member.2.ReferencesAreTexts := by
  constructor
  · intro texts member present
    refine ⟨fun named => ?_, texts.of_member (List.mem_map_of_mem present)⟩
    exact texts members (.here _) member.2 (named ▸ present)
  · intro all
    refine Value.all_mappings_object.2 ⟨fun member present => (all _ present).1 rfl, ?_⟩
    intro value present
    obtain ⟨member, listed, rfl⟩ := List.mem_map.1 present
    exact (all member listed).2

theorem references_are_texts_string (text : String) :
    Value.ReferencesAreTexts (.string text) :=
  Value.all_mappings_scalar (by simp [Value.kind])

/-- Where every `$ref` is a string, a mapping that is no reference node has no `$ref` at all. -/
theorem no_reference_key {members : Members} (texts : Value.ReferencesAreTexts (.object members))
    (plain : referencePointer? members = none) : Members.get? referenceKey members = none := by
  cases found : Members.get? referenceKey members with
  | none => rfl
  | some member =>
      obtain ⟨text, rfl⟩ := texts members (.here _) member (Members.mem_of_get found)
      simp [referencePointer?, found] at plain

theorem resolved_mapping_plain {members resolved : Members}
    (texts : Value.ReferencesAreTexts (.object members)) (plain : referencePointer? members = none)
    (sameKeys : Members.keys resolved = Members.keys members) :
    referencePointer? resolved = none := by
  have absent : Members.get? referenceKey resolved = none := by
    rw [Members.get_eq_none_iff, sameKeys, ← Members.get_eq_none_iff]
    exact no_reference_key texts plain
  simp [referencePointer?, absent]

def Faithful (root : Value) (progress : Progress) : Prop :=
  ∀ pointer resolved, progress.cached? pointer = some resolved →
    ∀ members, LocalReference members pointer → Alike root (.object members) resolved

theorem resolver_keeps_meaning {root : Value} {options : RefOptions}
    (rootTexts : root.ReferencesAreTexts) :
    StepRule root options
      (fun before value result after => value.ReferencesAreTexts → Faithful root before →
        Alike root value result ∧ Faithful root after) Unconstrained where
  scalar := fun _ _ faithful => ⟨.refl _ _, faithful⟩
  external := fun _ _ _ faithful => ⟨.refl _ _, faithful⟩
  cached := fun node found _ faithful => ⟨faithful _ _ found _ node, faithful⟩
  -- A node that stays in place means itself, whatever is in progress.
  kept := fun _ _ _ _ _ faithful => ⟨.refl _ _, faithful⟩
  followed := by
    intro progress after members pointer target result node fresh reached inner _ _ faithful
    obtain ⟨alike, faithful⟩ := inner (rootTexts.inside (Pointer.inside_of_navigate reached)) faithful
    have means : ∀ others, LocalReference others pointer → Alike root (.object others) result :=
      fun others other => (alike_target other reached).trans alike
    refine ⟨means members node, ?_⟩
    intro other resolved found others reference
    obtain ⟨rfl, rfl⟩ | earlier := Progress.cached_of_finish found
    · exact means others reference
    · exact faithful other resolved earlier others reference
  sequence := by
    intro progress after items results walked texts faithful
    obtain ⟨correspond, faithful⟩ :=
      walked.carry (fun step => step) (fun _ => texts.of_item) faithful
    exact ⟨alike_sequence correspond, faithful⟩
  mapping := by
    intro progress after members resolved plain sameKeys walked texts faithful
    obtain ⟨correspond, faithful⟩ :=
      walked.carry (fun step => step) (fun _ => texts.of_member) faithful
    have resolvedPlain := resolved_mapping_plain texts plain sameKeys
    exact ⟨alike_mapping plain resolvedPlain ⟨sameKeys, correspond⟩, faithful⟩

/-- Resolution keeps what every path leads to, under either cycle policy. -/
theorem resolution_preserves_lookup {value root : Value} {options : RefOptions}
    {resolution : Resolution} (valueTexts : value.ReferencesAreTexts)
    (rootTexts : root.ReferencesAreTexts)
    (resolved : resolveRefs value root options = .ok resolution) (path : Route) :
    ((∃ found, Lookup root resolution.value path found) ↔ ∃ found, Lookup root value path found) ∧
      ∀ after before, Lookup root resolution.value path after → Lookup root value path before →
        after.shape = before.shape := by
  obtain ⟨done, finished, rfl⟩ := resolve_refs_eq_ok resolved
  have alike := ((resolver_keeps_meaning rootTexts).of_finished finished valueTexts
    (by intro pointer resolved found; simp at found)).1
  constructor
  · constructor
    · rintro ⟨found, lookup⟩
      obtain ⟨other, lookup, _⟩ := (alike path found.shape).2 ⟨found, lookup, rfl⟩
      exact ⟨other, lookup⟩
    · rintro ⟨found, lookup⟩
      obtain ⟨other, lookup, _⟩ := (alike path found.shape).1 ⟨found, lookup, rfl⟩
      exact ⟨other, lookup⟩
  · intro after before lookupAfter lookupBefore
    obtain ⟨other, lookup, same⟩ := (alike path before.shape).1 ⟨before, lookupBefore, rfl⟩
    rw [lookup_unique lookupAfter lookup, same]

def recursiveReference : Members := [(referenceKey, .string "#/node")]

def recursiveDocument : Value := .object [("node", .object [("next", .object recursiveReference)])]

def recursiveResolution : Resolution where
  value := .object [("next", .object recursiveReference)]
  consumed := .empty
  preserved := NameSet.empty.insert "#/node"

theorem recursive_resolution :
    resolveRefs (.object recursiveReference) recursiveDocument { onCycle := .preserve } =
      .ok recursiveResolution := by
  have node : LocalReference recursiveReference "#/node" := ⟨rfl, rfl⟩
  have plain : referencePointer? [("next", .object recursiveReference)] = none := rfl
  have reached : Pointer.navigate recursiveDocument "#/node" =
      .ok (.object [("next", .object recursiveReference)]) := rfl
  have elsewhere : RefOptions.isDefinition { onCycle := .preserve } "#/node" = false := by decide
  simp [resolveRefs, resolve_local_reference node, resolve_plain_mapping plain, resolveMembers,
    reached, elsewhere, recursiveResolution, Progress.start, Progress.enter, Progress.cached?,
    Members.get?, Progress.keep, Progress.finish]

/-- The resolved node ends after one step; further steps go on through the document. -/
theorem recursive_lookup_preserved :
    Value.ReferencesAreTexts (.object recursiveReference) ∧ recursiveDocument.ReferencesAreTexts ∧
      ((∃ found, Lookup recursiveDocument recursiveResolution.value
          [.key "next", .key "next", .key "next"] found) ↔
        ∃ found, Lookup recursiveDocument (.object recursiveReference)
          [.key "next", .key "next", .key "next"] found) ∧
      ∀ after before,
        Lookup recursiveDocument recursiveResolution.value
          [.key "next", .key "next", .key "next"] after →
        Lookup recursiveDocument (.object recursiveReference)
          [.key "next", .key "next", .key "next"] before →
        after.shape = before.shape := by
  have valueTexts : Value.ReferencesAreTexts (.object recursiveReference) := by
    simp [references_are_texts_mapping, recursiveReference, references_are_texts_string]
  have rootTexts : recursiveDocument.ReferencesAreTexts := by
    simpa [references_are_texts_mapping, recursiveDocument, referenceKey] using valueTexts
  exact ⟨valueTexts, rootTexts,
    resolution_preserves_lookup valueTexts rootTexts recursive_resolution _⟩

end RefLint
