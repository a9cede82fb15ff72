import RefLint.Proofs.LazyLookup
import RefLint.Proofs.LintReport
import RefLint.Proofs.ResolverOptions

/-!
# The warning about missing content

The rules are run on the dereferenced document, but the linter looks for JSON:API
content in the document as it is written. A reference may bring a media type under
a `content` key, and what stands beside a `$ref` is lost with it. So the warning
is right exactly when the written document offers content just in case content
shows once its references are followed.
-/

namespace RefLint.Lint

set_option autoImplicit false

def IsTyped (value : Value) : Prop :=
  ∃ content, value = .object content ∧ Members.has jsonApiMediaType content = true

def HasTypedContent (members : Members) : Prop :=
  ∃ content, Members.get? "content" members = some content ∧ IsTyped content

def OffersContent (value : Value) : Prop :=
  ∃ members, Inside (.object members) value ∧ HasTypedContent members

section Scan

variable {members others : Members} {items : List Value} {value : Value}

theorem is_typed_congr (sameKeys : Members.keys others = Members.keys members) :
    IsTyped (.object others) ↔ IsTyped (.object members) := by
  have present : ∀ members, Members.has jsonApiMediaType members = true ↔
      jsonApiMediaType ∈ Members.keys members := by
    intro members
    rw [Members.has, Option.isSome_iff_ne_none, ne_eq, Members.get_eq_none_iff, not_not]
  simp only [IsTyped, Value.object.injEq, exists_eq_left', present, sameKeys]

theorem offers_content_iff :
    OffersContent value ↔ ¬value.AllMappings fun members => ¬HasTypedContent members := by
  simp [OffersContent, Value.AllMappings]

theorem not_offers_of_scalar (scalar : value.IsScalar) : ¬OffersContent value := by
  rintro ⟨members, place, _⟩
  cases place <;> exact scalar

theorem offers_sequence_iff :
    OffersContent (.array items) ↔ ∃ item ∈ items, OffersContent item := by
  simp [offers_content_iff, Value.all_mappings_array]

theorem offers_mapping_iff : OffersContent (.object members) ↔
    HasTypedContent members ∨ ∃ value ∈ members.map (·.2), OffersContent value := by
  simp only [offers_content_iff, Value.all_mappings_object, not_and_or, not_not, not_forall,
    exists_prop]

theorem has_content_mapping : hasJsonApiContent (.object members) = true ↔
    HasTypedContent members ∨ hasJsonApiContent.inMembers members = true := by
  rw [hasJsonApiContent, Bool.or_eq_true]
  refine or_congr_left ?_
  unfold HasTypedContent IsTyped
  split
  · rename_i content found
    simp [found]
  · rename_i notMapping
    simp only [Bool.false_eq_true, false_iff]
    rintro ⟨_, found, content, rfl, _⟩
    exact notMapping content found

theorem has_content_of_scalar (scalar : value.IsScalar) :
    hasJsonApiContent value = true ↔ OffersContent value := by
  have offersNone : ¬OffersContent value := not_offers_of_scalar scalar
  cases value with
  | array => contradiction
  | object => contradiction
  | null | bool | number | string => simpa [hasJsonApiContent] using offersNone

mutual

/-- The scan of the linter finds the content that a value offers. -/
theorem has_content_iff : ∀ value, hasJsonApiContent value = true ↔ OffersContent value
  | .object members => by
      rw [offers_mapping_iff, has_content_mapping, members_have_content_iff members]
  | .array items => by
      rw [offers_sequence_iff, hasJsonApiContent, items_have_content_iff items]
  | .null => has_content_of_scalar trivial
  | .bool _ => has_content_of_scalar trivial
  | .number _ => has_content_of_scalar trivial
  | .string _ => has_content_of_scalar trivial

theorem items_have_content_iff : ∀ items, hasJsonApiContent.inItems items = true ↔
    ∃ item ∈ items, OffersContent item
  | [] => by simp [hasJsonApiContent.inItems]
  | item :: rest => by
      rw [hasJsonApiContent.inItems, Bool.or_eq_true, has_content_iff item,
        items_have_content_iff rest, List.exists_mem_cons_iff]

theorem members_have_content_iff : ∀ members : Members,
    hasJsonApiContent.inMembers members = true ↔
      ∃ value ∈ members.map (·.2), OffersContent value
  | [] => by simp [hasJsonApiContent.inMembers]
  | (key, value) :: rest => by
      rw [hasJsonApiContent.inMembers, Bool.or_eq_true, has_content_iff value,
        members_have_content_iff rest, List.map_cons, List.exists_mem_cons_iff]

end

/-- The linter warns about missing content when the written document offers none. -/
theorem content_warned_iff {document : Value} {file : String} :
    (∃ diagnostic ∈ lintDocument document file, diagnostic.problem.code = "W004") ↔
      ¬OffersContent document := by
  rw [← has_content_iff, Bool.not_eq_true]
  constructor
  · rintro ⟨diagnostic, listed, code⟩
    rcases mem_lint_iff.1 listed with
      ⟨occurrence, _, problem, reported, rfl⟩ | ⟨_, rfl⟩ | ⟨offersNone, _⟩
    · cases reported with
      | flawed found =>
          have among := flaw_code_listed found
          rw [show problem.code = "W004" from code] at among
          simp at among
      | cyclic => simp [Diagnostic.atPath, Problem.code] at code
    · simp [Diagnostic.atPath, Problem.code] at code
    · exact offersNone
  · intro offersNone
    exact ⟨_, mem_lint_iff.2 (.inr (.inr ⟨offersNone, rfl⟩)), rfl⟩

end Scan

section Shown

/-- What a value stands for once its references are followed is a mapping with the
JSON:API media type. -/
def MeansTyped (root value : Value) : Prop := ∃ found, Lookup root value [] found ∧ IsTyped found

/-- Following the references of a value shows content of the JSON:API media type.
Nothing beside a local `$ref` shows; an external reference node is left as it is. -/
inductive Shown (root : Value) : Value → Prop where
  | content {members : Members} {content : Value} (plain : referencePointer? members = none)
      (present : Members.get? "content" members = some content)
      (typed : MeansTyped root content) : Shown root (.object members)
  | member {members : Members} {value : Value} (plain : referencePointer? members = none)
      (present : value ∈ members.map (·.2)) (deeper : Shown root value) :
      Shown root (.object members)
  | item {items : List Value} {value : Value} (present : value ∈ items)
      (deeper : Shown root value) : Shown root (.array items)
  | target {members : Members} {pointer : String} {target : Value}
      (node : LocalReference members pointer)
      (reached : Pointer.navigate root pointer = .ok target) (onward : Shown root target) :
      Shown root (.object members)
  | external {members : Members} {pointer : String}
      (reference : referencePointer? members = some pointer)
      (isExternal : Pointer.isLocal pointer = false) (offers : OffersContent (.object members)) :
      Shown root (.object members)

variable {root value target : Value} {members : Members} {items : List Value} {pointer : String}

theorem means_typed_ended (ended : value.localPointer? = none) :
    MeansTyped root value ↔ IsTyped value := by
  constructor
  · rintro ⟨found, lookup, typed⟩
    exact lookup_unique lookup (.here ended) ▸ typed
  · intro typed
    exact ⟨value, .here ended, typed⟩

theorem means_typed_target (node : LocalReference members pointer)
    (reached : Pointer.navigate root pointer = .ok target) :
    MeansTyped root (.object members) ↔ MeansTyped root target := by
  have reference := local_pointer_iff.2 node
  constructor
  · rintro ⟨found, lookup, typed⟩
    cases lookup with
    | here ended => simp [ended] at reference
    | follow reference' reached' onward =>
        obtain rfl := Option.some.inj (reference.symm.trans reference')
        obtain rfl := Except.ok.inj (reached.symm.trans reached')
        exact ⟨found, onward, typed⟩
  · rintro ⟨found, onward, typed⟩
    exact ⟨found, .follow reference reached onward, typed⟩

theorem not_shown_of_scalar (scalar : value.IsScalar) : ¬Shown root value := by
  intro shown
  cases shown <;> exact scalar

theorem shown_sequence_iff :
    Shown root (.array items) ↔ ∃ item ∈ items, Shown root item := by
  constructor
  · intro shown
    cases shown with
    | item present deeper => exact ⟨_, present, deeper⟩
  · rintro ⟨item, present, deeper⟩
    exact .item present deeper

theorem shown_mapping_iff (plain : referencePointer? members = none) :
    Shown root (.object members) ↔
      (∃ content, Members.get? "content" members = some content ∧ MeansTyped root content) ∨
        ∃ value ∈ members.map (·.2), Shown root value := by
  constructor
  · intro shown
    cases shown with
    | content _ present typed => exact .inl ⟨_, present, typed⟩
    | member _ present deeper => exact .inr ⟨_, present, deeper⟩
    | target node => simp [node.reference] at plain
    | external reference => simp [reference] at plain
  · rintro (⟨content, present, typed⟩ | ⟨value, present, deeper⟩)
    · exact .content plain present typed
    · exact .member plain present deeper

theorem shown_target_iff (node : LocalReference members pointer)
    (reached : Pointer.navigate root pointer = .ok target) :
    Shown root (.object members) ↔ Shown root target := by
  constructor
  · intro shown
    cases shown with
    | content plain => simp [node.reference] at plain
    | member plain => simp [node.reference] at plain
    | target node' reached' onward =>
        obtain rfl := Option.some.inj (node.reference.symm.trans node'.reference)
        obtain rfl := Except.ok.inj (reached.symm.trans reached')
        exact onward
    | external reference isExternal =>
        obtain rfl := Option.some.inj (node.reference.symm.trans reference)
        simp [node.isLocal] at isExternal
  · exact .target node reached

theorem shown_external_iff (reference : referencePointer? members = some pointer)
    (isExternal : Pointer.isLocal pointer = false) :
    Shown root (.object members) ↔ OffersContent (.object members) := by
  constructor
  · intro shown
    cases shown with
    | content plain => simp [reference] at plain
    | member plain => simp [reference] at plain
    | target node =>
        obtain rfl := Option.some.inj (node.reference.symm.trans reference)
        simp [node.isLocal] at isExternal
    | external _ _ offers => exact offers
  · exact .external reference isExternal

end Shown

section Resolver

variable {root value target result : Value} {members resolved : Members} {items results : List Value}
  {pointer : String} {options : RefOptions}

structure Describes (root value result : Value) : Prop where
  typed : MeansTyped root value ↔ IsTyped result
  content : Shown root value ↔ OffersContent result

theorem describes_scalar (scalar : value.IsScalar) : Describes root value value where
  typed := by
    refine means_typed_ended ?_
    cases value with
    | array => exact scalar.elim
    | object => exact scalar.elim
    | null | bool | number | string => rfl
  content := iff_of_false (not_shown_of_scalar scalar) (not_offers_of_scalar scalar)

theorem describes_external (reference : referencePointer? members = some pointer)
    (isExternal : Pointer.isLocal pointer = false) :
    Describes root (.object members) (.object members) where
  typed := means_typed_ended (by simp [Value.localPointer?, reference, isExternal])
  content := shown_external_iff reference isExternal

theorem describes_target (node : LocalReference members pointer)
    (reached : Pointer.navigate root pointer = .ok target) (inner : Describes root target result) :
    Describes root (.object members) result where
  typed := (means_typed_target node reached).trans inner.typed
  content := (shown_target_iff node reached).trans inner.content

theorem describes_sequence (correspond : List.Forall₂ (Describes root) items results) :
    Describes root (.array items) (.array results) where
  typed := by
    rw [means_typed_ended rfl]
    simp [IsTyped]
  content := by
    rw [shown_sequence_iff, offers_sequence_iff]
    induction correspond with
    | nil => simp
    | cons first _ ih => rw [List.exists_mem_cons_iff, List.exists_mem_cons_iff, first.content, ih]

theorem describes_mapping (plain : referencePointer? members = none)
    (correspond : Members.Correspond (Describes root) members resolved) :
    Describes root (.object members) (.object resolved) where
  typed := by
    rw [means_typed_ended (local_pointer_plain plain)]
    exact (is_typed_congr correspond.1).symm
  content := by
    rw [shown_mapping_iff plain, offers_mapping_iff]
    refine or_congr ?_ ?_
    · have related := Members.get_of_correspond correspond "content"
      unfold HasTypedContent
      generalize Members.get? "content" members = content at related
      generalize Members.get? "content" resolved = other at related
      cases related with
      | none => simp
      | some describes => simpa using describes.typed
    · have values := describes_sequence correspond.2
      rw [← shown_sequence_iff, values.content, offers_sequence_iff]

def Remembers (root : Value) (progress : Progress) : Prop :=
  ∀ pointer resolved, progress.cached? pointer = some resolved →
    ∀ members, LocalReference members pointer → Describes root (.object members) resolved

theorem resolver_shows_content (refuses : options.onCycle = .refuse) :
    StepRule root options
      (fun before value result after => Remembers root before →
        Describes root value result ∧ Remembers root after) Unconstrained where
  scalar := fun scalar remembers => ⟨describes_scalar scalar, remembers⟩
  external := fun reference isExternal remembers =>
    ⟨describes_external reference isExternal, remembers⟩
  cached := fun node found remembers => ⟨remembers _ _ found _ node, remembers⟩
  -- A node left in place would keep what stands beside its `$ref`.
  kept := fun preserves => by simp [refuses] at preserves
  followed := by
    intro progress after members pointer target result node _ reached inner _ remembers
    obtain ⟨describes, remembers⟩ := inner remembers
    have means : ∀ others, LocalReference others pointer → Describes root (.object others) result :=
      fun others other => describes_target other reached describes
    refine ⟨means members node, ?_⟩
    intro other resolved found others reference
    obtain ⟨rfl, rfl⟩ | earlier := Progress.cached_of_finish found
    · exact means others reference
    · exact remembers other resolved earlier others reference
  sequence := by
    intro progress after items results walked remembers
    obtain ⟨correspond, remembers⟩ :=
      walked.carry (fun step _ => step) (fun _ _ => True.intro) remembers
    exact ⟨describes_sequence correspond, remembers⟩
  mapping := by
    intro progress after members resolved plain sameKeys walked remembers
    obtain ⟨correspond, remembers⟩ :=
      walked.carry (fun step _ => step) (fun _ _ => True.intro) remembers
    exact ⟨describes_mapping plain ⟨sameKeys, correspond⟩, remembers⟩

/-- A dereferenced document offers the content that its references show. -/
theorem dereferenced_offers_iff {document : Value} (keeps : options.prune = false)
    (refuses : options.onCycle = .refuse) (dereferenced : dereference document options = .ok result) :
    OffersContent result ↔ Shown document document := by
  obtain ⟨resolution, found, rfl⟩ := dereference_eq_ok.1 dereferenced
  obtain ⟨done, finished, rfl⟩ := resolve_refs_eq_ok found
  have describes := ((resolver_shows_content refuses).of_finished finished
    (by intro pointer resolved found; simp at found)).1
  simpa [keeps] using describes.content.symm

end Resolver

section Verdict

variable {document result value : Value} {options : RefOptions}

/-- The warning about missing content says of a document what is so of its dereferenced form. -/
def WarnsTruly (document result : Value) (file : String) : Prop :=
  (∃ diagnostic ∈ lintDocument document file, diagnostic.problem.code = "W004") ↔
    ¬OffersContent result

/-- No `content` is a local reference, and no content stands beside a local `$ref`. -/
structure ContentInPlace (document : Value) : Prop where
  written : document.AllMappings fun members => ∀ content,
    Members.get? "content" members = some content → content.localPointer? = none
  beside : document.AllMappings fun members => OffersContent (.object members) →
    (Value.object members).localPointer? = none

theorem shown_of_typed {members : Members} (inPlace : ContentInPlace document)
    (typed : HasTypedContent members) (place : Inside (.object members) value)
    (placed : Inside value document) : Shown document value := by
  -- A reference node that holds the mapping is external, so it stays with all it holds.
  have shown_of_reference : ∀ {others pointer}, referencePointer? others = some pointer →
      Inside (.object members) (.object others) → Inside (.object others) document →
      Shown document (.object others) := by
    intro others pointer reference inner outer
    have offers : OffersContent (.object others) := ⟨members, inner, typed⟩
    cases isLocal : Pointer.isLocal pointer with
    | true =>
        have ended := inPlace.beside others outer offers
        simp [local_pointer_iff.2 ⟨reference, isLocal⟩] at ended
    | false => exact .external reference isLocal offers
  induction place with
  | here =>
      obtain ⟨content, present, isTyped⟩ := typed
      cases reference : referencePointer? members with
      | some pointer => exact shown_of_reference reference (.here _) placed
      | none =>
          have ended := inPlace.written members placed content present
          exact .content reference present ((means_typed_ended ended).2 isTyped)
  | @member _ _ others present deeper ih =>
      cases reference : referencePointer? others with
      | some pointer => exact shown_of_reference reference (.member present deeper) placed
      | none =>
          have inner := (Inside.member present (.here _)).trans placed
          exact .member reference (List.mem_map_of_mem present) (ih inner)
  | item present _ ih => exact .item present (ih ((Inside.item present (.here _)).trans placed))

theorem offers_of_shown (inPlace : ContentInPlace document) (shown : Shown document value)
    (placed : Inside value document) : OffersContent document := by
  induction shown with
  | @content members content _ present typed =>
      have ended := inPlace.written members placed content present
      exact ⟨members, placed, content, present, (means_typed_ended ended).1 typed⟩
  | member _ present _ ih =>
      obtain ⟨_, listed, rfl⟩ := List.mem_map.1 present
      exact ih ((Inside.member listed (.here _)).trans placed)
  | item present _ ih => exact ih ((Inside.item present (.here _)).trans placed)
  | target _ reached _ ih => exact ih (Pointer.inside_of_navigate reached)
  | external _ _ offers =>
      obtain ⟨members, inner, typed⟩ := offers
      exact ⟨members, inner.trans placed, typed⟩

theorem offers_iff_shown (inPlace : ContentInPlace document) :
    OffersContent document ↔ Shown document document := by
  constructor
  · rintro ⟨members, place, typed⟩
    exact shown_of_typed inPlace typed place (.here _)
  · intro shown
    exact offers_of_shown inPlace shown (.here _)

/-- The warning about missing content is right exactly when the written document
offers content just in case content shows once its references are followed. So it
is right about every document with all content in place. -/
theorem content_warning_true_iff (keeps : options.prune = false)
    (refuses : options.onCycle = .refuse) (dereferenced : dereference document options = .ok result)
    (file : String) :
    (WarnsTruly document result file ↔ (OffersContent document ↔ Shown document document)) ∧
      (ContentInPlace document → WarnsTruly document result file) := by
  have agrees : WarnsTruly document result file ↔
      (OffersContent document ↔ Shown document document) := by
    rw [WarnsTruly, content_warned_iff, dereferenced_offers_iff keeps refuses dereferenced,
      not_iff_not]
  exact ⟨agrees, fun inPlace => agrees.2 (offers_iff_shown inPlace)⟩

end Verdict

section Sharing

variable {key : String} {beside : Members} {shared : Value}

def sharingDocument (key : String) (beside : Members) (shared : Value) : Value := .object [
  ("components", .object [("shared", shared)]),
  (key, .object ((referenceKey, .string "#/components/shared") :: beside))]

def sharedDocument (key : String) (shared : Value) : Value :=
  .object [("components", .object [("shared", shared)]), (key, shared)]

theorem sharing_dereferenced (plain : ∀ before,
    RunsTo (sharingDocument key beside shared) { prune := false } before shared shared before) :
    dereference (sharingDocument key beside shared) { prune := false } =
      .ok (sharedDocument key shared) := by
  have runs := resolver_runs (sharingDocument key beside shared) { prune := false }
  have node : LocalReference ((referenceKey, .string "#/components/shared") :: beside)
    "#/components/shared" := ⟨rfl, rfl⟩
  have inner := runs.followed node ⟨rfl, by simp [Progress.start]⟩ rfl
    (plain (Progress.start.enter "#/components/shared")) rfl
  have definitions : RunsTo (sharingDocument key beside shared) { prune := false } .start
      (.object [("shared", shared)]) (.object [("shared", shared)]) .start :=
    runs.mapping rfl rfl (.cons (plain .start) rfl (.nil .start))
  have mapping : referencePointer? [("components", .object [("shared", shared)]),
      (key, .object ((referenceKey, .string "#/components/shared") :: beside))] = none := by
    by_cases same : key = "$ref" <;> simp [referencePointer?, Members.get?, same, referenceKey]
  have document : RunsTo (sharingDocument key beside shared) { prune := false } .start
      (sharingDocument key beside shared) (sharedDocument key shared) _ :=
    runs.mapping mapping rfl (.cons definitions rfl (.cons inner rfl (.nil _)))
  exact dereference_eq_ok.2 ⟨_, resolve_refs_of_run document, rfl⟩

def typedContent : Value := .object [(jsonApiMediaType, .object [])]

def typedResponse : Value := .object [("content", typedContent)]

theorem typed_content_runs (root : Value) (options : RefOptions) (before : Progress) :
    RunsTo root options before typedContent typedContent before := by
  have runs := resolver_runs root options
  have empty : RunsTo root options before (.object []) (.object []) before :=
    runs.mapping rfl rfl (.nil before)
  exact runs.mapping rfl rfl (.cons empty rfl (.nil before))

theorem typed_response_runs (root : Value) (options : RefOptions) (before : Progress) :
    RunsTo root options before typedResponse typedResponse before :=
  (resolver_runs root options).mapping rfl rfl
    (.cons (typed_content_runs root options before) rfl (.nil before))

/-- The content of a response that is referenced as a whole stays in place. -/
theorem referenced_response_warned_truly :
    dereference (sharingDocument "paths" [] typedResponse) { prune := false } =
        .ok (sharedDocument "paths" typedResponse) ∧
      ContentInPlace (sharingDocument "paths" [] typedResponse) ∧
      WarnsTruly (sharingDocument "paths" [] typedResponse) (sharedDocument "paths" typedResponse)
        "openapi.json" := by
  have dereferenced : dereference (sharingDocument "paths" [] typedResponse) { prune := false } =
    .ok (sharedDocument "paths" typedResponse) := sharing_dereferenced (typed_response_runs _ _)
  have inPlace : ContentInPlace (sharingDocument "paths" [] typedResponse) := by
    have bare : ¬OffersContent (.object [("$ref", .string "#/components/shared")]) := by
      rw [← has_content_iff]
      decide
    have text : ∀ holds, Value.AllMappings holds (.string "#/components/shared") :=
      fun holds => Value.all_mappings_scalar (by simp [Value.kind])
    constructor <;>
      simp [sharingDocument, typedResponse, typedContent, Value.all_mappings_object, bare, text,
        Members.get?, Value.localPointer?, referencePointer?, referenceKey, jsonApiMediaType]
  exact ⟨dereferenced, inPlace, (content_warning_true_iff rfl rfl dereferenced _).2 inPlace⟩

/-- A `content` that is a reference is not seen by the linter. -/
theorem referenced_content_warned_wrongly :
    dereference (sharingDocument "content" [] typedContent) { prune := false } =
        .ok (sharedDocument "content" typedContent) ∧
      (∃ diagnostic ∈ lintDocument (sharingDocument "content" [] typedContent) "openapi.json",
        diagnostic.problem.code = "W004") ∧
      OffersContent (sharedDocument "content" typedContent) := by
  refine ⟨sharing_dereferenced (typed_content_runs _ _), ?_, ?_⟩
  · rw [content_warned_iff, ← has_content_iff]
    decide
  · rw [← has_content_iff]
    decide

/-- Content beside a `$ref` is seen by the linter, but is lost with the reference. -/
theorem hidden_content_not_warned :
    dereference (sharingDocument "paths" [("content", typedContent)] (.string "text"))
        { prune := false } = .ok (sharedDocument "paths" (.string "text")) ∧
      (¬∃ diagnostic ∈ lintDocument
          (sharingDocument "paths" [("content", typedContent)] (.string "text")) "openapi.json",
        diagnostic.problem.code = "W004") ∧
      ¬OffersContent (sharedDocument "paths" (.string "text")) := by
  refine ⟨sharing_dereferenced fun before => (resolver_runs _ _).scalar trivial, ?_, ?_⟩
  · rw [content_warned_iff, ← has_content_iff]
    decide
  · rw [← has_content_iff]
    decide

end Sharing

end RefLint.Lint
