import RefLint.Lint.Document
import RefLint.Proofs.DistinctKeys
import RefLint.Proofs.PointerSpelling
import RefLint.Proofs.ResolverRules

/-!
# Where reference nodes stand

The linter walks a document and writes down, for each reference node that it meets, the
steps that led there. Nothing inside a reference node is met. What is written leads back
to the node, and no two nodes are written down alike.
-/

namespace RefLint

set_option autoImplicit false

/-- The reference node with the pointer stands at the end of the route, and the route goes
through no other reference node. -/
inductive ReferenceAt : Value → Route → String → Prop where
  | here {members : Members} {pointer : String}
      (reference : referencePointer? members = some pointer) :
      ReferenceAt (.object members) [] pointer
  | member {members : Members} {key pointer : String} {value : Value} {route : Route}
      (plain : referencePointer? members = none) (present : (key, value) ∈ members)
      (deeper : ReferenceAt value route pointer) :
      ReferenceAt (.object members) (.key key :: route) pointer
  | item {items : List Value} {position : Nat} {value : Value} {route : Route} {pointer : String}
      (present : items[position]? = some value) (deeper : ReferenceAt value route pointer) :
      ReferenceAt (.array items) (.position position :: route) pointer

def Route.path (route : Route) : String :=
  String.join (route.map fun step => "/" ++ Pointer.escape step.segment)

section Paths

variable {first second : Route}

theorem path_cons (step : Step) (route : Route) :
    Route.path (step :: route) = "/" ++ Pointer.escape step.segment ++ route.path := by
  simp [Route.path]

theorem path_key (front key : String) (route : Route) :
    front ++ Route.path (.key key :: route) = front ++ "/" ++ Pointer.escape key ++ route.path := by
  simp only [path_cons, Step.segment, String.append_assoc]

theorem path_position (front : String) (position : Nat) (route : Route) :
    front ++ Route.path (.position position :: route) =
      front ++ "/" ++ toString position ++ route.path := by
  simp only [path_cons, Step.segment, Pointer.escape_position, String.append_assoc]

theorem marked_path (route : Route) :
    "#" ++ route.path = Pointer.ofKeys (route.map Step.segment) := by
  rw [Pointer.ofKeys, List.map_map]
  rfl

theorem segments_of_path_injective (same : first.path = second.path) :
    first.map Step.segment = second.map Step.segment := by
  apply Pointer.of_keys_injective
  rw [← marked_path, ← marked_path, same]

theorem path_eq_empty_iff (route : Route) : route.path = "" ↔ route = [] := by
  cases route with
  | nil => exact iff_of_true rfl rfl
  | cons step rest => simp [path_cons]

end Paths

section Met

variable {value document : Value} {members : Members} {items : List Value} {route place : Route}
  {pointer other : String}

theorem not_reference_at_scalar (scalar : value.IsScalar) : ¬ReferenceAt value route pointer := by
  intro met
  cases met <;> exact scalar

theorem reference_at_reference_iff (reference : referencePointer? members = some other) :
    ReferenceAt (.object members) route pointer ↔ route = [] ∧ pointer = other := by
  constructor
  · intro met
    cases met with
    | here found => exact ⟨rfl, Option.some.inj (found.symm.trans reference)⟩
    | member plain =>
        rw [reference] at plain
        contradiction
  · rintro ⟨rfl, rfl⟩
    exact .here reference

theorem reference_at_mapping_iff (plain : referencePointer? members = none) :
    ReferenceAt (.object members) route pointer ↔ ∃ key value deeper, (key, value) ∈ members ∧
      ReferenceAt value deeper pointer ∧ route = .key key :: deeper := by
  constructor
  · intro met
    cases met with
    | here found =>
        rw [plain] at found
        contradiction
    | member _ present deeper => exact ⟨_, _, _, present, deeper, rfl⟩
  · rintro ⟨key, value, deeper, present, met, rfl⟩
    exact .member plain present met

theorem reference_at_sequence_iff :
    ReferenceAt (.array items) route pointer ↔ ∃ position value deeper,
      items[position]? = some value ∧ ReferenceAt value deeper pointer ∧
        route = .position position :: deeper := by
  constructor
  · intro met
    cases met with
    | item present deeper => exact ⟨_, _, _, present, deeper, rfl⟩
  · rintro ⟨position, value, deeper, present, met, rfl⟩
    exact .item present met

/-- The node stands at the end of the route, also for someone who looks keys up. -/
theorem ReferenceAt.stands (met : ReferenceAt value route pointer) (distinct : value.KeysDistinct) :
    ∃ members, value.at? route = some (.object members) ∧
      referencePointer? members = some pointer := by
  induction met with
  | @here members pointer reference => exact ⟨members, rfl, reference⟩
  | @member members key pointer value route plain present deeper ih =>
      obtain ⟨keys, parts⟩ := Value.all_mappings_object.1 distinct
      obtain ⟨inner, found, reference⟩ := ih (parts value (List.mem_map_of_mem present))
      have child : Value.child? (.object members) (.key key) = some value :=
        Members.get_of_mem keys present
      exact ⟨inner, by simp [Value.at?, child, found], reference⟩
  | @item items position value route pointer present deeper ih =>
      have parts := Value.all_mappings_array.1 distinct
      obtain ⟨inner, found, reference⟩ := ih (parts value (List.mem_of_getElem? present))
      have child : Value.child? (.array items) (.position position) = some value := present
      exact ⟨inner, by simp [Value.at?, child, found], reference⟩

theorem ReferenceAt.route_of_segments (met : ReferenceAt value route pointer)
    (distinct : value.KeysDistinct) :
    Pointer.route? value (route.map Step.segment) = some route := by
  obtain ⟨_, found, _⟩ := met.stands distinct
  exact Pointer.route_of_segments found

/-- What the linter writes for a node is, behind a `#`, a pointer to the node. -/
theorem ReferenceAt.navigates (met : ReferenceAt document route pointer)
    (distinct : document.KeysDistinct) :
    ∃ members, Pointer.navigate document ("#" ++ route.path) = .ok (.object members) ∧
      referencePointer? members = some pointer := by
  obtain ⟨members, found, reference⟩ := met.stands distinct
  refine ⟨members, Pointer.navigate_eq_ok_iff_route.2 ⟨route, ?_, found⟩, reference⟩
  rw [marked_path, Pointer.segments_of_keys]
  exact met.route_of_segments distinct

theorem ReferenceAt.path_injective (met : ReferenceAt document route pointer)
    (also : ReferenceAt document place other) (distinct : document.KeysDistinct)
    (same : route.path = place.path) : route = place := by
  have first := met.route_of_segments distinct
  rw [segments_of_path_injective same] at first
  exact Option.some.inj (first.symm.trans (also.route_of_segments distinct))

end Met

namespace Lint

section Walk

variable {occurrence : Occurrence} {front : String}

theorem mem_occurrences_scalar {value : Value} (scalar : value.IsScalar) :
    occurrence ∈ occurrences front value ↔
      ∃ route, ReferenceAt value route occurrence.pointer ∧
        occurrence.path = front ++ route.path := by
  have nowhere : ∀ route, ¬ReferenceAt value route occurrence.pointer := fun route =>
    not_reference_at_scalar scalar
  cases value with
  | array => contradiction
  | object => contradiction
  | null | bool | number | string => simp [occurrences, nowhere]

-- The text in front of the path grows with each step in, so it is general throughout.
mutual

/-- The walk writes down the nodes that are met, and nothing else. -/
theorem mem_occurrences_iff (front : String) : ∀ value, occurrence ∈ occurrences front value ↔
    ∃ route, ReferenceAt value route occurrence.pointer ∧ occurrence.path = front ++ route.path
  | .object members => by
      cases reference : referencePointer? members with
      | some pointer =>
          simp only [occurrences, reference, List.mem_singleton,
            reference_at_reference_iff reference]
          constructor
          · rintro rfl
            exact ⟨[], ⟨rfl, rfl⟩, String.append_empty.symm⟩
          · rintro ⟨route, ⟨rfl, samePointer⟩, samePath⟩
            obtain ⟨_, path⟩ := occurrence
            obtain rfl : path = front := samePath.trans String.append_empty
            exact congrArg (Occurrence.mk · path) samePointer
      | none =>
          simp only [occurrences, reference, mem_occurrences_members front members,
            reference_at_mapping_iff reference]
          constructor
          · rintro ⟨key, value, deeper, present, met, same⟩
            exact ⟨_, ⟨key, value, deeper, present, met, rfl⟩, same⟩
          · rintro ⟨_, ⟨key, value, deeper, present, met, rfl⟩, same⟩
            exact ⟨key, value, deeper, present, met, same⟩
  | .array items => by
      simp only [occurrences, mem_occurrences_items front 0 items, reference_at_sequence_iff,
        Nat.zero_add]
      constructor
      · rintro ⟨position, value, deeper, present, met, same⟩
        exact ⟨_, ⟨position, value, deeper, present, met, rfl⟩, same⟩
      · rintro ⟨_, ⟨position, value, deeper, present, met, rfl⟩, same⟩
        exact ⟨position, value, deeper, present, met, same⟩
  | .null => mem_occurrences_scalar trivial
  | .bool _ => mem_occurrences_scalar trivial
  | .number _ => mem_occurrences_scalar trivial
  | .string _ => mem_occurrences_scalar trivial

theorem mem_occurrences_items (front : String) (start : Nat) : ∀ items,
    occurrence ∈ occurrences.ofItems front start items ↔ ∃ position value deeper,
      items[position]? = some value ∧ ReferenceAt value deeper occurrence.pointer ∧
        occurrence.path = front ++ Route.path (.position (start + position) :: deeper)
  | [] => by simp [occurrences.ofItems]
  | item :: rest => by
      simp only [occurrences.ofItems, List.mem_append, mem_occurrences_iff _ item,
        mem_occurrences_items front (start + 1) rest]
      constructor
      · rintro (⟨deeper, met, same⟩ | ⟨position, value, deeper, present, met, same⟩)
        · exact ⟨0, item, deeper, rfl, met, by rw [same, path_position, Nat.add_zero]⟩
        · exact ⟨position + 1, value, deeper, present, met, by rw [same, Nat.add_right_comm]; rfl⟩
      · rintro ⟨position, value, deeper, present, met, same⟩
        cases position with
        | zero =>
            obtain rfl := Option.some.inj present
            exact .inl ⟨deeper, met, by rw [same, path_position, Nat.add_zero]⟩
        | succ position =>
            refine .inr ⟨position, value, deeper, present, met, ?_⟩
            rw [same, Nat.add_right_comm]
            rfl

theorem mem_occurrences_members (front : String) : ∀ members : Members,
    occurrence ∈ occurrences.ofMembers front members ↔ ∃ key value deeper,
      (key, value) ∈ members ∧ ReferenceAt value deeper occurrence.pointer ∧
        occurrence.path = front ++ Route.path (.key key :: deeper)
  | [] => by simp [occurrences.ofMembers]
  | (key, value) :: rest => by
      simp only [occurrences.ofMembers, List.mem_append, mem_occurrences_iff _ value,
        mem_occurrences_members front rest]
      constructor
      · rintro (⟨deeper, met, same⟩ | ⟨later, other, deeper, present, met, same⟩)
        · exact ⟨key, value, deeper, List.mem_cons_self, met, by rw [same, path_key]⟩
        · exact ⟨later, other, deeper, List.mem_cons_of_mem _ present, met, same⟩
      · rintro ⟨later, other, deeper, present, met, same⟩
        rcases List.mem_cons.1 present with first | present
        · obtain ⟨rfl, rfl⟩ := Prod.mk.inj first
          exact .inl ⟨deeper, met, by rw [same, path_key]⟩
        · exact .inr ⟨later, other, deeper, present, met, same⟩

end

end Walk

section Paths

-- Paths are compared by their segments, which tell keys and positions apart from what follows.
theorem head_of_path {front : String} {first second : Step} {route place : Route}
    (same : front ++ Route.path (first :: route) = front ++ Route.path (second :: place)) :
    first.segment = second.segment := by
  have segments := segments_of_path_injective ((String.append_right_inj front).1 same)
  exact (List.cons.inj segments).1

mutual

theorem paths_nodup (front : String) : ∀ value, value.KeysDistinct →
    ((occurrences front value).map (·.path)).Nodup
  | .object members, distinct => by
      obtain ⟨keys, parts⟩ := Value.all_mappings_object.1 distinct
      cases reference : referencePointer? members with
      | some pointer => simp [occurrences, reference]
      | none =>
          simp only [occurrences, reference]
          exact paths_of_members_nodup front members keys parts
  | .array items, distinct =>
      paths_of_items_nodup front 0 items (Value.all_mappings_array.1 distinct)
  | .null, _ => List.nodup_nil
  | .bool _, _ => List.nodup_nil
  | .number _, _ => List.nodup_nil
  | .string _, _ => List.nodup_nil

theorem paths_of_items_nodup (front : String) (start : Nat) : ∀ items : List Value,
    (∀ item ∈ items, item.KeysDistinct) →
      ((occurrences.ofItems front start items).map (·.path)).Nodup
  | [], _ => List.nodup_nil
  | item :: rest, distinct => by
      have head := paths_nodup (front ++ "/" ++ toString start) item
        (distinct item List.mem_cons_self)
      have tail := paths_of_items_nodup front (start + 1) rest
        fun later present => distinct later (List.mem_cons_of_mem _ present)
      rw [occurrences.ofItems, List.map_append]
      refine List.nodup_append.2 ⟨head, tail, ?_⟩
      intro path here other later samePath
      obtain ⟨first, present, rfl⟩ := List.mem_map.1 here
      obtain ⟨second, presentLater, rfl⟩ := List.mem_map.1 later
      obtain ⟨route, _, firstPath⟩ := (mem_occurrences_iff _ item).1 present
      obtain ⟨position, _, deeper, _, _, secondPath⟩ :=
        (mem_occurrences_items front (start + 1) rest).1 presentLater
      rw [firstPath, secondPath, ← path_position] at samePath
      have positions := congrArg Pointer.index? (head_of_path samePath)
      simp only [Step.segment, Pointer.index_to_string, Option.some.injEq] at positions
      omega

theorem paths_of_members_nodup (front : String) : ∀ members : Members,
    (Members.keys members).Nodup → (∀ value ∈ members.map (·.2), value.KeysDistinct) →
      ((occurrences.ofMembers front members).map (·.path)).Nodup
  | [], _, _ => List.nodup_nil
  | (key, value) :: rest, keys, distinct => by
      obtain ⟨absent, laterKeys⟩ := List.nodup_cons.1 keys
      have head := paths_nodup (front ++ "/" ++ Pointer.escape key) value
        (distinct value List.mem_cons_self)
      have tail := paths_of_members_nodup front rest laterKeys
        fun later present => distinct later (List.mem_cons_of_mem _ present)
      rw [occurrences.ofMembers, List.map_append]
      refine List.nodup_append.2 ⟨head, tail, ?_⟩
      intro path here other later samePath
      obtain ⟨first, present, rfl⟩ := List.mem_map.1 here
      obtain ⟨second, presentLater, rfl⟩ := List.mem_map.1 later
      obtain ⟨route, _, firstPath⟩ := (mem_occurrences_iff _ value).1 present
      obtain ⟨laterKey, laterValue, deeper, listed, _, secondPath⟩ :=
        (mem_occurrences_members front rest).1 presentLater
      rw [firstPath, secondPath, ← path_key] at samePath
      obtain rfl : key = laterKey := head_of_path samePath
      exact absent (List.mem_map.2 ⟨(key, laterValue), listed, rfl⟩)

end

end Paths

end Lint

end RefLint
