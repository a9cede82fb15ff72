import Mathlib.Data.Finset.Card
import RefLint.Proofs.DeletedMembers
import RefLint.Proofs.NeededDefinitions

/-!
# The members that a set of pointers names

Removing what pointers name, one after another, takes out the members that they named at
the start, whatever the order: what is left depends on the set of places alone. How many
removals succeed does depend on the order, and the order of the texts is the one in which
an outer member goes before those inside it.
-/

namespace RefLint

set_option autoImplicit false

open Pointer

section Marks

variable {gone more : Route → Bool} {key : String} {step : Step} {route : Route}

/-- A place that goes with a marked member, at it or inside it. Marks at items and at the
whole value take nothing out. -/
def Lost (gone : Route → Bool) (route : Route) : Prop :=
  ∃ place : Route, place <+: route ∧ place.EndsAtMember ∧ gone place = true

theorem ends_at_member_key (key : String) : Route.EndsAtMember [.key key] := ⟨key, rfl⟩

theorem not_ends_at_position (position : Nat) : ¬Route.EndsAtMember [.position position] := by
  rintro ⟨key, last⟩
  simp at last

theorem not_ends_at_nil : ¬Route.EndsAtMember [] := by
  rintro ⟨key, last⟩
  simp at last

theorem ends_at_member_cons (step : Step) (further : route ≠ []) :
    Route.EndsAtMember (step :: route) ↔ route.EndsAtMember := by
  cases route with
  | nil => contradiction
  | cons next rest => simp [Route.EndsAtMember, List.getLast?_cons_cons]

/-- One step in, the marks that count are those behind the step. -/
theorem lost_cons (step : Step) (route : Route) :
    Lost gone (step :: route) ↔ Route.EndsAtMember [step] ∧ gone [step] = true ∨
      Lost (fun place => gone (step :: place)) route := by
  constructor
  · rintro ⟨place, before, member, marked⟩
    cases place with
    | nil => exact absurd member not_ends_at_nil
    | cons first rest =>
        obtain ⟨rfl, onward⟩ := List.cons_prefix_cons.1 before
        by_cases whole : rest = []
        · subst whole
          exact .inl ⟨member, marked⟩
        · exact .inr ⟨rest, onward, (ends_at_member_cons first whole).1 member, marked⟩
  · rintro (⟨member, marked⟩ | ⟨place, before, member, marked⟩)
    · exact ⟨[step], List.cons_prefix_cons.2 ⟨rfl, List.nil_prefix⟩, member, marked⟩
    · have further : place ≠ [] := by
        rintro rfl
        exact not_ends_at_nil member
      exact ⟨step :: place, List.cons_prefix_cons.2 ⟨rfl, before⟩,
        (ends_at_member_cons step further).2 member, marked⟩

theorem not_lost_nil : ¬Lost gone [] := by
  rintro ⟨place, before, member, _⟩
  obtain rfl := List.prefix_nil.1 before
  exact not_ends_at_nil member

theorem lost_key_iff : Lost gone [.key key] ↔ gone [.key key] = true := by
  rw [lost_cons]
  simp [ends_at_member_key, not_lost_nil]

theorem lost_behind_kept (kept : gone [.key key] = false) :
    Lost gone (.key key :: route) ↔ Lost (fun place => gone (.key key :: place)) route := by
  rw [lost_cons]
  simp [kept]

theorem lost_behind_position (position : Nat) :
    Lost gone (.position position :: route) ↔
      Lost (fun place => gone (.position position :: place)) route := by
  rw [lost_cons]
  simp [not_ends_at_position]

-- The marks move with the value they are about, so they are general throughout.
mutual

theorem without_congr (gone more : Route → Bool) : ∀ value : Value,
    (∀ route, Lost gone route ↔ Lost more route) → value.without gone = value.without more
  | .object members, same => congrArg Value.object (without_members_congr gone more members same)
  | .array items, same => by
      apply congrArg Value.array
      apply without_items_congr gone more 0 items
      intro position _ route
      rw [← lost_behind_position, ← lost_behind_position, same]
  | .null, _ => rfl
  | .bool _, _ => rfl
  | .number _, _ => rfl
  | .string _, _ => rfl

theorem without_items_congr (gone more : Route → Bool) (start : Nat) : ∀ items : List Value,
    (∀ position, start ≤ position → ∀ route,
      Lost (fun place => gone (.position position :: place)) route ↔
        Lost (fun place => more (.position position :: place)) route) →
    Value.without.ofItems gone start items = Value.without.ofItems more start items
  | [], _ => rfl
  | item :: rest, same => by
      rw [Value.without.ofItems, Value.without.ofItems,
        without_congr _ _ item (same start (Nat.le_refl start)),
        without_items_congr gone more (start + 1) rest]
      exact fun position later => same position (by omega)

theorem without_members_congr (gone more : Route → Bool) : ∀ members : Members,
    (∀ route, Lost gone route ↔ Lost more route) →
    Value.without.ofMembers gone members = Value.without.ofMembers more members
  | [], _ => rfl
  | (key, value) :: rest, same => by
      have later := without_members_congr gone more rest same
      have marked : gone [.key key] = more [.key key] := by
        rw [Bool.eq_iff_iff, ← lost_key_iff, ← lost_key_iff]
        exact same [.key key]
      cases mark : more [.key key] with
      | true => rw [without_member_gone (marked.trans mark), without_member_gone mark, later]
      | false =>
          have kept := marked.trans mark
          have inner : (value.without fun place => gone (.key key :: place)) =
              value.without fun place => more (.key key :: place) := by
            apply without_congr _ _ value
            intro route
            rw [← lost_behind_kept kept, ← lost_behind_kept mark, same]
          rw [without_member_kept kept, without_member_kept mark, later, inner]

end

end Marks

section Parts

variable {gone : Route → Bool} {key : String} {members : Members} {items : List Value}
  {value : Value} {route : Route}

theorem get_without (kept : gone [.key key] = false) :
    Members.get? key (Value.without.ofMembers gone members) =
      (Members.get? key members).map fun member =>
        member.without fun place => gone (.key key :: place) := by
  induction members with
  | nil => rfl
  | cons first rest ih =>
      obtain ⟨name, member⟩ := first
      cases mark : gone [.key name] with
      | true =>
          have different : name ≠ key := by
            rintro rfl
            rw [kept] at mark
            contradiction
          rw [without_member_gone mark, ih, Members.get?, if_neg different]
      | false =>
          rw [without_member_kept mark, Members.get?, Members.get?]
          split
          · rename_i same
            subst same
            rfl
          · exact ih

theorem item_without (start position : Nat) :
    (Value.without.ofItems gone start items)[position]? =
      items[position]?.map fun item =>
        item.without fun place => gone (.position (start + position) :: place) := by
  induction items generalizing start position with
  | nil => rfl
  | cons item rest ih =>
      rw [Value.without.ofItems]
      cases position with
      | zero => rfl
      | succ position =>
          rw [List.getElem?_cons_succ, List.getElem?_cons_succ, ih, Nat.add_right_comm,
            Nat.add_assoc]

theorem length_without (start : Nat) :
    (Value.without.ofItems gone start items).length = items.length := by
  induction items generalizing start with
  | nil => rfl
  | cons item rest ih => rw [Value.without.ofItems, List.length_cons, List.length_cons, ih]

/-- At a place that is not lost stands what stood there, without the marked members
inside it. -/
theorem at_without (kept : ¬Lost gone route) :
    (value.without gone).at? route =
      (value.at? route).map fun part => part.without fun place => gone (route ++ place) := by
  induction route generalizing value gone with
  | nil => rfl
  | cons step rest ih =>
      have keptBehind : ¬Lost (fun place => gone (step :: place)) rest :=
        fun lost => kept ((lost_cons step rest).2 (.inr lost))
      have child : (value.without gone).child? step = (value.child? step).map fun next =>
          next.without fun place => gone (step :: place) := by
        cases value with
        | object members =>
            cases step with
            | key name =>
                have unmarked : gone [.key name] = false := by
                  rw [Bool.eq_false_iff]
                  exact fun marked =>
                    kept ((lost_cons _ rest).2 (.inl ⟨ends_at_member_key name, marked⟩))
                exact get_without unmarked
            | position => rfl
        | array items =>
            cases step with
            | key => rfl
            | position index =>
                have found := @item_without gone items 0 index
                rwa [Nat.zero_add] at found
        | null | bool | number | string => cases step <;> rfl
      rw [Value.at?, child, Value.at?]
      cases value.child? step with
      | none => rfl
      | some next => exact ih keptBehind

end Parts

section Named

variable {root smaller : Value} {pointers others : List String} {pointer : String}
  {place route : Route}

def Route.isMember (route : Route) : Bool :=
  match route.getLast? with
  | some (.key _) => true
  | _ => false

theorem is_member_iff : route.isMember = true ↔ route.EndsAtMember := by
  unfold Route.isMember Route.EndsAtMember
  split
  · rename_i key last
    simp [last]
  · rename_i notKey
    simpa using notKey

def namedPlaces (root : Value) (pointers : List String) : List Route :=
  (pointers.filterMap fun pointer => route? root (segments pointer)).filter Route.isMember

theorem mem_named_places_iff :
    place ∈ namedPlaces root pointers ↔ ∃ pointer ∈ pointers, NamesMember root pointer place := by
  simp only [namedPlaces, List.mem_filter, List.mem_filterMap, is_member_iff, NamesMember]
  grind

/-- After a removal the pointers name what they named before, outside of the removed member. -/
theorem names_member_after (removed : Removed root route smaller) :
    NamesMember smaller pointer place ↔ NamesMember root pointer place ∧ ¬route <+: place := by
  constructor
  · rintro ⟨routed, member⟩
    refine ⟨⟨route_of_shrunk removed.shrunk routed, member⟩, ?_⟩
    rintro ⟨rest, rfl⟩
    obtain ⟨part, found⟩ := at_of_route routed
    rw [Value.at_append, removed.gone] at found
    contradiction
  · rintro ⟨⟨routed, member⟩, apart⟩
    obtain ⟨part, found⟩ := at_of_route routed
    have remains := removed.remains apart (by simp [found])
    exact ⟨route_remains removed.shrunk routed remains, member⟩

theorem mem_named_places_cons (named : NamesMember root pointer route) :
    place ∈ namedPlaces root (pointer :: pointers) ↔
      place = route ∨ place ∈ namedPlaces root pointers := by
  have only : NamesMember root pointer place ↔ place = route := by
    constructor
    · intro again
      exact Option.some.inj (again.1.symm.trans named.1)
    · rintro rfl
      exact named
  simp only [mem_named_places_iff, List.exists_mem_cons_iff, only]

theorem mem_named_places_absent (absent : remove root pointer = none) :
    place ∈ namedPlaces root (pointer :: pointers) ↔ place ∈ namedPlaces root pointers := by
  simp only [mem_named_places_iff, List.exists_mem_cons_iff, not_named_of_remove absent, false_or]

theorem mem_named_places_after (removed : Removed root route smaller) :
    place ∈ namedPlaces smaller pointers ↔
      place ∈ namedPlaces root pointers ∧ ¬route <+: place := by
  simp only [mem_named_places_iff, names_member_after removed]
  grind

/-- Removing what pointers name takes out just the members that they name at the start. -/
theorem removed_exactly (pointers : List String) (distinct : root.KeysDistinct) :
    (removeAll root pointers).1 = root.without fun place => place ∈ namedPlaces root pointers := by
  induction pointers generalizing root with
  | nil => exact (without_nothing _ root (by simp [namedPlaces])).symm
  | cons pointer rest ih =>
      obtain ⟨smaller, removal, same⟩ | ⟨absent, same⟩ := remove_all_step root pointer rest
      · obtain ⟨route, routed, cut⟩ := cut_of_remove_path removal
        have removed := cut.removed
        have named : NamesMember root pointer route := ⟨routed, removed.ends_at_member⟩
        rw [same, ih (cut.keys_distinct distinct), ← cut.eq_without distinct, without_without,
          cut.eq_without distinct]
        simp only [mem_named_places_after removed, mem_named_places_cons named]
        -- A member inside the removed one is not marked any more, but it is lost with it.
        apply without_congr
        intro other
        constructor
        · rintro ⟨place, before, member, marked⟩
          refine ⟨place, before, member, ?_⟩
          simp only [Bool.or_eq_true, decide_eq_true_eq] at marked ⊢
          exact marked.imp_right And.left
        · rintro ⟨place, before, member, marked⟩
          by_cases behind : route <+: place
          · exact ⟨route, behind.trans before, removed.ends_at_member, by simp⟩
          · refine ⟨place, before, member, ?_⟩
            simp only [Bool.or_eq_true, decide_eq_true_eq] at marked ⊢
            exact marked.imp_right fun listed => ⟨listed, behind⟩
      · rw [same, ih distinct]
        simp only [mem_named_places_absent absent]

end Named

section Counting

variable {root smaller : Value} {pointers : List String} {pointer other : String}
  {place route : Route}

def outermostMembers (root : Value) (pointers : List String) : Finset Route :=
  (namedPlaces root pointers).toFinset.filter fun place =>
    ∀ other ∈ namedPlaces root pointers, other <+: place → other = place

theorem mem_outermost_iff : place ∈ outermostMembers root pointers ↔
    place ∈ namedPlaces root pointers ∧
      ∀ other ∈ namedPlaces root pointers, other <+: place → other = place := by
  rw [outermostMembers, Finset.mem_filter, List.mem_toFinset]

theorem Pointer.Canonical.after (canonical : Canonical root pointer)
    (shrunk : Shrunk smaller root) : Canonical smaller pointer := by
  obtain ⟨keys, spelling, positions⟩ := canonical
  exact ⟨keys, spelling, fun route routed => positions route (route_of_shrunk shrunk routed)⟩

/-- In canonical spelling the pointer of an outer member never comes after those inside. -/
theorem not_lt_of_outer (canonical : Canonical root pointer)
    (otherCanonical : Canonical root other) (named : NamesMember root pointer place)
    (inside : NamesMember root other route) (outer : place <+: route) : ¬other < pointer := by
  obtain ⟨keys, rfl, positions⟩ := canonical
  obtain ⟨otherKeys, rfl, otherPositions⟩ := otherCanonical
  have routed := named.1
  have otherRouted := inside.1
  rw [segments_of_keys] at routed otherRouted
  have before : keys <+: otherKeys := by
    rw [positions place routed, otherPositions route otherRouted]
    exact outer.map Step.segment
  have texts : (ofKeys keys).toList <+: (ofKeys otherKeys).toList := by
    rcases contains_iff.1 (contains_of_keys_iff.2 before) with same | longer
    · rw [same]
    · exact (List.prefix_append _ _).trans longer
  exact texts.le

theorem outermost_after (removed : Removed root route smaller)
    (named : NamesMember root pointer route)
    (first : ∀ place ∈ namedPlaces root pointers, ¬place <+: route) :
    outermostMembers root (pointer :: pointers) =
      insert route (outermostMembers smaller pointers) := by
  ext place
  simp only [Finset.mem_insert, mem_outermost_iff, mem_named_places_cons named,
    mem_named_places_after removed]
  constructor
  · rintro ⟨rfl | listed, outermost⟩
    · exact .inl rfl
    · by_cases behind : route <+: place
      · exact .inl (outermost route (.inl rfl) behind).symm
      · exact .inr ⟨⟨listed, behind⟩, fun other remains => outermost other (.inr remains.1)⟩
  · rintro (rfl | ⟨⟨listed, apart⟩, outermost⟩)
    · refine ⟨.inl rfl, ?_⟩
      rintro other (rfl | otherListed) above
      · rfl
      · exact absurd above (first other otherListed)
    · refine ⟨.inr listed, ?_⟩
      rintro other (rfl | otherListed) above
      · exact absurd above apart
      · exact outermost other ⟨otherListed, fun behind => apart (behind.trans above)⟩ above

/-- In increasing order of canonical texts, a removal succeeds for each outermost member. -/
theorem removed_count (increasing : pointers.Pairwise (· < ·))
    (canonical : ∀ pointer ∈ pointers, Canonical root pointer) :
    (removeAll root pointers).2 = (outermostMembers root pointers).card := by
  induction pointers generalizing root with
  | nil => rfl
  | cons pointer rest ih =>
      obtain ⟨before, increasingRest⟩ := List.pairwise_cons.1 increasing
      obtain ⟨canonicalFirst, canonicalRest⟩ := List.forall_mem_cons.1 canonical
      obtain ⟨smaller, removal, same⟩ | ⟨absent, same⟩ := remove_all_step root pointer rest
      · obtain ⟨route, routed, removed⟩ := removed_of_remove_path removal
        have named : NamesMember root pointer route := ⟨routed, removed.ends_at_member⟩
        have first : ∀ place ∈ namedPlaces root rest, ¬place <+: route := by
          intro place listed above
          obtain ⟨other, later, otherNamed⟩ := mem_named_places_iff.1 listed
          exact not_lt_of_outer (canonicalRest other later) canonicalFirst otherNamed named above
            (before other later)
        have gone : route ∉ outermostMembers smaller rest := by
          intro listed
          have apart := ((mem_named_places_after removed).1 (mem_outermost_iff.1 listed).1).2
          exact apart (List.prefix_refl route)
        have counted := ih increasingRest fun other later =>
          (canonicalRest other later).after removed.shrunk
        rw [same, outermost_after removed named first, Finset.card_insert_of_notMem gone, counted]
      · have places : outermostMembers root (pointer :: rest) = outermostMembers root rest := by
          ext place
          simp only [mem_outermost_iff, mem_named_places_absent absent]
        rw [same, places, ih increasingRest canonicalRest]

end Counting

section Pruned

variable {root : Value} {pointers : List String}

theorem lost_named_iff {route : Route} :
    Lost (fun place => place ∈ namedPlaces root pointers) route ↔
      ∃ place ∈ namedPlaces root pointers, place <+: route := by
  constructor
  · rintro ⟨place, before, _, marked⟩
    exact ⟨place, of_decide_eq_true marked, before⟩
  · rintro ⟨place, listed, before⟩
    obtain ⟨pointer, _, named⟩ := mem_named_places_iff.1 listed
    exact ⟨place, before, named.2, decide_eq_true listed⟩

/-- At a place that no named member stands above, the members named inside it are missing. -/
theorem at_removed (distinct : root.KeysDistinct) {route : Route}
    (kept : ∀ place ∈ namedPlaces root pointers, ¬place <+: route) :
    (removeAll root pointers).1.at? route = (root.at? route).map fun part =>
      part.without fun place => route ++ place ∈ namedPlaces root pointers := by
  rw [removed_exactly pointers distinct]
  apply at_without
  rw [lost_named_iff]
  rintro ⟨place, listed, before⟩
  exact kept place listed before

theorem target_removed (distinct : root.KeysDistinct) {pointer : String} {target : Value}
    (reached : navigate (removeAll root pointers).1 pointer = .ok target) :
    ∃ route original, route? root (segments pointer) = some route ∧
      navigate root pointer = .ok original ∧
        target = original.without fun place => route ++ place ∈ namedPlaces root pointers := by
  obtain ⟨route, original, routed, stood, ends⟩ := navigate_of_remove_all_eq_ok reached
  have kept : ∀ place ∈ namedPlaces root pointers, ¬place <+: route := by
    intro place listed before
    obtain ⟨removed, present, named⟩ := mem_named_places_iff.1 listed
    exact not_above_of_remaining reached removed present ⟨place, route, named, routed, before⟩
  refine ⟨route, original, routed, navigate_eq_ok_iff_route.2 ⟨route, routed, stood⟩, ?_⟩
  rw [at_removed distinct kept, stood] at ends
  exact (Option.some.inj ends).symm

theorem items_remain (distinct : root.KeysDistinct) {route : Route} {items : List Value}
    (stood : root.at? route = some (.array items))
    (kept : ∀ place ∈ namedPlaces root pointers, ¬place <+: route) :
    ∃ others : List Value, (removeAll root pointers).1.at? route = some (.array others) ∧
      others.length = items.length ∧
        ∀ position : Nat, others[position]? = items[position]?.map fun item =>
          item.without fun place =>
            route ++ .position position :: place ∈ namedPlaces root pointers := by
  rw [at_removed distinct kept, stood]
  refine ⟨_, rfl, length_without 0, fun position => ?_⟩
  have item := @item_without (fun place => route ++ place ∈ namedPlaces root pointers) items 0
    position
  rwa [Nat.zero_add] at item

theorem remove_all_absent (absent : ∀ pointer ∈ pointers, remove root pointer = none) :
    removeAll root pointers = (root, 0) := by
  induction pointers with
  | nil => rfl
  | cons pointer rest ih =>
      obtain ⟨none, later⟩ := List.forall_mem_cons.1 absent
      rw [removeAll, none]
      exact ih later

theorem remove_all_again (root : Value) (pointers : List String) :
    removeAll (removeAll root pointers).1 pointers = ((removeAll root pointers).1, 0) := by
  apply remove_all_absent
  intro pointer listed
  by_contra removal
  obtain ⟨smaller, removal⟩ := Option.ne_none_iff_exists'.1 removal
  obtain ⟨route, routed, removed⟩ := removed_of_remove_path removal
  obtain ⟨part, found⟩ := at_of_route routed
  have named : NamesMember root pointer route :=
    ⟨route_of_shrunk (remove_all_shrunk root pointers) routed, removed.ends_at_member⟩
  rw [remove_all_gone listed named] at found
  contradiction

/-- Pruning deletes the set of named members: the order does not matter, what is left is
the root without them, items of sequences stay where they are, and a second round finds
nothing. The count is that of the outermost ones if the pointers are spelled canonically. -/
theorem pruning_deletes_named_members (root : Value) (pointers : NameSet)
    (distinct : root.KeysDistinct) :
    (∀ order : List String, order.Perm pointers.toList →
      (removeAll root order).1 = (pruneConsumed root pointers).1) ∧
    (∀ pointer, Navigates (pruneConsumed root pointers).1 pointer ↔
      Navigates root pointer ∧ ∀ removed ∈ pointers, ¬StandsAbove root removed pointer) ∧
    (∀ pointer target, navigate (pruneConsumed root pointers).1 pointer = .ok target →
      ∃ route original, route? root (segments pointer) = some route ∧
        navigate root pointer = .ok original ∧
          target = original.without fun place =>
            route ++ place ∈ namedPlaces root pointers.toList) ∧
    (∀ route items, root.at? route = some (.array items) →
      (∀ place ∈ namedPlaces root pointers.toList, ¬place <+: route) →
        ∃ others : List Value,
          (pruneConsumed root pointers).1.at? route = some (.array others) ∧
          others.length = items.length ∧
            ∀ position : Nat, others[position]? = items[position]?.map fun item =>
              item.without fun place =>
                route ++ .position position :: place ∈ namedPlaces root pointers.toList) ∧
    pruneConsumed (pruneConsumed root pointers).1 pointers =
      ((pruneConsumed root pointers).1, 0) ∧
    ((∀ pointer ∈ pointers, Canonical root pointer) →
      (pruneConsumed root pointers).2 = (outermostMembers root pointers.toList).card) := by
  refine ⟨?_, fun pointer => remaining_target_iff root pointers.toList pointer,
    fun _ _ => target_removed distinct, fun _ _ => items_remain distinct,
    remove_all_again root pointers.toList, removed_count pointers.increasing⟩
  intro order permuted
  have places : ∀ place, place ∈ namedPlaces root order ↔
      place ∈ namedPlaces root pointers.toList := by
    simp only [mem_named_places_iff, permuted.mem_iff, implies_true]
  rw [pruneConsumed, removed_exactly order distinct, removed_exactly pointers.toList distinct]
  simp only [places]

end Pruned

section Overlapping

def overlappingDocument : Value := .object [
  ("a", .object [("b", .object [("c", .string "inner")]), ("d", .string "kept")]),
  ("list", .array [.object [("x", .string "gone"), ("y", .string "kept")], .string "last"])]

def overlappingPruned : Value := .object [
  ("a", .object [("d", .string "kept")]),
  ("list", .array [.object [("y", .string "kept")], .string "last"])]

/-- A member, another one inside it, an item, a member of the item, and nothing at all. -/
def overlappingPointers : NameSet :=
  .ofList ["#/a/b", "#/a/b/c", "#/list/0", "#/list/0/x", "#/missing"]

theorem overlapping_canonical :
    ∀ pointer ∈ overlappingPointers, Canonical overlappingDocument pointer := by
  simp only [overlappingPointers, NameSet.mem_of_list, List.forall_mem_cons]
  refine ⟨?_, ?_, ?_, ?_, ?_, by simp⟩
  · exact canonical_of_route [.key "a", .key "b"] rfl
  · exact canonical_of_route [.key "a", .key "b", .key "c"] rfl
  · exact canonical_of_route [.key "list", .position 0] rfl
  · exact canonical_of_route [.key "list", .position 0, .key "x"] rfl
  · refine ⟨["missing"], rfl, fun route routed => ?_⟩
    have nowhere : route? overlappingDocument ["missing"] = none := rfl
    rw [nowhere] at routed
    contradiction

/-- Two members go on their own, and one goes with the member around it. -/
theorem overlapping_members_pruned :
    overlappingDocument.KeysDistinct ∧
    (∀ pointer ∈ overlappingPointers, Canonical overlappingDocument pointer) ∧
    pruneConsumed overlappingDocument overlappingPointers = (overlappingPruned, 2) ∧
    (outermostMembers overlappingDocument overlappingPointers.toList).card = 2 ∧
    pruneConsumed overlappingPruned overlappingPointers = (overlappingPruned, 0) ∧
    ∀ order : List String, order.Perm overlappingPointers.toList →
      (removeAll overlappingDocument order).1 = overlappingPruned := by
  have distinct : overlappingDocument.KeysDistinct := by
    simp [overlappingDocument, Value.KeysDistinct, Value.all_mappings_object,
      Value.all_mappings_array, Value.all_mappings_scalar, Members.keys, Value.kind]
  have pruned : pruneConsumed overlappingDocument overlappingPointers = (overlappingPruned, 2) :=
    rfl
  obtain ⟨anyOrder, _, _, _, again, counted⟩ :=
    pruning_deletes_named_members overlappingDocument overlappingPointers distinct
  have count := counted overlapping_canonical
  rw [pruned] at anyOrder again count
  exact ⟨distinct, overlapping_canonical, pruned, count.symm, again, anyOrder⟩

end Overlapping

end RefLint
