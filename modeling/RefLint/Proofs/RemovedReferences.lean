import RefLint.Proofs.DistinctKeys
import RefLint.Proofs.PointerSearch
import RefLint.Proofs.Removal

/-!
# The references that removing members leaves

A removed member takes its references with it. Unless it is itself a `$ref`, no other
reference goes, and none that was hidden comes to light.
-/

namespace RefLint

set_option autoImplicit false

open Pointer

def Pointer.EndsAtReference (pointer : String) : Prop :=
  (segments pointer).getLast? = some referenceKey

instance (pointer : String) : Decidable (Pointer.EndsAtReference pointer) :=
  inferInstanceAs (Decidable (_ = _))

def Route.SparesReference (route : Route) : Prop := route.getLast? ≠ some (.key referenceKey)

section Cuts

variable {value smaller : Value} {route other : Route} {members : Members} {key pointer : String}

theorem Cut.last_behind (cut : Cut value route smaller) (front : Route) :
    (front ++ route).getLast? = route.getLast? := by
  obtain ⟨key, last⟩ := cut.removed.ends_at_member
  rw [List.getLast?_append, last, Option.some_or]

theorem Cut.spares_behind (cut : Cut value route smaller) (front : Route)
    (spares : Route.SparesReference (front ++ route)) : route.SparesReference := by
  unfold Route.SparesReference at spares ⊢
  rwa [cut.last_behind] at spares

theorem reference_of_erase (different : key ≠ referenceKey) :
    referencePointer? (members.erase key) = referencePointer? members := by
  simp only [referencePointer?, Members.get_erase, if_neg (Ne.symm different)]

/-- A member that is cut is a container before and after, and so no text. -/
theorem reference_of_insert {member changed : Value}
    (found : Members.get? key members = some member) (cut : Cut member route changed) :
    referencePointer? (members.insert key changed) = referencePointer? members := by
  simp only [referencePointer?, Members.get_insert]
  by_cases same : referenceKey = key
  · rw [if_pos same, same, found]
    cases cut <;> rfl
  · rw [if_neg same]

theorem Cut.shown_before (cut : Cut value route smaller) (spares : route.SparesReference)
    (visible : Visible smaller pointer) : Visible value pointer := by
  induction cut with
  | @erase members key member found =>
      have different : key ≠ referenceKey := by
        rintro rfl
        exact spares rfl
      have same : referencePointer? (members.erase key) = referencePointer? members :=
        reference_of_erase different
      cases visible with
      | here node => exact .here ⟨same ▸ node.reference, node.isLocal⟩
      | member plain present deeper =>
          exact .member (same ▸ plain) (List.mem_of_mem_filter present) deeper
  | @insert members key member changed route found inner ih =>
      have same := reference_of_insert found inner
      have sparesInner : route.SparesReference := inner.spares_behind [.key key] spares
      cases visible with
      | here node => exact .here ⟨same ▸ node.reference, node.isLocal⟩
      | member plain present deeper =>
          rcases Members.mem_of_mem_insert present with ⟨rfl, rfl⟩ | old
          · exact .member (same ▸ plain) (Members.mem_of_get found) (ih sparesInner deeper)
          · exact .member (same ▸ plain) old deeper
  | @set items position item changed route found inner ih =>
      have sparesInner : route.SparesReference := inner.spares_behind [.position position] spares
      cases visible with
      | item present deeper =>
          rcases List.mem_or_eq_of_mem_set present with old | rfl
          · exact .item old deeper
          · exact .item (List.mem_of_getElem? found) (ih sparesInner deeper)

/-- What is no longer shown was shown by the member that has gone. -/
theorem Cut.shown_after (cut : Cut value route smaller) (distinct : value.KeysDistinct)
    (spares : route.SparesReference) (visible : Visible value pointer) :
    Visible smaller pointer ∨ ∃ gone, value.at? route = some gone ∧ Visible gone pointer := by
  induction cut with
  | @erase members key member found =>
      have different : key ≠ referenceKey := by
        rintro rfl
        exact spares rfl
      have same : referencePointer? (members.erase key) = referencePointer? members :=
        reference_of_erase different
      cases visible with
      | here node => exact .inl (.here ⟨same ▸ node.reference, node.isLocal⟩)
      | @member _ name _ part plain present deeper =>
          by_cases here : name = key
          · subst here
            have first := Members.get_of_mem (distinct members (.here _)) present
            exact .inr ⟨part, by simp [Value.at?, Value.child?, first], deeper⟩
          · have kept : (name, part) ∈ members.erase key :=
              List.mem_filter.2 ⟨present, by simp [here]⟩
            exact .inl (.member (same ▸ plain) kept deeper)
  | @insert members key member changed route found inner ih =>
      have same := reference_of_insert found inner
      have sparesInner : route.SparesReference := inner.spares_behind [.key key] spares
      cases visible with
      | here node => exact .inl (.here ⟨same ▸ node.reference, node.isLocal⟩)
      | @member _ name _ part plain present deeper =>
          by_cases here : name = key
          · -- Keys are distinct, so this is the member that was cut.
            subst here
            have first := Members.get_of_mem (distinct members (.here _)) present
            obtain rfl := Option.some.inj (found.symm.trans first)
            have innerDistinct := distinct.inside (.member present (.here _))
            rcases ih innerDistinct sparesInner deeper with still | ⟨gone, stood, shown⟩
            · exact .inl (.member (same ▸ plain) (Members.mem_insert_self name changed) still)
            · exact .inr ⟨gone, by simpa [Value.at?, Value.child?, found] using stood, shown⟩
          · exact .inl (.member (same ▸ plain) (Members.mem_insert_of_ne changed here present) deeper)
  | @set items position item changed route found inner ih =>
      have sparesInner : route.SparesReference := inner.spares_behind [.position position] spares
      cases visible with
      | @item _ part _ present deeper =>
          obtain ⟨index, stands⟩ := List.mem_iff_getElem?.1 present
          by_cases here : index = position
          · subst here
            obtain rfl := Option.some.inj (found.symm.trans stands)
            have innerDistinct := distinct.inside (.item present (.here _))
            rcases ih innerDistinct sparesInner deeper with still | ⟨gone, stood, shown⟩
            · obtain ⟨inRange, _⟩ := List.getElem?_eq_some_iff.1 found
              exact .inl (.item (List.mem_set inRange changed) still)
            · exact .inr ⟨gone, by simpa [Value.at?, Value.child?, found] using stood, shown⟩
          · have kept : (items.set position changed)[index]? = some part := by
              rw [List.getElem?_set_ne (Ne.symm here), stands]
            exact .inl (.item (List.mem_of_getElem? kept) deeper)

theorem Cut.keys_distinct (cut : Cut value route smaller) (distinct : value.KeysDistinct) :
    smaller.KeysDistinct := by
  induction cut with
  | @erase members key member found => exact distinct.erase key
  | @insert members key member changed route found inner ih =>
      have innerDistinct := distinct.inside (.member (Members.mem_of_get found) (.here _))
      exact distinct.insert key (ih innerDistinct)
  | @set items position item changed route found inner ih =>
      have parts := Value.all_mappings_array.1 distinct
      refine Value.all_mappings_array.2 fun part present => ?_
      rcases List.mem_or_eq_of_mem_set present with old | rfl
      · exact parts part old
      · exact ih (parts item (List.mem_of_getElem? found))

/-- What stands at a place afterwards stood there before, or is what stood there, cut
along the rest of the route. -/
theorem Cut.at_place {part : Value} (cut : Cut value route smaller)
    (found : smaller.at? other = some part) :
    ∃ whole, value.at? other = some whole ∧
      (part = whole ∨ ∃ rest, route = other ++ rest ∧ Cut whole rest part) := by
  induction other generalizing value route smaller with
  | nil =>
      obtain rfl := Option.some.inj found
      exact ⟨value, rfl, .inr ⟨route, rfl, cut⟩⟩
  | cons step rest ih =>
      obtain ⟨next, child, found⟩ := Option.bind_eq_some_iff.1 found
      -- One step in, the child is the old one or the changed one.
      have before : ∃ old, value.child? step = some old ∧
          (next = old ∨ ∃ inner, route = step :: inner ∧ Cut old inner next) := by
        cases cut with
        | @erase members key member present =>
            rw [(replaced_erase members key).2] at child
            split at child
            · contradiction
            · exact ⟨next, child, .inl rfl⟩
        | @insert members key member changed route present inner =>
            rw [(replaced_insert members key changed).2] at child
            split at child
            · rename_i same
              obtain rfl := Option.some.inj child
              exact ⟨member, same ▸ present, .inr ⟨route, by rw [same], inner⟩⟩
            · exact ⟨next, child, .inl rfl⟩
        | @set items position item changed route present inner =>
            rw [(replaced_set present changed).2] at child
            split at child
            · rename_i same
              obtain rfl := Option.some.inj child
              exact ⟨item, same ▸ present, .inr ⟨route, by rw [same], inner⟩⟩
            · exact ⟨next, child, .inl rfl⟩
      obtain ⟨old, childBefore, same | ⟨inner, rfl, cutInner⟩⟩ := before
      · subst same
        exact ⟨part, by simpa [Value.at?, childBefore] using found, .inl rfl⟩
      · obtain ⟨whole, stood, change⟩ := ih cutInner found
        refine ⟨whole, by simpa [Value.at?, childBefore] using stood, change.imp_right ?_⟩
        rintro ⟨behind, rfl, cutPart⟩
        exact ⟨behind, rfl, cutPart⟩

end Cuts

namespace Pointer

theorem last_segment {value : Value} {path : List String} {route : Route} {key : String}
    (routed : route? value path = some route) (last : route.getLast? = some (.key key)) :
    path.getLast? = some key := by
  induction path generalizing value route with
  | nil =>
      obtain rfl := Option.some.inj routed
      contradiction
  | cons segment rest ih =>
      obtain ⟨taken, next, onward, spelled, _, further, rfl⟩ := route_cons_iff.1 routed
      cases rest with
      | nil =>
          obtain rfl := Option.some.inj further
          obtain rfl : taken = .key key := by simpa using last
          cases value with
          | object => simpa [step?] using spelled
          | array | null | bool | number | string => simp [step?] at spelled
      | cons nextSegment more =>
          obtain ⟨other, _, behind, _, _, _, rfl⟩ := route_cons_iff.1 further
          rw [List.getLast?_cons_cons] at last ⊢
          exact ih further last

end Pointer

section Removals

variable {root smaller value : Value} {pointers : List String} {pointer source next : String}

theorem cut_of_remove (removal : remove root pointer = some smaller)
    (spares : ¬EndsAtReference pointer) :
    ∃ route, route? root (segments pointer) = some route ∧ Cut root route smaller ∧
      route.SparesReference := by
  obtain ⟨route, routed, cut⟩ := cut_of_remove_path removal
  exact ⟨route, routed, cut, fun last => spares (last_segment routed last)⟩

/-- A target after a removal was the target before, or has been cut where the removed
member stood in it. -/
theorem target_after_removal {target : Value} (removal : remove root pointer = some smaller)
    (spares : ¬EndsAtReference pointer) (reached : navigate smaller source = .ok target) :
    ∃ whole, navigate root source = .ok whole ∧
      (target = whole ∨ ∃ rest, Cut whole rest target ∧ rest.SparesReference ∧
        ∀ gone, whole.at? rest = some gone → navigate root pointer = .ok gone) := by
  obtain ⟨route, routed, cut, sparesRoute⟩ := cut_of_remove removal spares
  obtain ⟨place, placed, found⟩ := navigate_eq_ok_iff_route.1 reached
  have placedBefore := route_of_shrunk cut.removed.shrunk placed
  obtain ⟨whole, stood, same | ⟨rest, rfl, cutTarget⟩⟩ := cut.at_place found
  · exact ⟨whole, navigate_eq_ok_iff_route.2 ⟨place, placedBefore, stood⟩, .inl same⟩
  · refine ⟨whole, navigate_eq_ok_iff_route.2 ⟨place, placedBefore, stood⟩,
      .inr ⟨rest, cutTarget, cutTarget.spares_behind place sparesRoute, fun gone inside => ?_⟩⟩
    have stoodGone : root.at? (place ++ rest) = some gone := by
      rw [Value.at_append, stood]
      exact inside
    exact navigate_eq_ok_iff_route.2 ⟨_, routed, stoodGone⟩

theorem edge_before_removal (removal : remove root pointer = some smaller)
    (spares : ¬EndsAtReference pointer) (edge : Edge smaller source next) :
    Edge root source next := by
  obtain ⟨target, reached, visible⟩ := edge
  obtain ⟨whole, reachedBefore, rfl | ⟨rest, cut, sparesRest, _⟩⟩ :=
    target_after_removal removal spares reached
  · exact ⟨target, reachedBefore, visible⟩
  · exact ⟨whole, reachedBefore, cut.shown_before sparesRest visible⟩

/-- An edge is lost only if its pointer is, or if it is an edge of the removed pointer. -/
theorem edge_after_removal (distinct : root.KeysDistinct)
    (removal : remove root pointer = some smaller) (spares : ¬EndsAtReference pointer)
    (navigates : Navigates smaller source) (edge : Edge root source next) :
    Edge smaller source next ∨ Edge root pointer next := by
  obtain ⟨target, reached⟩ := navigates
  obtain ⟨whole, reachedBefore, rfl | ⟨rest, cut, sparesRest, removed⟩⟩ :=
    target_after_removal removal spares reached
  · exact .inl ⟨target, reached, (edge_iff reachedBefore).1 edge⟩
  · have distinctWhole := distinct.inside (inside_of_navigate reachedBefore)
    have visible := (edge_iff reachedBefore).1 edge
    rcases cut.shown_after distinctWhole sparesRest visible with still | ⟨gone, stood, shown⟩
    · exact .inl ⟨target, reached, still⟩
    · exact .inr ⟨gone, removed gone stood, shown⟩

theorem shown_before_removals (spares : ∀ pointer ∈ pointers, ¬EndsAtReference pointer)
    (visible : Visible (removeAll value pointers).1 next) : Visible value next := by
  induction pointers generalizing value with
  | nil => exact visible
  | cons first rest ih =>
      obtain ⟨sparesFirst, sparesRest⟩ := List.forall_mem_cons.1 spares
      obtain ⟨smaller, removal, same⟩ | ⟨_, same⟩ := remove_all_step value first rest
      · rw [same] at visible
        obtain ⟨route, _, cut, sparesRoute⟩ := cut_of_remove removal sparesFirst
        exact cut.shown_before sparesRoute (ih sparesRest visible)
      · rw [same] at visible
        exact ih sparesRest visible

theorem edge_before_removals (spares : ∀ pointer ∈ pointers, ¬EndsAtReference pointer)
    (edge : Edge (removeAll root pointers).1 source next) : Edge root source next := by
  induction pointers generalizing root with
  | nil => exact edge
  | cons first rest ih =>
      obtain ⟨sparesFirst, sparesRest⟩ := List.forall_mem_cons.1 spares
      obtain ⟨smaller, removal, same⟩ | ⟨_, same⟩ := remove_all_step root first rest
      · rw [same] at edge
        exact edge_before_removal removal sparesFirst (ih sparesRest edge)
      · rw [same] at edge
        exact ih sparesRest edge

/-- A pointer that still leads somewhere has lost only edges of removed pointers. -/
theorem edge_after_removals (distinct : root.KeysDistinct)
    (spares : ∀ pointer ∈ pointers, ¬EndsAtReference pointer)
    (navigates : Navigates (removeAll root pointers).1 source) (edge : Edge root source next) :
    Edge (removeAll root pointers).1 source next ∨
      ∃ removed ∈ pointers, (∃ route, NamesMember root removed route) ∧ Edge root removed next := by
  induction pointers generalizing root with
  | nil => exact .inl edge
  | cons first rest ih =>
      obtain ⟨sparesFirst, sparesRest⟩ := List.forall_mem_cons.1 spares
      obtain ⟨smaller, removal, same⟩ | ⟨_, same⟩ := remove_all_step root first rest
      · rw [same] at navigates ⊢
        obtain ⟨route, routed, cut, _⟩ := cut_of_remove removal sparesFirst
        have navigatesBetween := ((remaining_target_iff smaller rest source).1 navigates).1
        rcases edge_after_removal distinct removal sparesFirst navigatesBetween edge with
          still | gone
        · have lost := ih (cut.keys_distinct distinct) sparesRest navigates still
          refine lost.imp_right ?_
          rintro ⟨removed, listed, ⟨place, named⟩, edgeBetween⟩
          have namedBefore := route_of_shrunk cut.removed.shrunk named.1
          exact ⟨removed, List.mem_cons_of_mem _ listed, ⟨place, namedBefore, named.2⟩,
            edge_before_removal removal sparesFirst edgeBetween⟩
        · exact .inr ⟨first, List.mem_cons_self, ⟨route, routed, cut.removed.ends_at_member⟩, gone⟩
      · rw [same] at navigates ⊢
        refine (ih distinct sparesRest navigates edge).imp_right ?_
        rintro ⟨removed, listed, named, gone⟩
        exact ⟨removed, List.mem_cons_of_mem _ listed, named, gone⟩

end Removals

end RefLint
