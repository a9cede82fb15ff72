import RefLint.Proofs.RemovedReferences

/-!
# A value without some of its members

Taking members out of a value leaves everything else as it was: the scalars, the items of
sequences at their positions, and the other members in their order. Removing what pointers
name, one after another, comes to taking out the members at some set of places at once.
-/

namespace RefLint

set_option autoImplicit false

open Pointer

/-- The value without the members at the marked places. -/
def Value.without (gone : Route → Bool) : Value → Value
  | .object members => .object (ofMembers gone members)
  | .array items => .array (ofItems gone 0 items)
  | scalar => scalar
where
  ofItems (gone : Route → Bool) (position : Nat) : List Value → List Value
    | [] => []
    | item :: rest =>
        item.without (fun route => gone (.position position :: route)) ::
          ofItems gone (position + 1) rest
  ofMembers (gone : Route → Bool) : List (String × Value) → List (String × Value)
    | [] => []
    | (key, value) :: rest =>
        if gone [.key key] then ofMembers gone rest
        else (key, value.without fun route => gone (.key key :: route)) :: ofMembers gone rest

section Without

variable {gone : Route → Bool} {key : String} {value : Value} {rest : Members}

theorem without_member_gone (marked : gone [.key key] = true) :
    Value.without.ofMembers gone ((key, value) :: rest) = Value.without.ofMembers gone rest :=
  if_pos marked

theorem without_member_kept (unmarked : gone [.key key] = false) :
    Value.without.ofMembers gone ((key, value) :: rest) =
      (key, value.without fun route => gone (.key key :: route)) ::
        Value.without.ofMembers gone rest :=
  if_neg (Bool.eq_false_iff.1 unmarked)

-- The marks move with the value they are about, so they are general throughout.
mutual

theorem without_nothing (gone : Route → Bool) : ∀ value : Value,
    (∀ route, gone route = false) → value.without gone = value
  | .object members, unmarked =>
      congrArg Value.object (without_nothing_members gone members fun _ _ _ => unmarked _)
  | .array items, unmarked =>
      congrArg Value.array (without_nothing_items gone 0 items fun _ _ _ => unmarked _)
  | .null, _ => rfl
  | .bool _, _ => rfl
  | .number _, _ => rfl
  | .string _, _ => rfl

theorem without_nothing_items (gone : Route → Bool) (start : Nat) : ∀ items : List Value,
    (∀ position, start ≤ position → ∀ route, gone (.position position :: route) = false) →
      Value.without.ofItems gone start items = items
  | [], _ => rfl
  | item :: rest, unmarked => by
      rw [Value.without.ofItems, without_nothing _ item (unmarked start (Nat.le_refl start)),
        without_nothing_items gone (start + 1) rest]
      exact fun position later => unmarked position (by omega)

theorem without_nothing_members (gone : Route → Bool) : ∀ members : Members,
    (∀ key ∈ Members.keys members, ∀ route, gone (.key key :: route) = false) →
      Value.without.ofMembers gone members = members
  | [], _ => rfl
  | (key, value) :: rest, unmarked => by
      have here := unmarked key List.mem_cons_self
      rw [without_member_kept (here []), without_nothing _ value here,
        without_nothing_members gone rest]
      exact fun later listed => unmarked later (List.mem_cons_of_mem _ listed)

end

mutual

theorem without_without (gone more : Route → Bool) : ∀ value : Value,
    (value.without gone).without more = value.without fun route => gone route || more route
  | .object members => congrArg Value.object (without_without_members gone more members)
  | .array items => congrArg Value.array (without_without_items gone more 0 items)
  | .null => rfl
  | .bool _ => rfl
  | .number _ => rfl
  | .string _ => rfl

theorem without_without_items (gone more : Route → Bool) (position : Nat) :
    ∀ items : List Value,
      Value.without.ofItems more position (Value.without.ofItems gone position items) =
        Value.without.ofItems (fun route => gone route || more route) position items
  | [] => rfl
  | item :: rest => by
      simp only [Value.without.ofItems, without_without _ _ item,
        without_without_items gone more (position + 1) rest]

theorem without_without_members (gone more : Route → Bool) : ∀ members : Members,
    Value.without.ofMembers more (Value.without.ofMembers gone members) =
      Value.without.ofMembers (fun route => gone route || more route) members
  | [] => rfl
  | (key, value) :: rest => by
      have later := without_without_members gone more rest
      cases first : gone [.key key] with
      | true =>
          rw [without_member_gone first, without_member_gone (by simp [first]), later]
      | false =>
          rw [without_member_kept first]
          cases second : more [.key key] with
          | true =>
              rw [without_member_gone second, without_member_gone (by simp [second]), later]
          | false =>
              rw [without_member_kept second, without_member_kept (by simp [first, second]), later,
                without_without _ _ value]

end

end Without

section Cuts

variable {gone : Route → Bool} {members : Members} {items : List Value} {key : String}
  {value part changed smaller : Value} {position start : Nat} {route : Route}

/-- A single marked member is erased, if nothing is marked behind another key. -/
theorem without_erased (marked : gone [.key key] = true)
    (only : ∀ name, name ≠ key → ∀ rest, gone (.key name :: rest) = false) :
    Value.without.ofMembers gone members = members.erase key := by
  induction members with
  | nil => rfl
  | cons first rest ih =>
      obtain ⟨name, value⟩ := first
      by_cases same : name = key
      · subst same
        rw [without_member_gone marked, ih, Members.erase, Members.erase,
          List.filter_cons_of_neg (by simp)]
      · have unmarked := only name same
        rw [without_member_kept (unmarked []), without_nothing _ value unmarked, ih,
          Members.erase, Members.erase, List.filter_cons_of_pos (by simpa using same)]

/-- Marks behind a single key change the member with the key and no other. -/
theorem without_inserted (distinct : (Members.keys members).Nodup)
    (found : Members.get? key members = some part)
    (inner : part.without (fun route => gone (.key key :: route)) = changed)
    (kept : gone [.key key] = false)
    (only : ∀ name, name ≠ key → ∀ rest, gone (.key name :: rest) = false) :
    Value.without.ofMembers gone members = members.insert key changed := by
  induction members with
  | nil => contradiction
  | cons first rest ih =>
      obtain ⟨name, value⟩ := first
      obtain ⟨absent, distinctRest⟩ := List.nodup_cons.1 distinct
      by_cases same : name = key
      · subst same
        obtain rfl : value = part := by simpa [Members.get?] using found
        have untouched : Value.without.ofMembers gone rest = rest := by
          apply without_nothing_members
          rintro other listed
          apply only
          rintro rfl
          exact absent listed
        rw [without_member_kept kept, inner, untouched, Members.insert, if_pos rfl]
      · have unmarked := only name same
        rw [Members.get?, if_neg same] at found
        rw [without_member_kept (unmarked []), without_nothing _ value unmarked,
          ih distinctRest found, Members.insert, if_neg same]

theorem without_set (found : items[position]? = some part)
    (inner : part.without (fun route => gone (.position (start + position) :: route)) = changed)
    (only : ∀ index, index ≠ start + position → ∀ rest, gone (.position index :: rest) = false) :
    Value.without.ofItems gone start items = items.set position changed := by
  induction items generalizing start position with
  | nil => contradiction
  | cons item rest ih =>
      cases position with
      | zero =>
          obtain rfl : item = part := by simpa using found
          have untouched : Value.without.ofItems gone (start + 1) rest = rest := by
            apply without_nothing_items
            intro index later
            exact only index (by omega)
          rw [Value.without.ofItems, untouched, List.set_cons_zero]
          exact congrArg (· :: rest) inner
      | succ position =>
          have unmarked := only start (by omega)
          have later : Value.without.ofItems gone (start + 1) rest = rest.set position changed := by
            apply ih found
            · rw [Nat.add_right_comm, Nat.add_assoc]
              exact inner
            · intro index different
              exact only index (by omega)
          rw [Value.without.ofItems, without_nothing _ item unmarked, later, List.set_cons_succ]

theorem Cut.eq_without (cut : Cut value route smaller) (distinct : value.KeysDistinct) :
    value.without (fun place => place = route) = smaller := by
  induction cut with
  | @erase members key member found =>
      apply congrArg Value.object
      apply without_erased
      · simp
      · intro name different rest
        simp [different]
  | @insert members key member changed route found inner ih =>
      have innerDistinct := distinct.inside (.member (Members.mem_of_get found) (.here _))
      have same := ih innerDistinct
      have further : route ≠ [] := by
        rintro rfl
        cases inner
      apply congrArg Value.object
      apply without_inserted (distinct members (.here _)) found
      · simpa using same
      · simpa using further.symm
      · intro name different rest
        simp [different]
  | @set items position item changed route found inner ih =>
      have innerDistinct := distinct.inside (.item (List.mem_of_getElem? found) (.here _))
      have same := ih innerDistinct
      apply congrArg Value.array
      apply without_set found
      · simpa using same
      · intro index different rest
        simp [show index ≠ position by omega]

end Cuts

section Removals

variable {root : Value}

/-- Removing what pointers name takes out members that they named at the start. -/
theorem removed_members (pointers : List String) (distinct : root.KeysDistinct) :
    ∃ leaves : List Route,
      (removeAll root pointers).1 = root.without (fun place => place ∈ leaves) ∧
        ∀ leaf ∈ leaves, ∃ pointer ∈ pointers, NamesMember root pointer leaf := by
  induction pointers generalizing root with
  | nil => exact ⟨[], (without_nothing _ root (by simp)).symm, by simp⟩
  | cons pointer rest ih =>
      obtain ⟨smaller, removal, same⟩ | ⟨_, same⟩ := remove_all_step root pointer rest
      · obtain ⟨route, routed, cut⟩ := cut_of_remove_path removal
        obtain ⟨leaves, taken, named⟩ := ih (cut.keys_distinct distinct)
        refine ⟨route :: leaves, ?_, List.forall_mem_cons.2 ⟨?_, ?_⟩⟩
        · rw [same, taken, ← cut.eq_without distinct, without_without]
          simp
        · exact ⟨pointer, List.mem_cons_self, routed, cut.removed.ends_at_member⟩
        · intro leaf listed
          obtain ⟨other, later, namedBetween⟩ := named leaf listed
          have routedBefore := route_of_shrunk cut.removed.shrunk namedBetween.1
          exact ⟨other, List.mem_cons_of_mem _ later, routedBefore, namedBetween.2⟩
      · obtain ⟨leaves, taken, named⟩ := ih distinct
        refine ⟨leaves, by rw [same, taken], fun leaf listed => ?_⟩
        obtain ⟨other, later, namedBetween⟩ := named leaf listed
        exact ⟨other, List.mem_cons_of_mem _ later, namedBetween⟩

end Removals

end RefLint
