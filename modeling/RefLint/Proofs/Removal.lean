import RefLint.Proofs.Places
import RefLint.Pruning

/-!
# What removing members leaves

Removing a member takes away every route that goes through it and changes nothing
on routes that part from its own. Removing many members in turn takes away those
that the document had at the start, in whatever order they come.
-/

namespace RefLint

set_option autoImplicit false

namespace Members

theorem get_erase (key other : String) (members : Members) :
    get? other (erase key members) = if other = key then none else get? other members := by
  induction members with
  | nil => simp [erase, get?]
  | cons first rest ih =>
      obtain ⟨name, value⟩ := first
      simp only [erase] at ih
      by_cases gone : name = key
      · subst gone
        simp only [erase, get?, List.filter_cons, ne_eq, not_true_eq_false, decide_false,
          Bool.false_eq_true, if_false, ih]
        split
        · rfl
        · rename_i different
          rw [if_neg (Ne.symm different)]
      · simp only [erase, get?, List.filter_cons, ne_eq, gone, not_false_eq_true, decide_true,
          if_true, ih]
        by_cases here : name = other
        · subst here
          simp [gone]
        · simp [here]

theorem get_insert (key other : String) (value : Value) (members : Members) :
    get? other (insert key value members) = if other = key then some value else get? other members := by
  induction members with
  | nil => simp [insert, get?, eq_comm]
  | cons first rest ih =>
      obtain ⟨name, old⟩ := first
      simp only [insert]
      split
      · rename_i same
        subst same
        simp only [get?]
        by_cases here : name = other
        · simp [here]
        · simp [here, Ne.symm here]
      · rename_i different
        simp only [get?, ih]
        by_cases here : name = other
        · subst here
          simp [different]
        · simp [here]

end Members

def Route.EndsAtMember (route : Route) : Prop := ∃ key, route.getLast? = some (.key key)

/-- Every route through the first value also goes through the second, past values of
the same kinds. -/
def Shrunk (smaller value : Value) : Prop :=
  ∀ route part, smaller.at? route = some part →
    ∃ whole, value.at? route = some whole ∧ part.kind = whole.kind

theorem Shrunk.refl (value : Value) : Shrunk value value := fun _ part found => ⟨part, found, rfl⟩

theorem Shrunk.trans {smaller middle value : Value} (first : Shrunk smaller middle)
    (second : Shrunk middle value) : Shrunk smaller value := by
  intro route part found
  obtain ⟨inner, found, kinds⟩ := first route part found
  obtain ⟨outer, found, more⟩ := second route inner found
  exact ⟨outer, found, kinds.trans more⟩

theorem Shrunk.kind {smaller value : Value} (shrunk : Shrunk smaller value) :
    smaller.kind = value.kind := by
  obtain ⟨whole, found, kinds⟩ := shrunk [] smaller rfl
  exact kinds.trans (congrArg Value.kind (Option.some.inj found)).symm

theorem Shrunk.child {smaller value next : Value} {step : Step} (shrunk : Shrunk smaller value)
    (child : smaller.child? step = some next) :
    ∃ whole, value.child? step = some whole ∧ Shrunk next whole := by
  obtain ⟨whole, found, _⟩ := shrunk [step] next (by simp [Value.at?, child])
  have childWhole : value.child? step = some whole := by simpa [Value.at?] using found
  refine ⟨whole, childWhole, fun route part found => ?_⟩
  simpa [Value.at?, childWhole] using shrunk (step :: route) part (by simpa [Value.at?, child])

/-- A value shrinks when its children do, and some may be missing. -/
theorem shrunk_of_children {smaller value : Value} (kinds : smaller.kind = value.kind)
    (children : ∀ step next, smaller.child? step = some next →
      ∃ whole, value.child? step = some whole ∧ Shrunk next whole) : Shrunk smaller value := by
  intro route part found
  cases route with
  | nil =>
      obtain rfl := Option.some.inj found
      exact ⟨value, rfl, kinds⟩
  | cons step rest =>
      obtain ⟨next, child, found⟩ := Option.bind_eq_some_iff.1 found
      obtain ⟨whole, childWhole, shrunk⟩ := children step next child
      obtain ⟨wholePart, foundWhole, kinds⟩ := shrunk rest part found
      exact ⟨wholePart, by simpa [Value.at?, childWhole] using foundWhole, kinds⟩

/-- The first value with another child, or none, at one step. -/
def Replaced (value : Value) (step : Step) (child : Option Value) (other : Value) : Prop :=
  other.kind = value.kind ∧
    ∀ taken, other.child? taken = if taken = step then child else value.child? taken

inductive Removed : Value → Route → Value → Prop where
  | member {value member smaller : Value} {key : String}
      (present : value.child? (.key key) = some member)
      (replaced : Replaced value (.key key) none smaller) : Removed value [.key key] smaller
  | deeper {value next changed smaller : Value} {step : Step} {route : Route}
      (present : value.child? step = some next) (removed : Removed next route changed)
      (replaced : Replaced value step (some changed) smaller) :
      Removed value (step :: route) smaller

section Removed

variable {value smaller : Value} {route other : Route}

theorem Removed.ends_at_member (removed : Removed value route smaller) : route.EndsAtMember := by
  induction removed with
  | @member value member smaller key => exact ⟨key, rfl⟩
  | deeper _ removed _ ih =>
      obtain ⟨key, last⟩ := ih
      exact ⟨key, by simp [List.getLast?_cons, last]⟩

theorem Removed.gone (removed : Removed value route smaller) : smaller.at? route = none := by
  induction removed with
  | member _ replaced => simp [Value.at?, replaced.2]
  | deeper _ _ replaced ih => simpa [Value.at?, replaced.2] using ih

theorem Removed.apart (removed : Removed value route smaller) (notAbove : ¬route <+: other)
    (notBelow : ¬other <+: route) : smaller.at? other = value.at? other := by
  induction removed generalizing other with
  | @member value member smaller key present replaced =>
      cases other with
      | nil => exact (notBelow List.nil_prefix).elim
      | cons step rest =>
          have different : step ≠ .key key := by
            rintro rfl
            exact notAbove (by simp)
          simp [Value.at?, replaced.2, different]
  | @deeper value next changed smaller step route present removed replaced ih =>
      cases other with
      | nil => exact (notBelow List.nil_prefix).elim
      | cons taken rest =>
          by_cases same : taken = step
          · subst same
            rw [List.prefix_cons_inj] at notAbove notBelow
            simpa [Value.at?, replaced.2, present] using ih notAbove notBelow
          · simp [Value.at?, replaced.2, same]

theorem Removed.remains (removed : Removed value route smaller) (notAbove : ¬route <+: other)
    (present : value.at? other ≠ none) : smaller.at? other ≠ none := by
  induction removed generalizing other with
  | @member value member smaller key found replaced =>
      cases other with
      | nil => simp [Value.at?]
      | cons step rest =>
          have different : step ≠ .key key := by
            rintro rfl
            exact notAbove (by simp)
          simpa [Value.at?, replaced.2, different] using present
  | @deeper value next changed smaller step route found removed replaced ih =>
      cases other with
      | nil => simp [Value.at?]
      | cons taken rest =>
          by_cases same : taken = step
          · subst same
            rw [List.prefix_cons_inj] at notAbove
            simp only [Value.at?, found, replaced.2, if_true, Option.bind_some] at present ⊢
            exact ih notAbove present
          · simpa [Value.at?, replaced.2, same] using present

theorem Removed.shrunk (removed : Removed value route smaller) : Shrunk smaller value := by
  induction removed with
  | member _ replaced =>
      apply shrunk_of_children replaced.1
      intro step next child
      rw [replaced.2] at child
      split at child
      · contradiction
      · exact ⟨next, child, .refl next⟩
  | deeper present _ replaced ih =>
      apply shrunk_of_children replaced.1
      intro step next child
      rw [replaced.2] at child
      split at child
      · rename_i same
        obtain rfl := Option.some.inj child
        exact ⟨_, same ▸ present, ih⟩
      · exact ⟨next, child, .refl next⟩

end Removed

theorem replaced_erase (members : Members) (key : String) :
    Replaced (.object members) (.key key) none (.object (members.erase key)) := by
  refine ⟨rfl, fun taken => ?_⟩
  cases taken with
  | key name => simp [Value.child?, Members.get_erase]
  | position => simp [Value.child?]

theorem replaced_insert (members : Members) (key : String) (changed : Value) :
    Replaced (.object members) (.key key) (some changed)
      (.object (members.insert key changed)) := by
  refine ⟨rfl, fun taken => ?_⟩
  cases taken with
  | key name => simp [Value.child?, Members.get_insert]
  | position => simp [Value.child?]

theorem replaced_set {items : List Value} {position : Nat} {item : Value}
    (present : items[position]? = some item) (changed : Value) :
    Replaced (.array items) (.position position) (some changed)
      (.array (items.set position changed)) := by
  obtain ⟨inRange, _⟩ := List.getElem?_eq_some_iff.1 present
  refine ⟨rfl, fun taken => ?_⟩
  cases taken with
  | key name => simp [Value.child?]
  | position index =>
      simp only [Value.child?, List.getElem?_set, Step.position.injEq]
      by_cases same : position = index
      · simp [← same, inRange]
      · simp [same, Ne.symm same]

/-- How a member is removed: it is erased from its mapping, and the changed parts are put
back in the places of the old ones. -/
inductive Cut : Value → Route → Value → Prop where
  | erase {members : Members} {key : String} {member : Value}
      (found : Members.get? key members = some member) :
      Cut (.object members) [.key key] (.object (members.erase key))
  | insert {members : Members} {key : String} {member changed : Value} {route : Route}
      (found : Members.get? key members = some member) (inner : Cut member route changed) :
      Cut (.object members) (.key key :: route) (.object (members.insert key changed))
  | set {items : List Value} {position : Nat} {item changed : Value} {route : Route}
      (found : items[position]? = some item) (inner : Cut item route changed) :
      Cut (.array items) (.position position :: route) (.array (items.set position changed))

theorem Cut.removed {value smaller : Value} {route : Route} (cut : Cut value route smaller) :
    Removed value route smaller := by
  induction cut with
  | @erase members key member found => exact .member found (replaced_erase members key)
  | @insert members key member changed route found inner ih =>
      exact .deeper found ih (replaced_insert members key changed)
  | @set items position item changed route found inner ih =>
      exact .deeper found ih (replaced_set found changed)

namespace Pointer

theorem step_of_kind {value other : Value} (kinds : value.kind = other.kind) (segment : String) :
    step? value segment = step? other segment := by
  cases value <;> cases other <;> first | rfl | contradiction

theorem cut_of_remove_path {value smaller : Value} {path : List String}
    (removal : removePath value path = some smaller) :
    ∃ route, route? value path = some route ∧ Cut value route smaller := by
  induction path generalizing value smaller with
  | nil => simp [removePath] at removal
  | cons segment rest ih =>
      -- Only the last segment removes; the ones before it put the changed part back.
      cases rest with
      | nil =>
          cases value with
          | object members =>
              simp only [removePath] at removal
              split at removal
              · rename_i present
                obtain rfl := Option.some.inj removal
                obtain ⟨member, found⟩ := Option.isSome_iff_exists.1 present
                have child : Value.child? (.object members) (.key segment) = some member := found
                exact ⟨[.key segment], by simp [route?, step?, child], .erase found⟩
              · contradiction
          | array | null | bool | number | string => simp [removePath] at removal
      | cons next more =>
          cases value with
          | object members =>
              simp only [removePath, Option.bind_eq_bind, Option.bind_eq_some_iff, Option.pure_def,
                Option.some.injEq] at removal
              obtain ⟨member, found, changed, inner, rfl⟩ := removal
              obtain ⟨route, routed, cut⟩ := ih inner
              exact ⟨.key segment :: route,
                route_cons_iff.2 ⟨_, member, route, rfl, found, routed, rfl⟩, .insert found cut⟩
          | array items =>
              simp only [removePath, Option.bind_eq_bind, Option.bind_eq_some_iff, Option.pure_def,
                Option.some.injEq] at removal
              obtain ⟨position, spelled, item, found, changed, inner, rfl⟩ := removal
              have child : Value.child? (.array items) (.position position) = some item := found
              obtain ⟨route, routed, cut⟩ := ih inner
              exact ⟨.position position :: route,
                route_cons_iff.2 ⟨_, item, route, by simp [step?, spelled], child, routed, rfl⟩,
                .set found cut⟩
          | null | bool | number | string => simp [removePath] at removal

theorem removed_of_remove_path {value smaller : Value} {path : List String}
    (removal : removePath value path = some smaller) :
    ∃ route, route? value path = some route ∧ Removed value route smaller := by
  obtain ⟨route, routed, cut⟩ := cut_of_remove_path removal
  exact ⟨route, routed, cut.removed⟩

theorem remove_path_of_route {value : Value} {path : List String} {route : Route}
    (routed : route? value path = some route) (member : route.EndsAtMember) :
    ∃ smaller, removePath value path = some smaller := by
  induction path generalizing value route with
  | nil =>
      obtain rfl := Option.some.inj routed
      obtain ⟨key, last⟩ := member
      simp at last
  | cons segment rest ih =>
      obtain ⟨taken, next, onward, spelled, child, further, rfl⟩ := route_cons_iff.1 routed
      cases rest with
      | nil =>
          obtain rfl := Option.some.inj further
          obtain ⟨key, last⟩ := member
          obtain rfl : taken = .key key := by simpa using last
          cases value with
          | object members =>
              obtain rfl : segment = key := by simpa [step?] using spelled
              have present : Members.has segment members := Option.isSome_iff_exists.2 ⟨next, child⟩
              exact ⟨_, by rw [removePath, if_pos present]⟩
          | array | null | bool | number | string => simp [step?] at spelled
      | cons nextSegment more =>
          have memberOnward : onward.EndsAtMember := by
            obtain ⟨other, _, last, _, _, _, rfl⟩ := route_cons_iff.1 further
            obtain ⟨key, last⟩ := member
            exact ⟨key, by simpa using last⟩
          obtain ⟨changed, inner⟩ := ih further memberOnward
          cases value with
          | object members =>
              obtain rfl : taken = .key segment := by simpa [step?] using spelled.symm
              have found : Members.get? segment members = some next := child
              exact ⟨.object (Members.insert segment changed members), by
                simp [removePath, found, inner]⟩
          | array items =>
              obtain ⟨position, index, rfl⟩ := Option.map_eq_some_iff.1 spelled
              have found : items[position]? = some next := child
              exact ⟨.array (items.set position changed), by
                simp [removePath, index, found, inner]⟩
          | null | bool | number | string => simp [step?] at spelled

theorem at_of_route {value : Value} {path : List String} {route : Route}
    (routed : route? value path = some route) : ∃ part, value.at? route = some part := by
  induction path generalizing value route with
  | nil =>
      obtain rfl := Option.some.inj routed
      exact ⟨value, rfl⟩
  | cons segment rest ih =>
      obtain ⟨taken, next, onward, _, child, further, rfl⟩ := route_cons_iff.1 routed
      simpa [Value.at?, child] using ih further

theorem route_of_shrunk {smaller value : Value} {path : List String} {route : Route}
    (shrunk : Shrunk smaller value) (routed : route? smaller path = some route) :
    route? value path = some route := by
  induction path generalizing smaller value route with
  | nil => exact routed
  | cons segment rest ih =>
      obtain ⟨taken, next, onward, spelled, child, further, rfl⟩ := route_cons_iff.1 routed
      obtain ⟨whole, childWhole, shrunkNext⟩ := shrunk.child child
      rw [step_of_kind shrunk.kind] at spelled
      exact route_cons_iff.2 ⟨taken, whole, onward, spelled, childWhole, ih shrunkNext further, rfl⟩

theorem route_remains {smaller value : Value} {path : List String} {route : Route}
    (shrunk : Shrunk smaller value) (routed : route? value path = some route)
    (remains : smaller.at? route ≠ none) : route? smaller path = some route := by
  induction path generalizing smaller value route with
  | nil => exact routed
  | cons segment rest ih =>
      obtain ⟨taken, next, onward, spelled, child, further, rfl⟩ := route_cons_iff.1 routed
      cases childSmaller : smaller.child? taken with
      | none => simp [Value.at?, childSmaller] at remains
      | some part =>
          obtain ⟨whole, childWhole, shrunkPart⟩ := shrunk.child childSmaller
          obtain rfl := Option.some.inj (childWhole.symm.trans child)
          rw [← step_of_kind shrunk.kind] at spelled
          have partRemains : part.at? onward ≠ none := by
            simpa [Value.at?, childSmaller] using remains
          exact route_cons_iff.2
            ⟨taken, part, onward, spelled, childSmaller, ih shrunkPart further partRemains, rfl⟩

/-- A pointer leads along a route to a member of a mapping. -/
def NamesMember (root : Value) (pointer : String) (route : Route) : Prop :=
  route? root (segments pointer) = some route ∧ route.EndsAtMember

theorem navigate_eq_ok_iff_route {root target : Value} {pointer : String} :
    navigate root pointer = .ok target ↔
      ∃ route, route? root (segments pointer) = some route ∧ root.at? route = some target := by
  rw [navigate_eq_ok_iff, descend_eq_ok_iff]

end Pointer

section RemoveAll

open Pointer

theorem remove_all_step (root : Value) (pointer : String) (rest : List String) :
    (∃ smaller, remove root pointer = some smaller ∧
        removeAll root (pointer :: rest) =
          ((removeAll smaller rest).1, (removeAll smaller rest).2 + 1)) ∨
      remove root pointer = none ∧ removeAll root (pointer :: rest) = removeAll root rest := by
  cases removal : remove root pointer with
  | some smaller => exact .inl ⟨smaller, rfl, by simp [removeAll, removal]⟩
  | none => exact .inr ⟨rfl, by simp [removeAll, removal]⟩

theorem not_named_of_remove {root : Value} {pointer : String} (absent : remove root pointer = none)
    (route : Route) : ¬NamesMember root pointer route := by
  intro named
  obtain ⟨smaller, removal⟩ := remove_path_of_route named.1 named.2
  rw [remove, removal] at absent
  contradiction

theorem remove_all_cons (root : Value) (pointer : String) (rest : List String) :
    (∃ smaller route, NamesMember root pointer route ∧ Removed root route smaller ∧
        (removeAll root (pointer :: rest)).1 = (removeAll smaller rest).1) ∨
      ((∀ route, ¬NamesMember root pointer route) ∧
        (removeAll root (pointer :: rest)).1 = (removeAll root rest).1) := by
  obtain ⟨smaller, removal, same⟩ | ⟨absent, same⟩ := remove_all_step root pointer rest
  · obtain ⟨route, routed, removed⟩ := removed_of_remove_path removal
    exact .inl ⟨smaller, route, ⟨routed, removed.ends_at_member⟩, removed, by rw [same]⟩
  · exact .inr ⟨not_named_of_remove absent, by rw [same]⟩

theorem remove_all_shrunk (root : Value) (pointers : List String) :
    Shrunk (removeAll root pointers).1 root := by
  induction pointers generalizing root with
  | nil => exact .refl root
  | cons pointer rest ih =>
      obtain ⟨smaller, route, _, removed, same⟩ | ⟨_, same⟩ := remove_all_cons root pointer rest
      · rw [same]
        exact (ih smaller).trans removed.shrunk
      · rw [same]
        exact ih root

theorem remove_all_gone {root : Value} {pointers : List String} {pointer : String} {route : Route}
    (listed : pointer ∈ pointers) (named : NamesMember root pointer route) :
    (removeAll root pointers).1.at? route = none := by
  induction pointers generalizing root with
  | nil => simp at listed
  | cons first rest ih =>
      obtain ⟨smaller, removedRoute, firstNamed, removed, same⟩ | ⟨absent, same⟩ :=
        remove_all_cons root first rest
      · rw [same]
        -- The first removal may take the place away; otherwise the pointer still names it.
        by_contra still
        obtain ⟨part, found⟩ := Option.ne_none_iff_exists'.1 still
        obtain ⟨_, foundSmaller, _⟩ := remove_all_shrunk smaller rest route part found
        rcases List.mem_cons.1 listed with rfl | later
        · obtain rfl := Option.some.inj (named.1.symm.trans firstNamed.1)
          simp [removed.gone] at foundSmaller
        · have routed := route_remains removed.shrunk named.1 (by simp [foundSmaller])
          simp [ih later ⟨routed, named.2⟩] at found
      · rw [same]
        rcases List.mem_cons.1 listed with rfl | later
        · exact (absent route named).elim
        · exact ih later named

theorem remove_all_remains {root : Value} {pointers : List String} {other : Route}
    (notAbove : ∀ pointer ∈ pointers, ∀ route, NamesMember root pointer route → ¬route <+: other)
    (present : root.at? other ≠ none) : (removeAll root pointers).1.at? other ≠ none := by
  induction pointers generalizing root with
  | nil => exact present
  | cons first rest ih =>
      obtain ⟨smaller, route, named, removed, same⟩ | ⟨_, same⟩ := remove_all_cons root first rest
      · rw [same]
        apply ih _ (removed.remains (notAbove first List.mem_cons_self route named) present)
        intro pointer listed later namedLater
        have routed := route_of_shrunk removed.shrunk namedLater.1
        exact notAbove pointer (List.mem_cons_of_mem _ listed) later ⟨routed, namedLater.2⟩
      · rw [same]
        exact ih (fun pointer listed => notAbove pointer (List.mem_cons_of_mem _ listed)) present

theorem remove_all_apart {root : Value} {pointers : List String} {other : Route}
    (apart : ∀ pointer ∈ pointers, ∀ route, NamesMember root pointer route →
      ¬route <+: other ∧ ¬other <+: route) :
    (removeAll root pointers).1.at? other = root.at? other := by
  induction pointers generalizing root with
  | nil => rfl
  | cons first rest ih =>
      obtain ⟨smaller, route, named, removed, same⟩ | ⟨_, same⟩ := remove_all_cons root first rest
      · have parts := apart first List.mem_cons_self route named
        rw [same, ← removed.apart parts.1 parts.2]
        apply ih
        intro pointer listed later namedLater
        have routed := route_of_shrunk removed.shrunk namedLater.1
        exact apart pointer (List.mem_cons_of_mem _ listed) later ⟨routed, namedLater.2⟩
      · rw [same]
        exact ih fun pointer listed => apart pointer (List.mem_cons_of_mem _ listed)

end RemoveAll

namespace Pointer

/-- The first pointer names a member that the second goes through or ends at. -/
def StandsAbove (root : Value) (pointer other : String) : Prop :=
  ∃ route otherRoute, NamesMember root pointer route ∧
    route? root (segments other) = some otherRoute ∧ route <+: otherRoute

def StandsBelow (root : Value) (pointer other : String) : Prop :=
  ∃ route otherRoute, NamesMember root pointer route ∧
    route? root (segments other) = some otherRoute ∧ otherRoute <+: route

variable {root target : Value} {pointers : List String} {pointer : String}

theorem navigate_of_remove_all_eq_ok
    (reached : navigate (removeAll root pointers).1 pointer = .ok target) :
    ∃ route whole, route? root (segments pointer) = some route ∧ root.at? route = some whole ∧
      (removeAll root pointers).1.at? route = some target := by
  obtain ⟨route, routed, ends⟩ := navigate_eq_ok_iff_route.1 reached
  have shrunk := remove_all_shrunk root pointers
  obtain ⟨whole, stood, _⟩ := shrunk route target ends
  exact ⟨route, whole, route_of_shrunk shrunk routed, stood, ends⟩

theorem not_above_of_remaining (reached : navigate (removeAll root pointers).1 pointer = .ok target) :
    ∀ removed ∈ pointers, ¬StandsAbove root removed pointer := by
  rintro removed listed ⟨route, otherRoute, named, routed, rest, rfl⟩
  obtain ⟨route', _, routed', _, ends⟩ := navigate_of_remove_all_eq_ok reached
  obtain rfl := Option.some.inj (routed.symm.trans routed')
  simp [Value.at_append, remove_all_gone listed named] at ends

/-- A pointer still leads somewhere exactly when nothing was removed at its target
or above. -/
theorem remaining_target_iff (root : Value) (pointers : List String) (pointer : String) :
    (∃ target, navigate (removeAll root pointers).1 pointer = .ok target) ↔
      (∃ target, navigate root pointer = .ok target) ∧
        ∀ removed ∈ pointers, ¬StandsAbove root removed pointer := by
  constructor
  · rintro ⟨target, reached⟩
    obtain ⟨route, whole, routed, stood, _⟩ := navigate_of_remove_all_eq_ok reached
    exact ⟨⟨whole, navigate_eq_ok_iff_route.2 ⟨route, routed, stood⟩⟩,
      not_above_of_remaining reached⟩
  · rintro ⟨⟨target, reached⟩, notAbove⟩
    obtain ⟨route, routed, ends⟩ := navigate_eq_ok_iff_route.1 reached
    have remains : (removeAll root pointers).1.at? route ≠ none := by
      apply remove_all_remains _ (by simp [ends])
      intro removed listed removedRoute named above
      exact notAbove removed listed ⟨removedRoute, route, named, routed, above⟩
    obtain ⟨part, found⟩ := Option.ne_none_iff_exists'.1 remains
    have stillRouted := route_remains (remove_all_shrunk root pointers) routed remains
    exact ⟨part, navigate_eq_ok_iff_route.2 ⟨route, stillRouted, found⟩⟩

/-- A pointer leads to what it led to exactly when nothing was removed at its target,
above or below. -/
theorem unchanged_target_iff (root : Value) (pointers : List String) (pointer : String) :
    (∀ target, navigate (removeAll root pointers).1 pointer = .ok target ↔
        navigate root pointer = .ok target) ↔
      ∀ removed ∈ pointers, ¬StandsAbove root removed pointer ∧
        ¬StandsBelow root removed pointer := by
  constructor
  · intro unchanged removed listed
    constructor
    · intro above
      have whole : ∃ whole, navigate root pointer = .ok whole := by
        obtain ⟨_, route, _, routed, _⟩ := above
        obtain ⟨whole, stood⟩ := at_of_route routed
        exact ⟨whole, navigate_eq_ok_iff_route.2 ⟨route, routed, stood⟩⟩
      obtain ⟨whole, reached⟩ := whole
      exact not_above_of_remaining ((unchanged whole).2 reached) removed listed above
    · rintro ⟨_, route, named, routed, rest, rfl⟩
      obtain ⟨whole, stood⟩ := at_of_route routed
      obtain ⟨part, inside⟩ := at_of_route named.1
      have reached := (unchanged whole).2 (navigate_eq_ok_iff_route.2 ⟨route, routed, stood⟩)
      obtain ⟨route', _, routed', _, ends⟩ := navigate_of_remove_all_eq_ok reached
      obtain rfl := Option.some.inj (routed.symm.trans routed')
      have gone := remove_all_gone listed named
      rw [Value.at_append, ends] at gone
      rw [Value.at_append, stood] at inside
      exact Option.some_ne_none part (inside.symm.trans gone)
  · intro free target
    -- The routes to the place are the old ones, so the values at their ends are compared.
    have same : ∀ route, route? root (segments pointer) = some route →
        (removeAll root pointers).1.at? route = root.at? route := by
      intro route routed
      apply remove_all_apart
      intro removed listed removedRoute named
      exact ⟨fun above => (free removed listed).1 ⟨removedRoute, route, named, routed, above⟩,
        fun below => (free removed listed).2 ⟨removedRoute, route, named, routed, below⟩⟩
    constructor
    · intro reached
      obtain ⟨route, _, routed, _, ends⟩ := navigate_of_remove_all_eq_ok reached
      exact navigate_eq_ok_iff_route.2 ⟨route, routed, (same route routed).symm.trans ends⟩
    · intro reached
      obtain ⟨route, routed, ends⟩ := navigate_eq_ok_iff_route.1 reached
      have found := (same route routed).trans ends
      have remains := route_remains (remove_all_shrunk root pointers) routed (by simp [found])
      exact navigate_eq_ok_iff_route.2 ⟨route, remains, found⟩

end Pointer

end RefLint
