import Mathlib.Data.List.Forall2
import RefLint.Reference

/-!
# Places in a value

What stands inside a value and which steps lead to it. A pointer never leads out
of its document, so whatever holds of all parts of a document holds of all parts
of every target.
-/

namespace RefLint

set_option autoImplicit false

inductive Step where
  | key (name : String)
  | position (index : Nat)
  deriving DecidableEq

abbrev Route := List Step

/-- The part is the whole itself or stands anywhere in it. -/
inductive Inside : Value → Value → Prop where
  | here (whole : Value) : Inside whole whole
  | member {part value : Value} {key : String} {members : Members}
      (present : (key, value) ∈ members) (deeper : Inside part value) :
      Inside part (.object members)
  | item {part value : Value} {items : List Value}
      (present : value ∈ items) (deeper : Inside part value) : Inside part (.array items)

theorem Inside.trans {part middle whole : Value} (inner : Inside part middle)
    (outer : Inside middle whole) : Inside part whole := by
  induction outer with
  | here => exact inner
  | member present _ ih => exact .member present ih
  | item present _ ih => exact .item present ih

namespace Members

theorem mem_of_get {key : String} {value : Value} {members : Members}
    (found : get? key members = some value) : (key, value) ∈ members := by
  induction members with
  | nil => simp [get?] at found
  | cons first rest ih =>
      obtain ⟨name, other⟩ := first
      simp only [get?] at found
      split at found
      · rename_i same
        injection found with same'
        subst same same'
        exact List.mem_cons_self
      · exact List.mem_cons_of_mem _ (ih found)

/-- Mappings with the same keys whose values correspond one by one. -/
def Correspond (related : Value → Value → Prop) (members others : Members) : Prop :=
  keys others = keys members ∧ List.Forall₂ related (members.map (·.2)) (others.map (·.2))

theorem get_of_correspond {related : Value → Value → Prop} {members others : Members}
    (correspond : Correspond related members others) (key : String) :
    Option.Rel related (get? key members) (get? key others) := by
  induction members generalizing others with
  | nil =>
      cases others with
      | nil => exact .none
      | cons => simp [Correspond, keys] at correspond
  | cons first rest ih =>
      obtain ⟨sameKeys, values⟩ := correspond
      cases others with
      | nil => simp [keys] at sameKeys
      | cons other others =>
          obtain ⟨name, value⟩ := first
          obtain ⟨otherName, otherValue⟩ := other
          simp only [keys, List.map_cons, List.cons.injEq] at sameKeys
          simp only [List.map_cons, List.forall₂_cons] at values
          obtain ⟨rfl, sameKeys⟩ := sameKeys
          simp only [get?]
          split
          · exact .some values.1
          · exact ih ⟨sameKeys, values.2⟩

theorem get_eq_none_iff {key : String} {members : Members} :
    get? key members = none ↔ key ∉ keys members := by
  induction members with
  | nil => simp [get?, keys]
  | cons first rest ih =>
      obtain ⟨name, value⟩ := first
      simp only [get?, keys, List.map_cons, List.mem_cons, not_or]
      split
      · rename_i same
        simp [same]
      · rename_i different
        rw [ih, keys]
        simp [Ne.symm different]

end Members

namespace Value

def child? : Value → Step → Option Value
  | object members, .key name => Members.get? name members
  | array items, .position index => items[index]?
  | _, _ => none

def at? : Value → Route → Option Value
  | value, [] => some value
  | value, step :: rest => (value.child? step).bind fun next => next.at? rest

theorem at_append (value : Value) (route more : Route) :
    value.at? (route ++ more) = (value.at? route).bind fun next => next.at? more := by
  induction route generalizing value with
  | nil => rfl
  | cons step rest ih =>
      simp only [List.cons_append, at?]
      cases value.child? step with
      | none => rfl
      | some next => exact ih next

theorem inside_of_child {value next : Value} {step : Step} (child : value.child? step = some next) :
    Inside next value := by
  cases value with
  | object members =>
      cases step with
      | key name => exact .member (Members.mem_of_get child) (.here _)
      | position => contradiction
  | array items =>
      cases step with
      | key => contradiction
      | position index => exact .item (List.mem_of_getElem? child) (.here _)
  | null | bool | number | string => cases step <;> contradiction

theorem inside_of_at {value part : Value} {route : Route} (found : value.at? route = some part) :
    Inside part value := by
  induction route generalizing value with
  | nil =>
      obtain rfl := Option.some.inj found
      exact .here _
  | cons step rest ih =>
      obtain ⟨next, child, onward⟩ := Option.bind_eq_some_iff.1 found
      exact (ih onward).trans (inside_of_child child)

section AllMappings

def AllMappings (holds : Members → Prop) (value : Value) : Prop :=
  ∀ members, Inside (.object members) value → holds members

variable {holds : Members → Prop}

theorem AllMappings.inside {part whole : Value} (all : AllMappings holds whole)
    (inner : Inside part whole) : AllMappings holds part :=
  fun members place => all members (place.trans inner)

theorem all_mappings_array {items : List Value} :
    AllMappings holds (.array items) ↔ ∀ item ∈ items, AllMappings holds item := by
  constructor
  · intro all item present
    exact all.inside (.item present (.here _))
  · intro all members place
    cases place with
    | item present deeper => exact all _ present members deeper

theorem all_mappings_object {members : Members} :
    AllMappings holds (.object members) ↔
      holds members ∧ ∀ value ∈ members.map (·.2), AllMappings holds value := by
  constructor
  · intro all
    refine ⟨all members (.here _), fun value present => ?_⟩
    obtain ⟨⟨key, _⟩, listed, rfl⟩ := List.mem_map.1 present
    exact all.inside (.member listed (.here _))
  · rintro ⟨own, all⟩ inner place
    cases place with
    | here => exact own
    | member present deeper => exact all _ (List.mem_map_of_mem present) inner deeper

theorem all_mappings_scalar {value : Value} (scalar : value.kind ≠ .array ∧ value.kind ≠ .object) :
    AllMappings holds value := by
  intro members place
  cases place <;> simp [kind] at scalar

end AllMappings

end Value

namespace Pointer

def step? (value : Value) (segment : String) : Option Step :=
  match value with
  | .object _ => some (.key segment)
  | .array _ => (index? segment).map .position
  | _ => none

def route? : Value → List String → Option Route
  | _, [] => some []
  | value, segment :: rest => do
      let taken ← step? value segment
      let next ← value.child? taken
      let onward ← route? next rest
      pure (taken :: onward)

theorem step_eq_ok_iff {value next : Value} {segment : String} :
    step value segment = .ok next ↔
      ∃ taken, step? value segment = some taken ∧ value.child? taken = some next := by
  cases value with
  | object members =>
      simp only [step, step?, Option.some.injEq, exists_eq_left', Value.child?]
      cases Members.get? segment members <;> simp
  | array items =>
      simp only [step, step?]
      cases index? segment with
      | none => simp
      | some position =>
          simp only [Option.bind_some, Option.map_some, Option.some.injEq, exists_eq_left',
            Value.child?]
          cases items[position]? <;> simp
  | null | bool | number | string => simp [step, step?]

theorem route_cons_iff {value : Value} {segment : String} {rest : List String} {route : Route} :
    route? value (segment :: rest) = some route ↔
      ∃ taken next onward, step? value segment = some taken ∧ value.child? taken = some next ∧
        route? next rest = some onward ∧ route = taken :: onward := by
  simp only [route?, Option.bind_eq_bind, Option.bind_eq_some_iff, Option.pure_def,
    Option.some.injEq]
  grind

theorem descend_eq_ok_iff {value target : Value} {path : List String} :
    descend value path = .ok target ↔
      ∃ route, route? value path = some route ∧ value.at? route = some target := by
  induction path generalizing value with
  | nil => simp [descend, route?, Value.at?]
  | cons segment rest ih =>
      constructor
      · intro reached
        rw [descend] at reached
        split at reached
        · rename_i next stepped
          obtain ⟨taken, spelled, child⟩ := step_eq_ok_iff.1 stepped
          obtain ⟨onward, routed, ends⟩ := ih.1 reached
          refine ⟨taken :: onward, route_cons_iff.2 ⟨taken, next, onward, spelled, child, routed, rfl⟩, ?_⟩
          simpa [Value.at?, child] using ends
        · contradiction
      · rintro ⟨route, routed, ends⟩
        obtain ⟨taken, next, onward, spelled, child, further, rfl⟩ := route_cons_iff.1 routed
        rw [descend, step_eq_ok_iff.2 ⟨taken, spelled, child⟩]
        exact ih.2 ⟨onward, further, by simpa [Value.at?, child] using ends⟩

theorem navigate_eq_ok_iff {root target : Value} {pointer : String} :
    navigate root pointer = .ok target ↔ descend root (segments pointer) = .ok target := by
  unfold navigate
  split <;> simp_all

theorem inside_of_navigate {root target : Value} {pointer : String}
    (reached : navigate root pointer = .ok target) : Inside target root :=
  have ⟨_, _, ends⟩ := descend_eq_ok_iff.1 (navigate_eq_ok_iff.1 reached)
  Value.inside_of_at ends

end Pointer

end RefLint
