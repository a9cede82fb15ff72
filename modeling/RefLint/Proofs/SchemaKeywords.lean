import Mathlib.Data.List.Basic
import RefLint.Schema.Conformance

/-!
# When a schema finds nothing wrong

A schema finds nothing wrong with a value when none of its keywords does. For each keyword
that describes the form of a mapping, a sequence or a scalar, what that comes to is told in
terms of the value and of the schemas inside the keyword.
-/

namespace RefLint

set_option autoImplicit false

namespace Schema

def checker (definitions : Definitions) (budget : Nat) : Checker :=
  ⟨violations definitions budget,
    evaluated (violations definitions budget) definitions budget⟩

theorem all_fits_iff {definitions : Definitions} {budget : Nat} {keywords : List Keyword}
    {value : Value} :
    violations definitions (budget + 1) (.all keywords) value = [] ↔
      ∀ keyword ∈ keywords,
        keyword.violations (checker definitions budget) definitions value = [] := by
  rw [violations, List.flatMap_eq_nil_iff]
  simp only [List.map_eq_nil_iff]
  rfl

end Schema

namespace Keyword

variable {check : Checker} {definitions : Definitions} {value : Value} {members : Members}
  {items : List Value} {schema : Schema}

/-- A keyword that has one violation to tell unless it is kept. -/
theorem kept_fits_iff {kept : Bool} {violation : Violation} :
    (if kept then [] else [violation]) = [] ↔ kept = true := by
  cases kept <;> simp

theorem type_fits_iff {allowed : List TypeName} :
    (type allowed).violations check definitions value = [] ↔
      ∃ typeName ∈ allowed, typeName.admits value = true :=
  kept_fits_iff.trans List.any_eq_true

theorem listed_fits_iff {options : List Value} :
    (oneOfValues options).violations check definitions value = [] ↔
      ∃ option ∈ options, value.sameAs option = true :=
  kept_fits_iff.trans List.any_eq_true

theorem required_fits_iff {names : List String} :
    (required names).violations check definitions (.object members) = [] ↔
      ∀ name ∈ names, Members.has name members = true := by
  change missingViolations names members = [] ↔ _
  simp [missingViolations]

theorem shortest_text_fits_iff {limit : Nat} {text : String} :
    (size .characters .least limit).violations check definitions (.string text) = [] ↔
      limit ≤ text.length :=
  kept_fits_iff.trans decide_eq_true_iff

theorem fewest_items_fits_iff {limit : Nat} :
    (size .items .least limit).violations check definitions (.array items) = [] ↔
      limit ≤ items.length :=
  kept_fits_iff.trans decide_eq_true_iff

theorem bound_fits_iff {side : Side} {strict : Bool} {limit number : Number} :
    (bound side strict limit).violations check definitions (.number number) = [] ↔
      number.isWithin side strict limit = true :=
  kept_fits_iff

theorem pattern_fits_iff {regex : Pattern} {text : String} :
    (pattern regex).violations check definitions (.string text) = [] ↔ regex.found text = true := by
  rw [violations, Pattern.found, decide_eq_true_eq]
  cases regex.search text <;> simp

theorem properties_fits_iff {named : List (String × Schema)} :
    (properties named).violations check definitions (.object members) = [] ↔
      ∀ entry ∈ named, ∀ member, Members.get? entry.1 members = some member →
        check.violations entry.2 member = [] := by
  change namedViolations check named members = [] ↔ _
  simp only [namedViolations, List.flatMap_eq_nil_iff]
  refine forall₂_congr fun entry listed => ?_
  cases Members.get? entry.1 members with
  | none => simp
  | some member => simp

theorem items_fits_iff :
    (laterItems 0 schema).violations check definitions (.array items) = [] ↔
      ∀ item ∈ items, check.violations schema item = [] := by
  change itemViolations check schema 0 items = [] ↔ _
  generalize 0 = position
  induction items generalizing position with
  | nil => simp [itemViolations]
  | cons item rest ih => simp [itemViolations, ih]

/-- With no schema for the rest, each member has to be named. -/
theorem closed_members_fit_iff {named : List (String × Schema)} :
    (additionalProperties named [] .nothing).violations check definitions (.object members) = [] ↔
      ∀ key member, (key, member) ∈ members →
        ∃ schema, Definitions.get? key named = some schema ∧
          check.violations schema member = [] := by
  have unexpected : (members.filter fun entry => !isCovered named [] entry.1) = [] ↔
      ∀ key member, (key, member) ∈ members → Definitions.get? key named ≠ none := by
    simp [List.filter_eq_nil_iff, isCovered]
  have covered : (members.flatMap fun entry =>
        coveredViolations check named [] entry.1 entry.2) = [] ↔
      ∀ key member, (key, member) ∈ members → ∀ schema, Definitions.get? key named = some schema →
        check.violations schema member = [] := by
    simp only [List.flatMap_eq_nil_iff, Prod.forall, coveredViolations, patternViolations,
      List.flatMap_nil, List.append_nil]
    refine forall₃_congr fun key member listed => ?_
    cases Definitions.get? key named <;> simp
  have closed : closedViolations check named [] members = [] ↔ (members.flatMap fun entry =>
      coveredViolations check named [] entry.1 entry.2) = [] ∧
        (members.filter fun entry => !isCovered named [] entry.1) = [] := by
    simp [closedViolations, -List.filter_eq_nil_iff, -List.flatMap_eq_nil_iff]
  change closedViolations check named [] members = [] ↔ _
  rw [closed, covered, unexpected]
  constructor
  · rintro ⟨fits, known⟩ key member listed
    obtain ⟨schema, found⟩ := Option.ne_none_iff_exists'.1 (known key member listed)
    exact ⟨schema, found, fits key member listed schema found⟩
  · intro fits
    constructor
    · intro key member listed schema found
      obtain ⟨other, again, fit⟩ := fits key member listed
      obtain rfl := Option.some.inj (found.symm.trans again)
      exact fit
    · intro key member listed absent
      obtain ⟨_, found, _⟩ := fits key member listed
      rw [absent] at found
      contradiction

theorem open_members_fit_iff {keywords : List Keyword} :
    (additionalProperties [] [] (.all keywords)).violations check definitions (.object members) =
        [] ↔
      ∀ entry ∈ members, check.violations (.all keywords) entry.2 = [] := by
  change openViolations check [] [] (.all keywords) members = [] ↔ _
  simp [openViolations, isCovered, Definitions.get?]

theorem one_of_fits_iff {schemas : List Schema} :
    (oneOf schemas).violations check definitions value = [] ↔
      countValid check value schemas = 1 := by
  rw [violations]
  split
  · rename_i none
    simp [none]
  · rename_i one
    simp [one]
  · rename_i notOne
    simpa using notOne

theorem one_of_two_fits_iff {first second : Schema} :
    (oneOf [first, second]).violations check definitions value = [] ↔
      Xor (check.violations first value = []) (check.violations second value = []) := by
  rw [one_of_fits_iff, countValid, xor_def]
  by_cases left : check.violations first value = [] <;>
    by_cases right : check.violations second value = [] <;>
      simp [isValid, Check.isValid, left, right]

theorem typed_fits_iff {budget : Nat} {typeName : TypeName} {keywords : List Keyword} :
    Schema.violations definitions (budget + 1) (.all (type [typeName] :: keywords)) value = [] ↔
      typeName.admits value = true ∧ ∀ keyword ∈ keywords,
        keyword.violations (Schema.checker definitions budget) definitions value = [] := by
  rw [Schema.all_fits_iff, List.forall_mem_cons, type_fits_iff]
  simp

theorem typed_text_fits_iff {budget : Nat} {keywords : List Keyword} :
    Schema.violations definitions (budget + 1) (.all (type [.string] :: keywords)) value = [] ↔
      ∃ text, value = .string text ∧ ∀ keyword ∈ keywords,
        keyword.violations (Schema.checker definitions budget) definitions (.string text) = [] := by
  rw [typed_fits_iff]
  cases value <;> simp [TypeName.admits]

theorem typed_mapping_fits_iff {budget : Nat} {keywords : List Keyword} :
    Schema.violations definitions (budget + 1) (.all (type [.object] :: keywords)) value = [] ↔
      ∃ members, value = .object members ∧ ∀ keyword ∈ keywords,
        keyword.violations (Schema.checker definitions budget) definitions (.object members) =
          [] := by
  rw [typed_fits_iff]
  cases value <;> simp [TypeName.admits]

theorem reference_fits_iff {label target : String}
    (found : definitions.get? target = some schema) :
    (reference label target).violations check definitions value = [] ↔
      check.violations schema value = [] := by
  rw [violations, found]

end Keyword

end RefLint
