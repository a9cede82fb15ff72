import RefLint.Proofs.DistinctKeys
import RefLint.Proofs.SchemaKeywords
import RefLint.Rules.Format
import RefLint.Rules.Rule

/-!
# What a ruleset document says

A document says which rules there are, and for each rule its texts, its severity, its
selector and its actions. Here this is told by relations between the members of mappings
and the data of rules. The schema of rulesets accepts exactly the documents that say
something in this sense.
-/

namespace RefLint.Rules

set_option autoImplicit false

/-- A severity is written by its name or as a number that equals its level, however the
number is held. -/
inductive SeverityWritten : Value → Severity → Prop where
  | name (severity : Severity) : SeverityWritten (.string severity.name) severity
  | level {number : Number} {severity : Severity}
      (same : number.sameValue (.integer severity.level) = true) :
      SeverityWritten (.number number) severity

/-- The members that write an action. There are no others in the mapping. -/
structure ActionWritten (members : Members) (action : RuleAction) : Prop where
  field : Members.get? "field" members = action.field.map Value.string
  fieldNotEmpty : action.field ≠ some ""
  function : Members.get? "function" members = some (.string action.function.name)
  options : Members.get? "functionOptions" members = action.options
  optionsMapping : ∀ value, action.options = some value → ∃ inner, value = .object inner
  known : ∀ key ∈ Members.keys members, key ∈ ["field", "function", "functionOptions"]

inductive ClauseWritten : Value → Clause → Prop where
  | one {members : Members} {action : RuleAction} (written : ActionWritten members action) :
      ClauseWritten (.object members) (.one action)
  | many {items : List Value} {actions : List RuleAction} (notEmpty : items ≠ [])
      (written : List.Forall₂ (fun item action =>
        ∃ members, item = .object members ∧ ActionWritten members action) items actions) :
      ClauseWritten (.array items) (.many actions)

/-- The members that write a rule. Others may stand beside them. -/
structure RuleWritten (members : Members) (rule : Rule) : Prop where
  description : Members.get? "description" members = some (.string rule.description)
  descriptionNotEmpty : rule.description ≠ ""
  message : Members.get? "message" members = some (.string rule.message)
  messageNotEmpty : rule.message ≠ ""
  severity : ∃ value, Members.get? "severity" members = some value ∧
    SeverityWritten value rule.severity
  given : Members.get? "given" members = some (.string rule.given)
  selector : ∃ rest, rule.given.toList = '$' :: rest
  clause : ∃ value, Members.get? "then" members = some value ∧ ClauseWritten value rule.clause
  recommended : Members.get? "recommended" members = some (.bool rule.recommended) ∨
    Members.get? "recommended" members = none ∧ rule.recommended = true

def EntryWritten (entry : String × Value) (rule : String × Rule) : Prop :=
  rule.1 = entry.1 ∧ ∃ inner, entry.2 = .object inner ∧ RuleWritten inner rule.2

def RulesetWritten (document : Value) (rules : List (String × Rule)) : Prop :=
  ∃ members named, document = .object members ∧
    Members.get? "rules" members = some (.object named) ∧
      List.Forall₂ EntryWritten named rules

section Scalars

variable {definitions : Definitions} {budget : Nat} {value : Value}

open Schema Keyword

theorem same_as_text_iff {name : String} :
    value.sameAs (.string name) = true ↔ value = .string name := by
  cases value <;> simp [Value.sameAs]

theorem text_fits_iff : nonEmptyText.violations definitions (budget + 1) value = [] ↔
    ∃ text, value = .string text ∧ text ≠ "" := by
  have positive : ∀ text : String, 1 ≤ text.length ↔ text ≠ "" := by
    intro text
    rw [ne_eq, ← String.length_eq_zero_iff]
    omega
  rw [nonEmptyText, typed_text_fits_iff]
  simp only [List.forall_mem_singleton, shortest_text_fits_iff, positive]

theorem names_fit_iff {Named : Type} {all : List Named} {name : Named → String}
    (complete : ∀ item, item ∈ all) :
    (namesOf (all.map name)).violations definitions (budget + 1) value = [] ↔
      ∃ item, value = .string (name item) := by
  rw [namesOf, all_fits_iff]
  simp [listed_fits_iff, same_as_text_iff, complete]

theorem start_of_range (size : Nat) : (List.range (size + 1)).filter (· == 0) = [0] := by
  rw [List.range_succ_eq_map, List.filter_cons_of_pos rfl, List.filter_map]
  simp [Function.comp_def]

theorem dollar_found_iff {text : String} :
    dollarFirst.found text = true ↔ ∃ rest, text.toList = '$' :: rest := by
  have regular : dollarFirst.expression.regular? dollarFirst.referenced =
      some (.sequence .textStart (.oneOf (.single '$'))) := rfl
  have dollar : ∀ c : Char, (CharSet.single '$').contains c = true ↔ c = '$' := by
    intro c
    rw [CharSet.single, CharSet.contains, Bool.and_eq_true, decide_eq_true_eq, decide_eq_true_eq]
    constructor
    · rintro ⟨least, most⟩
      exact Char.le_antisymm most least
    · rintro rfl
      exact ⟨Char.le_refl _, Char.le_refl _⟩
  rw [Pattern.found, Pattern.search, regular]
  simp only [Regex.found, Regex.ends, start_of_range]
  cases text.toList with
  | nil => simp
  | cons c rest => simp [dollar]

theorem selector_fits_iff : selectorSchema.violations definitions (budget + 1) value = [] ↔
    ∃ text rest, value = .string text ∧ text.toList = '$' :: rest := by
  rw [selectorSchema, typed_text_fits_iff]
  simp only [List.forall_mem_singleton, pattern_fits_iff, dollar_found_iff, exists_and_left]

theorem boolean_fits_iff :
    Schema.violations definitions (budget + 1) (.all [.type [.boolean]]) value = [] ↔
      ∃ truth, value = .bool truth := by
  rw [typed_fits_iff]
  cases value <;> simp [TypeName.admits]

theorem mapping_fits_iff :
    Schema.violations definitions (budget + 1) (.all [.type [.object]]) value = [] ↔
      ∃ members, value = .object members := by
  rw [typed_mapping_fits_iff]
  simp

theorem exists_level_iff {level : Nat} : (∃ severity : Severity, severity.level = level) ↔
    level ≤ 3 := by
  constructor
  · rintro ⟨severity, rfl⟩
    cases severity <;> decide
  · intro most
    have listed : level = 0 ∨ level = 1 ∨ level = 2 ∨ level = 3 := by omega
    rcases listed with rfl | rfl | rfl | rfl
    · exact ⟨.error, rfl⟩
    · exact ⟨.warn, rfl⟩
    · exact ⟨.info, rfl⟩
    · exact ⟨.hint, rfl⟩

theorem level_of_ratio_iff {numerator : Int} {denominator : Nat} (positive : 0 < denominator) :
    (numerator.natAbs % denominator = 0 ∧ 0 ≤ numerator ∧ numerator ≤ 3 * denominator) ↔
      ∃ severity : Severity, numerator = severity.level * denominator := by
  constructor
  · rintro ⟨whole, least, most⟩
    obtain ⟨level, split⟩ := Nat.dvd_of_mod_eq_zero whole
    have product : numerator = ((denominator * level : Nat) : Int) := by omega
    have bounded : denominator * level ≤ denominator * 3 := by omega
    obtain ⟨severity, rfl⟩ := exists_level_iff.2 (Nat.le_of_mul_le_mul_left bounded positive)
    exact ⟨severity, by rw [product, Nat.mul_comm, Int.natCast_mul]⟩
  · rintro ⟨severity, rfl⟩
    have most := exists_level_iff.1 ⟨severity, rfl⟩
    have bounded := Nat.mul_le_mul_right denominator most
    rw [← Int.natCast_mul]
    refine ⟨?_, by omega, by omega⟩
    rw [Int.natAbs_natCast, Nat.mul_mod_left]

theorem denominator_positive (number : Number) : 0 < number.ratio.2 := by
  cases number with
  | integer => exact Nat.one_pos
  | float x =>
      have positive : 0 < x.ratio.2 := by
        rw [Binary64.ratio]
        split
        · exact Nat.one_pos
        · exact Nat.pow_pos (by decide)
      exact positive

theorem whole_iff_ratio (number : Number) :
    number.isWhole = true ↔ number.ratio.1.natAbs % number.ratio.2 = 0 := by
  cases number with
  | integer value => simp [Number.isWhole, Number.ratio, Nat.mod_one]
  | float x =>
      rw [Number.isWhole, Binary64.isIntegral, Number.ratio, beq_iff_eq]
      cases x.isNegative <;> simp

theorem level_of_number_iff {number : Number} :
    (number.isWhole = true ∧ number.isWithin .least false (.integer 0) = true ∧
      number.isWithin .most false (.integer 3) = true) ↔
        ∃ severity : Severity, number.sameValue (.integer severity.level) = true := by
  have least : number.isWithin .least false (.integer 0) = true ↔ 0 ≤ number.ratio.1 := by
    simp [Number.isWithin, Number.lt, Number.ratio]
  have most : number.isWithin .most false (.integer 3) = true ↔
      number.ratio.1 ≤ 3 * number.ratio.2 := by
    simp [Number.isWithin, Number.lt, Number.ratio]
  have same : ∀ severity : Severity, number.sameValue (.integer severity.level) = true ↔
      number.ratio.1 = severity.level * number.ratio.2 := by
    simp [Number.sameValue, Number.ratio]
  simp only [least, most, same, whole_iff_ratio]
  exact level_of_ratio_iff (denominator_positive number)

theorem level_fits_iff : Schema.violations definitions (budget + 1) (.all [.type [.integer],
      .bound .least false (.integer 0), .bound .most false (.integer 3)]) value = [] ↔
    ∃ number, value = .number number ∧
      ∃ severity : Severity, number.sameValue (.integer severity.level) = true := by
  rw [typed_fits_iff]
  cases value with
  | number number => simp [TypeName.admits, bound_fits_iff, ← level_of_number_iff]
  | null | bool | string | array | object => simp [TypeName.admits]

theorem severity_fits_iff : severitySchema.violations definitions (budget + 2) value = [] ↔
    ∃ severity, SeverityWritten value severity := by
  rw [severitySchema, all_fits_iff, List.forall_mem_singleton, one_of_two_fits_iff]
  have complete : ∀ severity : Severity, severity ∈ Severity.all := by
    intro severity
    cases severity <;> decide
  rw [checker, names_fit_iff complete, level_fits_iff]
  constructor
  · rintro (⟨⟨severity, rfl⟩, _⟩ | ⟨⟨number, rfl, severity, same⟩, _⟩)
    · exact ⟨severity, .name severity⟩
    · exact ⟨severity, .level same⟩
  · rintro ⟨severity, written⟩
    cases written with
    | name => exact .inl ⟨⟨severity, rfl⟩, by simp⟩
    | level same => exact .inr ⟨⟨_, rfl, severity, same⟩, by simp⟩

end Scalars

section Actions

variable {definitions : Definitions} {budget : Nat} {value : Value} {members : Members}
  {key : String}

open Schema Keyword

def actionMembers : List (String × Schema) := [
  ("field", nonEmptyText),
  ("function", namesOf (AssertionFunction.all.map AssertionFunction.name)),
  ("functionOptions", .all [.type [.object]])]

theorem action_member_fits_iff : (∃ schema, Definitions.get? key actionMembers = some schema ∧
      schema.violations definitions (budget + 1) value = []) ↔
    (key = "field" ∧ ∃ text, value = .string text ∧ text ≠ "") ∨
    (key = "function" ∧ ∃ function : AssertionFunction, value = .string function.name) ∨
    key = "functionOptions" ∧ ∃ inner, value = .object inner := by
  have complete : ∀ function : AssertionFunction, function ∈ AssertionFunction.all := by
    intro function
    cases function <;> decide
  constructor
  · rintro ⟨schema, found, fits⟩
    rw [actionMembers, Definitions.get?] at found
    split at found
    · rename_i same
      obtain rfl := Option.some.inj found
      exact .inl ⟨same.symm, text_fits_iff.1 fits⟩
    rw [Definitions.get?] at found
    split at found
    · rename_i same
      obtain rfl := Option.some.inj found
      exact .inr (.inl ⟨same.symm, (names_fit_iff complete).1 fits⟩)
    rw [Definitions.get?] at found
    split at found
    · rename_i same
      obtain rfl := Option.some.inj found
      exact .inr (.inr ⟨same.symm, mapping_fits_iff.1 fits⟩)
    · contradiction
  · rintro (⟨rfl, written⟩ | ⟨rfl, written⟩ | ⟨rfl, written⟩)
    · exact ⟨_, rfl, text_fits_iff.2 written⟩
    · exact ⟨_, rfl, (names_fit_iff complete).2 written⟩
    · exact ⟨_, rfl, mapping_fits_iff.2 written⟩

/-- What an action needs and what its members may be, in terms of the mapping. -/
theorem action_written_iff (distinct : (Members.keys members).Nodup) :
    (∃ action, ActionWritten members action) ↔
      Members.has "function" members = true ∧ ∀ key member, (key, member) ∈ members →
        (key = "field" ∧ ∃ text, member = .string text ∧ text ≠ "") ∨
        (key = "function" ∧ ∃ function : AssertionFunction, member = .string function.name) ∨
        key = "functionOptions" ∧ ∃ inner, member = .object inner := by
  constructor
  · rintro ⟨action, written⟩
    refine ⟨by rw [Members.has, written.function]; rfl, fun key member present => ?_⟩
    have found := Members.get_of_mem distinct present
    have known := written.known key (List.mem_map_of_mem present)
    simp only [List.mem_cons, List.not_mem_nil, or_false] at known
    rcases known with rfl | rfl | rfl
    · rw [written.field] at found
      obtain ⟨text, field, rfl⟩ := Option.map_eq_some_iff.1 found
      refine .inl ⟨rfl, text, rfl, ?_⟩
      rintro rfl
      exact written.fieldNotEmpty field
    · rw [written.function] at found
      exact .inr (.inl ⟨rfl, action.function, (Option.some.inj found).symm⟩)
    · rw [written.options] at found
      exact .inr (.inr ⟨rfl, written.optionsMapping member found⟩)
  · rintro ⟨needed, fits⟩
    have field : ∃ field : Option String,
        Members.get? "field" members = field.map Value.string ∧ field ≠ some "" := by
      cases found : Members.get? "field" members with
      | none => exact ⟨none, rfl, by simp⟩
      | some member =>
          have written := fits "field" member (Members.mem_of_get found)
          simp only [String.reduceEq, false_and, or_false, true_and] at written
          obtain ⟨text, rfl, notEmpty⟩ := written
          exact ⟨some text, rfl, by simpa using notEmpty⟩
    have function : ∃ function : AssertionFunction,
        Members.get? "function" members = some (.string function.name) := by
      obtain ⟨member, found⟩ := Option.isSome_iff_exists.1 needed
      have written := fits "function" member (Members.mem_of_get found)
      simp only [String.reduceEq, false_and, or_false, false_or, true_and] at written
      obtain ⟨function, rfl⟩ := written
      exact ⟨function, found⟩
    have options : ∀ value, Members.get? "functionOptions" members = some value →
        ∃ inner, value = .object inner := by
      intro value found
      have written := fits "functionOptions" value (Members.mem_of_get found)
      simpa only [String.reduceEq, false_and, false_or, true_and] using written
    have known : ∀ key ∈ Members.keys members, key ∈ ["field", "function", "functionOptions"] := by
      intro key listed
      obtain ⟨⟨name, member⟩, present, rfl⟩ := List.mem_map.1 listed
      rcases fits name member present with ⟨rfl, _⟩ | ⟨rfl, _⟩ | ⟨rfl, _⟩ <;> simp
    obtain ⟨field, fieldFound, fieldNotEmpty⟩ := field
    obtain ⟨function, functionFound⟩ := function
    exact ⟨⟨field, function, Members.get? "functionOptions" members⟩,
      fieldFound, fieldNotEmpty, functionFound, rfl, options, known⟩

theorem action_fits_iff (distinct : value.KeysDistinct) :
    actionSchema.violations definitions (budget + 2) value = [] ↔
      ∃ members action, value = .object members ∧ ActionWritten members action := by
  have schema : actionSchema = .all [.type [.object], .required ["function"],
      .additionalProperties actionMembers [] .nothing] := rfl
  rw [schema, typed_mapping_fits_iff]
  refine exists_congr fun members => ?_
  rw [exists_and_left]
  refine and_congr_right ?_
  rintro rfl
  rw [List.forall_mem_cons, List.forall_mem_singleton, required_fits_iff,
    List.forall_mem_singleton, closed_members_fit_iff, action_written_iff (distinct _ (.here _))]
  simp only [checker, action_member_fits_iff]

end Actions

section Rules

variable {budget : Nat} {value : Value} {members : Members}

open Schema Keyword

theorem exists_forall_two_iff {First Second : Type} {related : First → Second → Prop}
    {items : List First} : (∃ others, List.Forall₂ related items others) ↔
      ∀ item ∈ items, ∃ other, related item other := by
  induction items with
  | nil => simp
  | cons item rest ih =>
      rw [List.forall_mem_cons, ← ih]
      constructor
      · rintro ⟨_, written⟩
        cases written with
        | cons first others => exact ⟨⟨_, first⟩, _, others⟩
      · rintro ⟨⟨_, first⟩, _, others⟩
        exact ⟨_, .cons first others⟩

theorem action_reference_fits_iff (distinct : value.KeysDistinct) :
    actionReference.violations rulesetSchema.definitions (budget + 3) value = [] ↔
      ∃ members action, value = .object members ∧ ActionWritten members action := by
  rw [actionReference, all_fits_iff, List.forall_mem_singleton, reference_fits_iff rfl]
  exact action_fits_iff distinct

theorem actions_fit_iff (distinct : value.KeysDistinct) :
    Schema.violations rulesetSchema.definitions (budget + 4)
        (.all [.type [.array], .size .items .least 1, .laterItems 0 actionReference]) value = [] ↔
      ∃ items, value = .array items ∧ items ≠ [] ∧ ∃ actions, List.Forall₂ (fun item action =>
        ∃ members, item = .object members ∧ ActionWritten members action) items actions := by
  rw [typed_fits_iff]
  cases value with
  | array items =>
      have parts := Value.all_mappings_array.1 distinct
      have each : (∀ item ∈ items, (checker rulesetSchema.definitions (budget + 3)).violations
          actionReference item = []) ↔ ∃ actions, List.Forall₂ (fun item action =>
            ∃ members, item = .object members ∧ ActionWritten members action) items actions := by
        rw [exists_forall_two_iff]
        refine forall₂_congr fun item listed => ?_
        rw [exists_comm]
        exact action_reference_fits_iff (parts item listed)
      have positive : 1 ≤ items.length ↔ items ≠ [] := List.length_pos_iff
      rw [List.forall_mem_cons, List.forall_mem_singleton, fewest_items_fits_iff, items_fits_iff,
        each, positive]
      simp [TypeName.admits]
  | null | bool | number | string | object => simp [TypeName.admits]

theorem clause_fits_iff (distinct : value.KeysDistinct) :
    clauseSchema.violations rulesetSchema.definitions (budget + 5) value = [] ↔
      ∃ clause, ClauseWritten value clause := by
  rw [clauseSchema, all_fits_iff, List.forall_mem_singleton, one_of_two_fits_iff, checker,
    action_reference_fits_iff distinct, actions_fit_iff distinct]
  constructor
  · rintro (⟨⟨members, action, rfl, written⟩, _⟩ | ⟨⟨items, rfl, notEmpty, actions, written⟩, _⟩)
    · exact ⟨_, .one written⟩
    · exact ⟨_, .many notEmpty written⟩
  · rintro ⟨clause, written⟩
    cases written with
    | one written => exact .inl ⟨⟨_, _, rfl, written⟩, by simp⟩
    | many notEmpty written => exact .inr ⟨⟨_, rfl, notEmpty, _, written⟩, by simp⟩

theorem needed_member_iff {name : String} {fits : Value → Prop} :
    (Members.has name members = true ∧
        ∀ member, Members.get? name members = some member → fits member) ↔
      ∃ member, Members.get? name members = some member ∧ fits member := by
  rw [Members.has, Option.isSome_iff_exists]
  constructor
  · rintro ⟨⟨member, found⟩, fit⟩
    exact ⟨member, found, fit member found⟩
  · rintro ⟨member, found, fit⟩
    refine ⟨⟨member, found⟩, fun other again => ?_⟩
    rwa [← Option.some.inj (found.symm.trans again)]

theorem rule_written_iff : (∃ rule, RuleWritten members rule) ↔
    (∃ member, Members.get? "description" members = some member ∧
      ∃ text, member = .string text ∧ text ≠ "") ∧
    (∃ member, Members.get? "message" members = some member ∧
      ∃ text, member = .string text ∧ text ≠ "") ∧
    (∃ member, Members.get? "severity" members = some member ∧
      ∃ severity, SeverityWritten member severity) ∧
    (∃ member, Members.get? "given" members = some member ∧
      ∃ text rest, member = .string text ∧ text.toList = '$' :: rest) ∧
    (∃ member, Members.get? "then" members = some member ∧
      ∃ clause, ClauseWritten member clause) ∧
    ∀ member, Members.get? "recommended" members = some member →
      ∃ truth, member = .bool truth := by
  constructor
  · rintro ⟨rule, written⟩
    obtain ⟨severity, severityFound, severityWritten⟩ := written.severity
    obtain ⟨rest, selector⟩ := written.selector
    obtain ⟨clause, clauseFound, clauseWritten⟩ := written.clause
    refine ⟨⟨_, written.description, _, rfl, written.descriptionNotEmpty⟩,
      ⟨_, written.message, _, rfl, written.messageNotEmpty⟩,
      ⟨severity, severityFound, _, severityWritten⟩,
      ⟨_, written.given, _, rest, rfl, selector⟩,
      ⟨clause, clauseFound, _, clauseWritten⟩, fun member found => ?_⟩
    rcases written.recommended with present | ⟨absent, _⟩
    · exact ⟨_, Option.some.inj (found.symm.trans present)⟩
    · rw [absent] at found
      contradiction
  · rintro ⟨⟨_, description, _, rfl, descriptionNotEmpty⟩, ⟨_, message, _, rfl, messageNotEmpty⟩,
      ⟨severity, severityFound, _, severityWritten⟩, ⟨_, given, _, rest, rfl, selector⟩,
      ⟨clause, clauseFound, _, clauseWritten⟩, recommended⟩
    have flag : ∃ truth, Members.get? "recommended" members = some (.bool truth) ∨
        Members.get? "recommended" members = none ∧ truth = true := by
      cases found : Members.get? "recommended" members with
      | none => exact ⟨true, .inr ⟨rfl, rfl⟩⟩
      | some member =>
          obtain ⟨truth, rfl⟩ := recommended member found
          exact ⟨truth, .inl rfl⟩
    obtain ⟨truth, flag⟩ := flag
    exact ⟨⟨_, _, _, _, _, truth⟩, description, descriptionNotEmpty, message, messageNotEmpty,
      ⟨severity, severityFound, severityWritten⟩, given, ⟨rest, selector⟩,
      ⟨clause, clauseFound, clauseWritten⟩, flag⟩

theorem rule_fits_iff (distinct : value.KeysDistinct) :
    ruleSchema.violations rulesetSchema.definitions (budget + 6) value = [] ↔
      ∃ members rule, value = .object members ∧ RuleWritten members rule := by
  rw [ruleSchema, typed_mapping_fits_iff]
  refine exists_congr fun members => ?_
  rw [exists_and_left]
  refine and_congr_right ?_
  rintro rfl
  have clauseDistinct : ∀ clause, Members.get? "then" members = some clause →
      clause.KeysDistinct :=
    fun clause found => distinct.inside (.member (Members.mem_of_get found) (.here _))
  have clause : (∀ member, Members.get? "then" members = some member →
      clauseSchema.violations rulesetSchema.definitions (budget + 5) member = []) ↔
        ∀ member, Members.get? "then" members = some member →
          ∃ clause, ClauseWritten member clause :=
    forall₂_congr fun member found => clause_fits_iff (clauseDistinct member found)
  simp only [List.forall_mem_cons, List.not_mem_nil, false_implies, implies_true, and_true,
    required_fits_iff, properties_fits_iff, checker, text_fits_iff, severity_fits_iff,
    selector_fits_iff, boolean_fits_iff, clause, rule_written_iff, ← needed_member_iff]
  constructor
  · rintro ⟨⟨hasDescription, hasMessage, hasSeverity, hasGiven, hasClause⟩, description,
      message, severity, given, recommended, clause⟩
    exact ⟨⟨hasDescription, description⟩, ⟨hasMessage, message⟩, ⟨hasSeverity, severity⟩,
      ⟨hasGiven, given⟩, ⟨hasClause, clause⟩, recommended⟩
  · rintro ⟨⟨hasDescription, description⟩, ⟨hasMessage, message⟩, ⟨hasSeverity, severity⟩,
      ⟨hasGiven, given⟩, ⟨hasClause, clause⟩, recommended⟩
    exact ⟨⟨hasDescription, hasMessage, hasSeverity, hasGiven, hasClause⟩,
      description, message, severity, given, recommended, clause⟩

theorem rules_fit_iff (distinct : value.KeysDistinct) :
    rulesSchema.violations rulesetSchema.definitions (budget + 8) value = [] ↔
      ∃ named, value = .object named ∧ ∃ rules, List.Forall₂ EntryWritten named rules := by
  rw [rulesSchema, typed_mapping_fits_iff]
  refine exists_congr fun named => and_congr_right ?_
  rintro rfl
  have each : ∀ entry ∈ named, (Schema.violations rulesetSchema.definitions (budget + 7)
      (.all [.reference "$ref" "rule"]) entry.2 = [] ↔ ∃ rule, EntryWritten entry rule) := by
    intro entry listed
    have entryDistinct := distinct.inside (.member listed (.here _))
    rw [all_fits_iff, List.forall_mem_singleton, reference_fits_iff rfl, checker,
      rule_fits_iff entryDistinct]
    constructor
    · rintro ⟨inner, rule, same, written⟩
      exact ⟨(entry.1, rule), rfl, inner, same, written⟩
    · rintro ⟨⟨_, rule⟩, _, inner, same, written⟩
      exact ⟨inner, rule, same, written⟩
  rw [List.forall_mem_singleton, open_members_fit_iff, checker, forall₂_congr each,
    ← exists_forall_two_iff]

/-- The schema of rulesets accepts the documents that write some rules. -/
theorem ruleset_fits_iff (distinct : value.KeysDistinct) :
    rulesetFindings value = [] ↔ ∃ rules, RulesetWritten value rules := by
  have budget : (value.depth + 2) * (rulesetSchema.depth + 1) = (7 * value.depth + 5) + 9 := by
    have depth : rulesetSchema.depth = 6 := rfl
    rw [depth]
    omega
  rw [rulesetFindings, List.map_eq_nil_iff, SchemaDocument.violations, budget]
  have root : rulesetSchema.root = .all [.type [.object], .required ["rules"],
      .properties [("rules", rulesSchema)]] := rfl
  rw [root, typed_mapping_fits_iff]
  simp only [List.forall_mem_cons, List.not_mem_nil, false_implies, implies_true, and_true,
    required_fits_iff, properties_fits_iff, needed_member_iff, checker]
  constructor
  · rintro ⟨members, rfl, rules, found, fits⟩
    have inside := distinct.inside (.member (Members.mem_of_get found) (.here _))
    obtain ⟨named, rfl, rules, written⟩ := (rules_fit_iff inside).1 fits
    exact ⟨rules, members, named, rfl, found, written⟩
  · rintro ⟨rules, members, named, rfl, found, written⟩
    have inside := distinct.inside (.member (Members.mem_of_get found) (.here _))
    exact ⟨members, rfl, .object named, found,
      (rules_fit_iff inside).2 ⟨named, rfl, rules, written⟩⟩

end Rules

end RefLint.Rules
