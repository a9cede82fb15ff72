import RefLint.Proofs.RulesetDecoding
import RefLint.Rules.Bundled

/-!
# Writing rules as a document

The rules that a document can write are written by the library so that they are read back
as they were: severities by name, a single action as a mapping and several as a sequence,
and nothing left to a default. The bundled rules are among them.
-/

namespace RefLint.Rules

set_option autoImplicit false

structure RuleAction.Writable (action : RuleAction) : Prop where
  fieldNotEmpty : action.field ≠ some ""
  optionsMapping : ∀ value, action.options = some value → ∃ inner, value = .object inner
  optionsDistinct : ∀ value, action.options = some value → value.KeysDistinct

structure Rule.Writable (rule : Rule) : Prop where
  descriptionNotEmpty : rule.description ≠ ""
  messageNotEmpty : rule.message ≠ ""
  selector : ∃ rest, rule.given.toList = '$' :: rest
  someAction : rule.clause ≠ .many []
  actions : ∀ action ∈ rule.clause.actions, action.Writable

section Reading

variable {members : Members} {action : RuleAction} {value : Value} {clause : Clause} {rule : Rule}

theorem ActionWritten.writable (written : ActionWritten members action)
    (distinct : Value.KeysDistinct (.object members)) : action.Writable where
  fieldNotEmpty := written.fieldNotEmpty
  optionsMapping := written.optionsMapping
  optionsDistinct := by
    intro value held
    have found := Members.mem_of_get (written.options.trans held)
    exact distinct.inside (.member found (.here _))

theorem ClauseWritten.some_action (written : ClauseWritten value clause) : clause ≠ .many [] := by
  rintro rfl
  cases written with
  | many notEmpty written => exact notEmpty (List.forall₂_nil_right_iff.1 written)

theorem ClauseWritten.writable (written : ClauseWritten value clause)
    (distinct : value.KeysDistinct) : ∀ action ∈ clause.actions, action.Writable := by
  cases written with
  | one written =>
      intro action listed
      obtain rfl := List.mem_singleton.1 listed
      exact written.writable distinct
  | @many items actions _ written =>
      have parts := Value.all_mappings_array.1 distinct
      have each := (List.forall₂_and_left items actions).2 ⟨parts, written⟩
      intro action listed
      obtain ⟨_, itemDistinct, members, rfl, written⟩ :=
        exists_forall_two_iff.1 ⟨items, each.flip⟩ action listed
      exact written.writable itemDistinct

theorem RuleWritten.writable (written : RuleWritten members rule)
    (distinct : Value.KeysDistinct (.object members)) : rule.Writable := by
  obtain ⟨value, found, clause⟩ := written.clause
  have inside := distinct.inside (.member (Members.mem_of_get found) (.here _))
  exact ⟨written.descriptionNotEmpty, written.messageNotEmpty, written.selector,
    clause.some_action, clause.writable inside⟩

end Reading

section Writing

variable {action : RuleAction} {clause : Clause} {rule : Rule} {rules : List (String × Rule)}

theorem RuleAction.Writable.written (writable : action.Writable) :
    ∃ members, action.toValue = .object members ∧ ActionWritten members action := by
  refine ⟨_, rfl, ?_⟩
  have notEmpty := writable.fieldNotEmpty
  have mapping := writable.optionsMapping
  obtain ⟨field, function, options⟩ := action
  cases field <;> cases options <;> constructor <;>
    simp_all [optionalMember, Members.get?, Members.keys]

theorem RuleAction.Writable.distinct (writable : action.Writable) :
    action.toValue.KeysDistinct := by
  have inside := writable.optionsDistinct
  obtain ⟨field, function, options⟩ := action
  cases field <;> cases options <;>
    simp_all [RuleAction.toValue, optionalMember, Value.KeysDistinct, Value.all_mappings_object,
      Value.all_mappings_scalar, Members.keys, Value.kind]

theorem Rule.Writable.clause_written (writable : rule.Writable) :
    ClauseWritten rule.clause.toValue rule.clause := by
  have actions := writable.actions
  have someAction := writable.someAction
  cases clause : rule.clause with
  | one action =>
      rw [clause] at actions
      obtain ⟨members, value, written⟩ := (actions action List.mem_cons_self).written
      rw [Clause.toValue, value]
      exact .one written
  | many several =>
      rw [clause] at actions someAction
      rw [Clause.toValue]
      refine .many (by simpa using someAction) ?_
      rw [List.forall₂_map_left_iff, List.forall₂_same]
      exact fun action listed => (actions action listed).written

theorem Rule.Writable.clause_distinct (writable : rule.Writable) :
    rule.clause.toValue.KeysDistinct := by
  have actions := writable.actions
  cases clause : rule.clause with
  | one action =>
      rw [clause] at actions
      exact (actions action List.mem_cons_self).distinct
  | many several =>
      rw [clause] at actions
      refine Value.all_mappings_array.2 fun value listed => ?_
      obtain ⟨action, present, rfl⟩ := List.mem_map.1 listed
      exact (actions action present).distinct

theorem Rule.Writable.written (writable : rule.Writable) :
    ∃ members, rule.toValue = .object members ∧ RuleWritten members rule := by
  refine ⟨_, rfl, ?_⟩
  exact {
    description := rfl
    descriptionNotEmpty := writable.descriptionNotEmpty
    message := rfl
    messageNotEmpty := writable.messageNotEmpty
    severity := ⟨_, rfl, .name rule.severity⟩
    given := rfl
    selector := writable.selector
    clause := ⟨_, rfl, writable.clause_written⟩
    recommended := .inl rfl }

theorem Rule.Writable.distinct (writable : rule.Writable) : rule.toValue.KeysDistinct := by
  have clause := writable.clause_distinct
  simp_all [Rule.toValue, Value.KeysDistinct, Value.all_mappings_object,
    Value.all_mappings_scalar, Members.keys, Value.kind]

end Writing

section Documents

theorem single_member_distinct {key : String} {value : Value} (inside : value.KeysDistinct) :
    Value.KeysDistinct (.object [(key, value)]) :=
  Value.all_mappings_object.2 ⟨List.nodup_singleton _, List.forall_mem_singleton.2 inside⟩

variable {rules : List (String × Rule)} (writable : ∀ entry ∈ rules, entry.2.Writable)

include writable

theorem document_written : RulesetWritten (Ruleset.documentOf rules) rules := by
  refine ⟨_, _, rfl, rfl, ?_⟩
  rw [List.forall₂_map_left_iff, List.forall₂_same]
  intro entry listed
  obtain ⟨members, value, written⟩ := (writable entry listed).written
  exact ⟨rfl, members, value, written⟩

theorem document_distinct (distinct : (rules.map (·.1)).Nodup) :
    (Ruleset.documentOf rules).KeysDistinct := by
  have keys : Members.keys (rules.map fun entry => (entry.1, entry.2.toValue)) =
      rules.map (·.1) := by
    rw [Members.keys, List.map_map]
    rfl
  have named : Value.KeysDistinct (.object (rules.map fun entry => (entry.1, entry.2.toValue))) := by
    refine Value.all_mappings_object.2 ⟨by rwa [keys], fun value listed => ?_⟩
    rw [List.map_map] at listed
    obtain ⟨entry, present, rfl⟩ := List.mem_map.1 listed
    exact (writable entry present).distinct
  exact single_member_distinct named

/-- Severities are written by name, so none is held as a float. -/
theorem document_loads (distinct : (rules.map (·.1)).Nodup) :
    Ruleset.ofValue (Ruleset.documentOf rules) = .ok (.ofRules rules) := by
  apply loaded_of_written (document_distinct writable distinct) (document_written writable)
  rintro ⟨members, named, entry, document, found, listed, inner, x, value, held⟩
  obtain rfl := Value.object.inj document
  obtain rfl := Value.object.inj (Option.some.inj found)
  obtain ⟨rule, _, rfl⟩ := List.mem_map.1 listed
  obtain rfl := Value.object.inj value
  have held : some (Value.string rule.2.severity.name) = some (.number (.float x)) := held
  simp at held

end Documents

section Order

variable {rules : List (String × Rule)}

theorem distinct_of_increasing {names : List String} (increasing : names.Pairwise (· < ·)) :
    names.Nodup := by
  refine increasing.imp ?_
  rintro first _ before rfl
  exact String.lt_irrefl first before

theorem of_increasing_rules (increasing : (rules.map (·.1)).Pairwise (· < ·)) :
    (Ruleset.ofRules rules).rules = rules := by
  have perm := of_rules_perm (distinct_of_increasing increasing)
  refine List.Perm.eq_of_pairwise ?_ (List.pairwise_map.1 (of_rules_increasing rules))
    (List.pairwise_map.1 increasing) perm
  intro first second _ _ before behind
  exact absurd (String.lt_trans before behind) (String.lt_irrefl first.1)

/-- Reading the rules of a ruleset that was just read gives the same ruleset. -/
theorem of_rules_again (rules : List (String × Rule)) :
    Ruleset.ofRules (Ruleset.ofRules rules).rules = Ruleset.ofRules rules := by
  have same := of_increasing_rules (of_rules_increasing rules)
  have unfolded : ∀ named : List (String × Rule), Ruleset.ofRules named =
      ⟨(Ruleset.ofRules named).rules, .ofList (((Ruleset.ofRules named).rules.filter
        fun entry => entry.2.recommended).map (·.1))⟩ := fun _ => rfl
  rw [unfolded (Ruleset.ofRules rules).rules, same, ← unfolded]

end Order

section Bundled

open Bundled

/-- A selector that is made longer at its end still starts as it did. -/
theorem selector_append {text : String} (more : String)
    (starts : ∃ rest, text.toList = '$' :: rest) : ∃ rest, (text ++ more).toList = '$' :: rest := by
  obtain ⟨rest, starts⟩ := starts
  exact ⟨rest ++ more.toList, by rw [String.toList_append, starts, List.cons_append]⟩

theorem body_selects : ∃ rest, body.toList = '$' :: rest :=
  selector_append _ (selector_append _ ⟨_, rfl⟩)

theorem resource_selects : ∃ rest, resource.toList = '$' :: rest := selector_append _ body_selects

theorem response_resource_selects : ∃ rest, responseResource.toList = '$' :: rest :=
  selector_append _ (selector_append _ ⟨_, rfl⟩)

theorem attributes_select : ∃ rest, attributes.toList = '$' :: rest :=
  selector_append _ resource_selects

theorem errors_select : ∃ rest, errors.toList = '$' :: rest := selector_append _ body_selects

theorem error_object_selects : ∃ rest, errorObject.toList = '$' :: rest :=
  selector_append _ errors_select

variable {field : Option String} {function : AssertionFunction} {members : Members}

theorem action_writable (notEmpty : field ≠ some "")
    (distinct : Value.KeysDistinct (.object members)) :
    RuleAction.Writable ⟨field, function, some (.object members)⟩ := by
  refine ⟨notEmpty, ?_, ?_⟩
  · rintro value ⟨⟩
    exact ⟨members, rfl⟩
  · rintro value ⟨⟩
    exact distinct

theorem plain_action_writable (notEmpty : field ≠ some "") :
    RuleAction.Writable ⟨field, function, none⟩ := ⟨notEmpty, nofun, nofun⟩

theorem strings_distinct (names : List String) : (strings names).KeysDistinct := by
  refine Value.all_mappings_array.2 fun value listed => ?_
  obtain ⟨name, _, rfl⟩ := List.mem_map.1 listed
  exact Value.all_mappings_scalar (by simp [Value.kind])

theorem one_of_values_writable {name : String} (values : List String) (notEmpty : name ≠ "") :
    ∀ action ∈ (oneOfValues name values).actions, action.Writable := by
  refine List.forall_mem_singleton.2 (action_writable (by simpa using notEmpty) ?_)
  exact single_member_distinct (strings_distinct values)

theorem media_type_rules_writable : ∀ entry ∈ mediaTypeRules, entry.2.Writable := by
  rw [mediaTypeRules, List.forall_mem_cons, List.forall_mem_singleton]
  constructor
  · exact ⟨by decide, by decide, ⟨_, rfl⟩, nofun, one_of_values_writable _ (by decide)⟩
  · exact ⟨by decide, by decide, ⟨_, rfl⟩, nofun, one_of_values_writable _ (by decide)⟩

theorem requires_distinct (names : List String) : (requires names).KeysDistinct :=
  single_member_distinct (strings_distinct names)

theorem satisfies_writable {schema : Members} (notEmpty : field ≠ some "")
    (distinct : Value.KeysDistinct (.object schema)) :
    ∀ action ∈ (satisfies field schema).actions, action.Writable :=
  List.forall_mem_singleton.2 (action_writable notEmpty (single_member_distinct distinct))

theorem top_level_rules_writable : ∀ entry ∈ topLevelRules, entry.2.Writable := by
  simp only [topLevelRules, List.forall_mem_cons, List.not_mem_nil, false_implies, implies_true,
    and_true]
  refine ⟨⟨by decide, by decide, body_selects, nofun, satisfies_writable nofun ?_⟩,
    ⟨by decide, by decide, body_selects, nofun, satisfies_writable (by decide) ?_⟩,
    ⟨by decide, by decide, selector_append _ body_selects, nofun,
      one_of_values_writable _ (by decide)⟩⟩
  · simp [Value.KeysDistinct, Value.all_mappings_object, Value.all_mappings_array,
      Value.all_mappings_scalar, requires, strings, Members.keys, Value.kind]
  · exact single_member_distinct (requires_distinct _)

theorem resource_rules_writable : ∀ entry ∈ resourceRules, entry.2.Writable := by
  simp only [resourceRules, List.forall_mem_cons, List.not_mem_nil, false_implies, implies_true,
    and_true]
  refine ⟨⟨by decide, by decide, resource_selects, nofun, ?_⟩,
    ⟨by decide, by decide, response_resource_selects, nofun, ?_⟩,
    ⟨by decide, by decide, selector_append _ resource_selects, nofun,
      one_of_values_writable _ (by decide)⟩,
    ⟨by decide, by decide, selector_append _ resource_selects, nofun,
      one_of_values_writable _ (by decide)⟩,
    ⟨by decide, by decide, resource_selects, nofun, one_of_values_writable _ (by decide)⟩⟩
  · exact List.forall_mem_singleton.2 (plain_action_writable (by decide))
  · exact List.forall_mem_singleton.2 (plain_action_writable (by decide))

theorem attribute_rules_writable : ∀ entry ∈ attributeRules, entry.2.Writable := by
  simp only [attributeRules, List.forall_mem_cons, List.not_mem_nil, false_implies, implies_true,
    and_true]
  refine ⟨⟨by decide, by decide, attributes_select, nofun, one_of_values_writable _ (by decide)⟩,
    ⟨by decide, by decide, selector_append _ attributes_select, nofun, ?_⟩,
    ⟨by decide, by decide, selector_append _ attributes_select, nofun, ?_⟩⟩
  · refine List.forall_mem_cons.2 ⟨plain_action_writable (by decide), ?_⟩
    exact List.forall_mem_singleton.2 (plain_action_writable (by decide))
  · refine List.forall_mem_singleton.2 (action_writable (by decide) (single_member_distinct ?_))
    exact Value.all_mappings_scalar (by simp [Value.kind])

theorem error_rules_writable : ∀ entry ∈ errorRules, entry.2.Writable := by
  simp only [errorRules, List.forall_mem_cons, List.not_mem_nil, false_implies, implies_true,
    and_true]
  refine ⟨⟨by decide, by decide, errors_select, nofun, one_of_values_writable _ (by decide)⟩,
    ⟨by decide, by decide, selector_append _ error_object_selects, nofun,
      one_of_values_writable _ (by decide)⟩,
    ⟨by decide, by decide, error_object_selects, nofun, ?_⟩,
    ⟨by decide, by decide, selector_append _ error_object_selects, nofun,
      one_of_values_writable _ (by decide)⟩⟩
  refine List.forall_mem_singleton.2 (action_writable (by decide) (single_member_distinct ?_))
  exact Value.all_mappings_scalar (by simp [Value.kind, Value.ofNat])

theorem bundled_writable : ∀ entry ∈ mediaTypeRules ++ topLevelRules ++ resourceRules ++
    attributeRules ++ errorRules, entry.2.Writable := by
  simp only [List.forall_mem_append]
  exact ⟨⟨⟨⟨media_type_rules_writable, top_level_rules_writable⟩, resource_rules_writable⟩,
    attribute_rules_writable⟩, error_rules_writable⟩

theorem bundled_names_increasing : (bundledRuleset.rules.map (·.1)).Pairwise (· < ·) :=
  of_rules_increasing _

theorem bundled_rules_writable : ∀ entry ∈ bundledRuleset.rules, entry.2.Writable := by
  have distinct : ((mediaTypeRules ++ topLevelRules ++ resourceRules ++ attributeRules ++
      errorRules).map (·.1)).Nodup := by decide
  intro entry listed
  exact bundled_writable entry ((of_rules_perm distinct).mem_iff.1 listed)

theorem bundled_distinct : bundledRuleset.toValue.KeysDistinct :=
  document_distinct bundled_rules_writable (distinct_of_increasing bundled_names_increasing)

theorem bundled_loaded : Ruleset.ofValue bundledRuleset.toValue = .ok bundledRuleset := by
  have loads := document_loads bundled_rules_writable
    (distinct_of_increasing bundled_names_increasing)
  rw [Ruleset.toValue, loads, bundledRuleset, of_rules_again]

end Bundled

end RefLint.Rules
