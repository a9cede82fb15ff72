import RefLint.Proofs.RulesetForm
import RefLint.Rules.Ruleset

/-!
# Decoding what a ruleset document says

What a document writes is decoded to just that. The one thing that the schema lets through
and the decoder refuses is a severity whose number is held as a float. Rules are kept by
name, and the recommended ones are enabled.
-/

namespace RefLint.Rules

set_option autoImplicit false

section Records

variable {check : String → Value → Decoded Unit} {members : Members} {error : DecodeError}

theorem check_members_ok (fits : ∀ key value, (key, value) ∈ members → check key value = .ok ()) :
    checkMembers check members = .ok () := by
  induction members with
  | nil => rfl
  | cons first rest ih =>
      obtain ⟨key, value⟩ := first
      rw [checkMembers, fits key value List.mem_cons_self]
      exact ih fun other member listed => fits other member (List.mem_cons_of_mem _ listed)

theorem check_members_error (fits : ∀ key value, (key, value) ∈ members →
      check key value = .ok () ∨ check key value = .error error)
    (fails : ∃ key value, (key, value) ∈ members ∧ check key value = .error error) :
    checkMembers check members = .error error := by
  induction members with
  | nil =>
      obtain ⟨_, _, listed, _⟩ := fails
      contradiction
  | cons first rest ih =>
      obtain ⟨key, value⟩ := first
      rw [checkMembers]
      rcases fits key value List.mem_cons_self with fit | failed
      · rw [fit]
        apply ih fun other member listed => fits other member (List.mem_cons_of_mem _ listed)
        obtain ⟨other, member, listed, failed⟩ := fails
        rcases List.mem_cons.1 listed with same | later
        · obtain ⟨rfl, rfl⟩ := Prod.mk.inj same
          rw [fit] at failed
          contradiction
        · exact ⟨other, member, later, failed⟩
      · rw [failed]
        rfl

theorem map_m_ok {First Second : Type} {decode : First → Decoded Second} {items : List First}
    {decoded : List Second}
    (each : List.Forall₂ (fun item result => decode item = .ok result) items decoded) :
    items.mapM decode = .ok decoded := by
  induction each with
  | nil => rfl
  | cons first _ ih =>
      rw [List.mapM_cons, first, ih]
      rfl

theorem map_m_error {First Second : Type} {decode : First → Decoded Second} {items : List First}
    (fits : ∀ item ∈ items, (∃ result, decode item = .ok result) ∨ decode item = .error error)
    (fails : ∃ item ∈ items, decode item = .error error) : items.mapM decode = .error error := by
  induction items with
  | nil =>
      obtain ⟨_, listed, _⟩ := fails
      contradiction
  | cons first rest ih =>
      rw [List.mapM_cons]
      rcases fits first List.mem_cons_self with ⟨result, fit⟩ | failed
      · obtain ⟨item, listed, failed⟩ := fails
        have later : item ∈ rest := by
          rcases List.mem_cons.1 listed with rfl | later
          · rw [fit] at failed
            contradiction
          · exact later
        rw [fit, ih (fun other listed => fits other (List.mem_cons_of_mem _ listed))
          ⟨item, later, failed⟩]
        rfl
      · rw [failed]
        rfl

theorem checked_of_needed {Field : Type} {decode : Value → Decoded Field} {result : Field}
    {key : String} {value : Value} (found : Members.get? key members = some value)
    (decoded : needField decode key members = .ok result) :
    (decode value).map (fun _ => ()) = .ok () := by
  rw [needField, found] at decoded
  exact congrArg (Except.map fun _ => ()) decoded

theorem checked_of_optional {Field : Type} {decode : Value → Decoded Field} {default result : Field}
    {key : String} {value : Value} (found : Members.get? key members = some value)
    (decoded : fieldOr default decode key members = .ok result) :
    (decode value).map (fun _ => ()) = .ok () := by
  rw [fieldOr, found] at decoded
  exact congrArg (Except.map fun _ => ()) decoded

theorem text_decoded {key text : String} (found : Members.get? key members = some (.string text)) :
    needField decodeText key members = .ok text := by
  rw [needField, found]
  rfl

end Records

section Actions

variable {members : Members} {action : RuleAction} {value : Value} {clause : Clause}

theorem decode_function_name (function : AssertionFunction) :
    decodeFunction (.string function.name) = .ok function := by
  cases function <;> rfl

theorem ActionWritten.decoded (written : ActionWritten members action)
    (distinct : (Members.keys members).Nodup) :
    RuleAction.ofValue (.object members) = .ok action := by
  have field : fieldOr none decodeOptionalText "field" members = .ok action.field := by
    rw [fieldOr, written.field]
    cases action.field <;> rfl
  have function : needField decodeFunction "function" members = .ok action.function := by
    rw [needField, written.function]
    exact decode_function_name action.function
  have options : (Members.get? "functionOptions" members).bind optionsOf = action.options := by
    rw [written.options]
    cases found : action.options with
    | none => rfl
    | some value =>
        obtain ⟨inner, rfl⟩ := written.optionsMapping value found
        rfl
  have checked : checkMembers RuleAction.checkMember members = .ok () := by
    apply check_members_ok
    intro key value present
    have found := Members.get_of_mem distinct present
    have known := written.known key (List.mem_map_of_mem present)
    simp only [List.mem_cons, List.not_mem_nil, or_false] at known
    rcases known with rfl | rfl | rfl
    · exact checked_of_optional found field
    · exact checked_of_needed found function
    · rfl
  rw [RuleAction.ofValue, checked, field, function, options]
  rfl

theorem sequence_not_action {first : Members} {rest : List Value} :
    RuleAction.ofValue (.array (.object first :: rest)) =
      .error (.wrongType (.object first) .text) := rfl

theorem ClauseWritten.decoded (written : ClauseWritten value clause)
    (distinct : value.KeysDistinct) : Clause.ofValue value = .ok clause := by
  unfold Clause.ofValue
  cases written with
  | one written => rw [written.decoded (distinct _ (.here _))]
  | @many items actions notEmpty written =>
      -- A sequence is tried as an action first, and an action starts with a text.
      have parts := Value.all_mappings_array.1 distinct
      have each : items.mapM RuleAction.ofValue = .ok actions := by
        apply map_m_ok
        refine ((List.forall₂_and_left items actions).2 ⟨parts, written⟩).imp ?_
        rintro _ action ⟨itemDistinct, members, rfl, actionWritten⟩
        exact actionWritten.decoded (itemDistinct _ (.here _))
      cases written with
      | nil => contradiction
      | cons first others =>
          obtain ⟨members, rfl, _⟩ := first
          rw [sequence_not_action]
          simp only [each]

end Actions

section Rules

variable {members : Members} {rule : Rule} {value : Value} {severity : Severity}

theorem SeverityWritten.decoded (written : SeverityWritten value severity)
    (exact : ∀ x, value ≠ .number (.float x)) : decodeSeverity value = .ok severity := by
  cases written with
  | name => cases severity <;> rfl
  | @level number _ same =>
      cases number with
      | float x => exact absurd rfl (exact x)
      | integer level =>
          obtain rfl : level = severity.level := by
            simpa [Number.sameValue, Number.ratio] using same
          cases severity <;> rfl

section Fields

variable (written : RuleWritten members rule)
  (distinct : Value.KeysDistinct (.object members))

include written

theorem RuleWritten.recommended_decoded :
    fieldOr true decodeBool "recommended" members = .ok rule.recommended := by
  rw [fieldOr]
  rcases written.recommended with found | ⟨found, default⟩
  · rw [found]
    rfl
  · rw [found, default]

include distinct

theorem RuleWritten.clause_decoded :
    needField Clause.ofValue "then" members = .ok rule.clause := by
  obtain ⟨clause, found, clauseWritten⟩ := written.clause
  have inside : Inside clause (.object members) := .member (Members.mem_of_get found) (.here _)
  rw [needField, found]
  exact clauseWritten.decoded (distinct.inside inside)

theorem RuleWritten.member_checked {key : String} (present : (key, value) ∈ members)
    (other : key ≠ "severity") : Rule.checkMember key value = .ok () := by
  have found := Members.get_of_mem (distinct members (.here _)) present
  unfold Rule.checkMember
  split
  · exact checked_of_needed found (text_decoded written.description)
  · exact checked_of_needed found (text_decoded written.message)
  · contradiction
  · exact checked_of_needed found (text_decoded written.given)
  · exact checked_of_needed found (written.clause_decoded distinct)
  · exact checked_of_optional found written.recommended_decoded
  · rfl

theorem RuleWritten.decoded
    (exact : ∀ x, Members.get? "severity" members ≠ some (.number (.float x))) :
    Rule.ofValue (.object members) = .ok rule := by
  obtain ⟨level, found, severityWritten⟩ := written.severity
  have decoded : decodeSeverity level = .ok rule.severity :=
    severityWritten.decoded fun x same => exact x (same ▸ found)
  have severity : needField decodeSeverity "severity" members = .ok rule.severity := by
    rw [needField, found]
    exact decoded
  have checked : checkMembers Rule.checkMember members = .ok () := by
    apply check_members_ok
    intro key value present
    by_cases same : key = "severity"
    · subst same
      have again := Members.get_of_mem (distinct members (.here _)) present
      obtain rfl := Option.some.inj (again.symm.trans found)
      exact congrArg (Except.map fun _ => ()) decoded
    · exact written.member_checked distinct present same
  rw [Rule.ofValue, checked, text_decoded written.description, text_decoded written.message,
    severity, text_decoded written.given, written.clause_decoded distinct,
    written.recommended_decoded]
  rfl

theorem RuleWritten.refused {x : Binary64}
    (held : Members.get? "severity" members = some (.number (.float x))) :
    Rule.ofValue (.object members) = .error .noSeverity := by
  have checked : checkMembers Rule.checkMember members = .error .noSeverity := by
    apply check_members_error
    · intro key value present
      by_cases same : key = "severity"
      · subst same
        have again := Members.get_of_mem (distinct members (.here _)) present
        obtain rfl := Option.some.inj (again.symm.trans held)
        exact .inr rfl
      · exact .inl (written.member_checked distinct present same)
    · exact ⟨_, _, Members.mem_of_get held, rfl⟩
  rw [Rule.ofValue, checked]
  rfl

end Fields

end Rules

section Order

variable {name : String} {rule : Rule} {rules named : List (String × Rule)}

theorem names_of_insert :
    (insertRule name rule rules).map (·.1) = insertIncreasing name (rules.map (·.1)) := by
  induction rules with
  | nil => rfl
  | cons first rest ih =>
      obtain ⟨other, old⟩ := first
      rw [List.map_cons, insertIncreasing, insertRule]
      split
      · rfl
      split
      · rename_i same
        rw [same]
        rfl
      · rw [List.map_cons, ih]

theorem insert_perm (absent : name ∉ rules.map (·.1)) :
    (insertRule name rule rules).Perm ((name, rule) :: rules) := by
  induction rules with
  | nil => exact .refl _
  | cons first rest ih =>
      obtain ⟨other, old⟩ := first
      obtain ⟨different, absentRest⟩ := not_or.1 (mt List.mem_cons.2 absent)
      rw [insertRule]
      split
      · exact .refl _
      · exact ((ih absentRest).cons _).trans (.swap ..)

theorem fold_insert_perm (distinct : ((named ++ rules).map (·.1)).Nodup) :
    (named.foldl (fun rules (entry : String × Rule) => insertRule entry.1 entry.2 rules) rules).Perm
      (named ++ rules) := by
  induction named generalizing rules with
  | nil => exact .refl _
  | cons first rest ih =>
      have moved : (rest ++ first :: rules).Perm (first :: (rest ++ rules)) := List.perm_middle
      have absent : first.1 ∉ rules.map (·.1) := by
        intro listed
        have later : first.1 ∈ (rest ++ rules).map (·.1) := by
          rw [List.map_append]
          exact List.mem_append_right _ listed
        exact (List.nodup_cons.1 distinct).1 later
      have inserted : (rest ++ insertRule first.1 first.2 rules).Perm (first :: (rest ++ rules)) :=
        ((insert_perm absent).append_left rest).trans moved
      have distinctAfter : ((rest ++ insertRule first.1 first.2 rules).map (·.1)).Nodup :=
        ((inserted.map (·.1)).nodup_iff).2 distinct
      exact (ih distinctAfter).trans inserted

theorem names_of_fold_increasing (increasing : (rules.map (·.1)).Pairwise (· < ·)) :
    ((named.foldl (fun rules (entry : String × Rule) =>
      insertRule entry.1 entry.2 rules) rules).map (·.1)).Pairwise (· < ·) := by
  induction named generalizing rules with
  | nil => exact increasing
  | cons first rest ih =>
      apply ih
      rw [names_of_insert]
      exact pairwise_insert_increasing increasing

theorem rule_named_eq_lookup (name : String) (rules : List (String × Rule)) :
    ruleNamed? name rules = rules.lookup name := by
  induction rules with
  | nil => rfl
  | cons first rest ih =>
      obtain ⟨other, rule⟩ := first
      rw [ruleNamed?, List.lookup_cons, ih]
      by_cases same : other = name
      · simp [same]
      · simp [same, beq_false_of_ne (Ne.symm same)]

theorem rule_named_iff (distinct : (rules.map (·.1)).Nodup) :
    ruleNamed? name rules = some rule ↔ (name, rule) ∈ rules := by
  rw [rule_named_eq_lookup, lookup_eq_some_iff distinct]

end Order

section Rulesets

variable {rules : List (String × Rule)} {document : Value}

/-- A ruleset that holds the given rules by name, with the recommended ones enabled. -/
structure Holds (ruleset : Ruleset) (rules : List (String × Rule)) : Prop where
  increasing : ruleset.names.Pairwise (· < ·)
  names : ∀ name, name ∈ ruleset.names ↔ name ∈ rules.map (·.1)
  get : ∀ name rule, ruleset.get? name = some rule ↔ (name, rule) ∈ rules
  enabled : ∀ name, ruleset.isEnabled name = true ↔
    ∃ rule, (name, rule) ∈ rules ∧ rule.recommended = true

theorem of_rules_increasing (rules : List (String × Rule)) :
    (Ruleset.ofRules rules).names.Pairwise (· < ·) := names_of_fold_increasing .nil

theorem of_rules_perm (distinct : (rules.map (·.1)).Nodup) :
    (Ruleset.ofRules rules).rules.Perm rules := by
  have folded := @fold_insert_perm [] rules (by rwa [List.append_nil])
  rwa [List.append_nil] at folded

theorem of_rules_enabled_iff {name : String} : (Ruleset.ofRules rules).isEnabled name = true ↔
    ∃ rule, (name, rule) ∈ (Ruleset.ofRules rules).rules ∧ rule.recommended = true := by
  have enabled : (Ruleset.ofRules rules).enabled = .ofList
      (((Ruleset.ofRules rules).rules.filter fun entry => entry.2.recommended).map (·.1)) := rfl
  rw [Ruleset.isEnabled, NameSet.contains, decide_eq_true_eq, enabled, NameSet.mem_of_list]
  simp

theorem of_rules_holds (distinct : (rules.map (·.1)).Nodup) : Holds (.ofRules rules) rules := by
  have perm := of_rules_perm distinct
  have names := perm.map (·.1)
  have distinctAfter := names.nodup_iff.2 distinct
  refine ⟨of_rules_increasing rules, fun name => names.mem_iff, ?_, ?_⟩
  · intro name rule
    rw [Ruleset.get?, rule_named_iff distinctAfter, perm.mem_iff]
  · intro name
    simp only [of_rules_enabled_iff, perm.mem_iff]

def SeverityInFloat (rule : Value) : Prop :=
  ∃ members x, rule = .object members ∧
    Members.get? "severity" members = some (.number (.float x))

def HasFloatSeverity (document : Value) : Prop :=
  ∃ members named entry, document = .object members ∧
    Members.get? "rules" members = some (.object named) ∧ entry ∈ named ∧ SeverityInFloat entry.2

theorem rules_named {named : Members} (written : List.Forall₂ EntryWritten named rules) :
    rules.map (·.1) = Members.keys named := by
  induction written with
  | nil => rfl
  | cons first _ ih => rw [List.map_cons, first.1, ih]; rfl

def decodeEntry (entry : String × Value) : Decoded (String × Rule) := do
  let rule ← Rule.ofValue entry.2
  pure (entry.1, rule)

theorem EntryWritten.decoded {entry : String × Value} {rule : String × Rule}
    (written : EntryWritten entry rule) (distinct : entry.2.KeysDistinct)
    (exact : ¬SeverityInFloat entry.2) : decodeEntry entry = .ok rule := by
  obtain ⟨name, value⟩ := entry
  obtain ⟨_, rule⟩ := rule
  obtain ⟨rfl, inner, rfl, written⟩ := written
  have decoded := written.decoded distinct fun x held => exact ⟨inner, x, rfl, held⟩
  rw [decodeEntry, decoded]
  rfl

theorem EntryWritten.refused {entry : String × Value} {rule : String × Rule}
    (written : EntryWritten entry rule) (distinct : entry.2.KeysDistinct)
    (held : SeverityInFloat entry.2) : decodeEntry entry = .error .noSeverity := by
  obtain ⟨_, inner, same, written⟩ := written
  obtain ⟨_, x, again, held⟩ := held
  obtain rfl := Value.object.inj (same.symm.trans again)
  rw [same] at distinct
  rw [decodeEntry, same, written.refused distinct held]
  rfl

/-- The rules that a document writes are decoded, unless one has a severity in a float. -/
theorem decode_rules_written (distinct : document.KeysDistinct)
    (written : RulesetWritten document rules) :
    (¬HasFloatSeverity document → Ruleset.decodeRules document = .ok rules) ∧
      (HasFloatSeverity document → Ruleset.decodeRules document = .error .noSeverity) := by
  obtain ⟨members, named, rfl, found, written⟩ := written
  have decode : Ruleset.decodeRules (.object members) = named.mapM decodeEntry := by
    rw [Ruleset.decodeRules, found]
    rfl
  have parts : ∀ entry ∈ named, entry.2.KeysDistinct := fun entry listed =>
    distinct.inside (.member (Members.mem_of_get found) (.member listed (.here _)))
  constructor
  · intro exact
    have exactEntries : ∀ entry ∈ named, ¬SeverityInFloat entry.2 := fun entry listed held =>
      exact ⟨members, named, entry, rfl, found, listed, held⟩
    have fits := (List.forall₂_and_left named rules).2 ⟨parts, written⟩
    have exactFits := (List.forall₂_and_left named rules).2 ⟨exactEntries, fits⟩
    rw [decode]
    apply map_m_ok
    exact exactFits.imp fun entry rule ⟨exact, distinct, written⟩ => written.decoded distinct exact
  · rintro ⟨_, _, entry, same, again, listed, held⟩
    obtain rfl := Value.object.inj same
    obtain rfl := Value.object.inj (Option.some.inj (found.symm.trans again))
    have each := exists_forall_two_iff.1 ⟨rules, written⟩
    rw [decode]
    apply map_m_error
    · intro other present
      obtain ⟨rule, written⟩ := each other present
      by_cases float : SeverityInFloat other.2
      · exact .inr (written.refused (parts other present) float)
      · exact .inl ⟨rule, written.decoded (parts other present) float⟩
    · obtain ⟨rule, written⟩ := each entry listed
      exact ⟨entry, listed, written.refused (parts entry listed) held⟩

theorem invalid_of_findings (found : rulesetFindings document ≠ []) :
    Ruleset.ofValue document = .error (.invalid (rulesetFindings document)) := by
  unfold Ruleset.ofValue
  split
  · contradiction
  · rfl

theorem decoded_of_no_findings (none : rulesetFindings document = []) :
    Ruleset.ofValue document =
      ((Ruleset.decodeRules document).map Ruleset.ofRules).mapError .malformed := by
  rw [Ruleset.ofValue, none]

theorem malformed_of_float (distinct : document.KeysDistinct)
    (none : rulesetFindings document = []) (float : HasFloatSeverity document) :
    Ruleset.ofValue document = .error (.malformed .noSeverity) := by
  obtain ⟨rules, written⟩ := (ruleset_fits_iff distinct).1 none
  rw [decoded_of_no_findings none, (decode_rules_written distinct written).2 float]
  rfl

theorem loaded_of_written (distinct : document.KeysDistinct)
    (written : RulesetWritten document rules) (exact : ¬HasFloatSeverity document) :
    Ruleset.ofValue document = .ok (.ofRules rules) := by
  have none := (ruleset_fits_iff distinct).2 ⟨rules, written⟩
  rw [decoded_of_no_findings none, (decode_rules_written distinct written).1 exact]
  rfl

theorem RulesetWritten.names_distinct (written : RulesetWritten document rules)
    (distinct : document.KeysDistinct) : (rules.map (·.1)).Nodup := by
  obtain ⟨members, named, rfl, found, written⟩ := written
  have inside := distinct.inside (.member (Members.mem_of_get found) (.here _))
  rw [rules_named written]
  exact inside named (.here _)

theorem reading_outcomes (distinct : document.KeysDistinct) :
    (rulesetFindings document ≠ [] ∧
      Ruleset.ofValue document = .error (.invalid (rulesetFindings document))) ∨
    (rulesetFindings document = [] ∧ HasFloatSeverity document ∧
      Ruleset.ofValue document = .error (.malformed .noSeverity)) ∨
    (rulesetFindings document = [] ∧ ¬HasFloatSeverity document ∧
      ∃ rules, Ruleset.ofValue document = .ok (.ofRules rules)) := by
  by_cases clean : rulesetFindings document = []
  · apply Or.inr
    by_cases float : HasFloatSeverity document
    · exact .inl ⟨clean, float, malformed_of_float distinct clean float⟩
    · obtain ⟨rules, written⟩ := (ruleset_fits_iff distinct).1 clean
      exact .inr ⟨clean, float, rules, loaded_of_written distinct written float⟩
  · exact .inl ⟨clean, invalid_of_findings clean⟩

/-- A document is invalid exactly when it does not write rules, with at least one finding. It
is malformed exactly when it writes rules and a severity is held as a float. Every other
document is loaded, and the ruleset holds just the rules that it writes. -/
theorem ruleset_reading_exact (document : Value) (distinct : document.KeysDistinct) :
    (rulesetFindings document = [] ↔ ∃ rules, RulesetWritten document rules) ∧
    ((∃ findings, Ruleset.ofValue document = .error (.invalid findings)) ↔
      rulesetFindings document ≠ []) ∧
    (∀ findings, Ruleset.ofValue document = .error (.invalid findings) → findings ≠ []) ∧
    ((∃ error, Ruleset.ofValue document = .error (.malformed error)) ↔
      rulesetFindings document = [] ∧ HasFloatSeverity document) ∧
    ∀ rules, RulesetWritten document rules → ¬HasFloatSeverity document →
      ∃ ruleset, Ruleset.ofValue document = .ok ruleset ∧ Holds ruleset rules := by
  have loads : ∀ rules, RulesetWritten document rules → ¬HasFloatSeverity document →
      ∃ ruleset, Ruleset.ofValue document = .ok ruleset ∧ Holds ruleset rules := by
    intro rules written exact
    exact ⟨_, loaded_of_written distinct written exact,
      of_rules_holds (written.names_distinct distinct)⟩
  apply And.intro (ruleset_fits_iff distinct)
  rcases reading_outcomes distinct with
    ⟨found, outcome⟩ | ⟨clean, float, outcome⟩ | ⟨clean, exact, rules, outcome⟩
  · refine ⟨?_, ?_, ?_, loads⟩ <;> simp [outcome, found]
  · refine ⟨?_, ?_, ?_, loads⟩ <;> simp [outcome, clean, float]
  · refine ⟨?_, ?_, ?_, loads⟩ <;> simp [outcome, clean, exact]

end Rulesets

section Leveled

def leveledMembers (level : Number) : Members := [
  ("description", .string "the document has a title"),
  ("message", .string "a title is missing"),
  ("severity", .number level),
  ("given", .string "$.info"),
  ("then", .array [.object [("field", .string "title"), ("function", .string "truthy")]])]

def leveledDocument (level : Number) : Value :=
  .object [("rules", .object [("title", .object (leveledMembers level))])]

def leveledRule : Rule where
  description := "the document has a title"
  message := "a title is missing"
  severity := .warn
  given := "$.info"
  clause := .many [⟨some "title", .truthy, none⟩]

theorem leveled_written {level : Number} (same : level.sameValue (.integer 1) = true) :
    RulesetWritten (leveledDocument level) [("title", leveledRule)] := by
  have action : ActionWritten [("field", .string "title"), ("function", .string "truthy")]
      ⟨some "title", .truthy, none⟩ := by
    constructor <;> simp [Members.get?, Members.keys, AssertionFunction.name]
  have clause : ClauseWritten
      (.array [.object [("field", .string "title"), ("function", .string "truthy")]])
      leveledRule.clause := .many (by simp) (.cons ⟨_, rfl, action⟩ .nil)
  have rule : RuleWritten (leveledMembers level) leveledRule := {
    description := rfl
    descriptionNotEmpty := by decide
    message := rfl
    messageNotEmpty := by decide
    severity := ⟨_, rfl, .level same⟩
    given := rfl
    selector := ⟨_, rfl⟩
    clause := ⟨_, rfl, clause⟩
    recommended := .inr ⟨rfl, rfl⟩ }
  exact ⟨_, _, rfl, rfl, .cons ⟨rfl, _, rfl, rule⟩ .nil⟩

/-- The level 1 may be written as an integer, while 1.0 fits the schema and is refused. -/
theorem leveled_documents_read :
    (∀ level, (leveledDocument level).KeysDistinct) ∧
    (∃ ruleset, Ruleset.ofValue (leveledDocument (.integer 1)) = .ok ruleset ∧
      Holds ruleset [("title", leveledRule)]) ∧
    ∃ error, Ruleset.ofValue (leveledDocument (.float ⟨0x3FF0000000000000⟩)) =
      .error (.malformed error) := by
  have distinct : ∀ level, (leveledDocument level).KeysDistinct := by
    intro level
    simp [leveledDocument, leveledMembers, Value.KeysDistinct, Value.all_mappings_object,
      Value.all_mappings_array, Value.all_mappings_scalar, Members.keys, Value.kind]
  have exact : ¬HasFloatSeverity (leveledDocument (.integer 1)) := by
    rintro ⟨_, _, _, document, found, listed, _, x, rule, held⟩
    obtain rfl := Value.object.inj document
    obtain rfl := Value.object.inj (Option.some.inj found)
    obtain rfl := List.mem_singleton.1 listed
    obtain rfl := Value.object.inj rule
    have held : some (Value.number (.integer 1)) = some (.number (.float x)) := held
    simp at held
  have float : HasFloatSeverity (leveledDocument (.float ⟨0x3FF0000000000000⟩)) :=
    ⟨_, _, _, rfl, rfl, .head _, _, _, rfl, rfl⟩
  have loaded := (ruleset_reading_exact (leveledDocument (.integer 1)) (distinct _)).2.2.2.2
  obtain ⟨readable, _, _, refused, _⟩ := ruleset_reading_exact
    (leveledDocument (.float ⟨0x3FF0000000000000⟩)) (distinct _)
  exact ⟨distinct, loaded _ (leveled_written rfl) exact,
    refused.2 ⟨readable.2 ⟨_, leveled_written rfl⟩, float⟩⟩

end Leveled

end RefLint.Rules
