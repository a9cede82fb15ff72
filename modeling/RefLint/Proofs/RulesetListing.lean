import RefLint.Proofs.RuleUpdates

/-!
# The listing of a ruleset

The enabled rules are listed as a document of the same form as the ruleset they come from.
Reading that document gives the listed rules again, each as it was: what a document can write
is kept by reading, enabling, disabling and listing.
-/

namespace RefLint.Rules

set_option autoImplicit false

variable {document : Value} {start : Ruleset}

/-- The rules of a ruleset that was read are those that its document writes, in order of name. -/
theorem exists_written (distinct : document.KeysDistinct)
    (loaded : Ruleset.ofValue document = .ok start) :
    ∃ rules, RulesetWritten document rules ∧ start = .ofRules rules := by
  have clean : rulesetFindings document = [] := by
    by_contra found
    rw [invalid_of_findings found] at loaded
    contradiction
  obtain ⟨rules, written⟩ := (ruleset_fits_iff distinct).1 clean
  by_cases float : HasFloatSeverity document
  · rw [malformed_of_float distinct clean float] at loaded
    contradiction
  · rw [loaded_of_written distinct written float] at loaded
    exact ⟨rules, written, (Except.ok.inj loaded).symm⟩

theorem RulesetWritten.writable {rules : List (String × Rule)}
    (written : RulesetWritten document rules) (distinct : document.KeysDistinct) :
    ∀ entry ∈ rules, entry.2.Writable := by
  obtain ⟨members, named, rfl, found, written⟩ := written
  have parts : ∀ entry ∈ named, entry.2.KeysDistinct := fun entry listed =>
    distinct.inside (.member (Members.mem_of_get found) (.member listed (.here _)))
  have each := (List.forall₂_and_left named rules).2 ⟨parts, written⟩
  intro entry listed
  obtain ⟨source, inside, _, inner, value, written⟩ :=
    exists_forall_two_iff.1 ⟨named, each.flip⟩ entry listed
  rw [value] at inside
  exact written.writable inside

theorem loaded_rules_writable (distinct : document.KeysDistinct)
    (loaded : Ruleset.ofValue document = .ok start) :
    ∀ entry ∈ start.rules, entry.2.Writable := by
  obtain ⟨rules, written, rfl⟩ := exists_written distinct loaded
  intro entry listed
  have perm := of_rules_perm (written.names_distinct distinct)
  exact written.writable distinct entry (perm.mem_iff.1 listed)

theorem listed_rules_load {rules listed : List (String × Rule)} (part : listed.Sublist rules)
    (increasing : (rules.map (·.1)).Pairwise (· < ·))
    (writable : ∀ entry ∈ rules, entry.2.Writable) :
    ∃ again, Ruleset.ofValue (Ruleset.documentOf listed) = .ok again ∧ again.rules = listed := by
  have listedIncreasing := increasing.sublist (part.map _)
  have loads := document_loads (fun entry present => writable entry (part.subset present))
    (distinct_of_increasing listedIncreasing)
  exact ⟨_, loads, of_increasing_rules listedIncreasing⟩

/-- Whatever calls were made on a ruleset that was read, the listing of its enabled rules is
read as a ruleset, whose rules are the enabled ones of the first, unchanged. -/
theorem listing_reloads (document : Value) (distinct : document.KeysDistinct) (start : Ruleset)
    (loaded : Ruleset.ofValue document = .ok start) (updates : List Update) :
    ∃ again,
      Ruleset.ofValue (Ruleset.documentOf (start.after updates).enabledRules) = .ok again ∧
      again.rules = (start.after updates).enabledRules ∧
      ∀ name rule, (name, rule) ∈ again.rules ↔
        (name, rule) ∈ start.rules ∧ (start.after updates).isEnabled name = true := by
  have increasing : start.names.Pairwise (· < ·) := by
    obtain ⟨rules, rfl⟩ := rules_of_loaded loaded
    exact of_rules_increasing rules
  have part : (start.after updates).enabledRules.Sublist start.rules := by
    rw [← after_rules start updates]
    exact List.filter_sublist
  obtain ⟨again, reloads, same⟩ :=
    listed_rules_load part increasing (loaded_rules_writable distinct loaded)
  refine ⟨again, reloads, same, fun name rule => ?_⟩
  rw [same, enabled_rules_exact, after_rules]

/-- One of the two has a list of actions, the other options and no recommendation. -/
theorem chosen_rules_reload :
    bundledRuleset.toValue.KeysDistinct ∧
    Ruleset.ofValue bundledRuleset.toValue = .ok bundledRuleset ∧
    ∃ again, Ruleset.ofValue (Ruleset.documentOf (bundledRuleset.after [.enableOnly
      ["jsonapi-error-object-not-empty", "jsonapi-attributes-reserved-members"]]).enabledRules) =
        .ok again ∧
      again.names = ["jsonapi-attributes-reserved-members", "jsonapi-error-object-not-empty"] := by
  obtain ⟨again, reloads, same, -⟩ := listing_reloads bundledRuleset.toValue bundled_distinct
    bundledRuleset bundled_loaded [.enableOnly
      ["jsonapi-error-object-not-empty", "jsonapi-attributes-reserved-members"]]
  refine ⟨bundled_distinct, bundled_loaded, again, reloads, ?_⟩
  rw [Ruleset.names, same]
  decide +kernel

end RefLint.Rules
