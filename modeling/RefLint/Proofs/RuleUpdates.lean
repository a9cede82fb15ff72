import RefLint.Command.Run
import RefLint.Proofs.WrittenRules

/-!
# Enabling and disabling over whole runs

Rules are enabled and disabled by calls that may fail. A call that names an unknown rule
changes nothing, and every other call decides on the rules that it names, or on all of them.
So after any number of calls a rule is enabled as the latest call that decided on it left it,
and rules that no call decided on are enabled when they are recommended.
-/

namespace RefLint.Rules

set_option autoImplicit false

inductive Update where
  | enable (name : String)
  | disable (name : String)
  | enableOnly (names : List String)

namespace Update

def names : Update → List String
  | enable name | disable name => [name]
  | enableOnly names => names

/-- Whether the update turns a rule on or off, where it decides on the rule at all. -/
def decision? (name : String) : Update → Option Bool
  | enable other => if other = name then some true else none
  | disable other => if other = name then some false else none
  | enableOnly names => some (decide (name ∈ names))

def apply (ruleset : Ruleset) : Update → Except RulesetError Ruleset
  | enable name => ruleset.enable name
  | disable name => ruleset.disable name
  | enableOnly names => ruleset.enableOnly names

end Update

structure Call where
  update : Update
  failure : Option RulesetError

namespace Call

/-- Failed calls decide nothing. -/
def decision? (call : Call) (name : String) : Option Bool :=
  match call.failure with
  | none => call.update.decision? name
  | some _ => none

end Call

namespace Ruleset

def failure? (ruleset : Ruleset) (update : Update) : Option RulesetError :=
  match update.apply ruleset with
  | .ok _ => none
  | .error error => some error

/-- The ruleset with which a caller goes on after an update, also where it fails. -/
def performed (ruleset : Ruleset) (update : Update) : Ruleset :=
  match update.apply ruleset with
  | .ok changed => changed
  | .error _ => ruleset

def after (ruleset : Ruleset) (updates : List Update) : Ruleset := updates.foldl performed ruleset

/-- The calls of the updates one after another, each on what the ones before it left. -/
def history (ruleset : Ruleset) : List Update → List Call
  | [] => []
  | update :: rest =>
      ⟨update, ruleset.failure? update⟩ :: (ruleset.performed update).history rest

end Ruleset

section InPlace

abbrev InPlace := EStateM RulesetError Ruleset

variable {ruleset : Ruleset} {name : String}

def requireKnown (name : String) : InPlace Unit := fun ruleset =>
  if ruleset.isKnown name then .ok () ruleset else .error (.unknownRule name) ruleset

def selectKnown (selected : NameSet) : List String → InPlace NameSet
  | [] => pure selected
  | name :: rest => do
      requireKnown name
      selectKnown (selected.insert name) rest

def setEnabled (change : NameSet → NameSet) : InPlace Unit :=
  modify fun ruleset => { ruleset with enabled := change ruleset.enabled }

def Update.perform : Update → InPlace Unit
  | enable name => do
      requireKnown name
      setEnabled (·.insert name)
  | disable name => do
      requireKnown name
      setEnabled (·.erase name)
  | enableOnly names => do
      let selected ← selectKnown .empty names
      setEnabled fun _ => selected

theorem require_known_run {Result : Type} (next : Unit → InPlace Result) :
    (requireKnown name >>= next).run ruleset =
      if ruleset.isKnown name then (next ()).run ruleset
      else .error (.unknownRule name) ruleset := by
  show EStateM.bind (requireKnown name) next ruleset = _
  unfold EStateM.bind requireKnown
  cases ruleset.isKnown name <;> rfl

theorem select_known_run {Result : Type} (selected : NameSet) (names : List String)
    (next : NameSet → InPlace Result) :
    (selectKnown selected names >>= next).run ruleset =
      match names.find? fun name => !ruleset.isKnown name with
      | some unknown => .error (.unknownRule unknown) ruleset
      | none => (next (names.foldl NameSet.insert selected)).run ruleset := by
  induction names generalizing selected with
  | nil => rfl
  | cons name rest ih =>
      rw [selectKnown, bind_assoc, require_known_run, ih, List.find?_cons]
      cases ruleset.isKnown name <;> rfl

/-- Done in place, an update leaves what applying it gives, and a failed one leaves the ruleset
as it was. -/
theorem perform_run (update : Update) : update.perform.run ruleset =
    match ruleset.failure? update with
    | some error => .error error ruleset
    | none => .ok () (ruleset.performed update) := by
  rw [Ruleset.failure?, Ruleset.performed]
  cases update with
  | enable name =>
      rw [Update.perform, require_known_run, Update.apply, Ruleset.enable]
      cases ruleset.isKnown name <;> rfl
  | disable name =>
      rw [Update.perform, require_known_run, Update.apply, Ruleset.disable]
      cases ruleset.isKnown name <;> rfl
  | enableOnly names =>
      rw [Update.perform, select_known_run, Update.apply, Ruleset.enableOnly]
      cases names.find? fun name => !ruleset.isKnown name <;> rfl

end InPlace

def FirstUnknown (ruleset : Ruleset) (names : List String) (name : String) : Prop :=
  name ∉ ruleset.names ∧
    ∃ before after, names = before ++ name :: after ∧ ∀ known ∈ before, known ∈ ruleset.names

def Undecided (name : String) (calls : List Call) : Prop :=
  ∀ call ∈ calls, call.decision? name = none

def LatestTurnsOn (name : String) (calls : List Call) : Prop :=
  ∃ before call after, calls = before ++ call :: after ∧ call.decision? name = some true ∧
    Undecided name after

section Names

variable {ruleset : Ruleset} {name : String} {names : List String}

theorem rule_named_some_iff {rules : List (String × Rule)} :
    (ruleNamed? name rules).isSome = true ↔ name ∈ rules.map (·.1) := by
  induction rules with
  | nil => simp [ruleNamed?]
  | cons first rest ih =>
      obtain ⟨other, rule⟩ := first
      rw [ruleNamed?, List.map_cons, List.mem_cons, ← ih]
      by_cases same : other = name
      · simp [same]
      · simp [same, Ne.symm same]

theorem is_known_iff : ruleset.isKnown name = true ↔ name ∈ ruleset.names := rule_named_some_iff

theorem is_enabled_iff : ruleset.isEnabled name = true ↔ name ∈ ruleset.enabled := by
  rw [Ruleset.isEnabled, NameSet.contains, decide_eq_true_eq]

theorem find_unknown_iff :
    (names.find? fun name => !ruleset.isKnown name) = some name ↔
      FirstUnknown ruleset names name := by
  rw [List.find?_eq_some_iff_append]
  simp [FirstUnknown, ← is_known_iff]

theorem no_unknown_iff : (names.find? fun name => !ruleset.isKnown name) = none ↔
    ∀ name ∈ names, name ∈ ruleset.names := by
  simp [List.find?_eq_none, is_known_iff]

theorem fold_known {operation : Ruleset → String → Except RulesetError Ruleset}
    {change : NameSet → String → NameSet}
    (step : ∀ ruleset name, operation ruleset name =
      if ruleset.isKnown name then .ok { ruleset with enabled := change ruleset.enabled name }
      else .error (.unknownRule name)) (ruleset : Ruleset) (names : List String) :
    names.foldlM operation ruleset =
      match names.find? fun name => !ruleset.isKnown name with
      | some unknown => .error (.unknownRule unknown)
      | none => .ok { ruleset with enabled := names.foldl change ruleset.enabled } := by
  induction names generalizing ruleset with
  | nil => rfl
  | cons name rest ih =>
      rw [List.foldlM_cons, step, List.find?_cons]
      cases ruleset.isKnown name with
      | false => rfl
      | true => exact ih { ruleset with enabled := change ruleset.enabled name }

theorem select_eq (ruleset : Ruleset) (enabling disabling : List String) :
    ruleset.select enabling disabling =
      match (enabling ++ disabling).find? fun name => !ruleset.isKnown name with
      | some unknown => .error (.unknownRule unknown)
      | none => .ok ⟨ruleset.rules,
          disabling.foldl NameSet.erase (enabling.foldl NameSet.insert ruleset.enabled)⟩ := by
  have enabled := @fold_known Ruleset.enable NameSet.insert (fun _ _ => rfl) ruleset enabling
  rw [Ruleset.select, enabled, List.find?_append]
  cases enabling.find? fun name => !ruleset.isKnown name with
  | some unknown => rfl
  | none =>
      exact fold_known (fun _ _ => rfl)
        ⟨ruleset.rules, enabling.foldl NameSet.insert ruleset.enabled⟩ disabling

theorem first_unknown_congr {other : Ruleset} (same : ruleset.names = other.names) :
    FirstUnknown ruleset = FirstUnknown other := by
  funext names name
  rw [FirstUnknown, FirstUnknown, same]

theorem FirstUnknown.exists_unknown (first : FirstUnknown ruleset names name) :
    ∃ name ∈ names, name ∉ ruleset.names := by
  obtain ⟨unknown, before, after, rfl, _⟩ := first
  exact ⟨name, by simp, unknown⟩

/-- Selecting fails at the first unknown name, or turns on what is enabled first and then off
what is disabled. -/
theorem select_outcomes (ruleset : Ruleset) (enabling disabling : List String) :
    (∃ unknown, FirstUnknown ruleset (enabling ++ disabling) unknown ∧
      ruleset.select enabling disabling = .error (.unknownRule unknown)) ∨
    ((∀ name ∈ enabling ++ disabling, name ∈ ruleset.names) ∧
      ∃ selected, ruleset.select enabling disabling = .ok selected ∧
        selected.rules = ruleset.rules ∧ ∀ name, selected.isEnabled name = true ↔
          (ruleset.isEnabled name = true ∨ name ∈ enabling) ∧ name ∉ disabling) := by
  rw [select_eq]
  cases found : (enabling ++ disabling).find? fun name => !ruleset.isKnown name with
  | some unknown => exact .inl ⟨unknown, find_unknown_iff.1 found, rfl⟩
  | none =>
      refine .inr ⟨no_unknown_iff.1 found, _, rfl, rfl, fun name => ?_⟩
      rw [is_enabled_iff, is_enabled_iff, NameSet.mem_foldl_erase, NameSet.mem_foldl_insert]

end Names

section Steps

variable {ruleset : Ruleset} {update : Update} {name : String}

def Update.change (enabled : NameSet) : Update → NameSet
  | enable name => enabled.insert name
  | disable name => enabled.erase name
  | enableOnly names => .ofList names

theorem apply_eq (ruleset : Ruleset) (update : Update) : update.apply ruleset =
    match update.names.find? fun name => !ruleset.isKnown name with
    | some unknown => .error (.unknownRule unknown)
    | none => .ok { ruleset with enabled := update.change ruleset.enabled } := by
  cases update with
  | enable name =>
      rw [Update.apply, Ruleset.enable, Update.names, List.find?_singleton]
      cases ruleset.isKnown name <;> rfl
  | disable name =>
      rw [Update.apply, Ruleset.disable, Update.names, List.find?_singleton]
      cases ruleset.isKnown name <;> rfl
  | enableOnly names => rfl

theorem mem_change {enabled : NameSet} : name ∈ update.change enabled ↔
    update.decision? name = some true ∨ update.decision? name = none ∧ name ∈ enabled := by
  cases update with
  | enable other =>
      rw [Update.change, Update.decision?, NameSet.mem_insert]
      split <;> simp_all [eq_comm]
  | disable other =>
      rw [Update.change, Update.decision?, NameSet.mem_erase]
      split <;> simp_all [eq_comm]
  | enableOnly names => simp [Update.change, Update.decision?]

/-- A call either fails at the first unknown name and changes nothing, or makes its change. -/
theorem call_outcomes (ruleset : Ruleset) (update : Update) :
    (∃ unknown, FirstUnknown ruleset update.names unknown ∧
      ruleset.failure? update = some (.unknownRule unknown) ∧
      ruleset.performed update = ruleset) ∨
    ((∀ name ∈ update.names, name ∈ ruleset.names) ∧ ruleset.failure? update = none ∧
      ruleset.performed update = { ruleset with enabled := update.change ruleset.enabled }) := by
  rw [Ruleset.failure?, Ruleset.performed, apply_eq]
  cases found : update.names.find? fun name => !ruleset.isKnown name with
  | some unknown => exact .inl ⟨unknown, find_unknown_iff.1 found, rfl, rfl⟩
  | none => exact .inr ⟨no_unknown_iff.1 found, rfl, rfl⟩

theorem performed_rules (ruleset : Ruleset) (update : Update) :
    (ruleset.performed update).rules = ruleset.rules := by
  rcases call_outcomes ruleset update with ⟨_, _, _, same⟩ | ⟨_, _, changed⟩
  · rw [same]
  · rw [changed]

theorem performed_enabled_iff : (ruleset.performed update).isEnabled name = true ↔
    (Call.mk update (ruleset.failure? update)).decision? name = some true ∨
      (Call.mk update (ruleset.failure? update)).decision? name = none ∧
        ruleset.isEnabled name = true := by
  rw [is_enabled_iff, is_enabled_iff, Call.decision?]
  rcases call_outcomes ruleset update with ⟨_, _, failed, same⟩ | ⟨_, succeeded, changed⟩
  · simp [failed, same]
  · rw [succeeded, changed]
    exact mem_change

theorem Update.named_of_on (on : update.decision? name = some true) : name ∈ update.names := by
  cases update with
  | enable other => simp_all [decision?, names]
  | disable other => simp [decision?] at on
  | enableOnly names => simpa [decision?, Update.names] using on

theorem fails_iff (ruleset : Ruleset) (update : Update) :
    (ruleset.failure? update).isSome = true ↔ ∃ name ∈ update.names, name ∉ ruleset.names := by
  rcases call_outcomes ruleset update with ⟨_, first, failed, _⟩ | ⟨known, succeeded, _⟩
  · simp only [failed, Option.isSome_some, first.exists_unknown]
  · simpa [succeeded] using known

theorem told_first_unknown {error : RulesetError}
    (failed : ruleset.failure? update = some error) :
    ∃ name, FirstUnknown ruleset update.names name ∧ error = .unknownRule name := by
  rcases call_outcomes ruleset update with ⟨unknown, first, told, _⟩ | ⟨_, succeeded, _⟩
  · rw [told] at failed
    exact ⟨unknown, first, (Option.some.inj failed).symm⟩
  · rw [succeeded] at failed
    contradiction

def EnabledKnown (ruleset : Ruleset) : Prop :=
  ∀ name, ruleset.isEnabled name = true → name ∈ ruleset.names

theorem EnabledKnown.performed (known : EnabledKnown ruleset) (update : Update) :
    EnabledKnown (ruleset.performed update) := by
  intro name enabled
  rw [Ruleset.names, performed_rules]
  rcases call_outcomes ruleset update with ⟨_, _, _, same⟩ | ⟨named, _, changed⟩
  · rw [same] at enabled
    exact known name enabled
  · rw [changed, is_enabled_iff] at enabled
    rcases mem_change.1 enabled with on | ⟨_, before⟩
    · exact named name (Update.named_of_on on)
    · exact known name (is_enabled_iff.2 before)

end Steps

section Runs

variable {ruleset : Ruleset} {name : String} {call : Call} {calls : List Call}

theorem undecided_cons :
    Undecided name (call :: calls) ↔ call.decision? name = none ∧ Undecided name calls :=
  List.forall_mem_cons

theorem not_latest_turns_on_nil : ¬LatestTurnsOn name [] := by
  rintro ⟨before, latest, after, parts, _⟩
  simp at parts

theorem latest_turns_on_cons : LatestTurnsOn name (call :: calls) ↔
    LatestTurnsOn name calls ∨ Undecided name calls ∧ call.decision? name = some true := by
  constructor
  · rintro ⟨before, latest, after, parts, on, undecided⟩
    cases before with
    | nil =>
        obtain ⟨rfl, rfl⟩ := List.cons.inj parts
        exact .inr ⟨undecided, on⟩
    | cons first before =>
        obtain ⟨rfl, rfl⟩ := List.cons.inj parts
        exact .inl ⟨before, latest, after, rfl, on, undecided⟩
  · rintro (⟨before, latest, after, rfl, on, undecided⟩ | ⟨undecided, on⟩)
    · exact ⟨call :: before, latest, after, rfl, on, undecided⟩
    · exact ⟨[], call, calls, rfl, on, undecided⟩

instance (name : String) (calls : List Call) : Decidable (Undecided name calls) :=
  inferInstanceAs (Decidable (∀ call ∈ calls, call.decision? name = none))

instance decidableLatestTurnsOn (name : String) : (calls : List Call) →
    Decidable (LatestTurnsOn name calls)
  | [] => .isFalse not_latest_turns_on_nil
  | _ :: calls =>
      have := decidableLatestTurnsOn name calls
      decidable_of_iff' _ latest_turns_on_cons

theorem after_rules (ruleset : Ruleset) (updates : List Update) :
    (ruleset.after updates).rules = ruleset.rules := by
  induction updates generalizing ruleset with
  | nil => rfl
  | cons update rest ih => exact (ih _).trans (performed_rules ruleset update)

theorem after_names (ruleset : Ruleset) (updates : List Update) :
    (ruleset.after updates).names = ruleset.names := by
  rw [Ruleset.names, after_rules, Ruleset.names]

theorem EnabledKnown.after (known : EnabledKnown ruleset) (updates : List Update) :
    EnabledKnown (ruleset.after updates) := by
  induction updates generalizing ruleset with
  | nil => exact known
  | cons update rest ih => exact ih (known.performed update)

theorem after_enabled_iff (ruleset : Ruleset) (updates : List Update) :
    (ruleset.after updates).isEnabled name = true ↔
      LatestTurnsOn name (ruleset.history updates) ∨
        Undecided name (ruleset.history updates) ∧ ruleset.isEnabled name = true := by
  -- from the first call on: the later ones start from what it left
  induction updates generalizing ruleset with
  | nil => simp [Ruleset.after, Ruleset.history, not_latest_turns_on_nil, Undecided]
  | cons update rest ih =>
      have step : (ruleset.performed update).isEnabled name = true ↔ _ := performed_enabled_iff
      have rest := ih (ruleset.performed update)
      rw [Ruleset.history, latest_turns_on_cons, undecided_cons]
      rw [step] at rest
      refine rest.trans ?_
      simp only [and_or_left, or_assoc, and_assoc, and_left_comm]

theorem enabled_rules_exact (ruleset : Ruleset) (rule : Rule) :
    (name, rule) ∈ ruleset.enabledRules ↔
      (name, rule) ∈ ruleset.rules ∧ ruleset.isEnabled name = true := List.mem_filter

theorem enabled_rules_increasing (increasing : ruleset.names.Pairwise (· < ·)) :
    (ruleset.enabledRules.map (·.1)).Pairwise (· < ·) :=
  increasing.sublist (List.filter_sublist.map _)

end Runs

section Sources

variable {document : Value} {base start : Ruleset} {name : String}

theorem rules_of_loaded (loaded : Ruleset.ofValue document = .ok start) :
    ∃ rules, start = .ofRules rules := by
  unfold Ruleset.ofValue at loaded
  split at loaded
  · cases decoded : Ruleset.decodeRules document with
    | error error => simp [decoded, Except.map, Except.mapError] at loaded
    | ok rules =>
        rw [decoded] at loaded
        exact ⟨rules, (Except.ok.inj loaded).symm⟩
  · contradiction

def requested (request : Command.RulesRequest) (tree : FileTree) : Except RulesetError Ruleset :=
  match request.ruleset with
  | some path => loadRuleset tree path
  | none => .ok bundledRuleset

theorem rules_of_requested {request : Command.RulesRequest} {tree : FileTree}
    (loaded : requested request tree = .ok base) : ∃ rules, base = .ofRules rules := by
  unfold requested loadRuleset at loaded
  split at loaded
  · split at loaded
    · exact rules_of_loaded loaded
    · contradiction
  · exact ⟨_, (Except.ok.inj loaded).symm⟩

theorem selected_eq (request : Command.RulesRequest) (tree : FileTree) :
    request.selected tree = (requested request tree).bind fun base =>
      base.select request.enabling request.disabling := by
  obtain ⟨ruleset, _, _, _⟩ := request
  cases ruleset <;> rfl

theorem recommended_enabled (rules : List (String × Rule)) : EnabledKnown (.ofRules rules) := by
  intro name enabled
  obtain ⟨rule, listed, _⟩ := of_rules_enabled_iff.1 enabled
  exact List.mem_map.2 ⟨_, listed, rfl⟩

/-- Whatever calls were made on a ruleset that was read, its rules are the same and what is
enabled has a rule. A further call fails exactly when it names an unknown rule: it tells the
first such name and changes nothing. A rule is enabled when the latest call that decided on it
turned it on, or none did and it is recommended; the enabled rules are listed by name. Hence
the ruleset that a request selects has just the recommended and the enabled rules, less those
that are disabled, when all of them are known. -/
theorem rules_follow_latest_decision (document : Value) (start : Ruleset)
    (loaded : Ruleset.ofValue document = .ok start) :
    (∀ updates reached, reached = start.after updates →
      reached.rules = start.rules ∧
      (∀ name, reached.isEnabled name = true → name ∈ start.names) ∧
      (∀ update, ((reached.failure? update).isSome = true ↔
        ∃ name ∈ update.names, name ∉ start.names)) ∧
      (∀ update error, reached.failure? update = some error →
        (∃ name, FirstUnknown start update.names name ∧ error = .unknownRule name) ∧
          update.perform.run reached = .error error reached) ∧
      (∀ update, reached.failure? update = none →
        update.perform.run reached = .ok () (reached.performed update)) ∧
      (∀ name, reached.isEnabled name = true ↔ LatestTurnsOn name (start.history updates) ∨
        Undecided name (start.history updates) ∧
          ∃ rule, (name, rule) ∈ start.rules ∧ rule.recommended = true) ∧
      (reached.enabledRules.map (·.1)).Pairwise (· < ·) ∧
      ∀ name rule, (name, rule) ∈ reached.enabledRules ↔
        (name, rule) ∈ start.rules ∧ reached.isEnabled name = true) ∧
    ∀ (request : Command.RulesRequest) (tree : FileTree),
      (∀ error, requested request tree = .error error → request.selected tree = .error error) ∧
      ∀ base, requested request tree = .ok base →
        ((∃ selected, request.selected tree = .ok selected) ↔
          ∀ name ∈ request.enabling ++ request.disabling, name ∈ base.names) ∧
        ∀ selected, request.selected tree = .ok selected →
          selected.rules = base.rules ∧ ∀ name, selected.isEnabled name = true ↔
            ((∃ rule, (name, rule) ∈ base.rules ∧ rule.recommended = true) ∨
              name ∈ request.enabling) ∧ name ∉ request.disabling := by
  constructor
  · rintro updates reached rfl
    obtain ⟨rules, rfl⟩ := rules_of_loaded loaded
    have sameRules := after_rules (.ofRules rules) updates
    have sameNames := after_names (.ofRules rules) updates
    have increasing : ((Ruleset.ofRules rules).after updates).names.Pairwise (· < ·) := by
      rw [sameNames]
      exact of_rules_increasing rules
    have enabledKnown := (recommended_enabled rules).after updates
    rw [EnabledKnown, sameNames] at enabledKnown
    refine ⟨sameRules, enabledKnown, ?_, ?_, ?_, ?_, enabled_rules_increasing increasing, ?_⟩
    · intro update
      rw [fails_iff, sameNames]
    · intro update error failed
      have told := told_first_unknown failed
      rw [first_unknown_congr sameNames] at told
      exact ⟨told, by rw [perform_run, failed]⟩
    · intro update succeeded
      rw [perform_run, succeeded]
    · intro name
      rw [after_enabled_iff, of_rules_enabled_iff]
    · intro name rule
      rw [enabled_rules_exact, sameRules]
  · intro request tree
    refine ⟨fun error failed => by rw [selected_eq, failed]; rfl, fun base found => ?_⟩
    obtain ⟨rules, rfl⟩ := rules_of_requested found
    have selects : request.selected tree =
        (Ruleset.ofRules rules).select request.enabling request.disabling := by
      rw [selected_eq, found]
      rfl
    rw [selects]
    rcases select_outcomes (.ofRules rules) request.enabling request.disabling with
      ⟨unknown, first, failed⟩ | ⟨known, selected, succeeded, sameRules, enabled⟩
    · obtain ⟨name, named, absent⟩ := first.exists_unknown
      rw [failed]
      refine ⟨⟨nofun, fun known => absurd (known name named) absent⟩, nofun⟩
    · rw [succeeded]
      refine ⟨⟨fun _ => known, fun _ => ⟨selected, rfl⟩⟩, ?_⟩
      rintro _ ⟨⟩
      refine ⟨sameRules, fun name => ?_⟩
      rw [enabled, of_rules_enabled_iff]

/-- Two of these calls fail, the one at its second name. -/
def mixedUpdates : List Update := [
  .disable "jsonapi-member-names",
  .enableOnly ["jsonapi-errors-array", "jsonapi-links"],
  .enable "jsonapi-error-object-not-empty",
  .enable "jsonapi-links"]

/-- The failed calls leave in force what was decided before and after them. -/
theorem failed_calls_passed_over :
    Ruleset.ofValue bundledRuleset.toValue = .ok bundledRuleset ∧
    (bundledRuleset.after mixedUpdates).isEnabled "jsonapi-member-names" = false ∧
    (bundledRuleset.after mixedUpdates).isEnabled "jsonapi-error-object-not-empty" = true ∧
    ((bundledRuleset.after mixedUpdates).failure? (.disable "jsonapi-links")).isSome = true := by
  obtain ⟨runs, -⟩ := rules_follow_latest_decision bundledRuleset.toValue bundledRuleset
    bundled_loaded
  obtain ⟨-, -, fails, -, -, enabled, -⟩ := runs mixedUpdates _ rfl
  obtain ⟨notTurnedOn, decided, turnedOn, unknown⟩ :
      ¬LatestTurnsOn "jsonapi-member-names" (bundledRuleset.history mixedUpdates) ∧
      ¬Undecided "jsonapi-member-names" (bundledRuleset.history mixedUpdates) ∧
      LatestTurnsOn "jsonapi-error-object-not-empty" (bundledRuleset.history mixedUpdates) ∧
      "jsonapi-links" ∉ bundledRuleset.names := by decide +kernel
  refine ⟨bundled_loaded, ?_, (enabled _).2 (.inl turnedOn), (fails _).2 ⟨_, .head _, unknown⟩⟩
  refine Bool.eq_false_iff.2 fun on => ?_
  rcases (enabled _).1 on with latest | ⟨undecided, _⟩
  · exact notTurnedOn latest
  · exact decided undecided

end Sources

end RefLint.Rules
