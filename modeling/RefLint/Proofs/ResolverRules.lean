import Mathlib.Data.List.Forall2
import RefLint.Resolution

/-!
# Rules for runs of the resolver

The resolver is three functions that call one another and thread a state. A
property of all its runs is shown here one step at a time: `good` speaks of a run
that answers a value, `bad` of one that an error stops. Items of sequences and
members of mappings are walked through in the same way, so one rule for lists
serves both.
-/

namespace RefLint

set_option autoImplicit false

/-- Neither a sequence nor a mapping. -/
def Value.IsScalar : Value → Prop
  | .array _ => False
  | .object _ => False
  | _ => True

/-- The members of a reference node that stays inside its document. -/
structure LocalReference (members : Members) (pointer : String) : Prop where
  reference : referencePointer? members = some pointer
  isLocal : Pointer.isLocal pointer = true

abbrev referenceTo (pointer : String) : Members := [(referenceKey, .string pointer)]

theorem node_of_reference_to (pointer : String) (isLocal : Pointer.isLocal pointer = true) :
    LocalReference (referenceTo pointer) pointer := ⟨rfl, isLocal⟩

namespace Progress

variable {options : RefOptions} {progress : Progress} {pointer other : String}
  {result resolved : Value}

@[simp] theorem cached_start : start.cached? pointer = none := rfl

@[simp] theorem cached_enter : (progress.enter pointer).cached? other = progress.cached? other := rfl

@[simp] theorem cached_keep : (progress.keep pointer).cached? other = progress.cached? other := rfl

@[simp] theorem cached_finish : (progress.finish options pointer resolved).cached? other =
    if pointer = other then some resolved else progress.cached? other := rfl

theorem cached_of_finish
    (found : (progress.finish options pointer result).cached? other = some resolved) :
    pointer = other ∧ result = resolved ∨ progress.cached? other = some resolved := by
  rw [cached_finish] at found
  split at found
  · rename_i same
    exact .inl ⟨same, Option.some.inj found⟩
  · exact .inr found

end Progress

/-- A property of the state before, the value, its resolution and the state after. -/
abbrev GoodRun := Progress → Value → Value → Progress → Prop

abbrev BadRun := Progress → Value → ReferenceError → Prop

/-- Values resolved one after another, each in the state that the last one left. -/
inductive Threaded (good : GoodRun) : Progress → List Value → List Value → Progress → Prop where
  | nil (progress : Progress) : Threaded good progress [] [] progress
  | cons {before middle after : Progress} {value result : Value} {rest results : List Value}
      (first : good before value result middle)
      (sameOpen : middle.inProgress = before.inProgress)
      (others : Threaded good middle rest results after) :
      Threaded good before (value :: rest) (result :: results) after

inductive Stopped (good : GoodRun) (bad : BadRun) :
    Progress → List Value → ReferenceError → Prop where
  | here {before : Progress} {value : Value} {rest : List Value} {error : ReferenceError}
      (failed : bad before value error) : Stopped good bad before (value :: rest) error
  | later {before middle : Progress} {value result : Value} {rest : List Value}
      {error : ReferenceError}
      (first : good before value result middle)
      (sameOpen : middle.inProgress = before.inProgress)
      (others : Stopped good bad middle rest error) :
      Stopped good bad before (value :: rest) error

/-- Along a walk a fact about the state is handed on, and each value is related to
its result. -/
theorem Threaded.carry {good : GoodRun} {admitted : Value → Prop} {kept : Progress → Prop}
    {related : Value → Value → Prop}
    (step : ∀ {before value result after}, good before value result after →
      admitted value → kept before → related value result ∧ kept after)
    {before after : Progress} {values results : List Value}
    (walked : Threaded good before values results after)
    (all : ∀ value ∈ values, admitted value) (start : kept before) :
    List.Forall₂ related values results ∧ kept after := by
  induction walked with
  | nil => exact ⟨.nil, start⟩
  | cons first _ _ ih =>
      obtain ⟨head, middle⟩ := step first (all _ List.mem_cons_self) start
      obtain ⟨tail, last⟩ := ih (fun value member => all value (List.mem_cons_of_mem _ member)) middle
      exact ⟨.cons head tail, last⟩

theorem Threaded.length_eq {good : GoodRun} {before after : Progress} {values results : List Value}
    (walked : Threaded good before values results after) : results.length = values.length := by
  induction walked with
  | nil => rfl
  | cons _ _ _ ih => rw [List.length_cons, List.length_cons, ih]

theorem Stopped.imp {good : GoodRun} {bad other : BadRun} {before : Progress} {values : List Value}
    {error : ReferenceError}
    (weaker : ∀ {before value}, bad before value error → other before value error)
    (stopped : Stopped good bad before values error) : Stopped good other before values error := by
  induction stopped with
  | here failed => exact .here (weaker failed)
  | later first sameOpen _ ih => exact .later first sameOpen (ih weaker)

theorem Stopped.exists_failed {good : GoodRun} {bad : BadRun} {before : Progress}
    {values : List Value} {error : ReferenceError}
    (stopped : Stopped good bad before values error) :
    ∃ before value, bad before value error := by
  induction stopped with
  | here failed => exact ⟨_, _, failed⟩
  | later _ _ _ ih => exact ih

/-- A pointer that has to be followed now: neither finished nor being resolved. -/
structure Fresh (progress : Progress) (pointer : String) : Prop where
  uncached : progress.cached? pointer = none
  closed : pointer ∉ progress.inProgress

section Steps

variable {root : Value} {options : RefOptions} {progress : Progress} {members : Members}
  {pointer : String}

theorem resolve_plain_mapping (plain : referencePointer? members = none) :
    resolveValue root options progress (.object members) =
      match resolveMembers root options progress members with
      | .error error => .error error
      | .ok done => .ok ⟨.object done.result, done.after, done.sameOpen⟩ := by
  rw [resolveValue]
  split
  · rfl
  · rename_i reference
    rw [plain] at reference
    contradiction

theorem resolve_external_reference (reference : referencePointer? members = some pointer)
    (isExternal : Pointer.isLocal pointer = false) :
    resolveValue root options progress (.object members) =
      .ok ⟨.object members, progress, rfl⟩ := by
  rw [resolveValue]
  split
  · rename_i plain
    rw [plain] at reference
    contradiction
  · rename_i other again
    obtain rfl : other = pointer := Option.some.inj (again.symm.trans reference)
    rw [dif_neg (by simp [isExternal])]

/-- The equation of a local reference node without the proofs that its branches carry. -/
theorem resolve_local_reference (node : LocalReference members pointer) :
    resolveValue root options progress (.object members) =
      match progress.cached? pointer with
      | some resolved => .ok ⟨resolved, progress, rfl⟩
      | none =>
          if pointer ∈ progress.inProgress then
            match options.onCycle with
            | .refuse => .error (.circular pointer)
            | .preserve => .ok ⟨.object members, progress.keep pointer, rfl⟩
          else
            match Pointer.navigate root pointer with
            | .error error => .error error
            | .ok target =>
                match resolveValue root options (progress.enter pointer) target with
                | .error error => .error error
                | .ok done =>
                    .ok ⟨done.result, done.after.finish options pointer done.result, by
                      simp [Progress.finish, done.sameOpen, Progress.enter]⟩ := by
  rw [resolveValue]
  split
  · rename_i plain
    rw [node.reference] at plain
    contradiction
  · rename_i other again
    obtain rfl : pointer = other := Option.some.inj (node.reference.symm.trans again)
    rw [dif_pos node.isLocal]
    -- The branches carry proofs about their tests, so a test is decided before it is rewritten.
    cases progress.cached? pointer with
    | some resolved => rfl
    | none =>
        by_cases opened : pointer ∈ progress.inProgress
        · exact (dif_pos opened).trans (if_pos opened).symm
        · refine (dif_neg opened).trans (Eq.trans ?_ (if_neg opened).symm)
          split
          · rename_i failed
            exact failed ▸ rfl
          · rename_i reached
            exact reached ▸ rfl

theorem resolved_target_of_fresh {target : Value} {done : Outcome progress Value}
    (node : LocalReference members pointer) (fresh : Fresh progress pointer)
    (reached : Pointer.navigate root pointer = .ok target)
    (finished : resolveValue root options progress (.object members) = .ok done) :
    ∃ inner, resolveValue root options (progress.enter pointer) target = .ok inner ∧
      done.after = inner.after.finish options pointer inner.result := by
  rw [resolve_local_reference node, fresh.uncached] at finished
  simp only [if_neg fresh.closed, reached] at finished
  split at finished
  · contradiction
  · rename_i inner targetFinished
    obtain rfl := Except.ok.inj finished
    exact ⟨inner, targetFinished, rfl⟩

end Steps

/-- What each step of the resolver owes to a property of runs. The fields about
errors may be left out where `bad` says nothing. -/
structure StepRule (root : Value) (options : RefOptions) (good : GoodRun) (bad : BadRun) :
    Prop where
  scalar : ∀ {progress value}, value.IsScalar → good progress value value progress
  external : ∀ {progress members pointer}, referencePointer? members = some pointer →
    Pointer.isLocal pointer = false → good progress (.object members) (.object members) progress
  cached : ∀ {progress members pointer resolved}, LocalReference members pointer →
    progress.cached? pointer = some resolved → good progress (.object members) resolved progress
  kept : ∀ {progress members pointer}, options.onCycle = .preserve →
    LocalReference members pointer → progress.cached? pointer = none →
    pointer ∈ progress.inProgress →
    good progress (.object members) (.object members) (progress.keep pointer)
  followed : ∀ {progress after members pointer target result}, LocalReference members pointer →
    Fresh progress pointer → Pointer.navigate root pointer = .ok target →
    good (progress.enter pointer) target result after →
    after.inProgress = pointer :: progress.inProgress →
    good progress (.object members) result (after.finish options pointer result)
  sequence : ∀ {progress after items results}, Threaded good progress items results after →
    good progress (.array items) (.array results) after
  mapping : ∀ {progress after members resolved}, referencePointer? members = none →
    Members.keys resolved = Members.keys members →
    Threaded good progress (members.map (·.2)) (resolved.map (·.2)) after →
    good progress (.object members) (.object resolved) after
  refused : ∀ {progress members pointer}, options.onCycle = .refuse →
    LocalReference members pointer → progress.cached? pointer = none →
    pointer ∈ progress.inProgress → bad progress (.object members) (.circular pointer) := by
      intros; trivial
  broken : ∀ {progress members pointer error}, LocalReference members pointer →
    Fresh progress pointer → Pointer.navigate root pointer = .error error →
    bad progress (.object members) error := by intros; trivial
  abandoned : ∀ {progress members pointer target error}, LocalReference members pointer →
    Fresh progress pointer → Pointer.navigate root pointer = .ok target →
    bad (progress.enter pointer) target error → bad progress (.object members) error := by
      intros; trivial
  sequenceStopped : ∀ {progress items error}, Stopped good bad progress items error →
    bad progress (.array items) error := by intros; trivial
  mappingStopped : ∀ {progress members error}, referencePointer? members = none →
    Stopped good bad progress (members.map (·.2)) error →
    bad progress (.object members) error := by intros; trivial

def Unconstrained : BadRun := fun _ _ _ => True

namespace StepRule

variable {root : Value} {options : RefOptions} {good : GoodRun} {bad : BadRun}

/-- What is shown of a call, whichever way it ends. -/
private def Holds (good : GoodRun) (bad : BadRun) (progress : Progress) (value : Value) :
    Except ReferenceError (Outcome progress Value) → Prop
  | .ok done => good progress value done.result done.after
  | .error error => bad progress value error

private def HoldsItems (good : GoodRun) (bad : BadRun) (progress : Progress) (items : List Value) :
    Except ReferenceError (Outcome progress (List Value)) → Prop
  | .ok done => Threaded good progress items done.result done.after
  | .error error => Stopped good bad progress items error

private def HoldsMembers (good : GoodRun) (bad : BadRun) (progress : Progress)
    (members : Members) : Except ReferenceError (Outcome progress (List (String × Value))) → Prop
  | .ok done => Members.keys done.result = Members.keys members ∧
      Threaded good progress (members.map (·.2)) (done.result.map (·.2)) done.after
  | .error error => Stopped good bad progress (members.map (·.2)) error

section Branches

variable {progress : Progress} {members : Members} {pointer : String}

private theorem holds_scalar (rule : StepRule root options good bad) {value : Value}
    (notSequence : ∀ items, value ≠ .array items) (notMapping : ∀ members, value ≠ .object members) :
    Holds good bad progress value (resolveValue root options progress value) := by
  rw [resolveValue.eq_3 root options progress value notSequence notMapping]
  apply rule.scalar
  cases value with
  | array items => exact notSequence items rfl
  | object members => exact notMapping members rfl
  | null => trivial
  | bool => trivial
  | number => trivial
  | string => trivial

private theorem holds_sequence (rule : StepRule root options good bad) {items : List Value}
    (walked : HoldsItems good bad progress items (resolveItems root options progress items)) :
    Holds good bad progress (.array items)
      (resolveValue root options progress (.array items)) := by
  rw [resolveValue]
  cases finished : resolveItems root options progress items with
  | error error =>
      rw [finished] at walked
      exact rule.sequenceStopped walked
  | ok done =>
      rw [finished] at walked
      exact rule.sequence walked

private theorem holds_plain_mapping (rule : StepRule root options good bad)
    (plain : referencePointer? members = none)
    (walked : HoldsMembers good bad progress members
      (resolveMembers root options progress members)) :
    Holds good bad progress (.object members)
      (resolveValue root options progress (.object members)) := by
  rw [resolve_plain_mapping plain]
  cases finished : resolveMembers root options progress members with
  | error error =>
      rw [finished] at walked
      exact rule.mappingStopped plain walked
  | ok done =>
      rw [finished] at walked
      exact rule.mapping plain walked.1 walked.2

private theorem holds_external (rule : StepRule root options good bad)
    (reference : referencePointer? members = some pointer)
    (isExternal : Pointer.isLocal pointer = false) :
    Holds good bad progress (.object members)
      (resolveValue root options progress (.object members)) := by
  rw [resolve_external_reference reference isExternal]
  exact rule.external reference isExternal

private theorem holds_cached (rule : StepRule root options good bad)
    (node : LocalReference members pointer) {resolved : Value}
    (found : progress.cached? pointer = some resolved) :
    Holds good bad progress (.object members)
      (resolveValue root options progress (.object members)) := by
  rw [resolve_local_reference node, found]
  exact rule.cached node found

private theorem holds_open (rule : StepRule root options good bad)
    (node : LocalReference members pointer) (uncached : progress.cached? pointer = none)
    (opened : pointer ∈ progress.inProgress) :
    Holds good bad progress (.object members)
      (resolveValue root options progress (.object members)) := by
  rw [resolve_local_reference node, uncached]
  simp only [if_pos opened]
  cases policy : options.onCycle with
  | refuse => exact rule.refused policy node uncached opened
  | preserve => exact rule.kept policy node uncached opened

private theorem holds_broken (rule : StepRule root options good bad)
    (node : LocalReference members pointer) (fresh : Fresh progress pointer)
    {error : ReferenceError} (failed : Pointer.navigate root pointer = .error error) :
    Holds good bad progress (.object members)
      (resolveValue root options progress (.object members)) := by
  rw [resolve_local_reference node, fresh.uncached]
  simp only [if_neg fresh.closed, failed]
  exact rule.broken node fresh failed

private theorem holds_followed (rule : StepRule root options good bad)
    (node : LocalReference members pointer) (fresh : Fresh progress pointer) {target : Value}
    (reached : Pointer.navigate root pointer = .ok target)
    (inner : Holds good bad (progress.enter pointer) target
      (resolveValue root options (progress.enter pointer) target)) :
    Holds good bad progress (.object members)
      (resolveValue root options progress (.object members)) := by
  rw [resolve_local_reference node, fresh.uncached]
  simp only [if_neg fresh.closed, reached]
  cases finished : resolveValue root options (progress.enter pointer) target with
  | error error =>
      rw [finished] at inner
      exact rule.abandoned node fresh reached inner
  | ok done =>
      rw [finished] at inner
      exact rule.followed node fresh reached inner done.sameOpen

private theorem holds_members_stopped {key : String} {value : Value}
    {rest : List (String × Value)} {error : ReferenceError}
    (stopped : resolveValue root options progress value = .error error)
    (first : Holds good bad progress value (resolveValue root options progress value)) :
    HoldsMembers good bad progress ((key, value) :: rest)
      (resolveMembers root options progress ((key, value) :: rest)) := by
  rw [stopped] at first
  rw [resolveMembers, stopped]
  exact .here first

private theorem holds_members_onward {key : String} {value : Value}
    {rest : List (String × Value)} {done : Outcome progress Value}
    (finished : resolveValue root options progress value = .ok done)
    (first : Holds good bad progress value (resolveValue root options progress value))
    (others : HoldsMembers good bad done.after rest
      (resolveMembers root options done.after rest)) :
    HoldsMembers good bad progress ((key, value) :: rest)
      (resolveMembers root options progress ((key, value) :: rest)) := by
  rw [finished] at first
  rw [resolveMembers, finished]
  simp only
  cases restFinished : resolveMembers root options done.after rest with
  | error error =>
      rw [restFinished] at others
      exact .later first done.sameOpen others
  | ok resolved =>
      rw [restFinished] at others
      exact ⟨congrArg (key :: ·) others.1, .cons first done.sameOpen others.2⟩

private theorem holds_items_stopped {item : Value} {rest : List Value} {error : ReferenceError}
    (stopped : resolveValue root options progress item = .error error)
    (first : Holds good bad progress item (resolveValue root options progress item)) :
    HoldsItems good bad progress (item :: rest)
      (resolveItems root options progress (item :: rest)) := by
  rw [stopped] at first
  rw [resolveItems, stopped]
  exact .here first

private theorem holds_items_onward {item : Value} {rest : List Value}
    {done : Outcome progress Value}
    (finished : resolveValue root options progress item = .ok done)
    (first : Holds good bad progress item (resolveValue root options progress item))
    (others : HoldsItems good bad done.after rest (resolveItems root options done.after rest)) :
    HoldsItems good bad progress (item :: rest)
      (resolveItems root options progress (item :: rest)) := by
  rw [finished] at first
  rw [resolveItems, finished]
  simp only
  cases restFinished : resolveItems root options done.after rest with
  | error error =>
      rw [restFinished] at others
      exact .later first done.sameOpen others
  | ok resolved =>
      rw [restFinished] at others
      exact .cons first done.sameOpen others

end Branches

private theorem holds_everywhere (rule : StepRule root options good bad) :
    (∀ progress value, Holds good bad progress value (resolveValue root options progress value)) ∧
    (∀ progress members,
      HoldsMembers good bad progress members (resolveMembers root options progress members)) ∧
    ∀ progress items,
      HoldsItems good bad progress items (resolveItems root options progress items) := by
  -- One case for each way through the three functions. Whether the last call of a branch fails
  -- or answers is left to the lemma of the branch, so two cases share it.
  refine resolveValue.mutual_induct root options
    (fun progress value =>
      Holds good bad progress value (resolveValue root options progress value))
    (fun progress members =>
      HoldsMembers good bad progress members (resolveMembers root options progress members))
    (fun progress items =>
      HoldsItems good bad progress items (resolveItems root options progress items))
    ?sequenceStopped ?sequenceResolved ?mappingStopped ?mappingResolved
    ?cached ?refused ?kept ?broken ?targetStopped ?targetResolved ?external ?scalar
    ?noMember ?memberStopped ?laterMemberStopped ?membersResolved
    ?noItem ?itemStopped ?laterItemStopped ?itemsResolved
  case sequenceStopped | sequenceResolved =>
    intro progress items _ _ walked
    exact rule.holds_sequence walked
  case mappingStopped | mappingResolved =>
    intro progress members plain _ _ walked
    exact rule.holds_plain_mapping plain walked
  case cached =>
    intro progress members pointer reference isLocal resolved found
    exact rule.holds_cached ⟨reference, isLocal⟩ found
  case refused | kept =>
    intro progress members pointer reference isLocal uncached opened _
    exact rule.holds_open ⟨reference, isLocal⟩ uncached opened
  case broken =>
    intro progress members pointer reference isLocal uncached closed error failed
    exact rule.holds_broken ⟨reference, isLocal⟩ ⟨uncached, closed⟩ failed
  case targetStopped | targetResolved =>
    intro progress members pointer reference isLocal uncached closed target reached _ _ inner
    exact rule.holds_followed ⟨reference, isLocal⟩ ⟨uncached, closed⟩ reached inner
  case external =>
    intro progress members pointer reference isExternal
    exact rule.holds_external reference (by simpa using isExternal)
  case scalar =>
    intro progress value notSequence notMapping
    exact rule.holds_scalar notSequence notMapping
  case noMember =>
    intro progress
    rw [resolveMembers]
    exact ⟨rfl, .nil progress⟩
  case memberStopped =>
    intro progress key value rest error stopped first
    exact holds_members_stopped stopped first
  case laterMemberStopped | membersResolved =>
    intro progress key value rest done finished _ _ _ first others
    exact holds_members_onward finished first others
  case noItem =>
    intro progress
    rw [resolveItems]
    exact .nil progress
  case itemStopped =>
    intro progress item rest error stopped first
    exact holds_items_stopped stopped first
  case laterItemStopped | itemsResolved =>
    intro progress item rest done finished _ _ _ first others
    exact holds_items_onward finished first others

/-- A rule kept by every step holds of every run that answers a value. -/
theorem of_finished (rule : StepRule root options good bad) {progress : Progress} {value : Value}
    {done : Outcome progress Value}
    (finished : resolveValue root options progress value = .ok done) :
    good progress value done.result done.after := by
  have holds := rule.holds_everywhere.1 progress value
  rw [finished] at holds
  exact holds

theorem of_stopped (rule : StepRule root options good bad) {progress : Progress} {value : Value}
    {error : ReferenceError} (stopped : resolveValue root options progress value = .error error) :
    bad progress value error := by
  have holds := rule.holds_everywhere.1 progress value
  rw [stopped] at holds
  exact holds

end StepRule

theorem resolve_refs_eq_ok {value root : Value} {options : RefOptions} {resolution : Resolution}
    (resolved : resolveRefs value root options = .ok resolution) :
    ∃ done : Outcome .start Value, resolveValue root options .start value = .ok done ∧
      resolution = ⟨done.result, done.after.consumed, done.after.preserved⟩ := by
  unfold resolveRefs at resolved
  split at resolved
  · contradiction
  · rename_i done finished
    exact ⟨done, finished, (Except.ok.inj resolved).symm⟩

theorem resolve_refs_eq_error {value root : Value} {options : RefOptions} {error : ReferenceError}
    (failed : resolveRefs value root options = .error error) :
    resolveValue root options .start value = .error error := by
  unfold resolveRefs at failed
  split at failed
  · rename_i stopped
    rw [stopped, Except.error.inj failed]
  · contradiction

end RefLint
