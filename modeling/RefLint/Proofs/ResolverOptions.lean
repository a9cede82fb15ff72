import RefLint.Proofs.ResolverRules
import RefLint.Pruning

/-!
# Which options a resolution depends on

Whether definitions are pruned is decided after the resolution. The resolution
itself depends on the cycle policy and on which pointers name definitions.
-/

namespace RefLint

set_option autoImplicit false

/-- Options under which a run that answers a value answers it with the others, too. -/
structure Follows (options others : RefOptions) : Prop where
  preserves : options.onCycle = .preserve → others.onCycle = .preserve
  isDefinition : ∀ pointer, others.isDefinition pointer = options.isDefinition pointer

structure SameResolution (options others : RefOptions) : Prop where
  onCycle : others.onCycle = options.onCycle
  isDefinition : ∀ pointer, others.isDefinition pointer = options.isDefinition pointer

theorem SameResolution.refl (options : RefOptions) : SameResolution options options :=
  ⟨rfl, fun _ => rfl⟩

theorem SameResolution.follows {options others : RefOptions}
    (same : SameResolution options others) : Follows options others :=
  ⟨fun preserves => same.onCycle.trans preserves, same.isDefinition⟩

section Runs

variable {root : Value} {options others : RefOptions}

def RunsTo (root : Value) (options : RefOptions) : GoodRun := fun before value result after =>
  ∃ sameOpen, resolveValue root options before value = .ok ⟨result, after, sameOpen⟩

def FailsWith (root : Value) (options : RefOptions) : BadRun := fun before value error =>
  resolveValue root options before value = .error error

theorem resolve_items_of_walk {before after : Progress} {items results : List Value}
    (walked : Threaded (RunsTo root options) before items results after) :
    ∃ sameOpen, resolveItems root options before items = .ok ⟨results, after, sameOpen⟩ := by
  induction walked with
  | nil progress => exact ⟨rfl, by rw [resolveItems]⟩
  | cons first _ _ ih =>
      obtain ⟨sameOpen, first⟩ := first
      obtain ⟨restOpen, others⟩ := ih
      exact ⟨restOpen.trans sameOpen, by simp only [resolveItems, first, others]⟩

theorem resolve_items_stopped {before : Progress} {items : List Value} {error : ReferenceError}
    (stopped : Stopped (RunsTo root options) (FailsWith root options) before items error) :
    resolveItems root options before items = .error error := by
  induction stopped with
  | here failed => rw [resolveItems, failed]
  | later first _ _ ih =>
      obtain ⟨_, first⟩ := first
      simp only [resolveItems, first, ih]

theorem resolve_members_of_walk {before after : Progress} {members resolved : Members}
    (sameKeys : Members.keys resolved = Members.keys members)
    (walked : Threaded (RunsTo root options) before (members.map (·.2)) (resolved.map (·.2))
      after) :
    ∃ sameOpen, resolveMembers root options before members = .ok ⟨resolved, after, sameOpen⟩ := by
  induction members generalizing before resolved with
  | nil =>
      obtain rfl : resolved = [] := by simpa [Members.keys] using sameKeys
      cases walked
      exact ⟨rfl, by rw [resolveMembers]⟩
  | cons member rest ih =>
      cases resolved with
      | nil => simp [Members.keys] at sameKeys
      | cons other others =>
          obtain ⟨key, value⟩ := member
          obtain ⟨otherKey, result⟩ := other
          obtain ⟨rfl, restKeys⟩ := List.cons.inj sameKeys
          cases walked with
          | cons first _ walked =>
              obtain ⟨sameOpen, first⟩ := first
              obtain ⟨restOpen, others⟩ := ih restKeys walked
              exact ⟨restOpen.trans sameOpen, by simp only [resolveMembers, first, others]⟩

theorem resolve_members_stopped {before : Progress} {members : Members} {error : ReferenceError}
    (stopped : Stopped (RunsTo root options) (FailsWith root options) before
      (members.map (·.2)) error) : resolveMembers root options before members = .error error := by
  induction members generalizing before with
  | nil => cases stopped
  | cons member rest ih =>
      obtain ⟨key, value⟩ := member
      cases stopped with
      | here failed => rw [resolveMembers, failed]
      | later first _ others =>
          obtain ⟨_, first⟩ := first
          simp only [resolveMembers, first, ih others]

theorem resolver_follows (follows : Follows options others) :
    StepRule root options (RunsTo root others) Unconstrained where
  scalar := by
    intro progress value scalar
    cases value with
    | array | object => exact scalar.elim
    | null | bool | number | string => exact ⟨rfl, by rw [resolveValue] <;> simp⟩
  external := fun reference isExternal => ⟨rfl, resolve_external_reference reference isExternal⟩
  cached := fun node found => ⟨rfl, by rw [resolve_local_reference node, found]⟩
  kept := by
    intro progress members pointer preserves node uncached opened
    refine ⟨rfl, ?_⟩
    rw [resolve_local_reference node, uncached]
    simp only [if_pos opened, follows.preserves preserves]
  followed := by
    intro progress after members pointer target result node fresh reached inner _
    obtain ⟨sameOpen, inner⟩ := inner
    have finish : after.finish others pointer result = after.finish options pointer result := by
      simp only [Progress.finish, follows.isDefinition]
    refine ⟨by simp [Progress.finish, sameOpen, Progress.enter], ?_⟩
    rw [resolve_local_reference node, fresh.uncached]
    simp only [if_neg fresh.closed, reached, inner, finish]
  sequence := by
    intro progress after items results walked
    obtain ⟨sameOpen, run⟩ := resolve_items_of_walk walked
    exact ⟨sameOpen, by rw [resolveValue, run]⟩
  mapping := by
    intro progress after members resolved plain sameKeys walked
    obtain ⟨sameOpen, run⟩ := resolve_members_of_walk sameKeys walked
    exact ⟨sameOpen, by rw [resolve_plain_mapping plain, run]⟩

theorem resolver_ignores_other_options (same : SameResolution options others) :
    StepRule root options (RunsTo root others) (FailsWith root others) :=
  { resolver_follows same.follows with
    refused := by
      intro progress members pointer refuses node uncached opened
      rw [FailsWith, resolve_local_reference node, uncached]
      simp only [if_pos opened, same.onCycle, refuses]
    broken := by
      intro progress members pointer error node fresh failed
      rw [FailsWith, resolve_local_reference node, fresh.uncached]
      simp only [if_neg fresh.closed, failed]
    abandoned := by
      intro progress members pointer target error node fresh reached inner
      rw [FailsWith] at inner
      rw [FailsWith, resolve_local_reference node, fresh.uncached]
      simp only [if_neg fresh.closed, reached, inner]
    sequenceStopped := by
      intro progress items error stopped
      rw [FailsWith, resolveValue, resolve_items_stopped stopped]
    mappingStopped := by
      intro progress members error plain stopped
      rw [FailsWith, resolve_plain_mapping plain, resolve_members_stopped stopped] }

theorem resolver_runs (root : Value) (options : RefOptions) :
    StepRule root options (RunsTo root options) (FailsWith root options) :=
  resolver_ignores_other_options (.refl options)

theorem resolve_refs_of_run {value result : Value} {after : Progress}
    (run : RunsTo root options .start value result after) :
    resolveRefs value root options = .ok ⟨result, after.consumed, after.preserved⟩ := by
  obtain ⟨_, finished⟩ := run
  rw [resolveRefs, finished]

theorem resolve_refs_of_failure {value : Value} {error : ReferenceError}
    (failed : FailsWith root options .start value error) :
    resolveRefs value root options = .error error := by
  rw [FailsWith] at failed
  rw [resolveRefs, failed]

theorem resolve_refs_congr (same : SameResolution options others) (value root : Value) :
    resolveRefs value root others = resolveRefs value root options := by
  have rule : StepRule root options (RunsTo root others) (FailsWith root others) :=
    resolver_ignores_other_options same
  cases resolved : resolveRefs value root options with
  | error error =>
      exact resolve_refs_of_failure (rule.of_stopped (resolve_refs_eq_error resolved))
  | ok resolution =>
      obtain ⟨done, finished, rfl⟩ := resolve_refs_eq_ok resolved
      exact resolve_refs_of_run (rule.of_finished finished)

end Runs

theorem resolve_refs_prune (value root : Value) (options : RefOptions) (prune : Bool) :
    resolveRefs value root { options with prune := prune } = resolveRefs value root options := by
  have same : SameResolution options { options with prune := prune } := ⟨rfl, fun _ => rfl⟩
  exact resolve_refs_congr same value root

theorem resolve_eq_ok {value root result pruned : Value} {options : RefOptions} :
    resolve value root options = .ok (result, pruned) ↔
      ∃ resolution, resolveRefs value root options = .ok resolution ∧ result = resolution.value ∧
        pruned = if options.prune then (resolution.prune root).1 else root := by
  unfold resolve
  cases resolveRefs value root options with
  | error => simp
  | ok resolution =>
      simp only [Except.ok.injEq, Prod.mk.injEq, exists_eq_left']
      exact and_congr eq_comm eq_comm

theorem dereference_eq_ok {document result : Value} {options : RefOptions} :
    dereference document options = .ok result ↔
      ∃ resolution, resolveRefs document document options = .ok resolution ∧
        result = if options.prune then (resolution.prune resolution.value).1
          else resolution.value := by
  unfold dereference
  cases resolveRefs document document options with
  | error => simp
  | ok resolution =>
      simp only [Except.ok.injEq, exists_eq_left']
      exact eq_comm

end RefLint
