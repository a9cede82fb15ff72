import RefLint.Proofs.ReachablePointers
import RefLint.Proofs.ResolverOptions

/-!
# The two cycle policies

A resolution that refuses cycles and one that preserves them go the same way up to the
first cycle. There the first one stops, and the second one leaves the pointer in place
and goes on; it may still come upon a dangling pointer, but upon no other error. So the
two differ on no document without cycles, and on no document whose first fault is a
dangling pointer.
-/

namespace RefLint

set_option autoImplicit false

def ReferenceError.Dangles : ReferenceError → Prop
  | unresolvable _ => True
  | invalidPath _ _ _ => True
  | circular _ => False

theorem dangles_of_navigate {root : Value} {pointer : String} {error : ReferenceError}
    (failed : Pointer.navigate root pointer = .error error) : error.Dangles := by
  unfold Pointer.navigate at failed
  split at failed
  · contradiction
  · obtain rfl := Except.error.inj failed
    trivial
  · obtain rfl := Except.error.inj failed
    trivial

section Runs

variable {root value result : Value} {options others : RefOptions} {before after : Progress}
  {pointer : String} {error : ReferenceError}

theorem resolver_fails_dangling (preserves : options.onCycle = .preserve) :
    StepRule root options (fun _ _ _ _ => True) (fun _ _ error => error.Dangles) where
  scalar := fun _ => trivial
  external := fun _ _ => trivial
  cached := fun _ _ => trivial
  kept := fun _ _ _ _ => trivial
  followed := fun _ _ _ _ _ => trivial
  sequence := fun _ => trivial
  mapping := fun _ _ _ => trivial
  refused := by
    intro progress members pointer refuses
    rw [preserves] at refuses
    contradiction
  broken := fun _ _ failed => dangles_of_navigate failed
  abandoned := fun _ _ _ inner => inner
  sequenceStopped := by
    intro progress items error stopped
    obtain ⟨_, _, dangles⟩ := stopped.exists_failed
    exact dangles
  mappingStopped := by
    intro progress members error _ stopped
    obtain ⟨_, _, dangles⟩ := stopped.exists_failed
    exact dangles

theorem RunsTo.same_open (run : RunsTo root options before value result after) :
    after.inProgress = before.inProgress := by
  obtain ⟨sameOpen, _⟩ := run
  exact sameOpen

theorem RunsTo.keeps (run : RunsTo root options before value result after)
    (kept : pointer ∈ before.preserved) : pointer ∈ after.preserved := by
  obtain ⟨_, finished⟩ := run
  exact ((resolver_explores root options).of_finished finished).kept pointer kept

theorem members_with_values {members : Members} {values : List Value}
    (sameLength : values.length = (members.map (·.2)).length) :
    ∃ changed, Members.keys changed = Members.keys members ∧ changed.map (·.2) = values := by
  refine ⟨(Members.keys members).zip values, ?_, ?_⟩
  · exact List.map_fst_zip (by simp [Members.keys, sameLength])
  · exact List.map_snd_zip (by simp [Members.keys, sameLength])

theorem walk_or_stop (root : Value) (options : RefOptions) (before : Progress)
    (values : List Value) :
    (∃ results after, Threaded (RunsTo root options) before values results after) ∨
      ∃ error, Stopped (RunsTo root options) (FailsWith root options) before values error := by
  induction values generalizing before with
  | nil => exact .inl ⟨[], before, .nil before⟩
  | cons value rest ih =>
      cases run : resolveValue root options before value with
      | error error => exact .inr ⟨error, .here run⟩
      | ok done =>
          have first : RunsTo root options before value done.result done.after :=
            ⟨done.sameOpen, run⟩
          rcases ih done.after with ⟨results, after, walked⟩ | ⟨error, stopped⟩
          · exact .inl ⟨_, _, .cons first done.sameOpen walked⟩
          · exact .inr ⟨error, .later first done.sameOpen stopped⟩

theorem walk_keeps {values results : List Value}
    (walked : Threaded (RunsTo root options) before values results after)
    (kept : pointer ∈ before.preserved) : pointer ∈ after.preserved := by
  induction walked with
  | nil => exact kept
  | cons first _ _ ih => exact ih (first.keeps kept)

/-- The pointer is left in place, unless a dangling one stops the run. -/
def Spares (root : Value) (options : RefOptions) (pointer : String) (before : Progress)
    (value : Value) : Prop :=
  (∃ result after, RunsTo root options before value result after ∧ pointer ∈ after.preserved) ∨
    ∃ error, FailsWith root options before value error ∧ error.Dangles

theorem Spares.followed {members : Members} {opened : String} {target : Value}
    (node : LocalReference members opened) (fresh : Fresh before opened)
    (reached : Pointer.navigate root opened = .ok target)
    (spares : Spares root options pointer (before.enter opened) target) :
    Spares root options pointer before (.object members) := by
  have runs := resolver_runs root options
  rcases spares with ⟨result, after, run, kept⟩ | ⟨error, failed, dangles⟩
  · exact .inl ⟨result, _, runs.followed node fresh reached run run.same_open, kept⟩
  · exact .inr ⟨error, runs.abandoned node fresh reached failed, dangles⟩

/-- After the value that spares the pointer the others are resolved as well. -/
theorem spares_walk {values : List Value} (preserves : options.onCycle = .preserve)
    (stopped : Stopped (RunsTo root options)
      (fun before value _ => Spares root options pointer before value) before values error) :
    (∃ results after, Threaded (RunsTo root options) before values results after ∧
        pointer ∈ after.preserved) ∨
      ∃ error, Stopped (RunsTo root options) (FailsWith root options) before values error ∧
        error.Dangles := by
  induction stopped with
  | @here before value rest _ spares =>
      rcases spares with ⟨result, middle, run, kept⟩ | ⟨other, failed, dangles⟩
      · -- The rest was never looked at with cycles refused, so it may still stop this run.
        rcases walk_or_stop root options middle rest with ⟨results, after, walked⟩ | ⟨other, stopped⟩
        · exact .inl ⟨_, after, .cons run run.same_open walked, walk_keeps walked kept⟩
        · obtain ⟨_, _, failed⟩ := stopped.exists_failed
          have dangles : other.Dangles :=
            (resolver_fails_dangling preserves).of_stopped failed
          exact .inr ⟨other, .later run run.same_open stopped, dangles⟩
      · exact .inr ⟨other, .here failed, dangles⟩
  | later first sameOpen _ ih =>
      rcases ih with ⟨results, after, walked, kept⟩ | ⟨other, stopped, dangles⟩
      · exact .inl ⟨_, after, .cons first sameOpen walked, kept⟩
      · exact .inr ⟨other, .later first sameOpen stopped, dangles⟩

theorem Spares.sequence {items : List Value} (preserves : options.onCycle = .preserve)
    (stopped : Stopped (RunsTo root options)
      (fun before value _ => Spares root options pointer before value) before items error) :
    Spares root options pointer before (.array items) := by
  have runs := resolver_runs root options
  rcases spares_walk preserves stopped with
    ⟨results, after, walked, kept⟩ | ⟨other, stopped, dangles⟩
  · exact .inl ⟨_, after, runs.sequence walked, kept⟩
  · exact .inr ⟨other, runs.sequenceStopped stopped, dangles⟩

theorem Spares.mapping {members : Members} (preserves : options.onCycle = .preserve)
    (plain : referencePointer? members = none)
    (stopped : Stopped (RunsTo root options)
      (fun before value _ => Spares root options pointer before value) before
      (members.map (·.2)) error) :
    Spares root options pointer before (.object members) := by
  have runs := resolver_runs root options
  rcases spares_walk preserves stopped with
    ⟨results, after, walked, kept⟩ | ⟨other, stopped, dangles⟩
  · obtain ⟨resolved, sameKeys, rfl⟩ := members_with_values walked.length_eq
    exact .inl ⟨_, after, runs.mapping plain sameKeys walked, kept⟩
  · exact .inr ⟨other, runs.mappingStopped plain stopped, dangles⟩

/-- Options of which the first refuse cycles and the others preserve them. -/
structure Opposed (options others : RefOptions) : Prop where
  refuses : options.onCycle = .refuse
  preserves : others.onCycle = .preserve
  isDefinition : ∀ pointer, others.isDefinition pointer = options.isDefinition pointer

theorem Opposed.follows (opposed : Opposed options others) : Follows options others :=
  ⟨by simp [opposed.refuses], opposed.isDefinition⟩

structure Continues (root : Value) (options : RefOptions) (before : Progress) (value : Value)
    (error : ReferenceError) : Prop where
  dangling : error.Dangles → FailsWith root options before value error
  circular : ∀ pointer, error = .circular pointer → Spares root options pointer before value

/-- Up to its error a run with the first options is a run with the others. -/
theorem resolver_continues (opposed : Opposed options others) :
    StepRule root options (RunsTo root others) (Continues root others) :=
  have runs := resolver_runs root others
  have preserves := opposed.preserves
  { resolver_follows opposed.follows with
    refused := by
      intro progress members pointer _ node uncached opened
      refine ⟨False.elim, fun closing same => ?_⟩
      obtain rfl := ReferenceError.circular.inj same
      exact .inl ⟨_, _, runs.kept preserves node uncached opened, NameSet.mem_insert.2 (.inl rfl)⟩
    broken := by
      intro progress members pointer error node fresh failed
      refine ⟨fun _ => runs.broken node fresh failed, fun closing same => ?_⟩
      subst same
      exact (dangles_of_navigate failed).elim
    abandoned := by
      intro progress members pointer target error node fresh reached inner
      constructor
      · intro dangles
        exact runs.abandoned node fresh reached (inner.dangling dangles)
      · intro closing same
        exact (inner.circular closing same).followed node fresh reached
    sequenceStopped := by
      intro progress items error stopped
      constructor
      · intro dangles
        exact runs.sequenceStopped (stopped.imp fun continues => continues.dangling dangles)
      · intro closing same
        exact .sequence preserves (stopped.imp fun continues => continues.circular closing same)
    mappingStopped := by
      intro progress members error plain stopped
      constructor
      · intro dangles
        exact runs.mappingStopped plain (stopped.imp fun continues => continues.dangling dangles)
      · intro closing same
        exact .mapping preserves plain
          (stopped.imp fun continues => continues.circular closing same) }

end Runs

section Policies

variable {value root : Value} {options others : RefOptions} {error : ReferenceError}
  {resolution : Resolution} {pointer : String}

theorem preserves_nothing (refuses : options.onCycle = .refuse)
    (resolved : resolveRefs value root options = .ok resolution) :
    resolution.preserved = .empty := by
  refine NameSet.eq_empty fun pointer kept => ?_
  have preserves := ((searched_of_resolved resolved).preserved pointer kept).1
  simp [refuses] at preserves

theorem fails_dangling (preserves : options.onCycle = .preserve)
    (failed : resolveRefs value root options = .error error) : error.Dangles :=
  (resolver_fails_dangling preserves).of_stopped (resolve_refs_eq_error failed)

theorem Opposed.resolved (opposed : Opposed options others)
    (resolved : resolveRefs value root options = .ok resolution) :
    resolveRefs value root others = .ok resolution := by
  obtain ⟨done, finished, rfl⟩ := resolve_refs_eq_ok resolved
  exact resolve_refs_of_run ((resolver_continues opposed).of_finished finished)

theorem Opposed.dangling (opposed : Opposed options others)
    (failed : resolveRefs value root options = .error error) (dangles : error.Dangles) :
    resolveRefs value root others = .error error := by
  have continues := (resolver_continues opposed).of_stopped (resolve_refs_eq_error failed)
  exact resolve_refs_of_failure (continues.dangling dangles)

theorem Opposed.circular (opposed : Opposed options others)
    (failed : resolveRefs value root options = .error (.circular pointer)) :
    (∃ resolution, resolveRefs value root others = .ok resolution ∧
        pointer ∈ resolution.preserved) ∨
      ∃ error, resolveRefs value root others = .error error ∧ error.Dangles := by
  have continues := (resolver_continues opposed).of_stopped (resolve_refs_eq_error failed)
  rcases continues.circular pointer rfl with ⟨result, after, run, kept⟩ | ⟨error, failed, dangles⟩
  · exact .inl ⟨_, resolve_refs_of_run run, kept⟩
  · exact .inr ⟨error, resolve_refs_of_failure failed, dangles⟩

/-- Nothing but a cycle tells the two policies apart. -/
theorem cycle_policies_agree (value root : Value) (options : RefOptions) :
    (∀ resolution,
      resolveRefs value root { options with onCycle := .refuse } = .ok resolution ↔
        resolveRefs value root { options with onCycle := .preserve } = .ok resolution ∧
          resolution.preserved = .empty) ∧
    (∀ error, resolveRefs value root { options with onCycle := .refuse } = .error error →
      error.Dangles →
        resolveRefs value root { options with onCycle := .preserve } = .error error) ∧
    (∀ pointer,
      resolveRefs value root { options with onCycle := .refuse } = .error (.circular pointer) →
        (∃ resolution,
          resolveRefs value root { options with onCycle := .preserve } = .ok resolution ∧
            pointer ∈ resolution.preserved) ∨
        ∃ error, resolveRefs value root { options with onCycle := .preserve } = .error error ∧
          error.Dangles) ∧
    ∀ pointer,
      resolveRefs value root { options with onCycle := .preserve } ≠ .error (.circular pointer) := by
  have opposed : Opposed { options with onCycle := .refuse } { options with onCycle := .preserve } :=
    ⟨rfl, rfl, fun _ => rfl⟩
  refine ⟨fun resolution => ⟨fun resolved => ?_, fun ⟨resolved, nothing⟩ => ?_⟩,
    fun error failed dangles => opposed.dangling failed dangles,
    fun pointer failed => opposed.circular failed,
    fun pointer failed => fails_dangling rfl failed⟩
  · exact ⟨opposed.resolved resolved, preserves_nothing rfl resolved⟩
  · cases run : resolveRefs value root { options with onCycle := .refuse } with
    | ok other => rw [← opposed.resolved run, resolved]
    | error error =>
        -- Neither kind of error agrees with a resolution that preserves nothing.
        cases error with
        | circular pointer =>
            rcases opposed.circular run with ⟨other, resolved', kept⟩ | ⟨error, failed, _⟩
            · obtain rfl := Except.ok.inj (resolved'.symm.trans resolved)
              simp [nothing] at kept
            · simp [failed] at resolved
        | unresolvable => simp [opposed.dangling run trivial] at resolved
        | invalidPath => simp [opposed.dangling run trivial] at resolved

theorem nested_refusal :
    resolveRefs (.object (referenceTo "#/components/a")) nestedDocument { onCycle := .refuse } =
      .error (.circular "#/components/b") := by
  obtain ⟨reachedA, reachedB, reachedC⟩ := nested_targets
  simp [resolveRefs, resolve_local_reference (node_of_reference_to "#/components/a" rfl),
    resolve_local_reference (node_of_reference_to "#/components/b" rfl),
    resolve_local_reference (node_of_reference_to "#/components/c" rfl), reachedA, reachedB,
    reachedC, resolveValue, resolveItems, Progress.start, Progress.enter, Progress.cached?,
    Members.get?]

theorem nested_policies_agree :
    resolveRefs (.object (referenceTo "#/components/a")) nestedDocument { onCycle := .refuse } =
        .error (.circular "#/components/b") ∧
      resolveRefs (.object (referenceTo "#/components/a")) nestedDocument { onCycle := .preserve } =
        .ok nestedResolution ∧
      "#/components/b" ∈ nestedResolution.preserved := by
  refine ⟨nested_refusal, nested_resolution, ?_⟩
  rcases (cycle_policies_agree _ _ {}).2.2.1 _ nested_refusal with
    ⟨resolution, resolved, kept⟩ | ⟨error, failed, _⟩
  · obtain rfl := Except.ok.inj (resolved.symm.trans nested_resolution)
    exact kept
  · have impossible := failed.symm.trans nested_resolution
    contradiction

end Policies

end RefLint
