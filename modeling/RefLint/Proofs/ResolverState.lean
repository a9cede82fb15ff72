import RefLint.Proofs.PointerSearch
import RefLint.Proofs.ResolverOptions

/-!
# What a call does to the state

A resolution hands one state through all its nested calls: the open pointers, the cache, the
consumed definitions and the preserved pointers. A call that answers closes what it has opened,
adds to the cache without touching what is there, and leaves a state in which whatever follows
may rely on the same facts as the call itself.
-/

namespace RefLint

set_option autoImplicit false

section Cache

def OnlyGains : GoodRun := fun before _ _ after => before.cache <:+ after.cache

theorem gains_of_threaded {before after : Progress} {values results : List Value}
    (walked : Threaded OnlyGains before values results after) : before.cache <:+ after.cache := by
  induction walked with
  | nil => exact List.suffix_refl _
  | cons first _ _ ih => exact first.trans ih

theorem resolver_only_gains (root : Value) (options : RefOptions) :
    StepRule root options OnlyGains Unconstrained where
  scalar _ := List.suffix_refl _
  external _ _ := List.suffix_refl _
  cached _ _ := List.suffix_refl _
  kept _ _ _ _ := List.suffix_refl _
  followed _ _ _ inner _ := inner.trans (List.suffix_cons _ _)
  sequence walked := gains_of_threaded walked
  mapping _ _ walked := gains_of_threaded walked

end Cache

/-- In a state where open and cached pointers are apart and the cached ones are local, lead
somewhere, show nothing but cached and open ones, and are consumed where they are definitions, a
call that answers has the same pointers open afterwards. It only adds to the cache, no entry is
changed, the facts hold again, and a pointer that it has preserved was open before or is cached
now. -/
theorem call_keeps_discipline (root value : Value) (options : RefOptions) (before : Progress)
    (disciplined : Disciplined root options before) (done : Outcome before Value)
    (answered : resolveValue root options before value = .ok done) :
    done.after.inProgress = before.inProgress ∧
    before.cache <:+ done.after.cache ∧
    (∀ pointer resolved, before.cached? pointer = some resolved →
      done.after.cached? pointer = some resolved) ∧
    Disciplined root options done.after ∧
    ∀ pointer ∈ done.after.preserved, pointer ∉ before.preserved →
      pointer ∈ before.inProgress ∨ pointer ∈ done.after.finished := by
  have explored := (resolver_explores root options).of_finished answered
  have gained : before.cache <:+ done.after.cache :=
    (resolver_only_gains root options).of_finished answered
  refine ⟨done.sameOpen, gained, explored.retains, explored.disciplined disciplined, ?_⟩
  intro pointer preserved new
  exact (explored.left pointer preserved).resolve_left new

section Halfway

/-- A definition without references, and two that lead to each other. -/
def pairedDefinitions : Members := [
  ("a", .object (referenceTo "#/components/b")),
  ("b", .array [.object (referenceTo "#/components/a"), .object (referenceTo "#/components/d"),
    .object (referenceTo "#/components/b")]),
  ("d", .string "text")]

def pairedDocument : Value := .object [("components", .object pairedDefinitions)]

def preserving : RefOptions := { onCycle := .preserve }

def halfway : Progress :=
  ((Progress.start.enter "#/components/d").finish preserving "#/components/d"
    (.string "text")).enter "#/components/a"

theorem halfway_disciplined : Disciplined pairedDocument preserving halfway := by
  have reached : Pointer.navigate pairedDocument "#/components/d" = .ok (.string "text") := rfl
  have fresh : Fresh .start "#/components/d" := ⟨rfl, by simp⟩
  -- What is cached so far is a text, which shows no pointer.
  have noEdge : ∀ next, ¬Edge pairedDocument "#/components/d" next := by
    intro next edge
    have visible : Visible (.string "text") next := (edge_iff reached).1 edge
    cases visible
  have opened : Disciplined pairedDocument preserving (Progress.start.enter "#/components/d") :=
    Disciplined.start.enter fresh
  have finished := opened.finish rfl fresh rfl ⟨_, reached⟩
    (fun next edge => absurd edge (noEdge next)) (.string "text")
  exact finished.enter ⟨rfl, by decide⟩

def pairedResult : Value := .array
  [.object (referenceTo "#/components/a"), .string "text", .object (referenceTo "#/components/b")]

def bothKept : Progress :=
  ((halfway.enter "#/components/b").keep "#/components/a").keep "#/components/b"

def furtherOn : Progress := bothKept.finish preserving "#/components/b" pairedResult

theorem nested_call_answers : RunsTo pairedDocument preserving halfway
    (.object (referenceTo "#/components/b")) pairedResult furtherOn := by
  have runs := resolver_runs pairedDocument preserving
  -- The items of `b` close a cycle, are found in the cache, and close another cycle.
  have first : RunsTo pairedDocument preserving (halfway.enter "#/components/b")
      (.object (referenceTo "#/components/a")) (.object (referenceTo "#/components/a")) _ :=
    runs.kept rfl (node_of_reference_to _ rfl) rfl (by decide)
  have second : RunsTo pairedDocument preserving
      ((halfway.enter "#/components/b").keep "#/components/a")
      (.object (referenceTo "#/components/d")) (.string "text") _ :=
    runs.cached (node_of_reference_to _ rfl) rfl
  have third : RunsTo pairedDocument preserving
      ((halfway.enter "#/components/b").keep "#/components/a")
      (.object (referenceTo "#/components/b")) (.object (referenceTo "#/components/b")) bothKept :=
    runs.kept rfl (node_of_reference_to _ rfl) rfl (by decide)
  have items := runs.sequence (.cons first rfl (.cons second rfl (.cons third rfl (.nil _))))
  exact runs.followed (node_of_reference_to _ rfl) ⟨rfl, by decide⟩ rfl items rfl

/-- While `a` is open, resolving `b` preserves `a`, which was open, and `b`, which is cached in
the end, and leaves `d` as it was. -/
theorem nested_call_disciplined :
    Disciplined pairedDocument preserving halfway ∧
    (∃ sameOpen, resolveValue pairedDocument preserving halfway
      (.object (referenceTo "#/components/b")) = .ok ⟨pairedResult, furtherOn, sameOpen⟩) ∧
    furtherOn.inProgress = halfway.inProgress ∧
    furtherOn.cached? "#/components/d" = some (.string "text") ∧
    Disciplined pairedDocument preserving furtherOn ∧
    "#/components/a" ∈ furtherOn.preserved ∧ "#/components/a" ∈ halfway.inProgress ∧
    "#/components/b" ∈ furtherOn.preserved ∧ "#/components/b" ∈ furtherOn.finished := by
  obtain ⟨sameOpen, answered⟩ := nested_call_answers
  obtain ⟨closed, -, retained, disciplined, justified⟩ := call_keeps_discipline pairedDocument _
    preserving halfway halfway_disciplined _ answered
  have preservedA : "#/components/a" ∈ furtherOn.preserved := by decide
  have preservedB : "#/components/b" ∈ furtherOn.preserved := by decide
  have uncachedA : "#/components/a" ∉ furtherOn.finished := by decide
  refine ⟨halfway_disciplined, ⟨sameOpen, answered⟩, closed, retained _ _ rfl, disciplined,
    preservedA, ?_, preservedB, ?_⟩
  · exact (justified _ preservedA (by decide)).resolve_right uncachedA
  · exact (justified _ preservedB (by decide)).resolve_left (by decide)

end Halfway

end RefLint
