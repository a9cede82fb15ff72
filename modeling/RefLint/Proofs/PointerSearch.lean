import RefLint.Proofs.Places
import RefLint.Proofs.PointerGraph

/-!
# What a resolution visits

A resolution searches the graph of pointers depth first. A pointer is opened when
its target is begun, and finished when the target is resolved. The finished
pointers are kept in the order of finishing, and what a pointer leads to is
finished before it, unless that was open and has been left in place.
-/

namespace RefLint

set_option autoImplicit false

def Navigates (root : Value) (pointer : String) : Prop :=
  ∃ target, Pointer.navigate root pointer = .ok target

theorem not_navigates_iff {root : Value} {pointer : String} :
    ¬Navigates root pointer ↔ ∃ error, Pointer.navigate root pointer = .error error := by
  unfold Navigates
  cases Pointer.navigate root pointer with
  | ok target => simp
  | error error => simp

namespace Progress

/-- The pointers whose resolved targets are cached, the latest first. -/
def finished (progress : Progress) : List String := Members.keys progress.cache

variable {options : RefOptions} {progress : Progress} {pointer : String} {resolved : Value}

@[simp] theorem finished_start : start.finished = [] := rfl

@[simp] theorem open_start : start.inProgress = [] := rfl

@[simp] theorem consumed_start : start.consumed = .empty := rfl

@[simp] theorem preserved_start : start.preserved = .empty := rfl

@[simp] theorem finished_finish : (progress.finish options pointer resolved).finished =
    pointer :: progress.finished := rfl

@[simp] theorem open_finish : (progress.finish options pointer resolved).inProgress =
    progress.inProgress.erase pointer := rfl

@[simp] theorem preserved_finish : (progress.finish options pointer resolved).preserved =
    progress.preserved := rfl

@[simp] theorem mem_consumed_finish {other : String} :
    other ∈ (progress.finish options pointer resolved).consumed ↔
      other ∈ progress.consumed ∨ other = pointer ∧ options.isDefinition pointer = true := by
  cases definition : options.isDefinition pointer with
  | false => simp [finish, definition]
  | true => simp [finish, definition, or_comm]

theorem cached_eq_none_iff : progress.cached? pointer = none ↔ pointer ∉ progress.finished :=
  Members.get_eq_none_iff

theorem mem_finished_of_cached (found : progress.cached? pointer = some resolved) :
    pointer ∈ progress.finished := by
  by_contra absent
  rw [cached_eq_none_iff.2 absent] at found
  contradiction

end Progress

/-- Each pointer of a list leads to later ones of it or to preserved ones. -/
inductive Ordered (root : Value) (preserved : NameSet) : List String → Prop where
  | nil : Ordered root preserved []
  | cons {pointer : String} {older : List String}
      (leads : ∀ next, Edge root pointer next → next ∈ older ∨ next ∈ preserved)
      (rest : Ordered root preserved older) : Ordered root preserved (pointer :: older)

namespace Ordered

variable {root : Value} {preserved more : NameSet} {finished : List String}

theorem mono (ordered : Ordered root preserved finished)
    (subset : ∀ pointer ∈ preserved, pointer ∈ more) : Ordered root more finished := by
  induction ordered with
  | nil => exact .nil
  | cons leads _ ih =>
      exact .cons (fun next edge => (leads next edge).imp_right (subset next)) ih

theorem leads_of_mem (ordered : Ordered root preserved finished) {pointer next : String}
    (present : pointer ∈ finished) (edge : Edge root pointer next) :
    next ∈ finished ∨ next ∈ preserved := by
  induction ordered with
  | nil => simp at present
  | cons leads _ ih =>
      rcases List.mem_cons.1 present with rfl | older
      · exact (leads next edge).imp_left (List.mem_cons_of_mem _)
      · exact (ih older).imp_left (List.mem_cons_of_mem _)

/-- Pointers of which each leads to another of them do not go on for ever without a
preserved one. -/
theorem meets_preserved (ordered : Ordered root preserved finished) {cycle : String → Prop}
    (onward : ∀ pointer, cycle pointer → ∃ next, cycle next ∧ Edge root pointer next)
    {pointer : String} (present : pointer ∈ finished) (onCycle : cycle pointer) :
    ∃ kept ∈ preserved, cycle kept := by
  induction ordered generalizing pointer with
  | nil => simp at present
  | cons leads _ ih =>
      rcases List.mem_cons.1 present with rfl | older
      · obtain ⟨next, nextOnCycle, edge⟩ := onward _ onCycle
        rcases leads next edge with older | kept
        · exact ih older nextOnCycle
        · exact ⟨next, kept, nextOnCycle⟩
      · exact ih older onCycle

end Ordered

/-- What holds of a state between two steps of a search. -/
structure Disciplined (root : Value) (options : RefOptions) (progress : Progress) : Prop where
  apart : ∀ pointer ∈ progress.inProgress, pointer ∉ progress.finished
  isLocal : ∀ pointer ∈ progress.finished, Pointer.isLocal pointer = true
  navigates : ∀ pointer ∈ progress.finished, Navigates root pointer
  closed : ∀ pointer ∈ progress.finished, ∀ next, Edge root pointer next →
    next ∈ progress.finished ∨ next ∈ progress.inProgress
  consumed : ∀ pointer, pointer ∈ progress.consumed ↔
    pointer ∈ progress.finished ∧ options.isDefinition pointer = true

namespace Disciplined

variable {root : Value} {options : RefOptions} {progress after : Progress} {pointer : String}

theorem start : Disciplined root options .start where
  apart := by simp
  isLocal := by simp
  navigates := by simp
  closed := by simp
  consumed := by simp

theorem enter (disciplined : Disciplined root options progress) (fresh : Fresh progress pointer) :
    Disciplined root options (progress.enter pointer) where
  apart := by
    intro opened present
    rcases List.mem_cons.1 present with rfl | older
    · exact Progress.cached_eq_none_iff.1 fresh.uncached
    · exact disciplined.apart opened older
  isLocal := disciplined.isLocal
  navigates := disciplined.navigates
  closed source present next edge :=
    (disciplined.closed source present next edge).imp_right (List.mem_cons_of_mem _)
  consumed := disciplined.consumed

theorem finish (disciplined : Disciplined root options after)
    (opened : after.inProgress = pointer :: progress.inProgress) (fresh : Fresh progress pointer)
    (isLocal : Pointer.isLocal pointer = true) (navigates : Navigates root pointer)
    (leads : ∀ next, Edge root pointer next →
      next ∈ after.finished ∨ next = pointer ∨ next ∈ progress.inProgress) (resolved : Value) :
    Disciplined root options (after.finish options pointer resolved) where
  apart := by
    intro other present
    rw [Progress.open_finish, opened, List.erase_cons_head] at present
    rw [Progress.finished_finish, List.mem_cons, not_or]
    constructor
    · rintro rfl
      exact fresh.closed present
    · apply disciplined.apart
      rw [opened]
      exact List.mem_cons_of_mem _ present
  isLocal := by
    intro other present
    rcases List.mem_cons.1 present with rfl | older
    · exact isLocal
    · exact disciplined.isLocal other older
  navigates := by
    intro other present
    rcases List.mem_cons.1 present with rfl | older
    · exact navigates
    · exact disciplined.navigates other older
  closed := by
    intro source present next edge
    have met : next ∈ after.finished ∨ next = pointer ∨ next ∈ progress.inProgress := by
      rcases List.mem_cons.1 present with rfl | older
      · exact leads next edge
      · have closed := disciplined.closed source older next edge
        rwa [opened, List.mem_cons] at closed
    rw [Progress.finished_finish, Progress.open_finish, opened, List.erase_cons_head, List.mem_cons]
    rcases met with older | same | open_
    · exact .inl (.inr older)
    · exact .inl (.inl same)
    · exact .inr open_
  consumed := by
    intro other
    rw [Progress.mem_consumed_finish, disciplined.consumed, Progress.finished_finish,
      List.mem_cons]
    constructor
    · rintro (⟨older, definition⟩ | ⟨rfl, definition⟩)
      · exact ⟨.inr older, definition⟩
      · exact ⟨.inl rfl, definition⟩
    · rintro ⟨rfl | older, definition⟩
      · exact .inr ⟨rfl, definition⟩
      · exact .inl ⟨older, definition⟩

end Disciplined

/-- A stretch of a search on which the pointers `seen` were met. -/
structure Explored (root : Value) (options : RefOptions) (seen : String → Prop)
    (before after : Progress) : Prop where
  grown : before.finished <:+ after.finished
  retains : ∀ pointer resolved, before.cached? pointer = some resolved →
    after.cached? pointer = some resolved
  kept : ∀ pointer ∈ before.preserved, pointer ∈ after.preserved
  met : ∀ pointer, seen pointer →
    pointer ∈ after.finished ∨ pointer ∈ before.inProgress ∧ pointer ∈ after.preserved
  left : ∀ pointer ∈ after.preserved,
    pointer ∈ before.preserved ∨ pointer ∈ before.inProgress ∨ pointer ∈ after.finished
  ordered : Ordered root before.preserved before.finished →
    Ordered root after.preserved after.finished
  disciplined : Disciplined root options before → Disciplined root options after

namespace Explored

variable {root : Value} {options : RefOptions} {seen others : String → Prop}
  {before middle after : Progress} {pointer : String}

theorem refl (known : ∀ pointer, seen pointer → pointer ∈ before.finished) :
    Explored root options seen before before where
  grown := List.suffix_refl _
  retains _ _ found := found
  kept _ present := present
  met other seen := .inl (known other seen)
  left _ present := .inl present
  ordered := id
  disciplined := id

theorem weaken (explored : Explored root options seen before after)
    (subset : ∀ pointer, others pointer → seen pointer) :
    Explored root options others before after :=
  { explored with met := fun other member => explored.met other (subset other member) }

theorem trans (first : Explored root options seen before middle)
    (sameOpen : middle.inProgress = before.inProgress)
    (second : Explored root options others middle after) :
    Explored root options (fun pointer => seen pointer ∨ others pointer) before after where
  grown := first.grown.trans second.grown
  retains other resolved found := second.retains other resolved (first.retains other resolved found)
  kept other present := second.kept other (first.kept other present)
  met := by
    rintro other (seenFirst | seenLater)
    · rcases first.met other seenFirst with finished | ⟨opened, kept⟩
      · exact .inl (second.grown.subset finished)
      · exact .inr ⟨opened, second.kept other kept⟩
    · have met := second.met other seenLater
      rwa [sameOpen] at met
  left := by
    intro other present
    rcases second.left other present with earlier | opened | finished
    · rcases first.left other earlier with earlier | opened | finished
      · exact .inl earlier
      · exact .inr (.inl opened)
      · exact .inr (.inr (second.grown.subset finished))
    · exact .inr (.inl (sameOpen ▸ opened))
    · exact .inr (.inr finished)
  ordered given := second.ordered (first.ordered given)
  disciplined given := second.disciplined (first.disciplined given)

theorem keep (opened : pointer ∈ before.inProgress)
    (only : ∀ other, seen other → other = pointer) :
    Explored root options seen before (before.keep pointer) where
  grown := List.suffix_refl _
  retains _ _ found := found
  kept other present := NameSet.mem_insert.2 (.inr present)
  met := by
    intro other member
    obtain rfl := only other member
    exact .inr ⟨opened, NameSet.mem_insert.2 (.inl rfl)⟩
  left := by
    intro other present
    rcases NameSet.mem_insert.1 present with rfl | earlier
    · exact .inr (.inl opened)
    · exact .inl earlier
  ordered given := given.mono fun other present => NameSet.mem_insert.2 (.inr present)
  disciplined given := ⟨given.apart, given.isLocal, given.navigates, given.closed, given.consumed⟩

theorem follow {target : Value} (isLocal : Pointer.isLocal pointer = true)
    (fresh : Fresh before pointer) (reached : Pointer.navigate root pointer = .ok target)
    (inner : Explored root options (Visible target) (before.enter pointer) after)
    (opened : after.inProgress = pointer :: before.inProgress)
    (only : ∀ other, seen other → other = pointer) (resolved : Value) :
    Explored root options seen before (after.finish options pointer resolved) where
  grown := inner.grown.trans (List.suffix_cons _ _)
  retains := by
    intro other value found
    have different : pointer ≠ other := by
      rintro rfl
      rw [fresh.uncached] at found
      contradiction
    rw [Progress.cached_finish, if_neg different]
    exact inner.retains other value found
  kept := inner.kept
  met := by
    intro other member
    obtain rfl := only other member
    exact .inl List.mem_cons_self
  left := by
    intro other present
    rcases inner.left other present with earlier | entered | finished
    · exact .inl earlier
    · rcases List.mem_cons.1 entered with rfl | opened
      · exact .inr (.inr List.mem_cons_self)
      · exact .inr (.inl opened)
    · exact .inr (.inr (List.mem_cons_of_mem _ finished))
  ordered given := by
    -- Whatever the target shows was met before the pointer is finished.
    refine .cons (fun next edge => ?_) (inner.ordered given)
    exact (inner.met next ((edge_iff reached).1 edge)).imp_right And.right
  disciplined given := by
    refine (inner.disciplined (given.enter fresh)).finish opened fresh isLocal ⟨target, reached⟩
      (fun next edge => ?_) resolved
    rcases inner.met next ((edge_iff reached).1 edge) with finished | ⟨entered, _⟩
    · exact .inl finished
    · exact .inr (List.mem_cons.1 entered)

theorem of_threaded {values results : List Value}
    (walked : Threaded (fun before value _ after => Explored root options (Visible value) before after)
      before values results after) :
    Explored root options (fun pointer => ∃ value ∈ values, Visible value pointer) before after := by
  induction walked with
  | nil => exact .refl (by simp)
  | cons first sameOpen _ ih =>
      refine (first.trans sameOpen ih).weaken fun pointer seen => ?_
      obtain ⟨value, present, visible⟩ := seen
      rcases List.mem_cons.1 present with rfl | later
      · exact .inl visible
      · exact .inr ⟨value, later, visible⟩

/-- A pointer whose target is searched first of all is preserved if it lies on a cycle. -/
theorem preserves_opened {target : Value} (reached : Pointer.navigate root pointer = .ok target)
    (inner : Explored root options (Visible target) (Progress.start.enter pointer) after)
    (opened : after.inProgress = [pointer]) (cyclic : Reaches root pointer pointer) :
    pointer ∈ after.preserved := by
  have fresh : Fresh .start pointer := ⟨rfl, by simp⟩
  have disciplined := inner.disciplined (Disciplined.start.enter fresh)
  have ordered := inner.ordered .nil
  -- The way back to the pointer stays among the finished ones until it closes.
  have along : ∀ next, Reaches root pointer next →
      next ∈ after.finished ∨ pointer ∈ after.preserved := by
    intro next path
    induction path with
    | single edge =>
        rcases inner.met _ ((edge_iff reached).1 edge) with finished | ⟨entered, kept⟩
        · exact .inl finished
        · obtain rfl := List.mem_singleton.1 entered
          exact .inr kept
    | tail _ edge ih =>
        rcases ih with finished | kept
        · rcases disciplined.closed _ finished _ edge with later | back
          · exact .inl later
          · rw [opened, List.mem_singleton] at back
            subst back
            exact ordered.leads_of_mem finished edge
        · exact .inr kept
  refine (along pointer cyclic).resolve_left (disciplined.apart pointer ?_)
  rw [opened]
  exact List.mem_singleton_self pointer

end Explored

/-- Every run that answers a value is a stretch of a search. -/
theorem resolver_explores (root : Value) (options : RefOptions) :
    StepRule root options
      (fun before value _ after => Explored root options (Visible value) before after)
      Unconstrained where
  scalar := by
    intro progress value scalar
    exact .refl fun pointer visible => absurd visible (not_visible_of_scalar scalar)
  external := by
    intro progress members pointer reference isExternal
    exact .refl fun other visible =>
      absurd visible (not_visible_of_external reference isExternal)
  cached := by
    intro progress members pointer resolved node found
    refine .refl fun other visible => ?_
    rw [visible_reference_iff node] at visible
    exact visible ▸ Progress.mem_finished_of_cached found
  kept := by
    intro progress members pointer _ node _ opened
    exact .keep opened fun other => (visible_reference_iff node).1
  followed := by
    intro progress after members pointer target result node fresh reached inner opened
    exact .follow node.isLocal fresh reached inner opened
      (fun other => (visible_reference_iff node).1) result
  sequence := by
    intro progress after items results walked
    exact (Explored.of_threaded walked).weaken fun pointer => visible_sequence_iff.1
  mapping := by
    intro progress after members resolved plain _ walked
    exact (Explored.of_threaded walked).weaken fun pointer => (visible_mapping_iff plain).1

end RefLint
