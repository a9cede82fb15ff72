import RefLint.Proofs.PointerGraph

/-!
# Resolution without a cache

The plain recursion carries nothing but the chain of pointers whose targets it is
inside of. With cycles refused, the resolver answers what the plain recursion
answers, errors included. A cached pointer leads to cached pointers only, and no
cached pointer is in progress, so what a cache hit skips could neither close a
cycle nor fail.
-/

namespace RefLint

set_option autoImplicit false

-- The named hypotheses of the branches serve the termination proof.
set_option linter.unusedVariables false in
mutual

/-- Replace every local reference node by the plain resolution of its target. -/
def plainValue (root : Value) (chain : List String) (value : Value) :
    Except ReferenceError Value :=
  match value with
  | .array items => (plainItems root chain items).map .array
  | .object members =>
      match reference : referencePointer? members with
      | none => (plainMembers root chain members).map .object
      | some pointer =>
          if isLocal : Pointer.isLocal pointer = true then
            if closes : pointer ∈ chain then .error (.circular pointer)
            else
              match reached : Pointer.navigate root pointer with
              | .error error => .error error
              | .ok target => plainValue root (pointer :: chain) target
          else .ok (.object members)
  | scalar => .ok scalar
termination_by
  ((unopened (value.localPointers ++ root.localPointers) chain).length, sizeOf value)
decreasing_by
  · exact Prod.Lex.right' _ (Nat.le_refl _) (by simp)
  · exact Prod.Lex.right' _ (unopened_length_le (by grind [Value.localPointers])) (by simp)
  · refine Prod.Lex.left _ _ (unopened_length_lt (fun spelledPointer spelled => ?_) ?_ closes)
    · rcases List.mem_append.1 spelled with inTarget | inRoot
      · exact List.mem_append_right _ (Pointer.local_pointers_of_navigate reached inTarget)
      · exact List.mem_append_right _ inRoot
    · simp only [Value.localPointers, List.mem_append]
      exact Or.inl (Or.inl (mem_own_local_pointer reference isLocal))

def plainItems (root : Value) (chain : List String) (items : List Value) :
    Except ReferenceError (List Value) :=
  match items with
  | [] => .ok []
  | item :: rest =>
      match plainValue root chain item with
      | .error error => .error error
      | .ok result => (plainItems root chain rest).map (result :: ·)
termination_by
  ((unopened (Value.localPointers.ofItems items ++ root.localPointers) chain).length, sizeOf items)
decreasing_by
  · exact Prod.Lex.right' _ (unopened_length_le (by grind [Value.localPointers.ofItems]))
      (by simp only [List.cons.sizeOf_spec]; omega)
  · exact Prod.Lex.right' _ (unopened_length_le (by grind [Value.localPointers.ofItems]))
      (by simp only [List.cons.sizeOf_spec]; omega)

def plainMembers (root : Value) (chain : List String) (members : List (String × Value)) :
    Except ReferenceError (List (String × Value)) :=
  match members with
  | [] => .ok []
  | (key, value) :: rest =>
      match plainValue root chain value with
      | .error error => .error error
      | .ok result => (plainMembers root chain rest).map ((key, result) :: ·)
termination_by
  ((unopened (Value.localPointers.ofMembers members ++ root.localPointers) chain).length,
    sizeOf members)
decreasing_by
  · exact Prod.Lex.right' _ (unopened_length_le (by grind [Value.localPointers.ofMembers]))
      (by simp only [List.cons.sizeOf_spec, Prod.mk.sizeOf_spec]; omega)
  · exact Prod.Lex.right' _ (unopened_length_le (by grind [Value.localPointers.ofMembers]))
      (by simp only [List.cons.sizeOf_spec, Prod.mk.sizeOf_spec]; omega)

end

section Steps

variable {root : Value} {chain : List String} {members : Members} {pointer : String}

theorem plain_of_scalar {value : Value} (scalar : value.IsScalar) :
    plainValue root chain value = .ok value := by
  cases value with
  | array => exact scalar.elim
  | object => exact scalar.elim
  | null | bool | number | string => rw [plainValue] <;> simp

theorem plain_of_mapping (plain : referencePointer? members = none) :
    plainValue root chain (.object members) = (plainMembers root chain members).map .object := by
  rw [plainValue]
  split
  · rfl
  · rename_i reference
    rw [plain] at reference
    contradiction

theorem plain_of_external (reference : referencePointer? members = some pointer)
    (isExternal : Pointer.isLocal pointer = false) :
    plainValue root chain (.object members) = .ok (.object members) := by
  rw [plainValue]
  split
  · rename_i plain
    rw [plain] at reference
    contradiction
  · rename_i other again
    obtain rfl : other = pointer := Option.some.inj (again.symm.trans reference)
    rw [dif_neg (by simp [isExternal])]

theorem plain_of_reference (node : LocalReference members pointer) :
    plainValue root chain (.object members) =
      if pointer ∈ chain then .error (.circular pointer)
      else
        match Pointer.navigate root pointer with
        | .error error => .error error
        | .ok target => plainValue root (pointer :: chain) target := by
  rw [plainValue]
  split
  · rename_i plain
    rw [node.reference] at plain
    contradiction
  · rename_i other again
    obtain rfl : other = pointer := Option.some.inj (again.symm.trans node.reference)
    rw [dif_pos node.isLocal]
    split
    · rfl
    · split
      · rename_i failed
        rw [failed]
      · rename_i reached
        rw [reached]

theorem plain_members (members : Members) :
    plainMembers root chain members =
      (plainItems root chain (members.map (·.2))).map (List.zip (Members.keys members)) := by
  induction members with
  | nil => simp [plainMembers, plainItems, Members.keys, Except.map]
  | cons first rest ih =>
      obtain ⟨key, value⟩ := first
      rw [plainMembers, List.map_cons, plainItems]
      cases plainValue root chain value with
      | error => rfl
      | ok result =>
          simp only [ih]
          cases plainItems root chain (rest.map (·.2)) <;> rfl

end Steps

/-- What the cache may be used for when cycles are refused. Finished pointers lead
to finished ones only, none of which is in progress, and each answers the plain
resolution of its references on every chain that it does not run into. -/
structure Settled (root : Value) (progress : Progress) : Prop where
  apart : ∀ pointer ∈ progress.inProgress, progress.cached? pointer = none
  closed : ∀ pointer, progress.cached? pointer ≠ none →
    ∀ next, Edge root pointer next → progress.cached? next ≠ none
  plain : ∀ pointer resolved, progress.cached? pointer = some resolved →
    ∀ members, LocalReference members pointer →
    ∀ chain, (∀ other, Reachable root (.object members) other → other ∉ chain) →
    plainValue root chain (.object members) = .ok resolved

/-- All visible pointers of a value are finished. -/
def Covered (progress : Progress) (value : Value) : Prop :=
  ∀ pointer, Visible value pointer → progress.cached? pointer ≠ none

def Grows (before after : Progress) : Prop :=
  ∀ pointer, before.cached? pointer ≠ none → after.cached? pointer ≠ none

/-- On every chain that the value does not run into the plain resolution is `result`. -/
def PlainlyResolves (root value result : Value) : Prop :=
  ∀ chain, (∀ pointer, Reachable root value pointer → pointer ∉ chain) →
    plainValue root chain value = .ok result

theorem Settled.reachable_cached {root value : Value} {progress : Progress} {pointer : String}
    (settled : Settled root progress) (covered : Covered progress value)
    (reachable : Reachable root value pointer) : progress.cached? pointer ≠ none :=
  reachable.closed covered fun source next finished edge => settled.closed source finished next edge

/-- So a covered value never runs into a chain of pointers in progress. -/
theorem Settled.off_chain {root value : Value} {progress : Progress} {pointer : String}
    (settled : Settled root progress) (covered : Covered progress value)
    (reachable : Reachable root value pointer) : pointer ∉ progress.inProgress :=
  fun opened => settled.reachable_cached covered reachable (settled.apart pointer opened)

theorem settled_start (root : Value) : Settled root .start where
  apart := by simp [Progress.start]
  closed := by simp
  plain := by simp

theorem Settled.enter {root : Value} {progress : Progress} {pointer : String}
    (settled : Settled root progress) (uncached : progress.cached? pointer = none) :
    Settled root (progress.enter pointer) where
  apart := by
    intro other opened
    rcases List.mem_cons.1 opened with rfl | earlier
    · exact uncached
    · exact settled.apart other earlier
  closed := settled.closed
  plain := settled.plain

section Finish

variable {root target result : Value} {options : RefOptions} {before after : Progress}
  {pointer : String}

/-- The target of a pointer that is in progress does not lead back to the pointer. -/
theorem Settled.reference_resolves (settled : Settled root after) (opened : pointer ∈ after.inProgress)
    (covered : Covered after target) (reached : Pointer.navigate root pointer = .ok target)
    (resolves : PlainlyResolves root target result) {members : Members}
    (node : LocalReference members pointer) : PlainlyResolves root (.object members) result := by
  intro chain off
  rw [plain_of_reference node, if_neg (off pointer (Visible.here node).reachable)]
  simp only [reached]
  apply resolves
  intro other reachable
  rw [List.mem_cons, not_or]
  constructor
  · -- Everything the target reaches is finished, and the pointer is not.
    rintro rfl
    exact settled.off_chain covered reachable opened
  · exact off other (reachable.of_target node reached)

theorem Settled.finish (settled : Settled root after)
    (sameOpen : after.inProgress = pointer :: before.inProgress)
    (closed : pointer ∉ before.inProgress) (covered : Covered after target)
    (reached : Pointer.navigate root pointer = .ok target)
    (resolves : PlainlyResolves root target result) :
    Settled root (after.finish options pointer result) where
  apart := by
    intro other opened
    have stillOpen : other ∈ before.inProgress := by
      simpa [Progress.finish, sameOpen] using opened
    have different : pointer ≠ other := fun same => closed (same ▸ stillOpen)
    rw [Progress.cached_finish, if_neg different]
    exact settled.apart other (by simp [sameOpen, stillOpen])
  closed := by
    intro source finished next edge
    have nextFinished : after.cached? next ≠ none := by
      rw [Progress.cached_finish] at finished
      split at finished
      · rename_i same
        subst same
        exact covered next ((edge_iff reached).1 edge)
      · exact settled.closed source finished next edge
    rw [Progress.cached_finish]
    split
    · simp
    · exact nextFinished
  plain := by
    intro source resolved found members node
    obtain ⟨rfl, rfl⟩ | earlier := Progress.cached_of_finish found
    · exact settled.reference_resolves (by simp [sameOpen]) covered reached resolves node
    · exact settled.plain source resolved earlier members node

end Finish

structure PlainRun (root : Value) (before : Progress) (value result : Value) (after : Progress) :
    Prop where
  settled : Settled root after
  grows : Grows before after
  covered : Covered after value
  resolves : PlainlyResolves root value result

def SettledRun (root : Value) : GoodRun := fun before value result after =>
  Settled root before → PlainRun root before value result after

def SettledFailure (root : Value) : BadRun := fun before value error =>
  Settled root before → plainValue root before.inProgress value = .error error

structure PlainWalk (root : Value) (before : Progress) (values results : List Value)
    (after : Progress) : Prop where
  settled : Settled root after
  grows : Grows before after
  covered : ∀ value ∈ values, Covered after value
  resolves : ∀ chain, (∀ value ∈ values, ∀ pointer, Reachable root value pointer →
    pointer ∉ chain) → plainItems root chain values = .ok results

theorem plain_walk {root : Value} {before after : Progress} {values results : List Value}
    (walked : Threaded (SettledRun root) before values results after)
    (settled : Settled root before) : PlainWalk root before values results after := by
  induction walked with
  | nil => exact ⟨settled, fun _ finished => finished, by simp, fun _ _ => by rw [plainItems]⟩
  | @cons before middle after value result rest results first _ _ ih =>
      have head := first settled
      have tail := ih head.settled
      refine ⟨tail.settled, fun pointer finished => tail.grows _ (head.grows _ finished), ?_, ?_⟩
      · intro other member
        rcases List.mem_cons.1 member with rfl | later
        · exact fun pointer visible => tail.grows _ (head.covered pointer visible)
        · exact tail.covered other later
      · intro chain off
        rw [plainItems, head.resolves chain (off value List.mem_cons_self),
          tail.resolves chain fun other member => off other (List.mem_cons_of_mem _ member)]
        rfl

/-- The values before the one that fails are off the chain, so the plain recursion
comes to the same failure. -/
theorem plain_walk_stopped {root : Value} {before : Progress} {values : List Value}
    {error : ReferenceError}
    (stopped : Stopped (SettledRun root) (SettledFailure root) before values error)
    (settled : Settled root before) :
    plainItems root before.inProgress values = .error error := by
  induction stopped with
  | here failed => rw [plainItems, failed settled]
  | later first sameOpen _ ih =>
      have head := first settled
      have offChain := fun pointer (reachable : Reachable root _ pointer) =>
        head.settled.off_chain head.covered reachable
      rw [plainItems, head.resolves _ (sameOpen ▸ offChain), ← sameOpen, ih head.settled]
      rfl

theorem resolver_agrees_with_plain (root : Value) {options : RefOptions}
    (refuses : options.onCycle = .refuse) :
    StepRule root options (SettledRun root) (SettledFailure root) where
  scalar := fun scalar settled =>
    ⟨settled, fun _ finished => finished, fun _ visible => (not_visible_of_scalar scalar visible).elim,
      fun _ _ => plain_of_scalar scalar⟩
  external := fun reference isExternal settled =>
    ⟨settled, fun _ finished => finished,
      fun _ visible => (not_visible_of_external reference isExternal visible).elim,
      fun _ _ => plain_of_external reference isExternal⟩
  cached := by
    intro progress members pointer resolved node found settled
    refine ⟨settled, fun _ finished => finished, ?_, settled.plain pointer resolved found members node⟩
    intro other visible
    rw [(visible_reference_iff node).1 visible, found]
    simp
  kept := by
    intro progress members pointer preserves
    rw [refuses] at preserves
    contradiction
  followed := by
    intro progress after members pointer target result node fresh reached inner sameOpen settled
    have run := inner (settled.enter fresh.uncached)
    refine ⟨run.settled.finish sameOpen fresh.closed run.covered reached run.resolves, ?_, ?_, ?_⟩
    · intro other finished
      rw [Progress.cached_finish]
      split
      · simp
      · exact run.grows other finished
    · intro other visible
      rw [(visible_reference_iff node).1 visible, Progress.cached_finish, if_pos rfl]
      simp
    · exact run.settled.reference_resolves (by simp [sameOpen]) run.covered reached run.resolves node
  sequence := by
    intro progress after items results walked settled
    have walk := plain_walk walked settled
    refine ⟨walk.settled, walk.grows, ?_, ?_⟩
    · intro pointer visible
      obtain ⟨item, present, deeper⟩ := visible_sequence_iff.1 visible
      exact walk.covered item present pointer deeper
    · intro chain off
      rw [plainValue, walk.resolves chain fun item present pointer reachable =>
        off pointer (reachable.of_item present)]
      rfl
  mapping := by
    intro progress after members resolved plain sameKeys walked settled
    have walk := plain_walk walked settled
    refine ⟨walk.settled, walk.grows, ?_, ?_⟩
    · intro pointer visible
      obtain ⟨value, present, deeper⟩ := (visible_mapping_iff plain).1 visible
      exact walk.covered value present pointer deeper
    · intro chain off
      have values := walk.resolves chain fun value present pointer reachable =>
        off pointer (reachable.of_member plain present)
      have members_eq : (Members.keys members).zip (resolved.map (·.2)) = resolved :=
        (List.zip_of_prod sameKeys rfl).symm
      rw [plain_of_mapping plain, plain_members, values]
      simp only [Except.map, members_eq]
  refused := by
    intro progress members pointer _ node _ opened _
    rw [plain_of_reference node, if_pos opened]
  broken := by
    intro progress members pointer error node fresh failed _
    rw [plain_of_reference node, if_neg fresh.closed, failed]
  abandoned := by
    intro progress members pointer target error node fresh reached inner settled
    rw [plain_of_reference node, if_neg fresh.closed, reached]
    exact inner (settled.enter fresh.uncached)
  sequenceStopped := by
    intro progress items error stopped settled
    rw [plainValue, plain_walk_stopped stopped settled]
    rfl
  mappingStopped := by
    intro progress members error plain stopped settled
    rw [plain_of_mapping plain, plain_members, plain_walk_stopped stopped settled]
    rfl

/-- With cycles refused, the cache changes neither the value nor the error. -/
theorem resolution_agrees_with_plain {options : RefOptions} (refuses : options.onCycle = .refuse)
    (value root : Value) :
    (resolveRefs value root options).map Resolution.value = plainValue root [] value := by
  have rule := resolver_agrees_with_plain root refuses
  unfold resolveRefs
  cases run : resolveValue root options .start value with
  | error error =>
      have same := rule.of_stopped run (settled_start root)
      exact same.symm
  | ok done =>
      have same := (rule.of_finished run (settled_start root)).resolves [] (by simp)
      exact same.symm

/-- A text that is used twice, the second time from the cache, and a reference to itself. -/
def circularDocument : Value := .object [
  ("id", .string "text"),
  ("uses", .array [.object [(referenceKey, .string "#/id")],
    .object [(referenceKey, .string "#/id")]]),
  ("loop", .object [(referenceKey, .string "#/loop")])]

theorem circular_document_agrees :
    RefOptions.onCycle {} = .refuse ∧
      (resolveRefs circularDocument circularDocument {}).map Resolution.value =
        plainValue circularDocument [] circularDocument :=
  ⟨rfl, resolution_agrees_with_plain rfl _ _⟩

end RefLint
