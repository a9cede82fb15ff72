import RefLint.NameSet
import RefLint.Options
import RefLint.Reference

/-!
# Resolving references

Every local reference node of a value is replaced by the resolution of its
target in a root document. A pointer is resolved once per call; its result is
cached. While a target is being resolved its pointer is in progress, and a
second meeting with it closes a cycle.

The recursion needs no fuel: it goes to a smaller value, or it follows a
pointer that is not yet in progress, of which root and value spell only
finitely many.
-/

namespace RefLint

set_option autoImplicit false

def distinct : List String → List String
  | [] => []
  | name :: rest => if name ∈ rest then distinct rest else name :: distinct rest

theorem mem_distinct {name : String} {names : List String} :
    name ∈ distinct names ↔ name ∈ names := by
  induction names with
  | nil => simp [distinct]
  | cons first rest ih => grind [distinct]

theorem nodup_distinct (names : List String) : (distinct names).Nodup := by
  induction names with
  | nil => simp [distinct]
  | cons first rest ih =>
      simp only [distinct]
      split
      · exact ih
      · rename_i absent
        exact List.nodup_cons.2 ⟨fun member => absent (mem_distinct.1 member), ih⟩

/-- The distinct pointers of a list that are not in progress. -/
def unopened (pointers inProgress : List String) : List String :=
  (distinct pointers).filter (· ∉ inProgress)

theorem mem_unopened {pointer : String} {pointers inProgress : List String} :
    pointer ∈ unopened pointers inProgress ↔ pointer ∈ pointers ∧ pointer ∉ inProgress := by
  simp [unopened, mem_distinct]

theorem length_le_of_nodup_subset {names more : List String} (distinct : names.Nodup)
    (subset : ∀ name ∈ names, name ∈ more) : names.length ≤ more.length := by
  induction names generalizing more with
  | nil => simp
  | cons first rest ih =>
      have split := List.nodup_cons.1 distinct
      have present : first ∈ more := subset first List.mem_cons_self
      have shorter : rest.length ≤ (more.erase first).length := by
        refine ih split.2 fun name member => ?_
        have different : name ≠ first := fun same => split.1 (same ▸ member)
        exact (List.mem_erase_of_ne different).2 (subset name (List.mem_cons_of_mem _ member))
      rw [List.length_erase_of_mem present] at shorter
      have := List.length_pos_of_mem present
      simp only [List.length_cons]
      omega

theorem nodup_unopened (pointers inProgress : List String) :
    (unopened pointers inProgress).Nodup :=
  (nodup_distinct pointers).filter _

theorem unopened_length_le {fewer pointers inProgress : List String}
    (subset : ∀ pointer ∈ fewer, pointer ∈ pointers) :
    (unopened fewer inProgress).length ≤ (unopened pointers inProgress).length := by
  refine length_le_of_nodup_subset (nodup_unopened _ _) fun pointer member => ?_
  have split := mem_unopened.1 member
  exact mem_unopened.2 ⟨subset pointer split.1, split.2⟩

theorem unopened_length_lt {fewer pointers inProgress : List String} {opened : String}
    (subset : ∀ pointer ∈ fewer, pointer ∈ pointers) (spelled : opened ∈ pointers)
    (new : opened ∉ inProgress) :
    (unopened fewer (opened :: inProgress)).length < (unopened pointers inProgress).length := by
  have distinct : (opened :: unopened fewer (opened :: inProgress)).Nodup := by
    refine List.nodup_cons.2 ⟨fun member => ?_, nodup_unopened _ _⟩
    exact (mem_unopened.1 member).2 List.mem_cons_self
  refine length_le_of_nodup_subset distinct fun pointer member => ?_
  rcases List.mem_cons.1 member with rfl | later
  · exact mem_unopened.2 ⟨spelled, new⟩
  · have split := mem_unopened.1 later
    exact mem_unopened.2
      ⟨subset pointer split.1, fun open_ => split.2 (List.mem_cons_of_mem _ open_)⟩

/-- What a resolution has done so far. -/
structure Progress where
  /-- The pointers whose targets are being resolved, innermost first. -/
  inProgress : List String
  /-- The finished pointers with their resolved targets. -/
  cache : List (String × Value)
  /-- The finished pointers that name shared definitions. -/
  consumed : NameSet
  /-- The pointers left in place because they close a cycle. -/
  preserved : NameSet

namespace Progress

def start : Progress := ⟨[], [], .empty, .empty⟩

def cached? (progress : Progress) (pointer : String) : Option Value :=
  Members.get? pointer progress.cache

def enter (progress : Progress) (pointer : String) : Progress :=
  { progress with inProgress := pointer :: progress.inProgress }

def finish (options : RefOptions) (progress : Progress) (pointer : String) (resolved : Value) :
    Progress :=
  { progress with
    inProgress := progress.inProgress.erase pointer
    cache := (pointer, resolved) :: progress.cache
    consumed :=
      if options.isDefinition pointer then progress.consumed.insert pointer
      else progress.consumed }

def keep (progress : Progress) (pointer : String) : Progress :=
  { progress with preserved := progress.preserved.insert pointer }

end Progress

/-- The result of one step. Whatever it opened it has finished again. -/
structure Outcome (before : Progress) (α : Type) where
  result : α
  after : Progress
  sameOpen : after.inProgress = before.inProgress

theorem mem_own_local_pointer {members : Members} {pointer : String}
    (reference : referencePointer? members = some pointer)
    (isLocal : Pointer.isLocal pointer = true) : pointer ∈ ownLocalPointer members := by
  simp [ownLocalPointer, reference, isLocal]

mutual

/-- Resolve a value; `root` is where pointers lead. -/
def resolveValue (root : Value) (options : RefOptions) (progress : Progress) (value : Value) :
    Except ReferenceError (Outcome progress Value) :=
  match value with
  | .array items =>
      match resolveItems root options progress items with
      | .error error => .error error
      | .ok done => .ok ⟨.array done.result, done.after, done.sameOpen⟩
  | .object members =>
      match reference : referencePointer? members with
      | none =>
          match resolveMembers root options progress members with
          | .error error => .error error
          | .ok done => .ok ⟨.object done.result, done.after, done.sameOpen⟩
      | some pointer =>
          if isLocal : Pointer.isLocal pointer = true then
            match progress.cached? pointer with
            | some resolved => .ok ⟨resolved, progress, rfl⟩
            | none =>
                if new : pointer ∈ progress.inProgress then
                  match options.onCycle with
                  | .refuse => .error (.circular pointer)
                  | .preserve => .ok ⟨.object members, progress.keep pointer, rfl⟩
                else
                  match reached : Pointer.navigate root pointer with
                  | .error error => .error error
                  | .ok target =>
                      match resolveValue root options (progress.enter pointer) target with
                      | .error error => .error error
                      | .ok done =>
                          .ok ⟨done.result, done.after.finish options pointer done.result, by
                            simp [Progress.finish, done.sameOpen, Progress.enter]⟩
          else .ok ⟨.object members, progress, rfl⟩
  | scalar => .ok ⟨scalar, progress, rfl⟩
termination_by
  ((unopened (value.localPointers ++ root.localPointers) progress.inProgress).length, sizeOf value)
decreasing_by
  · exact Prod.Lex.right' _ (Nat.le_refl _) (by simp)
  · refine Prod.Lex.right' _ (unopened_length_le fun pointer spelled => ?_) (by simp)
    simp only [Value.localPointers, List.mem_append] at *
    rcases spelled with inside | inRoot
    · exact Or.inl (Or.inr inside)
    · exact Or.inr inRoot
  · refine Prod.Lex.left _ _ (unopened_length_lt (fun spelledPointer spelled => ?_) ?_ new)
    · rcases List.mem_append.1 spelled with inTarget | inRoot
      · exact List.mem_append_right _ (Pointer.local_pointers_of_navigate reached inTarget)
      · exact List.mem_append_right _ inRoot
    · simp only [Value.localPointers, List.mem_append]
      exact Or.inl (Or.inl (mem_own_local_pointer reference isLocal))

def resolveItems (root : Value) (options : RefOptions) (progress : Progress)
    (items : List Value) : Except ReferenceError (Outcome progress (List Value)) :=
  match items with
  | [] => .ok ⟨[], progress, rfl⟩
  | item :: rest =>
      match resolveValue root options progress item with
      | .error error => .error error
      | .ok first =>
          have sameOpen := first.sameOpen
          match resolveItems root options first.after rest with
          | .error error => .error error
          | .ok others =>
              .ok ⟨first.result :: others.result, others.after, others.sameOpen.trans sameOpen⟩
termination_by
  ((unopened (Value.localPointers.ofItems items ++ root.localPointers)
    progress.inProgress).length, sizeOf items)
decreasing_by
  · refine Prod.Lex.right' _ (unopened_length_le fun pointer spelled => ?_)
      (by simp only [List.cons.sizeOf_spec]; omega)
    simp only [Value.localPointers.ofItems, List.mem_append] at *
    rcases spelled with inside | inRoot
    · exact Or.inl (Or.inl inside)
    · exact Or.inr inRoot
  · rw [sameOpen]
    refine Prod.Lex.right' _ (unopened_length_le fun pointer spelled => ?_)
      (by simp only [List.cons.sizeOf_spec]; omega)
    simp only [Value.localPointers.ofItems, List.mem_append] at *
    rcases spelled with inside | inRoot
    · exact Or.inl (Or.inr inside)
    · exact Or.inr inRoot

def resolveMembers (root : Value) (options : RefOptions) (progress : Progress)
    (members : List (String × Value)) :
    Except ReferenceError (Outcome progress (List (String × Value))) :=
  match members with
  | [] => .ok ⟨[], progress, rfl⟩
  | (key, value) :: rest =>
      match resolveValue root options progress value with
      | .error error => .error error
      | .ok first =>
          have sameOpen := first.sameOpen
          match resolveMembers root options first.after rest with
          | .error error => .error error
          | .ok others =>
              .ok ⟨(key, first.result) :: others.result, others.after,
                others.sameOpen.trans sameOpen⟩
termination_by
  ((unopened (Value.localPointers.ofMembers members ++ root.localPointers)
    progress.inProgress).length, sizeOf members)
decreasing_by
  · refine Prod.Lex.right' _ (unopened_length_le fun pointer spelled => ?_)
      (by simp only [List.cons.sizeOf_spec, Prod.mk.sizeOf_spec]; omega)
    simp only [Value.localPointers.ofMembers, List.mem_append] at *
    rcases spelled with inside | inRoot
    · exact Or.inl (Or.inl inside)
    · exact Or.inr inRoot
  · rw [sameOpen]
    refine Prod.Lex.right' _ (unopened_length_le fun pointer spelled => ?_)
      (by simp only [List.cons.sizeOf_spec]; omega)
    simp only [Value.localPointers.ofMembers, List.mem_append] at *
    rcases spelled with inside | inRoot
    · exact Or.inl (Or.inr inside)
    · exact Or.inr inRoot

end

/-- A resolved value and what was done to get it. -/
structure Resolution where
  value : Value
  /-- The shared definitions that were inlined. -/
  consumed : NameSet
  /-- The pointers left in place because they close a cycle. -/
  preserved : NameSet

/-- Resolve every reference of a value against a root document. -/
def resolveRefs (value root : Value) (options : RefOptions) : Except ReferenceError Resolution :=
  match resolveValue root options .start value with
  | .error error => .error error
  | .ok done => .ok ⟨done.result, done.after.consumed, done.after.preserved⟩

end RefLint
