import RefLint.Proofs.ReachablePointers

/-!
# How deep a resolution goes

To resolve a value, the resolver asks for the resolution of its items or members, one after
another, or for that of the target of its pointer. An item or a member is smaller than the
value. A target may be larger, and may even hold the value, but then its pointer was not in
progress before. The pointers in progress are distinct and all of them are spelled in the
value or in the root, so there is a bound on how many targets are open inside one another,
and no chain of requests goes on for ever. The equation of the recursion counts no depth;
the resolver is its only solution.
-/

namespace RefLint

set_option autoImplicit false

section Spelling

variable {pointer key : String} {value : Value} {members : Members}

theorem spelled_in_member (present : (key, value) ∈ members)
    (spelled : pointer ∈ value.localPointers) :
    pointer ∈ Value.localPointers.ofMembers members := by
  induction members with
  | nil => contradiction
  | cons first rest ih =>
      rw [Value.localPointers.ofMembers, List.mem_append]
      rcases List.mem_cons.1 present with rfl | later
      · exact .inl spelled
      · exact .inr (ih later)

theorem spelled_inside {part : Value} (inside : Inside part value)
    (spelled : pointer ∈ part.localPointers) : pointer ∈ value.localPointers := by
  induction inside with
  | here => exact spelled
  | member present _ ih =>
      rw [Value.localPointers, List.mem_append]
      exact .inr (spelled_in_member present ih)
  | item present _ ih =>
      rw [Value.localPointers]
      exact mem_local_pointers_of_items present ih

theorem mem_own_local_pointer_iff :
    pointer ∈ ownLocalPointer members ↔ LocalReference members pointer := by
  constructor
  · intro own
    unfold ownLocalPointer at own
    split at own
    · rename_i reference
      split at own
      · rename_i isLocal
        obtain rfl := List.mem_singleton.1 own
        exact ⟨reference, isLocal⟩
      · contradiction
    · contradiction
  · intro node
    exact mem_own_local_pointer node.reference node.isLocal

mutual

/-- A spelled pointer belongs to a reference node somewhere in the value. -/
theorem node_of_spelled : ∀ value : Value, pointer ∈ value.localPointers →
    ∃ members, Inside (.object members) value ∧ LocalReference members pointer
  | .object members => by
      intro spelled
      rw [Value.localPointers, List.mem_append] at spelled
      rcases spelled with own | deeper
      · exact ⟨members, .here _, mem_own_local_pointer_iff.1 own⟩
      · obtain ⟨value, present, node, inside, isNode⟩ := node_of_spelled_in_members members deeper
        obtain ⟨⟨key, _⟩, listed, rfl⟩ := List.mem_map.1 present
        exact ⟨node, .member listed inside, isNode⟩
  | .array items => by
      intro spelled
      rw [Value.localPointers] at spelled
      obtain ⟨item, present, node, inside, isNode⟩ := node_of_spelled_in_items items spelled
      exact ⟨node, .item present inside, isNode⟩
  | .null | .bool _ | .number _ | .string _ => by simp [Value.localPointers]

theorem node_of_spelled_in_items : ∀ items : List Value,
    pointer ∈ Value.localPointers.ofItems items → ∃ item ∈ items, ∃ members,
      Inside (.object members) item ∧ LocalReference members pointer
  | [] => by simp [Value.localPointers.ofItems]
  | item :: rest => by
      intro spelled
      rw [Value.localPointers.ofItems, List.mem_append] at spelled
      rw [List.exists_mem_cons_iff]
      exact spelled.imp (node_of_spelled item) (node_of_spelled_in_items rest)

theorem node_of_spelled_in_members : ∀ members : Members,
    pointer ∈ Value.localPointers.ofMembers members → ∃ value ∈ members.map (·.2), ∃ node,
      Inside (.object node) value ∧ LocalReference node pointer
  | [] => by simp [Value.localPointers.ofMembers]
  | (key, value) :: rest => by
      intro spelled
      rw [Value.localPointers.ofMembers, List.mem_append] at spelled
      rw [List.map_cons, List.exists_mem_cons_iff]
      exact spelled.imp (node_of_spelled value) (node_of_spelled_in_members rest)

end

theorem spelled_iff : pointer ∈ value.localPointers ↔
    ∃ members, Inside (.object members) value ∧ LocalReference members pointer := by
  constructor
  · exact node_of_spelled value
  · rintro ⟨members, inside, node⟩
    refine spelled_inside inside ?_
    rw [Value.localPointers, List.mem_append]
    exact .inl (mem_own_local_pointer_iff.2 node)

end Spelling

/-- A request to the resolver: a value, and the state in which it is to be resolved. -/
structure Call where
  progress : Progress
  value : Value

/-- While the first call is answered, the second one is made. The list holds the pointer whose
target that is, if it is one. -/
inductive Asks (root : Value) (options : RefOptions) : Call → List String → Call → Prop where
  | item {progress : Progress} {earlier later : List Value} {item : Value}
      {done : Outcome progress (List Value)}
      (resolved : resolveItems root options progress earlier = .ok done) :
      Asks root options ⟨progress, .array (earlier ++ item :: later)⟩ [] ⟨done.after, item⟩
  | member {progress : Progress} {earlier later : Members} {key : String} {value : Value}
      {done : Outcome progress (List (String × Value))}
      (plain : referencePointer? (earlier ++ (key, value) :: later) = none)
      (resolved : resolveMembers root options progress earlier = .ok done) :
      Asks root options ⟨progress, .object (earlier ++ (key, value) :: later)⟩ []
        ⟨done.after, value⟩
  | target {progress : Progress} {members : Members} {pointer : String} {target : Value}
      (node : LocalReference members pointer) (fresh : Fresh progress pointer)
      (reached : Pointer.navigate root pointer = .ok target) :
      Asks root options ⟨progress, .object members⟩ [pointer] ⟨progress.enter pointer, target⟩

/-- Calls that are made inside one another, with the pointers whose targets they go through,
innermost first. -/
inductive Nested (root : Value) (options : RefOptions) (first : Call) :
    List String → Call → Prop where
  | start : Nested root options first [] first
  | deeper {opened more : List String} {caller callee : Call}
      (outer : Nested root options first opened caller)
      (asks : Asks root options caller more callee) :
      Nested root options first (more ++ opened) callee

section Descent

variable {root : Value} {options : RefOptions} {first caller callee : Call} {opened : List String}

/-- A call is made for a smaller value, or for a target whose pointer it adds to those in
progress. -/
theorem Asks.descends (asks : Asks root options caller opened callee) :
    opened = [] ∧ callee.progress.inProgress = caller.progress.inProgress ∧
        sizeOf callee.value < sizeOf caller.value ∨
      ∃ pointer, opened = [pointer] ∧ pointer ∉ caller.progress.inProgress ∧
        callee.progress.inProgress = pointer :: caller.progress.inProgress := by
  cases asks with
  | @item progress earlier later item done resolved =>
      have smaller : sizeOf item < sizeOf (earlier ++ item :: later) :=
        List.sizeOf_lt_of_mem List.mem_append_cons_self
      refine .inl ⟨rfl, done.sameOpen, ?_⟩
      simp only [Value.array.sizeOf_spec]
      omega
  | @member progress earlier later key value done plain resolved =>
      have smaller : sizeOf (key, value) < sizeOf (earlier ++ (key, value) :: later) :=
        List.sizeOf_lt_of_mem List.mem_append_cons_self
      refine .inl ⟨rfl, done.sameOpen, ?_⟩
      simp only [Value.object.sizeOf_spec]
      simp only [Prod.mk.sizeOf_spec] at smaller
      omega
  | target node fresh reached => exact .inr ⟨_, rfl, fresh.closed, rfl⟩

theorem Asks.in_progress_eq (asks : Asks root options caller opened callee) :
    callee.progress.inProgress = opened ++ caller.progress.inProgress := by
  rcases asks.descends with ⟨rfl, same, _⟩ | ⟨pointer, rfl, _, entered⟩
  · exact same
  · exact entered

theorem Asks.opened_spelled (asks : Asks root options caller opened callee) :
    ∀ pointer ∈ opened, pointer ∈ caller.value.localPointers := by
  cases asks with
  | item => simp
  | member => simp
  | target node =>
      intro pointer present
      obtain rfl := List.mem_singleton.1 present
      exact spelled_iff.2 ⟨_, .here _, node⟩

/-- A call brings up no pointer that neither its caller nor the root spells. -/
theorem Asks.spelled (asks : Asks root options caller opened callee) {pointer : String}
    (spelled : pointer ∈ callee.value.localPointers) :
    pointer ∈ caller.value.localPointers ++ root.localPointers := by
  rw [List.mem_append]
  cases asks with
  | item => exact .inl (spelled_inside (.item List.mem_append_cons_self (.here _)) spelled)
  | member => exact .inl (spelled_inside (.member List.mem_append_cons_self (.here _)) spelled)
  | target node fresh reached =>
      exact .inr (spelled_inside (Pointer.inside_of_navigate reached) spelled)

/-- The spelled pointers that are not in progress, and the size of the value. -/
noncomputable def Call.measure (root : Value) (call : Call) : Nat × Nat :=
  ((unopened (call.value.localPointers ++ root.localPointers) call.progress.inProgress).length,
    sizeOf call.value)

theorem Asks.measure_lt (asks : Asks root options caller opened callee) :
    Prod.Lex (· < ·) (· < ·) (callee.measure root) (caller.measure root) := by
  have subset : ∀ pointer ∈ callee.value.localPointers ++ root.localPointers,
      pointer ∈ caller.value.localPointers ++ root.localPointers := by
    intro pointer spelled
    rcases List.mem_append.1 spelled with inValue | inRoot
    · exact asks.spelled inValue
    · exact List.mem_append_right _ inRoot
  rcases asks.descends with ⟨_, same, smaller⟩ | ⟨pointer, rfl, new, entered⟩
  · rw [Call.measure, same]
    exact Prod.Lex.right' _ (unopened_length_le subset) smaller
  · rw [Call.measure, entered]
    have spelled := asks.opened_spelled pointer List.mem_cons_self
    exact Prod.Lex.left _ _ (unopened_length_lt subset (List.mem_append_left _ spelled) new)

theorem asks_well_founded (root : Value) (options : RefOptions) :
    WellFounded fun callee caller => ∃ opened, Asks root options caller opened callee := by
  have measured : WellFounded fun callee caller : Call =>
      Prod.Lex (· < ·) (· < ·) (callee.measure root) (caller.measure root) :=
    InvImage.wf (Call.measure root) (Prod.lex Nat.lt_wfRel Nat.lt_wfRel).wf
  refine Subrelation.wf ?_ measured
  rintro callee caller ⟨opened, asks⟩
  exact asks.measure_lt

end Descent

section Depth

variable {root value : Value} {options : RefOptions} {call : Call} {opened : List String}

structure Contained (root value : Value) (opened : List String) (call : Call) : Prop where
  inProgress : call.progress.inProgress = opened
  distinct : opened.Nodup
  opened : ∀ pointer ∈ opened, pointer ∈ value.localPointers ++ root.localPointers
  spelled : ∀ pointer ∈ call.value.localPointers,
    pointer ∈ value.localPointers ++ root.localPointers

theorem Contained.asks {caller callee : Call} {more : List String}
    (contained : Contained root value opened caller)
    (asks : Asks root options caller more callee) :
    Contained root value (more ++ opened) callee where
  inProgress := by rw [asks.in_progress_eq, contained.inProgress]
  distinct := by
    rcases asks.descends with ⟨rfl, _, _⟩ | ⟨pointer, rfl, new, _⟩
    · exact contained.distinct
    · rw [contained.inProgress] at new
      exact List.nodup_cons.2 ⟨new, contained.distinct⟩
  opened := by
    intro pointer present
    rcases List.mem_append.1 present with newer | older
    · exact contained.spelled pointer (asks.opened_spelled pointer newer)
    · exact contained.opened pointer older
  spelled := by
    intro pointer spelled
    rcases List.mem_append.1 (asks.spelled spelled) with inCaller | inRoot
    · exact contained.spelled pointer inCaller
    · exact List.mem_append_right _ inRoot

theorem contained_of_nested (nested : Nested root options ⟨.start, value⟩ opened call) :
    Contained root value opened call := by
  induction nested with
  | start =>
      exact ⟨rfl, List.nodup_nil, by simp, fun _ spelled => List.mem_append_left _ spelled⟩
  | deeper _ asks ih => exact ih.asks asks

end Depth

def Outcome.bare {α : Type} {progress : Progress} (done : Outcome progress α) : α × Progress :=
  (done.result, done.after)

abbrev Answers := Progress → Value → Except ReferenceError (Value × Progress)

namespace Answers

def items (answers : Answers) : Progress → List Value →
    Except ReferenceError (List Value × Progress)
  | progress, [] => .ok ([], progress)
  | progress, item :: rest => do
      let first ← answers progress item
      let others ← items answers first.2 rest
      return (first.1 :: others.1, others.2)

def members (answers : Answers) : Progress → Members → Except ReferenceError (Members × Progress)
  | progress, [] => .ok ([], progress)
  | progress, (key, value) :: rest => do
      let first ← answers progress value
      let others ← members answers first.2 rest
      return ((key, first.1) :: others.1, others.2)

/-- One level of the recursion. What it asks for is answered as given. -/
def level (root : Value) (options : RefOptions) (answers : Answers) (progress : Progress) :
    Value → Except ReferenceError (Value × Progress)
  | .array items => do
      let done ← answers.items progress items
      return (.array done.1, done.2)
  | .object members =>
      match referencePointer? members with
      | none => do
          let done ← answers.members progress members
          return (.object done.1, done.2)
      | some pointer =>
          if Pointer.isLocal pointer = true then
            match progress.cached? pointer with
            | some resolved => .ok (resolved, progress)
            | none =>
                if pointer ∈ progress.inProgress then
                  match options.onCycle with
                  | .refuse => .error (.circular pointer)
                  | .preserve => .ok (.object members, progress.keep pointer)
                else do
                  let target ← Pointer.navigate root pointer
                  let done ← answers (progress.enter pointer) target
                  return (done.1, done.2.finish options pointer done.1)
          else .ok (.object members, progress)
  | scalar => .ok (scalar, progress)

def ofResolver (root : Value) (options : RefOptions) : Answers := fun progress value =>
  (resolveValue root options progress value).map Outcome.bare

variable {root value : Value} {options : RefOptions} {answers : Answers} {progress : Progress}

def Right (root : Value) (options : RefOptions) (answers : Answers) (call : Call) : Prop :=
  answers call.progress call.value = ofResolver root options call.progress call.value

theorem items_right {items : List Value}
    (right : ∀ earlier item later done, items = earlier ++ item :: later →
      resolveItems root options progress earlier = .ok done →
      answers.Right root options ⟨done.after, item⟩) :
    answers.items progress items = (resolveItems root options progress items).map Outcome.bare := by
  induction items generalizing progress with
  | nil => rw [Answers.items, resolveItems]; rfl
  | cons item rest ih =>
      have here : answers progress item = ofResolver root options progress item :=
        right [] item rest ⟨[], progress, rfl⟩ rfl (by rw [resolveItems])
      rw [Answers.items, resolveItems, here, ofResolver]
      cases resolved : resolveValue root options progress item with
      | error error => rfl
      | ok first =>
          have onward : answers.items first.after rest =
              (resolveItems root options first.after rest).map Outcome.bare := by
            apply ih
            intro earlier other later done split walked
            refine right (item :: earlier) other later
              ⟨first.result :: done.result, done.after, done.sameOpen.trans first.sameOpen⟩
              (by rw [split, List.cons_append]) ?_
            simp only [resolveItems, resolved, walked]
          show (do
            let others ← answers.items first.after rest
            return (first.result :: others.1, others.2)) = _
          rw [onward]
          cases walked : resolveItems root options first.after rest <;>
            simp only [walked] <;> rfl

theorem members_right {members : Members}
    (right : ∀ earlier key value later done, members = earlier ++ (key, value) :: later →
      resolveMembers root options progress earlier = .ok done →
      answers.Right root options ⟨done.after, value⟩) :
    answers.members progress members =
      (resolveMembers root options progress members).map Outcome.bare := by
  induction members generalizing progress with
  | nil => rw [Answers.members, resolveMembers]; rfl
  | cons member rest ih =>
      obtain ⟨key, value⟩ := member
      have here : answers progress value = ofResolver root options progress value :=
        right [] key value rest ⟨[], progress, rfl⟩ rfl (by rw [resolveMembers])
      rw [Answers.members, resolveMembers, here, ofResolver]
      cases resolved : resolveValue root options progress value with
      | error error => rfl
      | ok first =>
          have onward : answers.members first.after rest =
              (resolveMembers root options first.after rest).map Outcome.bare := by
            apply ih
            intro earlier other inner later done split walked
            refine right ((key, value) :: earlier) other inner later
              ⟨(key, first.result) :: done.result, done.after,
                done.sameOpen.trans first.sameOpen⟩
              (by rw [split, List.cons_append]) ?_
            simp only [resolveMembers, resolved, walked]
          show (do
            let others ← answers.members first.after rest
            return ((key, first.result) :: others.1, others.2)) = _
          rw [onward]
          cases walked : resolveMembers root options first.after rest <;>
            simp only [walked] <;> rfl

/-- A level needs nothing but right answers to the calls that it makes. -/
theorem level_right (right : ∀ opened callee, Asks root options ⟨progress, value⟩ opened callee →
      answers.Right root options callee) :
    level root options answers progress value = ofResolver root options progress value := by
  unfold ofResolver
  cases value with
  | array items =>
      have walked : answers.items progress items =
          (resolveItems root options progress items).map Outcome.bare := by
        refine items_right fun earlier item later done split resolved => ?_
        subst split
        exact right _ _ (.item resolved)
      rw [level, resolveValue, walked]
      cases resolveItems root options progress items <;> rfl
  | object members =>
      cases reference : referencePointer? members with
      | none =>
          have walked : answers.members progress members =
              (resolveMembers root options progress members).map Outcome.bare := by
            refine members_right fun earlier key value later done split resolved => ?_
            subst split
            exact right _ _ (.member reference resolved)
          rw [resolve_plain_mapping reference, level, reference]
          simp only [walked]
          cases resolveMembers root options progress members <;> rfl
      | some pointer =>
          cases isLocal : Pointer.isLocal pointer with
          | false =>
              rw [resolve_external_reference reference isLocal, level, reference]
              simp [isLocal, Except.map, Outcome.bare]
          | true =>
              have node : LocalReference members pointer := ⟨reference, isLocal⟩
              rw [resolve_local_reference node, level, reference]
              simp only [isLocal, if_true]
              cases cached : progress.cached? pointer with
              | some resolved => rfl
              | none =>
                  by_cases opened : pointer ∈ progress.inProgress
                  · simp only [if_pos opened]
                    cases options.onCycle <;> rfl
                  · simp only [if_neg opened]
                    cases reached : Pointer.navigate root pointer with
                    | error error => rfl
                    | ok target =>
                        have asked : answers (progress.enter pointer) target =
                            ofResolver root options (progress.enter pointer) target :=
                          right _ _ (.target node ⟨cached, opened⟩ reached)
                        show (do
                          let done ← answers (progress.enter pointer) target
                          return (done.1, done.2.finish options pointer done.1)) = _
                        rw [asked, ofResolver]
                        cases finished : resolveValue root options (progress.enter pointer) target <;>
                          simp only [finished] <;> rfl
  | null | bool | number | string => rw [level, resolveValue] <;> simp [Except.map, Outcome.bare]

/-- The equation of the recursion has one solution. -/
theorem solves_iff : (∀ progress value,
    answers progress value = level root options answers progress value) ↔
      answers = ofResolver root options := by
  constructor
  · intro solves
    funext progress value
    refine (asks_well_founded root options).induction
      (C := answers.Right root options) ⟨progress, value⟩ fun call ih => ?_
    rw [Right, solves]
    exact level_right fun opened callee asks => ih callee ⟨opened, asks⟩
  · rintro rfl progress value
    exact (level_right fun _ _ _ => rfl).symm

end Answers

/-- The recursion of the resolver comes to an end on every value, root and options. Its calls
descend along a well-founded relation, each to a smaller value or to a pointer that it opens;
the open pointers are distinct and spelled, so their number is bounded; and the equation of
the recursion, which limits nothing, determines the resolver. -/
theorem resolver_recursion_ends (root : Value) (options : RefOptions) :
    (WellFounded fun callee caller => ∃ opened, Asks root options caller opened callee) ∧
    (∀ caller opened callee, Asks root options caller opened callee →
      opened = [] ∧ callee.progress.inProgress = caller.progress.inProgress ∧
          sizeOf callee.value < sizeOf caller.value ∨
        ∃ pointer, opened = [pointer] ∧ pointer ∉ caller.progress.inProgress ∧
          callee.progress.inProgress = pointer :: caller.progress.inProgress) ∧
    (∀ value opened call, Nested root options ⟨.start, value⟩ opened call →
      call.progress.inProgress = opened ∧ opened.Nodup ∧
        (∀ pointer ∈ opened, ∃ members, LocalReference members pointer ∧
          (Inside (.object members) value ∨ Inside (.object members) root)) ∧
        opened.length ≤ (distinct (value.localPointers ++ root.localPointers)).length) ∧
    ∀ answers : Answers,
      (∀ progress value, answers progress value = answers.level root options progress value) ↔
        answers = Answers.ofResolver root options := by
  refine ⟨asks_well_founded root options, fun _ _ _ asks => asks.descends, ?_,
    fun _ => Answers.solves_iff⟩
  intro value opened call nested
  have contained := contained_of_nested nested
  refine ⟨contained.inProgress, contained.distinct, fun pointer present => ?_, ?_⟩
  · rcases List.mem_append.1 (contained.opened pointer present) with inValue | inRoot
    · obtain ⟨members, inside, node⟩ := spelled_iff.1 inValue
      exact ⟨members, node, .inl inside⟩
    · obtain ⟨members, inside, node⟩ := spelled_iff.1 inRoot
      exact ⟨members, node, .inr inside⟩
  · exact length_le_of_nodup_subset contained.distinct fun pointer present =>
      mem_distinct.2 (contained.opened pointer present)

/-- Through `a`, `b` and `c` a resolution is inside as many targets as pointers are spelled. -/
def innermostCall : Call where
  progress := ((Progress.start.enter "#/components/a").enter "#/components/b").enter "#/components/c"
  value := .array [.object (referenceTo "#/components/b"), .object (referenceTo "#/components/a")]

theorem nested_through_all : Nested nestedDocument {} ⟨.start, .object (referenceTo "#/components/a")⟩
    ["#/components/c", "#/components/b", "#/components/a"] innermostCall := by
  obtain ⟨reachedA, reachedB, reachedC⟩ := nested_targets
  have freshA : Fresh .start "#/components/a" := ⟨rfl, by simp⟩
  have freshB : Fresh (Progress.start.enter "#/components/a") "#/components/b" :=
    ⟨rfl, by decide⟩
  have freshC : Fresh ((Progress.start.enter "#/components/a").enter "#/components/b")
      "#/components/c" := ⟨rfl, by decide⟩
  have outermost := @Nested.start nestedDocument {} ⟨.start, .object (referenceTo "#/components/a")⟩
  have intoA := outermost.deeper (.target (node_of_reference_to _ rfl) freshA reachedA)
  have intoB := intoA.deeper (.target (node_of_reference_to _ rfl) freshB reachedB)
  exact intoB.deeper (.target (node_of_reference_to _ rfl) freshC reachedC)

theorem nested_targets_meet_bound :
    Nested nestedDocument {} ⟨.start, .object (referenceTo "#/components/a")⟩
        ["#/components/c", "#/components/b", "#/components/a"] innermostCall ∧
      3 ≤ (distinct ((Value.object (referenceTo "#/components/a")).localPointers ++
        nestedDocument.localPointers)).length ∧
      (distinct ((Value.object (referenceTo "#/components/a")).localPointers ++
        nestedDocument.localPointers)).length = 3 :=
  ⟨nested_through_all,
    ((resolver_recursion_ends nestedDocument {}).2.2.1 _ _ _ nested_through_all).2.2.2, by decide⟩

end RefLint
