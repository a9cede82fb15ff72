import RefLint.Lint.Document
import RefLint.Proofs.ReachablePointers

/-!
# What the linter reports

Every diagnostic about a pointer stands where the pointer occurs. A dangling
pointer is an error at each of its occurrences. A pointer is reported as circular
when one of the searches that start from the occurring pointers preserves it; a
search that meets a dangling pointer preserves nothing.
-/

namespace RefLint.Lint

set_option autoImplicit false

section Occurrences

variable {pointer : String}

theorem occurs_of_scalar {path : String} {value : Value} (scalar : value.IsScalar) :
    (∃ occurrence ∈ occurrences path value, occurrence.pointer = pointer) ↔
      Visible value pointer := by
  have hidden : ¬Visible value pointer := not_visible_of_scalar scalar
  cases value with
  | array => contradiction
  | object => contradiction
  | null | bool | number | string => simpa [occurrences] using hidden

-- The walk carries a path along, which decides nothing, so the path is general throughout.
mutual

theorem occurs_iff_visible (isLocal : Pointer.isLocal pointer = true) (path : String) :
    ∀ value, (∃ occurrence ∈ occurrences path value, occurrence.pointer = pointer) ↔
      Visible value pointer
  | .object members => by
      cases reference : referencePointer? members with
      | some other =>
          simp only [occurrences, reference, List.mem_singleton, exists_eq_left]
          constructor
          · rintro rfl
            exact .here ⟨reference, isLocal⟩
          · intro visible
            cases visible with
            | here node => exact Option.some.inj (reference.symm.trans node.reference)
            | member plain => simp [reference] at plain
      | none =>
          rw [visible_mapping_iff reference]
          simp only [occurrences, reference]
          exact occurs_in_members isLocal path members
  | .array items => by
      rw [visible_sequence_iff]
      exact occurs_in_items isLocal path 0 items
  | .null => occurs_of_scalar trivial
  | .bool _ => occurs_of_scalar trivial
  | .number _ => occurs_of_scalar trivial
  | .string _ => occurs_of_scalar trivial

theorem occurs_in_items (isLocal : Pointer.isLocal pointer = true) (path : String)
    (position : Nat) : ∀ items, (∃ occurrence ∈ occurrences.ofItems path position items,
      occurrence.pointer = pointer) ↔ ∃ item ∈ items, Visible item pointer
  | [] => by simp [occurrences.ofItems]
  | item :: rest => by
      simp only [occurrences.ofItems, List.mem_append, or_and_right, exists_or,
        List.exists_mem_cons_iff, occurs_iff_visible isLocal _ item,
        occurs_in_items isLocal path (position + 1) rest]

theorem occurs_in_members (isLocal : Pointer.isLocal pointer = true) (path : String) :
    ∀ members : Members, (∃ occurrence ∈ occurrences.ofMembers path members,
      occurrence.pointer = pointer) ↔ ∃ value ∈ members.map (·.2), Visible value pointer
  | [] => by simp [occurrences.ofMembers]
  | (key, value) :: rest => by
      simp only [occurrences.ofMembers, List.mem_append, or_and_right, exists_or, List.map_cons,
        List.exists_mem_cons_iff, occurs_iff_visible isLocal _ value,
        occurs_in_members isLocal path rest]

end

end Occurrences

section Problems

variable {document : Value} {pointer : String} {problem : Problem}

theorem pointer_problem_eq_none_iff : pointerProblem? document pointer = none ↔
    Pointer.isLocal pointer = true ∧ Navigates document pointer := by
  unfold pointerProblem? Navigates
  cases Pointer.isLocal pointer with
  | false => simp
  | true =>
      cases Pointer.navigate document pointer with
      | ok target => simp
      | error error => simp

theorem pointer_problem_is_error_iff :
    (∃ problem, pointerProblem? document pointer = some problem ∧ problem.severity = .error) ↔
      Pointer.isLocal pointer = true ∧ ¬Navigates document pointer := by
  unfold pointerProblem? Navigates
  cases Pointer.isLocal pointer with
  | false => simp [Problem.severity]
  | true =>
      cases Pointer.navigate document pointer with
      | ok target => simp
      | error error => simp [Problem.severity]

theorem flaw_code_listed (found : pointerProblem? document pointer = some problem) :
    problem.code ∈ ["E002", "E003", "W002"] := by
  unfold pointerProblem? at found
  split at found
  · split at found
    · contradiction
    · rename_i error _
      obtain rfl := Option.some.inj found
      cases error <;> simp [Problem.code]
  · obtain rfl := Option.some.inj found
    simp [Problem.code]

theorem code_of_pointer_problem (found : pointerProblem? document pointer = some problem) :
    problem.code ≠ "W001" := by
  intro cyclic
  have listed := flaw_code_listed found
  simp [cyclic] at listed

end Problems

section Report

variable {document : Value} {file pointer path : String} {diagnostic : Diagnostic}

inductive Reported (document : Value) (pointer : String) : Problem → Prop where
  | flawed {problem : Problem} (found : pointerProblem? document pointer = some problem) :
      Reported document pointer problem
  | cyclic {first : Occurrence} (occurs : first ∈ occurrences "" document)
      (followable : pointerProblem? document first.pointer = none)
      (found : pointer ∈ cyclesFrom document first.pointer) :
      Reported document pointer (.circular pointer)

theorem mem_report_iff {found : List Occurrence} {problem : Problem} :
    diagnostic ∈ (pathsOf found pointer).map (Diagnostic.atPath problem file) ↔
      ∃ occurrence ∈ found, occurrence.pointer = pointer ∧
        diagnostic = .atPath problem file occurrence.path := by
  simp only [pathsOf, List.map_map, List.mem_map, List.mem_filter, decide_eq_true_eq,
    Function.comp_apply, and_assoc, eq_comm (a := diagnostic)]

theorem mem_pointers_iff {found : List Occurrence} :
    pointer ∈ (NameSet.ofList (found.map (·.pointer))).toList ↔
      ∃ occurrence ∈ found, occurrence.pointer = pointer := by
  rw [← NameSet.mem_def, NameSet.mem_of_list, List.mem_map]

theorem mem_flawed_iff {found : List Occurrence} :
    diagnostic ∈ (NameSet.ofList (found.map (·.pointer))).toList.flatMap (fun pointer =>
      match pointerProblem? document pointer with
      | some problem => (pathsOf found pointer).map (Diagnostic.atPath problem file)
      | none => []) ↔
    ∃ occurrence ∈ found, ∃ problem, pointerProblem? document occurrence.pointer = some problem ∧
      diagnostic = .atPath problem file occurrence.path := by
  simp only [List.mem_flatMap, mem_pointers_iff]
  constructor
  · rintro ⟨pointer, _, reported⟩
    split at reported
    · rename_i problem problemFound
      obtain ⟨occurrence, present, rfl, same⟩ := mem_report_iff.1 reported
      exact ⟨occurrence, present, problem, problemFound, same⟩
    · simp at reported
  · rintro ⟨occurrence, present, problem, problemFound, same⟩
    refine ⟨occurrence.pointer, ⟨occurrence, present, rfl⟩, ?_⟩
    rw [problemFound]
    exact mem_report_iff.2 ⟨occurrence, present, rfl, same⟩

theorem mem_unions_iff {pointers : List String} {names : NameSet} :
    pointer ∈ pointers.foldl (fun names first => names.union (cyclesFrom document first)) names ↔
      pointer ∈ names ∨ ∃ first ∈ pointers, pointer ∈ cyclesFrom document first := by
  induction pointers generalizing names with
  | nil => simp
  | cons first rest ih =>
      rw [List.foldl_cons, ih, NameSet.mem_union, List.exists_mem_cons_iff, or_assoc]

theorem mem_cycles_iff {found : List Occurrence} {circular : NameSet} :
    diagnostic ∈ circular.toList.flatMap (fun pointer =>
      (pathsOf found pointer).map (Diagnostic.atPath (.circular pointer) file)) ↔
    ∃ occurrence ∈ found, occurrence.pointer ∈ circular ∧
      diagnostic = .atPath (.circular occurrence.pointer) file occurrence.path := by
  simp only [List.mem_flatMap, mem_report_iff]
  constructor
  · rintro ⟨_, listed, occurrence, present, rfl, same⟩
    exact ⟨occurrence, present, listed, same⟩
  · rintro ⟨occurrence, present, listed, same⟩
    exact ⟨occurrence.pointer, listed, occurrence, present, rfl, same⟩

theorem mem_circular_iff {found : List Occurrence} :
    pointer ∈ ((NameSet.ofList (found.map (·.pointer))).toList.filter fun pointer =>
      (pointerProblem? document pointer).isNone).foldl
        (fun names first => names.union (cyclesFrom document first)) NameSet.empty ↔
    ∃ first ∈ found, pointerProblem? document first.pointer = none ∧
      pointer ∈ cyclesFrom document first.pointer := by
  simp only [mem_unions_iff, NameSet.not_mem_empty, false_or, List.mem_filter, mem_pointers_iff,
    Option.isNone_iff_eq_none]
  constructor
  · rintro ⟨_, ⟨⟨first, present, rfl⟩, followable⟩, listed⟩
    exact ⟨first, present, followable, listed⟩
  · rintro ⟨first, present, followable, listed⟩
    exact ⟨first.pointer, ⟨⟨first, present, rfl⟩, followable⟩, listed⟩

theorem mem_lint_iff : diagnostic ∈ lintDocument document file ↔
    (∃ occurrence ∈ occurrences "" document, ∃ problem,
      Reported document occurrence.pointer problem ∧
        diagnostic = .atPath problem file occurrence.path) ∨
    ((document.member? "openapi").isNone ∧ (document.member? "swagger").isNone) ∧
      diagnostic = .atPath .noVersion file "/" ∨
    hasJsonApiContent document = false ∧ diagnostic = .atPath .noJsonApiContent file "/" := by
  rw [lintDocument, List.mem_append, List.mem_append, List.mem_append, or_assoc]
  refine or_congr ((or_congr mem_flawed_iff mem_cycles_iff).trans ?_) (or_congr ?_ ?_)
  · constructor
    · rintro (⟨occurrence, present, problem, found, same⟩ | ⟨occurrence, present, listed, same⟩)
      · exact ⟨occurrence, present, problem, .flawed found, same⟩
      · obtain ⟨first, occurs, followable, found⟩ := mem_circular_iff.1 listed
        exact ⟨occurrence, present, _, .cyclic occurs followable found, same⟩
    · rintro ⟨occurrence, present, problem, reported, same⟩
      cases reported with
      | flawed found => exact .inl ⟨occurrence, present, problem, found, same⟩
      | cyclic occurs followable found =>
          exact .inr ⟨occurrence, present,
            mem_circular_iff.2 ⟨_, occurs, followable, found⟩, same⟩
  · rw [← Bool.and_eq_true]
    cases (document.member? "openapi").isNone && (document.member? "swagger").isNone with
    | false => simp
    | true => simp
  · cases hasJsonApiContent document with
    | false => simp
    | true => simp

end Report

end RefLint.Lint
