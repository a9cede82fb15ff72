import RefLint.Proofs.LintReport
import RefLint.Proofs.ResolverOptions

/-!
# The linter and the resolver

The linter judges the pointers that are visible in a document, the resolver all
that are reachable. A reachable pointer need not be visible: it may be spelled
beside a `$ref`, where another pointer leads. The two agree exactly when the
visible pointers already decide, and so on every document with nothing to follow
beside a `$ref`.
-/

namespace RefLint.Lint

set_option autoImplicit false

section CycleSearch

variable {document : Value} {pointer next : String}

theorem reachable_search_iff (isLocal : Pointer.isLocal pointer = true) :
    Reachable document (.object [(referenceKey, .string pointer)]) next ↔
      Relation.ReflTransGen (Edge document) pointer next := by
  constructor
  · rintro ⟨first, visible, path⟩
    rw [visible_reference_iff (node_of_reference_to pointer isLocal)] at visible
    exact visible ▸ path
  · intro path
    exact ⟨pointer, .here (node_of_reference_to pointer isLocal), path⟩

theorem cycles_from_sound (isLocal : Pointer.isLocal pointer = true)
    (found : next ∈ cyclesFrom document pointer) :
    (∀ later, Relation.ReflTransGen (Edge document) pointer later → Navigates document later) ∧
      Relation.ReflTransGen (Edge document) pointer next ∧ Reaches document next next := by
  unfold cyclesFrom at found
  split at found
  · rename_i resolution resolved
    have searched := searched_of_resolved resolved
    have cyclic := searched.preserved next found
    refine ⟨fun later path => ?_, (reachable_search_iff isLocal).1 cyclic.2.1, cyclic.2.2⟩
    exact searched.navigates later ((reachable_search_iff isLocal).2 path)
  · simp at found

/-- The search from a pointer on a cycle preserves the pointer itself, whichever
other pointers lie on the cycle. -/
theorem cycles_from_self (isLocal : Pointer.isLocal pointer = true)
    (navigates : ∀ later, Relation.ReflTransGen (Edge document) pointer later →
      Navigates document later) (cyclic : Reaches document pointer pointer) :
    pointer ∈ cyclesFrom document pointer := by
  have node := node_of_reference_to pointer isLocal
  obtain ⟨target, reached⟩ := navigates pointer .refl
  have preserves : searchOptions.onCycle = .preserve := rfl
  obtain ⟨resolution, resolved⟩ := (resolve_refs_preserve_iff preserves).2
    fun later reachable => navigates later ((reachable_search_iff isLocal).1 reachable)
  rw [cyclesFrom, resolved]
  obtain ⟨done, finished, rfl⟩ := resolve_refs_eq_ok resolved
  -- The search opens the pointer first, so it stays open until the search ends.
  obtain ⟨inner, targetFinished, after⟩ :=
    resolved_target_of_fresh node ⟨rfl, by simp⟩ reached finished
  have explored := (resolver_explores document searchOptions).of_finished targetFinished
  have preserved := explored.preserves_opened reached inner.sameOpen cyclic
  simpa [after] using preserved

end CycleSearch

section Verdict

variable {document : Value} {file : String}

theorem visible_of_occurs {occurrence : Occurrence}
    (occurs : occurrence ∈ occurrences "" document)
    (isLocal : Pointer.isLocal occurrence.pointer = true) : Visible document occurrence.pointer :=
  (occurs_iff_visible isLocal "" document).1 ⟨occurrence, occurs, rfl⟩

theorem reports_error_iff : (∃ diagnostic ∈ lintDocument document file,
    diagnostic.severity = .error) ↔
      ∃ pointer, Visible document pointer ∧ ¬Navigates document pointer := by
  constructor
  · rintro ⟨diagnostic, reported, isError⟩
    rcases mem_lint_iff.1 reported with
      ⟨occurrence, occurs, problem, cause, rfl⟩ | ⟨_, rfl⟩ | ⟨_, rfl⟩
    · cases cause with
      | flawed found =>
          obtain ⟨isLocal, dangling⟩ := pointer_problem_is_error_iff.1 ⟨problem, found, isError⟩
          exact ⟨_, visible_of_occurs occurs isLocal, dangling⟩
      | cyclic => contradiction
    · contradiction
    · contradiction
  · rintro ⟨pointer, visible, dangling⟩
    have isLocal := visible.is_local
    obtain ⟨occurrence, occurs, rfl⟩ := (occurs_iff_visible isLocal "" document).2 visible
    obtain ⟨problem, found, isError⟩ := pointer_problem_is_error_iff.2 ⟨isLocal, dangling⟩
    exact ⟨_, mem_lint_iff.2 (.inl ⟨occurrence, occurs, problem, .flawed found, rfl⟩), isError⟩

theorem reports_cycle_iff : (∃ diagnostic ∈ lintDocument document file,
    diagnostic.problem.code = "W001") ↔
      ∃ pointer, Visible document pointer ∧ Reaches document pointer pointer ∧
        ∀ later, Relation.ReflTransGen (Edge document) pointer later →
          Navigates document later := by
  constructor
  · rintro ⟨diagnostic, reported, code⟩
    rcases mem_lint_iff.1 reported with
      ⟨occurrence, occurs, problem, cause, rfl⟩ | ⟨_, rfl⟩ | ⟨_, rfl⟩
    · cases cause with
      | flawed found => exact absurd code (code_of_pointer_problem found)
      | cyclic first followable found =>
          obtain ⟨isLocal, _⟩ := pointer_problem_eq_none_iff.1 followable
          obtain ⟨navigates, path, cyclic⟩ := cycles_from_sound isLocal found
          exact ⟨_, visible_of_occurs occurs (is_local_of_reaches cyclic), cyclic,
            fun later onward => navigates later (path.trans onward)⟩
    · exact absurd code (show Problem.noVersion.code ≠ "W001" by decide)
    · exact absurd code (show Problem.noJsonApiContent.code ≠ "W001" by decide)
  · rintro ⟨pointer, visible, cyclic, navigates⟩
    have isLocal := visible.is_local
    obtain ⟨occurrence, occurs, rfl⟩ := (occurs_iff_visible isLocal "" document).2 visible
    have followable := pointer_problem_eq_none_iff.2 ⟨isLocal, navigates _ .refl⟩
    have cause := Reported.cyclic occurs followable (cycles_from_self isLocal navigates cyclic)
    exact ⟨_, mem_lint_iff.2 (.inl ⟨occurrence, occurs, _, cause, rfl⟩), rfl⟩

theorem no_error_iff : (∀ diagnostic ∈ lintDocument document file,
    diagnostic.severity ≠ .error) ↔
      ∀ pointer, Visible document pointer → Navigates document pointer := by
  have reports := not_congr (@reports_error_iff document file)
  simpa only [not_exists, not_and, not_not] using reports

theorem no_cycle_iff : (∀ diagnostic ∈ lintDocument document file,
    diagnostic.problem.code ≠ "W001") ↔
      ∀ pointer, Visible document pointer → Reaches document pointer pointer →
        ∃ later, Relation.ReflTransGen (Edge document) pointer later ∧
          ¬Navigates document later := by
  have reports := not_congr (@reports_cycle_iff document file)
  simpa only [not_exists, not_and, not_forall, exists_prop] using reports

/-- A circular pointer goes unreported only if a dangling one lies further on. -/
theorem clean_iff : (∀ diagnostic ∈ lintDocument document file,
    diagnostic.severity ≠ .error ∧ diagnostic.problem.code ≠ "W001") ↔
      ∀ pointer, Visible document pointer → Navigates document pointer ∧
        (Reaches document pointer pointer →
          ∃ later, Reaches document pointer later ∧ ¬Navigates document later) := by
  simp only [forall_and, no_error_iff, no_cycle_iff]
  refine and_congr_right fun navigates => ?_
  refine forall₃_congr fun pointer visible cyclic => exists_congr fun later => ?_
  -- A dangling pointer is not the one that was just seen to lead somewhere.
  refine and_congr_left fun dangling => ?_
  rw [Relation.reflTransGen_iff_eq_or_transGen]
  refine or_iff_right ?_
  rintro rfl
  exact dangling (navigates _ visible)

theorem dereference_succeeds_iff {options : RefOptions} :
    (∃ result, dereference document options = .ok result) ↔
      ∃ resolution, resolveRefs document document options = .ok resolution := by
  simp only [dereference_eq_ok]
  exact ⟨fun ⟨_, resolution, resolved, _⟩ => ⟨resolution, resolved⟩,
    fun ⟨resolution, resolved⟩ => ⟨_, resolution, resolved, rfl⟩⟩

/-- The linter's verdict on a document is the resolver's exactly when no reachable
pointer is worse than the visible ones. -/
theorem verdict_agrees_iff (document : Value) (file : String) :
    (((∀ diagnostic ∈ lintDocument document file, diagnostic.severity ≠ .error) ↔
          ∃ result, dereference document { onCycle := .preserve } = .ok result) ↔
        ((∀ pointer, Visible document pointer → Navigates document pointer) →
          ∀ pointer, Reachable document document pointer → Navigates document pointer)) ∧
      (((∀ diagnostic ∈ lintDocument document file,
            diagnostic.severity ≠ .error ∧ diagnostic.problem.code ≠ "W001") ↔
          ∃ result, dereference document {} = .ok result) ↔
        ((∀ pointer, Visible document pointer → Navigates document pointer ∧
            (Reaches document pointer pointer →
              ∃ later, Reaches document pointer later ∧ ¬Navigates document later)) →
          ∀ pointer, Reachable document document pointer →
            Navigates document pointer ∧ ¬Reaches document pointer pointer)) := by
  constructor
  · rw [no_error_iff, dereference_succeeds_iff, resolve_refs_preserve_iff rfl]
    constructor
    · exact Iff.mp
    · intro decides
      exact ⟨decides, fun navigates pointer visible => navigates pointer visible.reachable⟩
  · rw [clean_iff, dereference_succeeds_iff, resolve_refs_refuse_iff rfl]
    constructor
    · exact Iff.mp
    · intro decides
      refine ⟨decides, fun acyclic pointer visible => ?_⟩
      obtain ⟨navigates, notCyclic⟩ := acyclic pointer visible.reachable
      exact ⟨navigates, fun cyclic => absurd cyclic notCyclic⟩

end Verdict

section Beside

variable {root value document : Value} {pointer : String}

/-- The pointer is visible in a member that stands beside a `$ref`. -/
def Beside (root : Value) (pointer : String) : Prop :=
  ∃ members reference key value, Inside (.object members) root ∧
    referencePointer? members = some reference ∧ (key, value) ∈ members ∧ Visible value pointer

theorem Beside.outward (beside : Beside value pointer) (inside : Inside value root) :
    Beside root pointer := by
  obtain ⟨members, reference, key, member, place, found, present, visible⟩ := beside
  exact ⟨members, reference, key, member, place.trans inside, found, present, visible⟩

theorem visible_or_beside (inside : Inside value root) (visible : Visible value pointer) :
    Visible root pointer ∨ Beside root pointer := by
  induction inside with
  | here => exact .inl visible
  | @member value key members present _ ih =>
      rcases ih with deeper | beside
      · cases found : referencePointer? members with
        | none => exact .inl (.member found present deeper)
        | some reference =>
            exact .inr ⟨members, reference, key, value, .here _, found, present, deeper⟩
      · exact .inr (beside.outward (.member present (.here _)))
  | item present _ ih =>
      rcases ih with deeper | beside
      · exact .inl (.item present deeper)
      · exact .inr (beside.outward (.item present (.here _)))

/-- There is no other way to come to a pointer that is not visible. -/
theorem reachable_visible_or_beside (reachable : Reachable document document pointer) :
    Visible document pointer ∨ Beside document pointer := by
  obtain ⟨first, visible, path⟩ := reachable
  cases path with
  | refl => exact .inl visible
  | tail _ edge =>
      obtain ⟨target, reached, visible⟩ := edge
      exact visible_or_beside (Pointer.inside_of_navigate reached) visible

/-- The linter and the resolver agree on documents with nothing to follow beside a `$ref`. -/
theorem verdict_agrees_of_bare (bare : ∀ pointer, ¬Beside document pointer) (file : String) :
    ((∀ diagnostic ∈ lintDocument document file, diagnostic.severity ≠ .error) ↔
        ∃ result, dereference document { onCycle := .preserve } = .ok result) ∧
      ((∀ diagnostic ∈ lintDocument document file,
          diagnostic.severity ≠ .error ∧ diagnostic.problem.code ≠ "W001") ↔
        ∃ result, dereference document {} = .ok result) := by
  have visible_of_reachable : ∀ pointer, Reachable document document pointer →
      Visible document pointer :=
    fun pointer reachable => (reachable_visible_or_beside reachable).resolve_right (bare pointer)
  rw [no_error_iff, clean_iff, dereference_succeeds_iff, dereference_succeeds_iff,
    resolve_refs_preserve_iff rfl, resolve_refs_refuse_iff rfl]
  constructor
  · constructor
    · intro navigates pointer reachable
      exact navigates pointer (visible_of_reachable pointer reachable)
    · intro navigates pointer visible
      exact navigates pointer visible.reachable
  · constructor
    · intro clean pointer reachable
      obtain ⟨navigates, hidden⟩ := clean pointer (visible_of_reachable pointer reachable)
      refine ⟨navigates, fun cyclic => ?_⟩
      obtain ⟨later, path, dangling⟩ := hidden cyclic
      exact dangling (clean later (visible_of_reachable later (reachable.reaches path))).1
    · intro acyclic pointer visible
      obtain ⟨navigates, notCyclic⟩ := acyclic pointer visible.reachable
      exact ⟨navigates, fun cyclic => absurd cyclic notCyclic⟩

end Beside

section Hidden

def besideMembers : Members := [
  (referenceKey, .string "#/b"),
  ("side", .object [(referenceKey, .string "#/missing")])]

def hiddenMembers : Members := [
  ("a", .object besideMembers),
  ("b", .string "text"),
  ("c", .object [(referenceKey, .string "#/a/side")])]

/-- The pointer under `c` leads beside the `$ref` under `a`, to a dangling pointer. -/
def hiddenDocument : Value := .object hiddenMembers

theorem hidden_resolution (policy : CyclePolicy) :
    resolveRefs hiddenDocument hiddenDocument { onCycle := policy } =
      .error (.unresolvable "#/missing") := by
  have beside : LocalReference besideMembers "#/b" := ⟨rfl, rfl⟩
  have inward : LocalReference [(referenceKey, .string "#/a/side")] "#/a/side" := ⟨rfl, rfl⟩
  have dangling : LocalReference [(referenceKey, .string "#/missing")] "#/missing" := ⟨rfl, rfl⟩
  have text : Pointer.navigate hiddenDocument "#/b" = .ok (.string "text") := rfl
  have side : Pointer.navigate hiddenDocument "#/a/side" =
      .ok (.object [(referenceKey, .string "#/missing")]) := rfl
  have missing : Pointer.navigate hiddenDocument "#/missing" =
      .error (.unresolvable "#/missing") := rfl
  have document : referencePointer? hiddenMembers = none := rfl
  have run := @resolve_plain_mapping hiddenDocument { onCycle := policy } .start _ document
  rw [← hiddenDocument] at run
  rw [resolveRefs, run, hiddenMembers]
  simp [resolveMembers, resolve_local_reference beside, resolve_local_reference inward,
    resolve_local_reference dangling, text, side, missing, resolveValue, Progress.start,
    Progress.enter, Progress.cached?, Members.get?, Progress.finish]

theorem hidden_visible_iff {pointer : String} :
    Visible hiddenDocument pointer ↔ pointer = "#/b" ∨ pointer = "#/a/side" := by
  have beside : LocalReference besideMembers "#/b" := ⟨rfl, rfl⟩
  have inward : LocalReference [(referenceKey, .string "#/a/side")] "#/a/side" := ⟨rfl, rfl⟩
  have text : ¬Visible (.string "text") pointer := not_visible_of_scalar trivial
  have document : referencePointer? hiddenMembers = none := rfl
  rw [hiddenDocument, visible_mapping_iff document]
  simp [hiddenMembers, visible_reference_iff beside, visible_reference_iff inward, text]

/-- Nothing is wrong with the document according to the linter, and it does not resolve. -/
theorem hidden_pointer_not_reported :
    (∀ diagnostic ∈ lintDocument hiddenDocument "openapi.json",
        diagnostic.severity ≠ .error ∧ diagnostic.problem.code ≠ "W001") ∧
      dereference hiddenDocument { onCycle := .preserve } = .error (.unresolvable "#/missing") ∧
      dereference hiddenDocument {} = .error (.unresolvable "#/missing") := by
  refine ⟨clean_iff.2 fun pointer visible => ?_, ?_, ?_⟩
  · have text : Pointer.navigate hiddenDocument "#/b" = .ok (.string "text") := rfl
    have dangling : LocalReference [(referenceKey, .string "#/missing")] "#/missing" :=
      ⟨rfl, rfl⟩
    rcases hidden_visible_iff.1 visible with rfl | rfl
    · refine ⟨⟨_, text⟩, fun cyclic => ?_⟩
      obtain ⟨next, edge, _⟩ := Relation.TransGen.head'_iff.1 cyclic
      rw [edge_iff text] at edge
      exact absurd edge (not_visible_of_scalar trivial)
    · refine ⟨⟨_, rfl⟩, fun _ => ⟨"#/missing", .single ⟨_, rfl, .here dangling⟩, ?_⟩⟩
      exact not_navigates_iff.2 ⟨_, rfl⟩
  · rw [dereference, hidden_resolution]
  · rw [dereference, hidden_resolution]

end Hidden

end RefLint.Lint
