import RefLint.Proofs.LintVerdict
import RefLint.Proofs.ReferencePlaces

/-!
# Where the linter's reports about references stand

The linter lists the reference nodes of a document, groups them by pointer and reports
each pointer at all of its nodes. The grouping loses no node and repeats none, and the
codes keep the reports about one pointer's own faults apart from those about cycles.
-/

namespace RefLint.Lint

set_option autoImplicit false

def Problem.pointer? : Problem → Option String
  | broken error => some error.pointer
  | circular pointer => some pointer
  | external pointer => some pointer
  | _ => none

/-- What may be wrong with a pointer on its own account, and the code it goes by. -/
inductive Flaw (document : Value) (pointer : String) : String → Problem → Prop where
  | external (outside : Pointer.isLocal pointer = false) :
      Flaw document pointer "W002" (.external pointer)
  | invalid {named segment : String} {actual : Kind} (inside : Pointer.isLocal pointer = true)
      (failed : Pointer.navigate document pointer = .error (.invalidPath named segment actual)) :
      Flaw document pointer "E003" (.broken (.invalidPath pointer segment actual))
  | unresolvable {named : String} (inside : Pointer.isLocal pointer = true)
      (failed : Pointer.navigate document pointer = .error (.unresolvable named)) :
      Flaw document pointer "E002" (.broken (.unresolvable pointer))

section Flaws

variable {document : Value} {pointer code : String} {problem : Problem} {error : ReferenceError}

/-- A failure to follow a pointer names the pointer, and is no cycle. -/
theorem failed_navigation (failed : Pointer.navigate document pointer = .error error) :
    error = .unresolvable pointer ∨
      ∃ segment actual, error = .invalidPath pointer segment actual := by
  unfold Pointer.navigate at failed
  split at failed
  · contradiction
  · exact .inl (Except.error.inj failed).symm
  · exact .inr ⟨_, _, (Except.error.inj failed).symm⟩

theorem Flaw.found (flaw : Flaw document pointer code problem) :
    pointerProblem? document pointer = some problem := by
  unfold pointerProblem?
  cases flaw with
  | external outside => rw [outside]; rfl
  | invalid inside failed =>
      have named := failed_navigation failed
      simp only [reduceCtorEq, ReferenceError.invalidPath.injEq, false_or] at named
      obtain ⟨_, _, rfl, _⟩ := named
      rw [inside, failed]
      rfl
  | unresolvable inside failed =>
      have named := failed_navigation failed
      simp only [reduceCtorEq, ReferenceError.unresolvable.injEq, exists_false, or_false] at named
      subst named
      rw [inside, failed]
      rfl

theorem Flaw.code_eq (flaw : Flaw document pointer code problem) : problem.code = code := by
  cases flaw <;> rfl

theorem Flaw.pointer_eq (flaw : Flaw document pointer code problem) :
    problem.pointer? = some pointer := by
  cases flaw <;> rfl

theorem flaw_of_found (found : pointerProblem? document pointer = some problem) :
    Flaw document pointer problem.code problem := by
  unfold pointerProblem? at found
  split at found
  · rename_i inside
    split at found
    · contradiction
    · rename_i error failed
      obtain rfl := Option.some.inj found
      rcases failed_navigation failed with rfl | ⟨segment, actual, rfl⟩
      · exact .unresolvable inside failed
      · exact .invalid inside failed
  · rename_i outside
    obtain rfl := Option.some.inj found
    exact .external (Bool.eq_false_iff.2 outside)

def flawCodes : List String := ["E002", "E003", "W002"]

theorem Flaw.code_listed (flaw : Flaw document pointer code problem) : code ∈ flawCodes := by
  cases flaw <;> decide

end Flaws

section Grouping

variable {found : List Occurrence} {pointers : List String} {file : String}
  {diagnostics : List Diagnostic} {diagnostic : Diagnostic}

/-- One report for each of the pointers that have a problem, at each node with the pointer. -/
def reports (found : List Occurrence) (file : String) (problem? : String → Option Problem)
    (pointers : List String) : List Diagnostic :=
  pointers.flatMap fun pointer =>
    match problem? pointer with
    | some problem => (pathsOf found pointer).map (Diagnostic.atPath problem file)
    | none => []

theorem path_at_path {problem : Problem} {path : String} (named : path ≠ "") :
    (Diagnostic.atPath problem file path).path = path := by
  rw [Diagnostic.atPath, if_neg named]

theorem mem_paths_iff {pointer path : String} :
    path ∈ pathsOf found pointer ↔ ⟨pointer, path⟩ ∈ found := by
  simp only [pathsOf, List.mem_map, List.mem_filter, decide_eq_true_eq]
  constructor
  · rintro ⟨occurrence, ⟨present, rfl⟩, rfl⟩
    exact present
  · intro present
    exact ⟨_, ⟨present, rfl⟩, rfl⟩

theorem groups_nodup {group : String → List String} (paths : (found.map (·.path)).Nodup)
    (apart : pointers.Nodup) (within : ∀ pointer, (group pointer).Sublist (pathsOf found pointer)) :
    (pointers.flatMap group).Nodup := by
  refine List.nodup_flatMap.2 ⟨fun pointer _ => ?_, apart.imp fun {first second} different => ?_⟩
  · have listed : (pathsOf found pointer).Sublist (found.map (·.path)) :=
      List.filter_sublist.map _
    exact paths.sublist ((within pointer).trans listed)
  · -- A node stands in the group of its pointer and in no other.
    intro path here there
    have firstFound := mem_paths_iff.1 ((within first).subset here)
    have secondFound := mem_paths_iff.1 ((within second).subset there)
    have same := List.inj_on_of_nodup_map paths firstFound secondFound rfl
    exact different (congrArg Occurrence.pointer same)

theorem names_nodup (names : NameSet) : names.toList.Nodup := by
  refine names.increasing.imp fun {first second} before => ?_
  rintro rfl
  exact String.lt_irrefl first before

theorem report_paths_nodup {problem? : String → Option Problem}
    (paths : (found.map (·.path)).Nodup) (named : ∀ occurrence ∈ found, occurrence.path ≠ "")
    (apart : pointers.Nodup) : ((reports found file problem? pointers).map (·.path)).Nodup := by
  rw [reports, List.map_flatMap]
  apply groups_nodup paths apart
  intro pointer
  cases problem? pointer with
  | none => exact List.nil_sublist _
  | some problem =>
      have written : ((pathsOf found pointer).map (Diagnostic.atPath problem file)).map (·.path) =
          pathsOf found pointer := by
        rw [List.map_map]
        refine (List.map_congr_left fun path listed => ?_).trans (List.map_id _)
        exact path_at_path (named _ (mem_paths_iff.1 listed))
      rw [written]

theorem filter_at_path (paths : (diagnostics.map (·.path)).Nodup)
    (present : diagnostic ∈ diagnostics) :
    diagnostics.filter (fun other => other.path = diagnostic.path) = [diagnostic] := by
  induction diagnostics with
  | nil => contradiction
  | cons first rest ih =>
      obtain ⟨absent, apart⟩ := List.nodup_cons.1 paths
      have elsewhere : ∀ other ∈ rest, other.path ≠ first.path := by
        intro other listed same
        exact absent (List.mem_map.2 ⟨other, listed, same⟩)
      rcases List.mem_cons.1 present with rfl | later
      · rw [List.filter_cons_of_pos (by simp), List.filter_eq_nil_iff.2]
        simpa using elsewhere
      · have different : first.path ≠ diagnostic.path := (elsewhere _ later).symm
        rw [List.filter_cons_of_neg (by simpa using different)]
        exact ih apart later

end Grouping

section Document

variable {document : Value} {file pointer code : String} {route : Route} {problem : Problem}
  {diagnostic : Diagnostic}

def flawReports (document : Value) (file : String) : List Diagnostic :=
  reports (occurrences "" document) file (pointerProblem? document)
    (NameSet.ofList ((occurrences "" document).map (·.pointer))).toList

def circularPointers (document : Value) : NameSet :=
  ((NameSet.ofList ((occurrences "" document).map (·.pointer))).toList.filter fun pointer =>
    (pointerProblem? document pointer).isNone).foldl
      (fun names pointer => names.union (cyclesFrom document pointer)) NameSet.empty

def cycleReports (document : Value) (file : String) : List Diagnostic :=
  reports (occurrences "" document) file (fun pointer => some (.circular pointer))
    (circularPointers document).toList

def wholeReports (document : Value) (file : String) : List Diagnostic :=
  (if (document.member? "openapi").isNone && (document.member? "swagger").isNone then
      [Diagnostic.atPath .noVersion file "/"]
    else []) ++
  (if hasJsonApiContent document then [] else [Diagnostic.atPath .noJsonApiContent file "/"])

theorem lint_parts : lintDocument document file =
    flawReports document file ++ cycleReports document file ++ wholeReports document file :=
  List.append_assoc ..

theorem codes_of_flaws (reported : diagnostic ∈ flawReports document file) :
    diagnostic.problem.code ∈ flawCodes := by
  obtain ⟨_, _, problem, found, rfl⟩ := mem_flawed_iff.1 reported
  exact (flaw_of_found found).code_listed

theorem codes_of_cycles (reported : diagnostic ∈ cycleReports document file) :
    diagnostic.problem.code ∈ ["W001"] := by
  obtain ⟨_, _, _, rfl⟩ := mem_cycles_iff.1 reported
  exact List.mem_cons_self

theorem codes_of_whole (reported : diagnostic ∈ wholeReports document file) :
    diagnostic.problem.code ∈ ["W003", "W004"] := by
  rcases List.mem_append.1 reported with version | content
  · split at version
    · rw [List.mem_singleton.1 version]
      exact List.mem_cons_self
    · contradiction
  · split at content
    · contradiction
    · rw [List.mem_singleton.1 content]
      exact List.mem_cons_of_mem _ List.mem_cons_self

theorem filter_other_code {diagnostics : List Diagnostic} {codes : List String}
    (coded : ∀ diagnostic ∈ diagnostics, diagnostic.problem.code ∈ codes) (other : code ∉ codes) :
    diagnostics.filter (fun diagnostic => diagnostic.problem.code = code) = [] := by
  refine List.filter_eq_nil_iff.2 fun diagnostic reported same => ?_
  exact other (of_decide_eq_true same ▸ coded diagnostic reported)

/-- A pointer's own faults are only reported where these are looked for. -/
theorem filter_flaw_code (listed : code ∈ flawCodes) :
    (lintDocument document file).filter (fun diagnostic => diagnostic.problem.code = code) =
      (flawReports document file).filter fun diagnostic => diagnostic.problem.code = code := by
  have others : code ∉ ["W001"] ∧ code ∉ ["W003", "W004"] := by
    simp only [flawCodes, List.mem_cons, List.not_mem_nil, or_false] at listed
    rcases listed with rfl | rfl | rfl <;> decide
  rw [lint_parts, List.filter_append, List.filter_append,
    filter_other_code (fun _ => codes_of_cycles) others.1,
    filter_other_code (fun _ => codes_of_whole) others.2, List.append_nil, List.append_nil]

theorem filter_cycle_code :
    (lintDocument document file).filter (fun diagnostic => diagnostic.problem.code = "W001") =
      cycleReports document file := by
  have cycles : (cycleReports document file).filter
      (fun diagnostic => diagnostic.problem.code = "W001") = cycleReports document file :=
    List.filter_eq_self.2 fun _ reported =>
      decide_eq_true (List.mem_singleton.1 (codes_of_cycles reported))
  rw [lint_parts, List.filter_append, List.filter_append, cycles,
    filter_other_code (fun _ => codes_of_flaws) (by decide),
    filter_other_code (fun _ => codes_of_whole) (by decide), List.append_nil, List.nil_append]

theorem occurrences_named (whole : ∀ pointer, document.node ≠ .reference pointer) :
    ∀ occurrence ∈ occurrences "" document, occurrence.path ≠ "" := by
  intro occurrence occurs unnamed
  obtain ⟨route, met, same⟩ := (mem_occurrences_iff "" document).1 occurs
  rw [unnamed, String.empty_append] at same
  obtain rfl := (path_eq_empty_iff route).1 same.symm
  cases met with
  | here reference => exact whole _ (by rw [Value.node, reference])

theorem paths_of_code_nodup (file : String) (distinct : document.KeysDistinct)
    (whole : ∀ pointer, document.node ≠ .reference pointer)
    (listed : code ∈ "W001" :: flawCodes) :
    (((lintDocument document file).filter fun diagnostic =>
      diagnostic.problem.code = code).map (·.path)).Nodup := by
  have paths := paths_nodup "" document distinct
  have named := occurrences_named whole
  rcases List.mem_cons.1 listed with rfl | flaw
  · rw [filter_cycle_code]
    exact report_paths_nodup paths named (names_nodup _)
  · rw [filter_flaw_code flaw]
    have all : ((flawReports document file).map (·.path)).Nodup :=
      report_paths_nodup paths named (names_nodup _)
    exact all.sublist (List.filter_sublist.map _)

theorem reported_at (file : String) (met : ReferenceAt document route pointer)
    (whole : ∀ pointer, document.node ≠ .reference pointer)
    (reported : Reported document pointer problem) :
    ⟨problem, file, route.path⟩ ∈ lintDocument document file := by
  have occurs : ⟨pointer, route.path⟩ ∈ occurrences "" document :=
    (mem_occurrences_iff "" document).2 ⟨route, met, String.empty_append.symm⟩
  have named := occurrences_named whole _ occurs
  refine mem_lint_iff.2 (.inl ⟨_, occurs, problem, reported, ?_⟩)
  rw [Diagnostic.atPath, if_neg named]

theorem met_of_reported (whole : ∀ pointer, document.node ≠ .reference pointer)
    (present : diagnostic ∈ lintDocument document file)
    (listed : diagnostic.problem.code ∈ "W001" :: flawCodes) :
    ∃ route pointer problem, ReferenceAt document route pointer ∧
      Reported document pointer problem ∧ diagnostic = ⟨problem, file, route.path⟩ := by
  rcases mem_lint_iff.1 present with ⟨occurrence, occurs, problem, cause, rfl⟩ | ⟨_, rfl⟩ | ⟨_, rfl⟩
  · have named := occurrences_named whole _ occurs
    obtain ⟨route, met, same⟩ := (mem_occurrences_iff "" document).1 occurs
    rw [String.empty_append] at same
    refine ⟨route, occurrence.pointer, problem, met, cause, ?_⟩
    rw [Diagnostic.atPath, if_neg named, same]
  · exact absurd listed (show "W003" ∉ _ by decide)
  · exact absurd listed (show "W004" ∉ _ by decide)

theorem Reported.pointer_eq (reported : Reported document pointer problem) :
    problem.pointer? = some pointer := by
  cases reported with
  | flawed found => exact (flaw_of_found found).pointer_eq
  | cyclic => rfl

/-- The reports about references stand at the reference nodes at fault: one at each node
with a flaw, and none elsewhere. -/
theorem reference_reports_exact (document : Value) (distinct : document.KeysDistinct)
    (whole : ∀ pointer, document.node ≠ .reference pointer) (file : String) :
    (∀ route pointer code problem, ReferenceAt document route pointer →
      Flaw document pointer code problem →
        (lintDocument document file).filter (fun diagnostic =>
          diagnostic.problem.code = code ∧ diagnostic.path = route.path) =
            [⟨problem, file, route.path⟩]) ∧
    (∀ diagnostic ∈ lintDocument document file, diagnostic.problem.code ∈ ["E002", "E003", "W002"] →
      ∃ route pointer, ReferenceAt document route pointer ∧
        Flaw document pointer diagnostic.problem.code diagnostic.problem ∧
        diagnostic = ⟨diagnostic.problem, file, route.path⟩) ∧
    (∀ diagnostic ∈ lintDocument document file,
      diagnostic.problem.code ∈ ["E002", "E003", "W001", "W002"] →
        ∃ target pointer, Pointer.navigate document ("#" ++ diagnostic.path) = .ok target ∧
          target.node = .reference pointer ∧ diagnostic.problem.pointer? = some pointer) ∧
    (∀ code ∈ ["E002", "E003", "W001", "W002"],
      (((lintDocument document file).filter fun diagnostic =>
        diagnostic.problem.code = code).map (·.path)).Nodup) ∧
    ∀ first second pointer other, ReferenceAt document first pointer →
      ReferenceAt document second other → first.path = second.path → first = second := by
  have reference : ∀ code ∈ ["E002", "E003", "W001", "W002"], code ∈ "W001" :: flawCodes := by
    decide
  refine ⟨?_, ?_, ?_, ?_, ?_⟩
  · intro route pointer code problem met flaw
    have listed := List.mem_cons_of_mem "W001" flaw.code_listed
    have paths := paths_of_code_nodup file distinct whole listed
    have present := reported_at file met whole (.flawed flaw.found)
    have coded : ⟨problem, file, route.path⟩ ∈ (lintDocument document file).filter
        fun diagnostic => diagnostic.problem.code = code :=
      List.mem_filter.2 ⟨present, decide_eq_true flaw.code_eq⟩
    rw [← filter_at_path paths coded, List.filter_filter]
    refine List.filter_congr fun diagnostic _ => ?_
    rw [Bool.decide_and, Bool.and_comm]
  · intro diagnostic present listed
    obtain ⟨route, pointer, problem, met, reported, rfl⟩ :=
      met_of_reported whole present (List.mem_cons_of_mem _ listed)
    cases reported with
    | flawed found => exact ⟨route, pointer, met, flaw_of_found found, rfl⟩
    | cyclic => exact absurd listed (show "W001" ∉ flawCodes by decide)
  · intro diagnostic present listed
    obtain ⟨route, pointer, problem, met, reported, rfl⟩ :=
      met_of_reported whole present (reference _ listed)
    obtain ⟨members, reached, node⟩ := met.navigates distinct
    refine ⟨_, pointer, reached, ?_, reported.pointer_eq⟩
    rw [Value.node, node]
  · intro code listed
    exact paths_of_code_nodup file distinct whole (reference code listed)
  · intro first second pointer other met also same
    exact met.path_injective also distinct same

end Document

section Flawed

/-- A node with each flaw and a cycle, under keys that have to be escaped. -/
def flawedDocument : Value := .object [
  ("a/b", .array [
    .object [(referenceKey, .string "other.json#/x")],
    .object [("~1", .object [(referenceKey, .string "#/title/deep")])]]),
  ("", .object [(referenceKey, .string "#/missing")]),
  ("loop", .object [(referenceKey, .string "#/loop")]),
  ("title", .string "text")]

/-- The node under the key `~1` has the only error at its place. -/
theorem flawed_document_report :
    flawedDocument.KeysDistinct ∧
    (∀ pointer, flawedDocument.node ≠ .reference pointer) ∧
    ReferenceAt flawedDocument [.key "a/b", .position 1, .key "~1"] "#/title/deep" ∧
    Flaw flawedDocument "#/title/deep" "E003"
      (.broken (.invalidPath "#/title/deep" "deep" .string)) ∧
    (lintDocument flawedDocument "openapi.json").filter (fun diagnostic =>
      diagnostic.problem.code = "E003" ∧ diagnostic.path = "/a~1b/1/~01") =
        [⟨.broken (.invalidPath "#/title/deep" "deep" .string), "openapi.json",
          "/a~1b/1/~01"⟩] := by
  have distinct : flawedDocument.KeysDistinct := by
    simp [flawedDocument, Value.KeysDistinct, Value.all_mappings_object,
      Value.all_mappings_array, Value.all_mappings_scalar, Members.keys, Value.kind]
  have whole : ∀ pointer, flawedDocument.node ≠ .reference pointer := by
    intro pointer reference
    cases reference
  have met : ReferenceAt flawedDocument [.key "a/b", .position 1, .key "~1"] "#/title/deep" :=
    .member rfl List.mem_cons_self (.item rfl (.member rfl List.mem_cons_self (.here rfl)))
  have flaw : Flaw flawedDocument "#/title/deep" "E003"
      (.broken (.invalidPath "#/title/deep" "deep" .string)) := .invalid rfl rfl
  exact ⟨distinct, whole, met, flaw,
    (reference_reports_exact flawedDocument distinct whole "openapi.json").1 _ _ _ _ met flaw⟩

end Flawed

section Cycles

variable {document : Value} {file pointer : String} {place : Route} {diagnostic : Diagnostic}

theorem circular_report_iff : (diagnostic ∈ lintDocument document file ∧
    diagnostic.problem.code = "W001" ∧ diagnostic.problem.pointer? = some pointer) ↔
      Reported document pointer (.circular pointer) ∧ ∃ route, ReferenceAt document route pointer ∧
        diagnostic = .atPath (.circular pointer) file route.path := by
  constructor
  · rintro ⟨present, code, about⟩
    rcases mem_lint_iff.1 present with
      ⟨occurrence, occurs, problem, cause, rfl⟩ | ⟨_, rfl⟩ | ⟨_, rfl⟩
    · obtain ⟨route, met, same⟩ := (mem_occurrences_iff "" document).1 occurs
      rw [String.empty_append] at same
      obtain rfl : occurrence.pointer = pointer :=
        Option.some.inj (cause.pointer_eq.symm.trans about)
      cases cause with
      | flawed found => exact absurd code (code_of_pointer_problem found)
      | cyclic first followable found =>
          exact ⟨.cyclic first followable found, route, met, by rw [same]⟩
    · contradiction
    · contradiction
  · rintro ⟨cause, route, met, rfl⟩
    have occurs : ⟨pointer, route.path⟩ ∈ occurrences "" document :=
      (mem_occurrences_iff "" document).2 ⟨route, met, String.empty_append.symm⟩
    exact ⟨mem_lint_iff.2 (.inl ⟨_, occurs, _, cause, rfl⟩), rfl, rfl⟩

theorem reported_circular_iff (met : ReferenceAt document place pointer)
    (isLocal : Pointer.isLocal pointer = true)
    (navigates : ∀ later, Relation.ReflTransGen (Edge document) pointer later →
      Navigates document later) :
    Reported document pointer (.circular pointer) ↔ Reaches document pointer pointer := by
  have occurs : ⟨pointer, place.path⟩ ∈ occurrences "" document :=
    (mem_occurrences_iff "" document).2 ⟨place, met, String.empty_append.symm⟩
  have followable : pointerProblem? document pointer = none :=
    pointer_problem_eq_none_iff.2 ⟨isLocal, navigates pointer .refl⟩
  constructor
  · intro cause
    cases cause with
    | flawed found =>
        rw [followable] at found
        contradiction
    | cyclic first firstFollowable found =>
        -- The search may have started anywhere: what it calls circular lies on a cycle.
        obtain ⟨firstLocal, _⟩ := pointer_problem_eq_none_iff.1 firstFollowable
        exact (cycles_from_sound firstLocal found).2.2
  · -- Other searches may be cut short; the one from the pointer itself is not.
    intro cyclic
    exact .cyclic occurs followable (cycles_from_self isLocal navigates cyclic)

/-- The warnings about a pointer from which nothing dangling is reached: one wherever the
pointer stands if it leads back to itself, and none if it does not. -/
theorem circular_warnings_exact (met : ReferenceAt document place pointer)
    (isLocal : Pointer.isLocal pointer = true)
    (navigates : ∀ later, Relation.ReflTransGen (Edge document) pointer later →
      Navigates document later) (file : String) :
    (Reaches document pointer pointer → ∀ diagnostic, (diagnostic ∈ lintDocument document file ∧
      diagnostic.problem.code = "W001" ∧ diagnostic.problem.pointer? = some pointer) ↔
        ∃ route, ReferenceAt document route pointer ∧
          diagnostic = .atPath (.circular pointer) file route.path) ∧
    (¬Reaches document pointer pointer → ∀ diagnostic ∈ lintDocument document file,
      diagnostic.problem.code = "W001" → diagnostic.problem.pointer? ≠ some pointer) := by
  have circular := reported_circular_iff met isLocal navigates
  constructor
  · intro cyclic diagnostic
    rw [circular_report_iff]
    exact and_iff_right (circular.2 cyclic)
  · intro acyclic diagnostic present code about
    exact acyclic (circular.1 (circular_report_iff.1 ⟨present, code, about⟩).1)

/-- The cycles of the document overlap, and one of their pointers is reported at both of
its nodes. -/
theorem nested_warnings :
    ReferenceAt nestedDocument [.key "components", .key "a"] "#/components/b" ∧
    Pointer.isLocal "#/components/b" = true ∧
    (∀ later, Relation.ReflTransGen (Edge nestedDocument) "#/components/b" later →
      Navigates nestedDocument later) ∧
    Reaches nestedDocument "#/components/b" "#/components/b" ∧
    .atPath (.circular "#/components/b") "openapi.json" "/components/a" ∈
      lintDocument nestedDocument "openapi.json" ∧
    .atPath (.circular "#/components/b") "openapi.json" "/components/c/0" ∈
      lintDocument nestedDocument "openapi.json" := by
  have first : LocalReference (referenceTo "#/components/b") "#/components/b" :=
    node_of_reference_to _ rfl
  have second : LocalReference (referenceTo "#/components/c") "#/components/c" :=
    node_of_reference_to _ rfl
  have into : Edge nestedDocument "#/components/a" "#/components/b" := ⟨_, rfl, .here first⟩
  have onward : Edge nestedDocument "#/components/b" "#/components/c" := ⟨_, rfl, .here second⟩
  have back : Edge nestedDocument "#/components/c" "#/components/b" :=
    ⟨_, rfl, .item List.mem_cons_self (.here first)⟩
  have atA : ReferenceAt nestedDocument [.key "components", .key "a"] "#/components/b" :=
    .member rfl List.mem_cons_self (.member rfl List.mem_cons_self (.here rfl))
  have atC : ReferenceAt nestedDocument [.key "components", .key "c", .position 0]
      "#/components/b" :=
    .member rfl List.mem_cons_self
      (.member rfl (.tail _ (.tail _ (.head _))) (.item rfl (.here rfl)))
  have navigates : ∀ later, Relation.ReflTransGen (Edge nestedDocument) "#/components/b" later →
      Navigates nestedDocument later := by
    intro later path
    apply (searched_of_resolved nested_resolution).navigates
    exact ⟨"#/components/a", .here (node_of_reference_to _ rfl), .head into path⟩
  have cyclic : Reaches nestedDocument "#/components/b" "#/components/b" :=
    .tail (.single onward) back
  have warned := (circular_warnings_exact atA rfl navigates "openapi.json").1 cyclic
  exact ⟨atA, rfl, navigates, cyclic,
    ((warned _).2 ⟨_, atA, rfl⟩).1, ((warned _).2 ⟨_, atC, rfl⟩).1⟩

end Cycles

end RefLint.Lint
