import RefLint.Command.Run
import RefLint.Proofs.DocumentFiles
import RefLint.Proofs.LintReport

/-!
# What a check counts

The counts of a report are those of its files and diagnostics. A diagnostic is an error or a
warning, so a check is passed exactly when no file has failed, whether warnings count or not.
-/

namespace RefLint.Lint

set_option autoImplicit false

section Statuses

variable {result : FileReport}

theorem error_or_warn (diagnostic : Diagnostic) :
    diagnostic.severity = .error ∨ diagnostic.severity = .warn := by
  obtain ⟨problem, _, _⟩ := diagnostic
  cases problem <;> simp [Diagnostic.severity, Problem.severity]

theorem status_error_iff : result.status = .error ↔
    ∃ diagnostic ∈ result.diagnostics, diagnostic.severity = .error := by
  rw [FileReport.status]
  split
  · simp_all
  · split <;> simp_all

theorem status_ok_iff : result.status = .ok ↔ result.diagnostics = [] := by
  rw [FileReport.status]
  split
  · rename_i error
    simp only [reduceCtorEq, false_iff]
    intro none
    simp [none] at error
  · split <;> simp_all

theorem status_warning_iff : result.status = .warning ↔ result.diagnostics ≠ [] ∧
    ¬∃ diagnostic ∈ result.diagnostics, diagnostic.severity = .error := by
  rw [ne_eq, ← status_ok_iff, ← status_error_iff]
  cases result.status <;> simp

end Statuses

section Counts

variable {report : Report} {severity : Severity}

theorem fold_counts (results : List FileReport) (severity : Severity) (start : Nat) :
    results.foldl (fun sum result => sum + result.count severity) start =
      start + ((results.flatMap (·.diagnostics)).filter fun diagnostic =>
        diagnostic.severity = severity).length := by
  induction results generalizing start with
  | nil => rfl
  | cons first rest ih =>
      rw [List.foldl_cons, ih, List.flatMap_cons, List.filter_append, List.length_append,
        FileReport.count, Nat.add_assoc]

theorem total_eq (report : Report) (severity : Severity) : report.total severity =
    ((report.results.flatMap (·.diagnostics)).filter fun diagnostic =>
      diagnostic.severity = severity).length := by
  rw [Report.total, fold_counts, Nat.zero_add]

theorem total_eq_zero_iff : report.total severity = 0 ↔
    ∀ result ∈ report.results, ∀ diagnostic ∈ result.diagnostics,
      diagnostic.severity ≠ severity := by
  rw [total_eq, List.length_eq_zero_iff, List.filter_eq_nil_iff]
  simp only [List.mem_flatMap, decide_eq_true_eq]
  -- the diagnostics of all files are those of any one of them
  constructor
  · exact fun none result listed diagnostic present => none diagnostic ⟨result, listed, present⟩
  · exact fun none diagnostic ⟨result, listed, present⟩ => none result listed diagnostic present

theorem is_ok_iff : report.isOk = true ↔ ∀ result ∈ report.results, result.status ≠ .error := by
  rw [Report.isOk, beq_iff_eq, Report.errors, total_eq_zero_iff]
  simp only [ne_eq, status_error_iff, not_exists, not_and]

theorem failed_eq_zero_iff : report.failed = 0 ↔ ∀ result ∈ report.results,
    if report.strict then result.status = .ok else result.status ≠ .error := by
  rw [Report.failed, List.length_eq_zero_iff, List.filter_eq_nil_iff]
  unfold Report.isFailed
  cases report.strict <;> simp

/-- Every diagnostic counts as an error or as a warning, so both totals are needed for a strict
check and the errors alone for any other. -/
theorem is_passed_iff : report.isPassed = true ↔ report.failed = 0 := by
  rw [Report.isPassed, Bool.and_eq_true, failed_eq_zero_iff]
  cases strict : report.strict with
  | false => simpa using is_ok_iff
  | true =>
      simp only [Bool.not_true, Bool.false_or, beq_iff_eq, if_true, status_ok_iff]
      rw [Report.isOk, beq_iff_eq, Report.errors, Report.warnings, total_eq_zero_iff,
        total_eq_zero_iff]
      constructor
      · rintro ⟨noError, noWarning⟩ result listed
        refine List.eq_nil_iff_forall_not_mem.2 fun diagnostic present => ?_
        rcases error_or_warn diagnostic with error | warn
        · exact noError result listed diagnostic present error
        · exact noWarning result listed diagnostic present warn
      · intro clean
        have nothing : ∀ severity, ∀ result ∈ report.results, ∀ diagnostic ∈ result.diagnostics,
            diagnostic.severity ≠ severity := by
          intro severity result listed diagnostic present
          rw [clean result listed] at present
          contradiction
        exact ⟨nothing .error, nothing .warn⟩

end Counts

/-- The counts and verdicts of a report agree with what it tells about its files. -/
structure Accounted (report : Report) : Prop where
  failedAmongChecked : report.failed ≤ report.filesChecked
  passedAndFailed : report.passed + report.failed = report.filesChecked
  errors : report.errors = ((report.results.flatMap (·.diagnostics)).filter fun diagnostic =>
    diagnostic.severity = .error).length
  warnings : report.warnings = ((report.results.flatMap (·.diagnostics)).filter fun diagnostic =>
    diagnostic.severity = .warn).length
  failing : ∀ result ∈ report.results, result.status = .error ↔
    ∃ diagnostic ∈ result.diagnostics, diagnostic.severity = .error
  clean : ∀ result ∈ report.results, result.status = .ok ↔ result.diagnostics = []
  warned : ∀ result ∈ report.results, result.status = .warning ↔ result.diagnostics ≠ [] ∧
    ¬∃ diagnostic ∈ result.diagnostics, diagnostic.severity = .error
  isOk : report.isOk = true ↔ ∀ result ∈ report.results, result.status ≠ .error

theorem report_accounted (report : Report) : Accounted report := by
  have failed : report.failed ≤ report.filesChecked := List.length_filter_le _ _
  exact {
    failedAmongChecked := failed
    passedAndFailed := Nat.sub_add_cancel failed
    errors := total_eq report .error
    warnings := total_eq report .warn
    failing := fun _ _ => status_error_iff
    clean := fun _ _ => status_ok_iff
    warned := fun _ _ => status_warning_iff
    isOk := is_ok_iff }

section Loading

variable {tree : FileTree} {file base : String} {document : Value}

theorem document_code_ne {diagnostic : Diagnostic} (told : diagnostic ∈ lintDocument document file) :
    diagnostic.problem.code ≠ "E001" := by
  rcases mem_lint_iff.1 told with ⟨occurrence, _, problem, reported, rfl⟩ | ⟨_, rfl⟩ | ⟨_, rfl⟩
  · cases reported with
    | flawed found =>
        have listed := flaw_code_listed found
        intro (code : problem.code = "E001")
        simp [code] at listed
    | cyclic => simp [Diagnostic.atPath, Problem.code]
  · simp [Diagnostic.atPath, Problem.code]
  · simp [Diagnostic.atPath, Problem.code]

theorem loading_told (tree : FileTree) (file base : String) :
    (∀ error, tree.load file = .error error →
      ∃ diagnostic, (lintFile tree file base).diagnostics = [diagnostic] ∧
        diagnostic.problem = .notLoaded error ∧ diagnostic.problem.code = "E001") ∧
    ∀ document, tree.load file = .ok document →
      ∀ diagnostic ∈ (lintFile tree file base).diagnostics, diagnostic.problem.code ≠ "E001" := by
  constructor
  · intro error failed
    rw [lintFile, failed]
    exact ⟨_, rfl, rfl, rfl⟩
  · intro document loaded diagnostic told
    rw [lintFile, loaded] at told
    exact document_code_ne told

end Loading

section Checking

theorem check_code (request : Command.CheckRequest) {tree found : FileTree}
    (standing : tree.at? request.path = some found) :
    (request.run tree).code = 0 ↔ (lint tree request.path request.strict).failed = 0 := by
  rw [Command.CheckRequest.run, standing, ← is_passed_iff]
  cases passed : (lint tree request.path request.strict).isPassed <;> simp [passed]

/-- A check of what stands at a path has one result for each document file there, in path order.
Its counts are those of the files and their diagnostics, a file that is not loaded has one
diagnostic that tells so, and the check ends with success exactly when no file has failed. -/
theorem check_accounts_for_documents (tree found : FileTree) (path : String)
    (standing : tree.at? path = some found) (wellNamed : found.WellNamed) (strict : Bool) :
    (∃ located, Located tree found path located ∧
      (lint tree path strict).results =
        located.map fun names => lintFile tree (Path.below path names) path) ∧
    Accounted (lint tree path strict) ∧
    (∀ file,
      (∀ error, tree.load file = .error error →
        ∃ diagnostic, (lintFile tree file path).diagnostics = [diagnostic] ∧
          diagnostic.problem = .notLoaded error ∧ diagnostic.problem.code = "E001") ∧
      ∀ document, tree.load file = .ok document →
        ∀ diagnostic ∈ (lintFile tree file path).diagnostics,
          diagnostic.problem.code ≠ "E001") ∧
    ∀ request : Command.CheckRequest, request.path = path → request.strict = strict →
      ((request.run tree).code = 0 ↔ (lint tree path strict).failed = 0) := by
  obtain ⟨located, files, exact⟩ := documents_located standing wellNamed
  refine ⟨⟨located, exact, ?_⟩, report_accounted _, fun file => loading_told tree file path, ?_⟩
  · rw [lint, files, List.map_map]
    rfl
  · rintro request rfl rfl
    exact check_code request standing

/-- A document that is no text, another one further down, and a file that is no document. -/
def unreadableDirectory : FileTree := .directory [
  ("api.yaml", .file ⟨#[255]⟩),
  ("notes.txt", .file .empty),
  ("parts", .directory [("pet.json", .file .empty)])]

theorem unreadable_directory_named : unreadableDirectory.WellNamed := by
  have parts : FileTree.WellNamed (.directory [("pet.json", .file .empty)]) := by
    refine .directory (by decide) ?_ ?_
    · exact List.forall_mem_singleton.2 ⟨by decide, by decide, by decide, by decide⟩
    · exact List.forall_mem_singleton.2 (.file _)
  refine .directory (by decide) ?_ ?_
  · simp only [List.forall_mem_cons, List.not_mem_nil, false_implies, implies_true, and_true]
    refine ⟨⟨?_, ?_, ?_, ?_⟩, ⟨?_, ?_, ?_, ?_⟩, ⟨?_, ?_, ?_, ?_⟩⟩ <;> decide
  · simp only [List.forall_mem_cons, List.not_mem_nil, false_implies, implies_true, and_true]
    exact ⟨.file _, .file _, parts⟩

theorem unreadable_document_reported :
    (FileTree.directory [("specs", unreadableDirectory)]).at? "specs" =
      some unreadableDirectory ∧
    unreadableDirectory.WellNamed ∧
    ∃ located, Located (.directory [("specs", unreadableDirectory)]) unreadableDirectory "specs"
        located ∧
      ["api.yaml"] ∈ located ∧ ["parts", "pet.json"] ∈ located ∧ ["notes.txt"] ∉ located ∧
      (lint (.directory [("specs", unreadableDirectory)]) "specs" false).isOk = false := by
  have standing : (FileTree.directory [("specs", unreadableDirectory)]).at? "specs" =
      some unreadableDirectory := rfl
  obtain ⟨⟨located, exact, results⟩, accounted, loading, -⟩ :=
    check_accounts_for_documents _ _ "specs" standing unreadable_directory_named false
  have api : ["api.yaml"] ∈ located := (exact.exact _).2 ⟨⟨_, rfl⟩, by decide +kernel⟩
  have pet : ["parts", "pet.json"] ∈ located := (exact.exact _).2 ⟨⟨_, rfl⟩, by decide +kernel⟩
  have notes : ["notes.txt"] ∉ located := by
    intro listed
    have document := ((exact.exact _).1 listed).2
    have other : Path.isDocument (Path.below "specs" ["notes.txt"]) = false := by decide +kernel
    rw [other] at document
    contradiction
  have failed : (FileTree.directory [("specs", unreadableDirectory)]).load
      (Path.below "specs" ["api.yaml"]) = .error (.unreadable "specs/api.yaml" .notUtf8) := rfl
  obtain ⟨diagnostic, only, problem, -⟩ := (loading _).1 _ failed
  refine ⟨standing, unreadable_directory_named, located, exact, api, pet, notes, ?_⟩
  refine Bool.eq_false_iff.2 fun ok => accounted.isOk.1 ok _ ?_ (status_error_iff.2
    ⟨diagnostic, by rw [only]; exact List.mem_singleton_self _, ?_⟩)
  · rw [results]
    exact List.mem_map_of_mem api
  · rw [Diagnostic.severity, problem, Problem.severity]

end Checking

end RefLint.Lint
