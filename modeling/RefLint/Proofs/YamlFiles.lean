import Mathlib.Data.List.TakeWhile
import RefLint.Proofs.DocumentFiles

/-!
# Which YAML files are checked

The format of a document shows in how its path ends, in any letter case. Whether a file is taken
for a document shows in the extension of its file name, to the letter. So a file that would be
read as YAML is checked exactly when its ending is written in lower case and a part of the name
stands before it; and this is the same for a file that is named and for one that is found in a
directory.
-/

namespace RefLint

set_option autoImplicit false

section Endings

variable {path front name : String}

/-- Endings do not reach over a mark that they do not hold. -/
theorem suffix_behind {mark : Char} {ending behind : List Char} (absent : mark ∉ ending)
    (before : List Char) : ending <:+ before ++ mark :: behind ↔ ending <:+ behind := by
  have different : ∀ text, mark ∈ text → ending ≠ text := by
    rintro text marked rfl
    exact absent marked
  induction before with
  | nil => rw [List.nil_append, List.suffix_cons_iff, or_iff_right (different _ (by simp))]
  | cons c rest ih =>
      rw [List.cons_append, List.suffix_cons_iff, or_iff_right (different _ (by simp))]
      exact ih

theorem format_yaml_iff : Format.ofName path = .yaml ↔
    ".yaml".toList <:+ lowerAscii path ∨ ".yml".toList <:+ lowerAscii path := by
  simp only [Format.ofName, Bool.or_eq_true, List.isSuffixOf_iff_suffix]
  split <;> simp_all

theorem format_behind_slash (front name : String) :
    Format.ofName (front ++ "/" ++ name) = .yaml ↔ Format.ofName name = .yaml := by
  have lower : lowerAscii (front ++ "/" ++ name) = lowerAscii front ++ '/' :: lowerAscii name := by
    simp [lowerAscii, String.toList_append]
  rw [format_yaml_iff, lower, suffix_behind (by decide), suffix_behind (by decide),
    format_yaml_iff]

end Endings

namespace Path

variable {path name ending : String}

theorem last_part (path : String) : '/' ∉ path.toList ∨
    ∃ front name, path = front ++ "/" ++ name ∧ '/' ∉ name.toList := by
  by_cases slash : '/' ∈ path.toList
  · obtain ⟨after, before, split, clean⟩ :=
      List.eq_append_cons_of_mem (List.mem_reverse.2 slash)
    refine .inr ⟨String.ofList before.reverse, String.ofList after.reverse, ?_, by simpa using clean⟩
    apply String.toList_injective
    have forward := congrArg List.reverse split
    simpa [String.toList_append] using forward
  · exact .inl slash

theorem name_of_yaml (clean : '/' ∉ name.toList) (yaml : Format.ofName name = .yaml) :
    FileName name where
  notEmpty := by
    rintro rfl
    revert yaml
    decide
  notCurrent := by
    rintro rfl
    revert yaml
    decide
  notParent := by
    rintro rfl
    revert yaml
    decide
  noSlash := clean

theorem file_name_behind_slash (named : FileName name) (front : String) :
    fileName? (front ++ "/" ++ name) = some name := by
  -- A slash at the end of a directory is not doubled.
  have joined : join (front ++ "/") name = front ++ "/" ++ name := by
    simp [join, String.toList_append]
  have nonempty : front ++ "/" ≠ "" := by
    intro empty
    have text := congrArg String.toList empty
    simp [String.toList_append] at text
  rw [← joined, fileName?, components_join named nonempty, List.getLast?_concat]

theorem file_name_of_name (named : FileName name) : fileName? name = some name := by
  rw [fileName?, components_of_name named]
  rfl

theorem file_name_of_yaml (yaml : Format.ofName path = .yaml) :
    ∃ name, FileName name ∧ fileName? path = some name ∧ Format.ofName name = .yaml ∧
      (path = name ∨ ∃ front, path = front ++ "/" ++ name) := by
  rcases last_part path with clean | ⟨front, name, rfl, clean⟩
  · have named := name_of_yaml clean yaml
    exact ⟨path, named, file_name_of_name named, yaml, .inl rfl⟩
  · rw [format_behind_slash] at yaml
    have named := name_of_yaml clean yaml
    exact ⟨name, named, file_name_behind_slash named front, yaml, .inr ⟨front, rfl⟩⟩

theorem split_last_dot {text ending rest : List Char} :
    text.reverse.takeWhile (· ≠ '.') = ending.reverse ∧
      text.reverse.dropWhile (· ≠ '.') = '.' :: rest.reverse ↔
    '.' ∉ ending ∧ text = rest ++ '.' :: ending := by
  constructor
  · rintro ⟨taken, dropped⟩
    have whole := List.takeWhile_append_dropWhile (p := (· ≠ '.')) (l := text.reverse)
    rw [taken, dropped] at whole
    constructor
    · intro dot
      have listed := List.mem_reverse.2 dot
      rw [← taken] at listed
      simpa using List.mem_takeWhile_imp listed
    · simpa using (congrArg List.reverse whole).symm
  · rintro ⟨clean, rfl⟩
    have plain : ∀ c ∈ ending.reverse, decide (c ≠ '.') = true := by
      intro c listed
      rw [decide_eq_true_eq]
      rintro rfl
      exact clean (List.mem_reverse.1 listed)
    have reversed : (rest ++ '.' :: ending).reverse = ending.reverse ++ '.' :: rest.reverse := by
      simp
    rw [reversed, List.takeWhile_append_of_pos plain, List.dropWhile_append_of_pos plain]
    simp

/-- The extension of a file and what stands before its dot make up the name. -/
theorem extension_iff : extension? path = some ending ↔ '.' ∉ ending.toList ∧
    ∃ stem, stem ≠ "" ∧ fileName? path = some (stem ++ "." ++ ending) := by
  cases named : fileName? path with
  | none => simp [extension?, named]
  | some name =>
      simp only [extension?, named, Option.bind_eq_bind, Option.bind_some, Option.some.injEq]
      constructor
      · intro found
        split at found
        · rename_i c before dropped
          obtain rfl := Option.some.inj found
          obtain ⟨clean, text⟩ := (@split_last_dot name.toList _ (c :: before).reverse).1
            ⟨(List.reverse_reverse _).symm, by rw [dropped, List.reverse_reverse]⟩
          refine ⟨by simpa using clean, String.ofList (c :: before).reverse, ?_, ?_⟩
          · intro empty
            simpa using congrArg String.toList empty
          · apply String.toList_injective
            simpa [String.toList_append] using text
        · contradiction
      · rintro ⟨clean, stem, nonempty, rfl⟩
        have text : (stem ++ "." ++ ending).toList = stem.toList ++ '.' :: ending.toList := by
          simp [String.toList_append]
        obtain ⟨taken, dropped⟩ := split_last_dot.2 ⟨clean, text⟩
        obtain ⟨c, before, behind⟩ := List.exists_cons_of_ne_nil
          (l := stem.toList.reverse) (by simpa using nonempty)
        rw [dropped, taken, behind]
        simp

/-- Ends in `.yaml` or `.yml` in lower case, behind another character of the file's name. -/
def EndsInYaml (path : String) : Prop :=
  ∃ c ending, c ≠ '/' ∧ ending ∈ ["yaml", "yml"] ∧ c :: '.' :: ending.toList <:+ path.toList

theorem yaml_ending_clean (known : ending ∈ ["yaml", "yml"]) :
    '/' ∉ ending.toList ∧ '.' ∉ ending.toList := by
  revert ending
  decide

theorem ends_behind_slash (front name : String) :
    EndsInYaml (front ++ "/" ++ name) ↔ EndsInYaml name := by
  have text : (front ++ "/" ++ name).toList = front.toList ++ '/' :: name.toList := by
    simp [String.toList_append]
  refine exists_congr fun c => exists_congr fun ending => and_congr_right fun different =>
    and_congr_right fun known => ?_
  rw [text, suffix_behind]
  simp [Ne.symm different, yaml_ending_clean known]

theorem ends_in_yaml_iff (named : FileName name) : EndsInYaml name ↔
    ∃ ending ∈ ["yaml", "yml"], extension? name = some ending := by
  constructor
  · rintro ⟨c, ending, -, known, before, text⟩
    refine ⟨ending, known, extension_iff.2
      ⟨(yaml_ending_clean known).2, String.ofList (before ++ [c]), ?_, ?_⟩⟩
    · intro empty
      simpa using congrArg String.toList empty
    · rw [file_name_of_name named, Option.some.injEq]
      apply String.toList_injective
      simpa [String.toList_append] using text.symm
  · rintro ⟨ending, known, extension⟩
    obtain ⟨-, stem, nonempty, shape⟩ := extension_iff.1 extension
    rw [file_name_of_name named, Option.some.injEq] at shape
    obtain ⟨before, c, split⟩ := List.eq_nil_or_concat stem.toList |>.resolve_left
      (by simpa using nonempty)
    have text : name.toList = before ++ c :: '.' :: ending.toList := by
      simp [shape, String.toList_append, split]
    refine ⟨c, ending, ?_, known, before, text.symm⟩
    rintro rfl
    exact named.noSlash (by simp [text])

theorem extension_of_yaml (named : FileName name) (yaml : Format.ofName name = .yaml) :
    extension? name ≠ some "json" := by
  intro extension
  obtain ⟨-, stem, -, shape⟩ := extension_iff.1 extension
  rw [file_name_of_name named, Option.some.injEq] at shape
  have lower : lowerAscii name = lowerAscii stem ++ ".json".toList := by
    simp [lowerAscii, shape, String.toList_append]
  rw [format_yaml_iff, lower] at yaml
  -- The last letters differ.
  rcases yaml with ⟨before, same⟩ | ⟨before, same⟩ <;>
    simpa using congrArg List.getLast? same

theorem extension_of_file_name (named : FileName name) (found : fileName? path = some name) :
    extension? path = extension? name := by
  rw [extension?, found, extension?, file_name_of_name named]

/-- Of what would be read as YAML, a file is taken for a document by its ending to the letter. -/
theorem yaml_document_iff (yaml : Format.ofName path = .yaml) :
    isDocument path = true ↔ EndsInYaml path := by
  obtain ⟨name, named, found, yamlName, shape⟩ := file_name_of_yaml yaml
  -- Both tests look at the file name only.
  have ends : EndsInYaml path ↔ EndsInYaml name := by
    rcases shape with rfl | ⟨front, rfl⟩
    · rfl
    · exact ends_behind_slash front name
  rw [isDocument, extension_of_file_name named found, ends, ends_in_yaml_iff named]
  have notJson := extension_of_yaml named yamlName
  cases extension : extension? name with
  | none => simp
  | some ending =>
      have other : ending ≠ "json" := fun json => notJson (json ▸ extension)
      simp [other]

end Path

namespace Lint

variable {tree : FileTree} {path directory : String} {names : List String}

theorem file_checked_iff {content : ByteArray} (standing : tree.at? path = some (.file content))
    (strict : Bool) :
    (lint tree path strict).filesChecked = 1 ↔ Path.isDocument path = true := by
  rw [Report.filesChecked, lint, List.length_map, documentsAt, standing]
  by_cases document : Path.isDocument path <;> simp [document]

theorem file_found_iff {entries : List (String × FileTree)} {content : ByteArray}
    (standing : tree.at? directory = some (.directory entries))
    (wellNamed : (FileTree.directory entries).WellNamed)
    (holds : (FileTree.directory entries).find? names = some (.file content)) :
    Path.below directory names ∈ documentsAt tree directory ↔
      Path.isDocument (Path.below directory names) = true := by
  have nonempty : directory ≠ "" := by
    rintro rfl
    contradiction
  obtain ⟨located, files, exact⟩ := documents_located standing wellNamed
  rw [files, List.mem_map]
  constructor
  · rintro ⟨others, listed, same⟩
    rw [← same]
    exact ((exact.exact others).1 listed).2
  · intro document
    exact ⟨names, (exact.exact names).2 ⟨⟨content, holds⟩, document⟩, rfl⟩

/-- Of the files that would be read as YAML those are checked whose ending is in lower case and
behind more of their name, by themselves and in every directory that holds a file of the same
name. -/
theorem yaml_file_checked_iff (tree : FileTree) (path : String) (content : ByteArray)
    (standing : tree.at? path = some (.file content)) (yaml : Format.ofName path = .yaml)
    (strict : Bool) :
    ((lint tree path strict).filesChecked = 1 ↔ Path.EndsInYaml path) ∧
    ∀ directory entries names inner, tree.at? directory = some (.directory entries) →
      (FileTree.directory entries).WellNamed →
      (FileTree.directory entries).find? names = some (.file inner) →
      Path.fileName? path = names.getLast? →
        (Path.below directory names ∈ documentsAt tree directory ↔ Path.EndsInYaml path) := by
  rw [← Path.yaml_document_iff yaml]
  refine ⟨file_checked_iff standing strict, ?_⟩
  intro directory entries names inner found wellNamed holds sameName
  obtain ⟨name, named, fileName, -⟩ := Path.file_name_of_yaml yaml
  have nonempty : directory ≠ "" := by
    rintro rfl
    contradiction
  have last : names.getLast? = some name := sameName.symm.trans fileName
  have same : Path.isDocument (Path.below directory names) = Path.isDocument path := by
    rw [Path.is_document_below nonempty (wellNamed.found_names holds) last, Path.isDocument,
      Path.isDocument, Path.extension_of_file_name named fileName]
  rw [file_found_iff found wellNamed holds, same]

def yamlDirectory : FileTree :=
  .directory [("API.YML", .file .empty), ("v1.JSON.yaml", .file .empty)]

def yamlTree : FileTree := .directory [("specs", yamlDirectory)]

theorem yaml_directory_named : yamlDirectory.WellNamed := by
  refine .directory (by decide) ?_ ?_
  · simp only [List.forall_mem_cons, List.not_mem_nil, false_implies, implies_true, and_true]
    refine ⟨⟨?_, ?_, ?_, ?_⟩, ⟨?_, ?_, ?_, ?_⟩⟩ <;> decide
  · simp only [List.forall_mem_cons, List.not_mem_nil, false_implies, implies_true, and_true]
    exact ⟨.file _, .file _⟩

/-- A name with several dots is checked by itself and in its directory. -/
theorem dotted_name_checked :
    yamlTree.at? "specs/v1.JSON.yaml" = some (.file .empty) ∧
      Format.ofName "specs/v1.JSON.yaml" = .yaml ∧
      (lint yamlTree "specs/v1.JSON.yaml" true).filesChecked = 1 ∧
      "specs/v1.JSON.yaml" ∈ documentsAt yamlTree "specs" := by
  have standing : yamlTree.at? "specs/v1.JSON.yaml" = some (.file .empty) := rfl
  have yaml : Format.ofName "specs/v1.JSON.yaml" = .yaml := by decide
  have ends : Path.EndsInYaml "specs/v1.JSON.yaml" :=
    ⟨'N', "yaml", by decide, by decide, "specs/v1.JSO".toList, by decide⟩
  obtain ⟨alone, within⟩ := yaml_file_checked_iff yamlTree _ _ standing yaml true
  exact ⟨standing, yaml, alone.2 ends,
    (within "specs" _ ["v1.JSON.yaml"] _ rfl yaml_directory_named rfl rfl).2 ends⟩

/-- A file with its ending in capitals is read as YAML but is not checked, neither by itself nor
in its directory. -/
theorem capital_ending_unchecked :
    yamlTree.at? "specs/API.YML" = some (.file .empty) ∧
      Format.ofName "specs/API.YML" = .yaml ∧
      (lint yamlTree "specs/API.YML" true).filesChecked = 0 ∧
      "specs/API.YML" ∉ documentsAt yamlTree "specs" := by
  have found : Path.below "specs" ["API.YML"] ∈ documentsAt yamlTree "specs" ↔
      Path.isDocument (Path.below "specs" ["API.YML"]) = true :=
    file_found_iff rfl yaml_directory_named rfl
  have unknown : ¬Path.isDocument "specs/API.YML" = true := by decide
  exact ⟨rfl, by decide, rfl, mt found.1 unknown⟩

end Lint

end RefLint
