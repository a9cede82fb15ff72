import RefLint.Lint.Files
import RefLint.Proofs.DistinctKeys
import RefLint.Proofs.FilePaths

/-!
# The documents below a path

A search goes through every directory below a path. It meets each file that is taken for a
document once, under the names that lead to it, and no other file.
-/

namespace RefLint

set_option autoImplicit false

namespace FileTree

/-- A tree as a file system holds it: in every directory each entry has a name of its own, and
the names are such as a file can have. -/
inductive WellNamed : FileTree → Prop where
  | file (content : ByteArray) : WellNamed (.file content)
  | directory {entries : List (String × FileTree)} (distinct : (entries.map (·.1)).Nodup)
      (named : ∀ entry ∈ entries, FileName entry.1)
      (inside : ∀ entry ∈ entries, WellNamed entry.2) : WellNamed (.directory entries)

variable {tree inner : FileTree} {entries : List (String × FileTree)} {name : String}
  {names : List String} {content : ByteArray}

theorem lookup_eq (name : String) (entries : List (String × FileTree)) :
    lookup? name entries = entries.lookup name := by
  induction entries with
  | nil => rfl
  | cons first rest ih =>
      obtain ⟨other, tree⟩ := first
      rw [lookup?, List.lookup_cons, ih]
      by_cases same : other = name
      · simp [same]
      · simp [same, beq_false_of_ne (Ne.symm same)]

theorem is_file_iff : tree.isFile = true ↔ ∃ content, tree = .file content := by
  cases tree <;> simp [isFile]

theorem find_file_iff : (FileTree.file content).find? names = some tree ↔
    names = [] ∧ tree = .file content := by
  cases names with
  | nil => simp [find?, eq_comm]
  | cons name rest => simp [find?, child?]

theorem find_directory_iff (distinct : (entries.map (·.1)).Nodup) :
    (FileTree.directory entries).find? (name :: names) = some tree ↔
      ∃ inner, (name, inner) ∈ entries ∧ inner.find? names = some tree := by
  rw [find?, Option.bind_eq_some_iff]
  simp only [child?, lookup_eq, lookup_eq_some_iff distinct]

theorem WellNamed.found_names (wellNamed : tree.WellNamed) (found : tree.find? names = some inner) :
    ∀ name ∈ names, FileName name := by
  induction wellNamed generalizing names with
  | file =>
      obtain ⟨rfl, _⟩ := find_file_iff.1 found
      nofun
  | directory distinct named inside ih =>
      cases names with
      | nil => nofun
      | cons name rest =>
          obtain ⟨next, listed, later⟩ := (find_directory_iff distinct).1 found
          exact List.forall_mem_cons.2 ⟨named _ listed, ih _ listed later⟩

def entryDocuments : String × FileTree → List (List String)
  | (name, file _) => if Path.isDocument name then [[name]] else []
  | (name, directory entries) => (directory entries).documents.map (name :: ·)

theorem documents_directory (entries : List (String × FileTree)) :
    (directory entries).documents = entries.flatMap entryDocuments := by
  rw [documents]
  induction entries with
  | nil => rfl
  | cons first rest ih =>
      rw [List.flatMap_cons, ← ih]
      obtain ⟨name, file | entries⟩ := first
      · rw [documents.inEntries, entryDocuments]
        split <;> rfl
      · rw [documents.inEntries, entryDocuments]

theorem mem_entry_documents_iff : names ∈ entryDocuments (name, inner) ↔
    ∃ later, names = name :: later ∧
      (later = [] ∧ Path.isDocument name = true ∧ inner.isFile = true ∨ later ∈ inner.documents) := by
  cases inner with
  | file content =>
      by_cases document : Path.isDocument name <;>
        simp [entryDocuments, document, isFile, documents]
  | directory entries =>
      rw [entryDocuments, List.mem_map]
      constructor
      · rintro ⟨later, listed, rfl⟩
        exact ⟨later, rfl, .inr listed⟩
      · rintro ⟨later, rfl, ⟨_, _, file⟩ | listed⟩
        · contradiction
        · exact ⟨later, listed, rfl⟩

/-- The names of the documents are those that lead to a file and end in a document's name. -/
theorem mem_documents_iff (wellNamed : tree.WellNamed) : names ∈ tree.documents ↔
    ∃ name content, names.getLast? = some name ∧ Path.isDocument name = true ∧
      tree.find? names = some (.file content) := by
  induction wellNamed generalizing names with
  | file content =>
      constructor
      · nofun
      · rintro ⟨name, _, ends, _, found⟩
        rw [(find_file_iff.1 found).1] at ends
        contradiction
  | @directory entries distinct named inside ih =>
      rw [documents_directory, List.mem_flatMap]
      constructor
      · rintro ⟨⟨name, inner⟩, listed, under⟩
        obtain ⟨later, rfl, ⟨rfl, document, isFile⟩ | below⟩ := mem_entry_documents_iff.1 under
        · obtain ⟨content, rfl⟩ := is_file_iff.1 isFile
          exact ⟨name, content, rfl, document,
            (find_directory_iff distinct).2 ⟨_, listed, rfl⟩⟩
        · obtain ⟨last, content, ends, document, found⟩ := (ih _ listed).1 below
          refine ⟨last, content, ?_, document, (find_directory_iff distinct).2 ⟨_, listed, found⟩⟩
          rw [List.getLast?_cons, ends, Option.getD_some]
      · rintro ⟨last, content, ends, document, found⟩
        cases names with
        | nil => contradiction
        | cons name later =>
            obtain ⟨inner, listed, found⟩ := (find_directory_iff distinct).1 found
            refine ⟨_, listed, mem_entry_documents_iff.2 ⟨later, rfl, ?_⟩⟩
            cases later with
            | nil =>
                obtain rfl := Option.some.inj ends
                obtain rfl := Option.some.inj found
                exact .inl ⟨rfl, document, rfl⟩
            | cons next rest =>
                rw [List.getLast?_cons_cons] at ends
                exact .inr ((ih _ listed).2 ⟨last, content, ends, document, found⟩)

theorem documents_nodup (wellNamed : tree.WellNamed) : tree.documents.Nodup := by
  induction wellNamed with
  | file => exact .nil
  | @directory entries distinct named inside ih =>
      rw [documents_directory, List.nodup_flatMap]
      constructor
      · rintro ⟨name, file | inner⟩ listed
        · rw [entryDocuments]
          split <;> simp
        · -- a name in front keeps different lists different
          exact (ih _ listed).map fun later other same => (List.cons.inj same).2
      -- documents under different names differ in their first name
      · refine (List.pairwise_map.1 distinct).imp ?_
        rintro ⟨name, inner⟩ ⟨other, tree⟩ different names listed elsewhere
        obtain ⟨_, rfl, _⟩ := mem_entry_documents_iff.1 listed
        obtain ⟨_, same, _⟩ := mem_entry_documents_iff.1 elsewhere
        exact different (List.cons.inj same).1

end FileTree

namespace Lint

open FileTree

variable {tree found : FileTree} {path : String} {names others : List String}

theorem names_le_iff : namesLe names others = true ↔ ¬List.Lex (· < ·) others names := by
  rw [namesLe, Bool.not_eq_true', decide_eq_false_iff_not]
  rfl

theorem names_le_trans {first second third : List String} (before : namesLe first second = true)
    (behind : namesLe second third = true) : namesLe first third = true :=
  names_le_iff.2 (@List.le_trans String _ _ _ _ first second third
    (names_le_iff.1 before) (names_le_iff.1 behind))

theorem names_le_total (names others : List String) :
    namesLe names others = true ∨ namesLe others names = true := by
  rw [names_le_iff, names_le_iff]
  exact @List.le_total String _ _ names others

theorem sorted_documents_increasing (wellNamed : tree.WellNamed) :
    (tree.documents.mergeSort namesLe).Pairwise (List.Lex (· < ·)) := by
  have sorted : (tree.documents.mergeSort namesLe).Pairwise fun names others =>
      namesLe names others = true := by
    apply List.pairwise_mergeSort
    · exact fun _ _ _ => names_le_trans
    · exact fun first second => Bool.or_eq_true_iff.2 (names_le_total first second)
  have distinct : (tree.documents.mergeSort namesLe).Nodup :=
    (List.mergeSort_perm _ _).nodup_iff.2 (documents_nodup wellNamed)
  refine (sorted.and distinct).imp ?_
  rintro names others ⟨before, different⟩
  have least := (@List.le_iff_lt_or_eq String _ _ _ _ names others).1 (names_le_iff.1 before)
  exact least.resolve_right different

/-- The regular files at and below a path that are taken for documents, each by the names that
lead to it from there, in path order. -/
structure Located (tree found : FileTree) (path : String) (located : List (List String)) :
    Prop where
  distinct : located.Nodup
  exact : ∀ names, names ∈ located ↔
    (∃ content, found.find? names = some (.file content)) ∧
      Path.isDocument (Path.below path names) = true
  ascending : (located.map (Path.below path)).Pairwise Path.Before
  arrived : ∀ names ∈ located, tree.at? (Path.below path names) = found.find? names

theorem file_located {content : ByteArray} (standing : tree.at? path = some (.file content)) :
    Located tree (.file content) path (if Path.isDocument path then [[]] else []) where
  distinct := by split <;> simp
  exact names := by
    simp only [find_file_iff]
    by_cases document : Path.isDocument path <;> simp +contextual [document, Path.below]
  ascending := by split <;> simp
  arrived names listed := by
    obtain rfl : names = [] := by
      split at listed <;> simp_all
    exact standing

theorem directory_document_iff {entries : List (String × FileTree)} (nonempty : path ≠ "")
    (wellNamed : (directory entries).WellNamed) : names ∈ (directory entries).documents ↔
      (∃ content, (directory entries).find? names = some (.file content)) ∧
        Path.isDocument (Path.below path names) = true := by
  rw [mem_documents_iff wellNamed]
  constructor
  · rintro ⟨last, content, ends, document, found⟩
    refine ⟨⟨content, found⟩, ?_⟩
    rwa [Path.is_document_below nonempty (wellNamed.found_names found) ends]
  · rintro ⟨⟨content, found⟩, document⟩
    cases ends : names.getLast? with
    | none =>
        simp [List.getLast?_eq_none_iff.1 ends, find?] at found
    | some last =>
        rw [Path.is_document_below nonempty (wellNamed.found_names found) ends] at document
        exact ⟨last, content, rfl, document, found⟩

theorem directory_located {entries : List (String × FileTree)} (nonempty : path ≠ "")
    (standing : tree.at? path = some (.directory entries))
    (wellNamed : (directory entries).WellNamed) :
    Located tree (.directory entries) path ((directory entries).documents.mergeSort namesLe) := by
  have sameDocuments := List.mergeSort_perm (directory entries).documents namesLe
  have named : ∀ names ∈ (directory entries).documents.mergeSort namesLe,
      ∀ name ∈ names, FileName name := by
    intro names listed
    obtain ⟨_, _, _, _, found⟩ := (mem_documents_iff wellNamed).1 (sameDocuments.mem_iff.1 listed)
    exact wellNamed.found_names found
  exact {
    distinct := sameDocuments.nodup_iff.2 (documents_nodup wellNamed)
    exact := fun names => sameDocuments.mem_iff.trans (directory_document_iff nonempty wellNamed)
    ascending := by
      rw [List.pairwise_map]
      refine (sorted_documents_increasing wellNamed).imp_of_mem fun first second before => ?_
      exact Path.before_below nonempty (named _ first) (named _ second) before
    arrived := by
      intro names listed
      rw [at_below nonempty (named names listed), standing, Option.bind_some] }

theorem documents_located (standing : tree.at? path = some found) (wellNamed : found.WellNamed) :
    ∃ located, documentsAt tree path = located.map (Path.below path) ∧
      Located tree found path located := by
  have nonempty : path ≠ "" := by
    rintro rfl
    contradiction
  rw [documentsAt, standing]
  cases found with
  | file content =>
      refine ⟨_, ?_, file_located standing⟩
      simp only
      split <;> rfl
  | directory entries => exact ⟨_, rfl, directory_located nonempty standing wellNamed⟩

end Lint

end RefLint
