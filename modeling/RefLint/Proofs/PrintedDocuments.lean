import RefLint.Proofs.FilePaths
import RefLint.Proofs.RepeatedDereference
import RefLint.Proofs.WrittenEndings

/-!
# Printed documents

A resolved document is printed without the white space at its end and with one line
end, and it is written to a file as it was rendered. In YAML the white space at the
end may belong to the last text of the document. The two outputs are the same text
exactly when it does not.
-/

namespace RefLint

set_option autoImplicit false

section Files

/-- A path of names that lead from the directory the program works in. -/
def PlainPath (path : String) : Prop :=
  ∃ name names, FileName name ∧ (∀ later ∈ names, FileName later) ∧ path = Path.below name names

namespace FileTree

variable {tree written inner : FileTree} {path : String}

theorem lookup_set_entry (name : String) (inner : FileTree) (entries : List (String × FileTree)) :
    lookup? name (setEntry name inner entries) = some inner := by
  induction entries with
  | nil => simp [setEntry, lookup?]
  | cons entry rest ih =>
      obtain ⟨other, old⟩ := entry
      by_cases same : other = name <;> simp [setEntry, lookup?, same, ih]

theorem find_put (inner tree : FileTree) (names : List String) :
    (put inner tree names).find? names = some inner := by
  induction names generalizing tree with
  | nil => cases tree <;> rfl
  | cons name rest ih =>
      cases tree <;> simp only [put, find?, child?, lookup_set_entry, Option.bind_some, ih]

theorem plain_names_below {name : String} {names : List String} (first : FileName name)
    (later : ∀ other ∈ names, FileName other) :
    plainNames (Path.below name names) = name :: names := by
  have gather : names.foldl (fun taken name => taken ++ [name]) [name] = name :: names := by
    rw [List.foldl_append_eq_append, ← List.flatMap_def, List.flatMap_singleton',
      List.singleton_append]
  rw [plainNames, Path.components_below first.notEmpty later, Path.components_of_name first,
    List.singleton_append, List.foldl_cons, List.foldl_map]
  exact gather

theorem write_eq_ok {content : String} (success : tree.write path content = .ok written) :
    written = put (file content.toUTF8) tree (plainNames path) := by
  unfold write at success
  simp only at success
  split at success
  · contradiction
  · exact (Except.ok.inj success).symm
  · split at success
    · split at success
      · contradiction
      · split at success
        · contradiction
        · exact (Except.ok.inj success).symm
    · contradiction
    · contradiction

theorem written_at {content : String} (plain : PlainPath path)
    (success : tree.write path content = .ok written) :
    written.at? path = some (.file content.toUTF8) := by
  obtain ⟨name, names, first, later, rfl⟩ := plain
  have opening (tree : FileTree) : tree.at? name = tree.child? name := by
    have parts := Path.parts_of_name first
    rw [at?, if_neg first.notEmpty, parts, walk, follow_name first]
    rintro rest _ opened
    exact absurd (List.cons.inj opened).1 first.notEmpty
  rw [write_eq_ok success, plain_names_below first later, at_below first.notEmpty later, opening]
  exact find_put _ tree (name :: names)

theorem text_of_file (content : String) : (file content.toUTF8).text? = .ok content := by
  have decoded : String.fromUTF8? content.toUTF8 = some content := by
    exact dif_pos content.isValidUTF8
  rw [text?, decoded]

end FileTree

end Files

namespace Command

section Channels

variable {tree : FileTree} {document resolved : Value}

theorem run_resolved (request : ResolveRequest)
    (loaded : tree.loadSource request.document = .ok document)
    (dereferenced : dereference document request.options = .ok resolved) :
    { request with output := none }.run tree =
        ⟨0, printed (request.rendering.render resolved), "", tree⟩ ∧
      ∀ path written, tree.write path (request.rendering.render resolved) = .ok written →
        { request with output := some path }.run tree = ⟨0, "", "", written⟩ := by
  simp only [ResolveRequest.run, loaded, dereferenced, true_and]
  intro path written success
  rw [success]

/-- A document resolved to YAML is printed as the text that is written to a file exactly
when it ends tightly, and then both texts load as the same document. -/
theorem yaml_channels_agree_iff (request : ResolveRequest) (yaml : request.rendering = .yaml)
    (loaded : tree.loadSource request.document = .ok document)
    (dereferenced : dereference document request.options = .ok resolved) :
    ∃ text, { request with output := none }.run tree = ⟨0, text, "", tree⟩ ∧
      (∀ path written, tree.write path (Yaml.write resolved) = .ok written →
        { request with output := some path }.run tree = ⟨0, "", "", written⟩ ∧
          (PlainPath path → ∃ file, written.at? path = some file ∧
            file.text? = .ok (Yaml.write resolved))) ∧
      (text = Yaml.write resolved ↔ Yaml.EndsTightly resolved) ∧
      (Yaml.EndsTightly resolved →
        readDocument text .yaml = readDocument (Yaml.write resolved) .yaml) := by
  obtain ⟨onto, into⟩ := run_resolved request loaded dereferenced
  have rendered : request.rendering.render resolved = Yaml.write resolved := by rw [yaml]; rfl
  rw [rendered] at onto into
  refine ⟨_, onto, fun path written success => ?_, Yaml.printed_write_iff resolved, fun tight => ?_⟩
  · exact ⟨into path written success, fun plain =>
      ⟨_, FileTree.written_at plain success, FileTree.text_of_file _⟩⟩
  · rw [(Yaml.printed_write_iff resolved).2 tight]

end Channels

section SingleTexts

variable {text content : String} {style : Yaml.ScalarStyle}

theorem read_single_text (cut : Yaml.tokens? text = some [.scalar content style, .streamEnd])
    (typed : Yaml.scalarValue? none content style = some (.string content)) :
    readDocument text .yaml = .ok (.string content) := by
  have parsed : Yaml.Node.ofTokens? [.scalar content style, .streamEnd] =
      some (some (.scalar {} content style)) := rfl
  have evaluated : Yaml.Datum.ofText? text = some (.scalar (.string content)) := by
    simp [Yaml.Datum.ofText?, cut, parsed, Yaml.Datum.ofNode, Yaml.Datum.ofContent, typed,
      Yaml.Datum.wrap, Yaml.ownTag?]
  simp [readDocument, evaluated, Yaml.Datum.toValue, Yaml.Scalar.toValue]

def singleFile (text : String) : FileTree := .directory [("doc.yaml", .file text.toUTF8)]

def yamlRequest (output : Option String) : ResolveRequest := ⟨"doc.yaml", output, .yaml, {}⟩

theorem single_file_loaded {value : Value} (read : readDocument text .yaml = .ok value) :
    (singleFile text).loadSource "doc.yaml" = .ok value := by
  have near : isUrl "doc.yaml" = false := by decide
  have standing : (singleFile text).at? "doc.yaml" = some (.file text.toUTF8) := rfl
  have format : Format.ofName "doc.yaml" = .yaml := by decide
  rw [FileTree.loadSource, near]
  simp only [Bool.false_eq_true, if_false, FileTree.load, standing, FileTree.text_of_file, format,
    read]

theorem text_dereferenced (content : String) (options : RefOptions) :
    dereference (.string content) options = .ok (.string content) :=
  dereference_clean fun _ => not_visible_of_scalar trivial

theorem plain_text_printed_intact :
    (singleFile "text\n").loadSource "doc.yaml" = .ok (.string "text") ∧
      ∃ text, (yamlRequest none).run (singleFile "text\n") =
          ⟨0, text, "", singleFile "text\n"⟩ ∧
        text = Yaml.write (.string "text") := by
  have loaded : (singleFile "text\n").loadSource "doc.yaml" = .ok (.string "text") :=
    single_file_loaded (read_single_text rfl rfl)
  have tight : Yaml.EndsTightly (.string "text") := by
    rintro _ ⟨⟩ _
    exact .inl ⟨'t', by decide, by decide⟩
  obtain ⟨text, onto, -, same, -⟩ := yaml_channels_agree_iff (yamlRequest none) rfl loaded
    (text_dereferenced "text" {})
  exact ⟨loaded, text, onto, same.2 tight⟩

/-- The second of two line ends belongs to the text, and is lost when it is printed. -/
theorem trailing_break_cut :
    ∃ text written, (yamlRequest none).run (singleFile "|+\n  x\n\n") =
        ⟨0, text, "", singleFile "|+\n  x\n\n"⟩ ∧
      (yamlRequest (some "out.yaml")).run (singleFile "|+\n  x\n\n") = ⟨0, "", "", written⟩ ∧
      readDocument text .yaml = .ok (.string "x\n") ∧
      written.load "out.yaml" = .ok (.string "x\n\n") := by
  have read : readDocument "|+\n  x\n\n" .yaml = .ok (.string "x\n\n") := read_single_text rfl rfl
  have rendered : (yamlRequest none).rendering.render (.string "x\n\n") = "|+\n  x\n\n" := rfl
  have cut : printed "|+\n  x\n\n" = "|+\n  x\n" := by decide
  obtain ⟨onto, into⟩ := run_resolved (yamlRequest none) (single_file_loaded read)
    (text_dereferenced "x\n\n" {})
  rw [rendered, cut] at onto
  rw [rendered] at into
  have success : (singleFile "|+\n  x\n\n").write "out.yaml" "|+\n  x\n\n" =
      .ok (.put (.file "|+\n  x\n\n".toUTF8) (singleFile "|+\n  x\n\n") ["out.yaml"]) := rfl
  have plain : PlainPath "out.yaml" :=
    ⟨"out.yaml", [], ⟨by decide, by decide, by decide, by decide⟩, by simp, rfl⟩
  have format : Format.ofName "out.yaml" = .yaml := by decide
  refine ⟨_, _, onto, into _ _ success, read_single_text rfl rfl, ?_⟩
  simp only [FileTree.load, FileTree.written_at plain success, FileTree.text_of_file, format, read]

end SingleTexts

end Command

end RefLint
