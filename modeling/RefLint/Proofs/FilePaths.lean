import Mathlib.Data.List.Lex
import RefLint.Files.Tree

/-!
# Paths below a path

Joining a file name to a path adds one step to its components, and what stands at the joined
path is the entry of that name. So the names that lead to a file from a directory and the path
of that file say the same, and whether a file is taken for a document shows in its name.
-/

namespace RefLint

set_option autoImplicit false

/-- What a file can be called. -/
structure FileName (name : String) : Prop where
  notEmpty : name ≠ ""
  notCurrent : name ≠ "."
  notParent : name ≠ ".."
  noSlash : '/' ∉ name.toList

namespace Path

def below (path : String) (names : List String) : String := names.foldl join path

section Parts

variable {directory name path : String}

theorem parts_of_name (named : FileName name) : parts name = [name] := by
  have split := split_at_append named.noSlash (rfl : splitAt '/' [] = [[]])
  rw [List.append_nil] at split
  rw [parts, split, List.map_singleton, String.ofList_toList]

theorem parts_slash (front behind : String) :
    parts (front ++ "/" ++ behind) = parts front ++ parts behind := by
  have text : (front ++ "/" ++ behind).toList = front.toList ++ '/' :: behind.toList := by
    simp [String.toList_append]
  rw [parts, text, split_at_parts, List.map_append, parts, parts]

theorem parts_ne_nil (path : String) : parts path ≠ [] := by
  rw [parts, ne_eq, List.map_eq_nil_iff]
  exact split_at_ne_nil '/' path.toList

/-- The parts of a path that ends in a slash end in an empty part, which a joined name takes
the place of. -/
theorem parts_join (named : FileName name) (directory : String) : ∃ front, front ≠ [] ∧
    (parts directory = front ∨ parts directory = front ++ [""]) ∧
      parts (join directory name) = front ++ [name] := by
  by_cases slash : directory.toList.getLast? = some '/'
  · obtain ⟨before, text⟩ := List.getLast?_eq_some_iff.1 slash
    have opened : directory = String.ofList before ++ "/" := String.toList_injective (by simp [text])
    refine ⟨parts (String.ofList before), parts_ne_nil _, .inr ?_, ?_⟩
    · rw [opened, ← String.append_empty (s := String.ofList before ++ "/"), parts_slash]
      rfl
    · have joined : join directory name = String.ofList before ++ "/" ++ name := by
        rw [join, slash, opened]
        rfl
      rw [joined, parts_slash, parts_of_name named]
  · refine ⟨parts directory, parts_ne_nil _, .inl rfl, ?_⟩
    have joined : join directory name = directory ++ "/" ++ name := by
      unfold join
      split
      · contradiction
      · rfl
    rw [joined, parts_slash, parts_of_name named]

def openingStep? (first : String) : Option Component :=
  if first = "" then some .root
  else if first = "." then some .current
  else laterStep? first

theorem parts_ne_empty (nonempty : path ≠ "") : parts path ≠ [""] := by
  intro split
  obtain ⟨part, only, empty⟩ := List.map_eq_singleton_iff.1 split
  obtain rfl : part = [] := by simpa using empty
  apply nonempty
  apply String.toList_injective
  cases text : path.toList with
  | nil => rfl
  | cons c rest =>
      rw [text, splitAt] at only
      split at only
      · exact absurd (List.cons.inj only).2 (split_at_ne_nil '/' rest)
      · split at only <;> simp at only

theorem steps_of_parts {first : String} {rest : List String} (nonempty : path ≠ "")
    (split : parts path = first :: rest) : steps path =
      (first, openingStep? first) :: rest.map fun part => (part, laterStep? part) := by
  rw [steps, split]
  cases rest with
  | nil =>
      have notEmpty : first ≠ "" := by
        rintro rfl
        exact parts_ne_empty nonempty split
      rw [openingStep?, if_neg notEmpty]
      rfl
  | cons second rest => rfl

theorem components_of_parts {first : String} {rest : List String} (nonempty : path ≠ "")
    (split : parts path = first :: rest) :
    components path = (openingStep? first).toList ++ rest.filterMap laterStep? := by
  have later : (rest.map fun part => (part, laterStep? part)).filterMap (·.2) =
      rest.filterMap laterStep? := List.filterMap_map
  rw [components, steps_of_parts nonempty split, List.filterMap_cons, later]
  cases openingStep? first <;> rfl

theorem later_step_of_name (named : FileName name) : laterStep? name = some (.normal name) := by
  simp [laterStep?, named.notEmpty, named.notCurrent, named.notParent]

theorem join_ne_empty (named : FileName name) (directory : String) : join directory name ≠ "" := by
  obtain ⟨front, nonempty, _, joined⟩ := parts_join named directory
  intro empty
  rw [empty] at joined
  cases front with
  | nil => contradiction
  | cons first rest =>
      have lengths := congrArg List.length joined
      simp [parts, splitAt] at lengths

theorem components_join (named : FileName name) (nonempty : directory ≠ "") :
    components (join directory name) = components directory ++ [.normal name] := by
  obtain ⟨front, found, split, joined⟩ := parts_join named directory
  obtain ⟨first, rest, rfl⟩ := List.exists_cons_of_ne_nil found
  rw [List.cons_append] at split joined
  rw [components_of_parts (join_ne_empty named directory) joined]
  have later : (rest ++ [name]).filterMap laterStep? =
      rest.filterMap laterStep? ++ [.normal name] := by
    simp [later_step_of_name named]
  have idle : (rest ++ [""]).filterMap laterStep? = rest.filterMap laterStep? := by
    simp [laterStep?]
  rw [later, ← List.append_assoc]
  rcases split with split | split
  · rw [components_of_parts nonempty split]
  · rw [components_of_parts nonempty split, idle]

theorem components_of_name (named : FileName name) : components name = [.normal name] := by
  rw [components_of_parts named.notEmpty (parts_of_name named), openingStep?,
    if_neg named.notEmpty, if_neg named.notCurrent, later_step_of_name named]
  rfl

end Parts

section Below

variable {path : String} {names others : List String}

theorem components_below (nonempty : path ≠ "") (named : ∀ name ∈ names, FileName name) :
    components (below path names) = components path ++ names.map .normal := by
  induction names generalizing path with
  | nil => exact (List.append_nil _).symm
  | cons name rest ih =>
      obtain ⟨first, later⟩ := List.forall_mem_cons.1 named
      have inner := ih (join_ne_empty first path) later
      rw [components_join first nonempty, List.append_assoc] at inner
      exact inner

theorem is_document_below {name : String} (nonempty : path ≠ "")
    (named : ∀ name ∈ names, FileName name) (last : names.getLast? = some name) :
    isDocument (below path names) = isDocument name := by
  have present := List.mem_of_getLast? last
  have same : fileName? (below path names) = fileName? name := by
    rw [fileName?, components_below nonempty named, fileName?, components_of_name (named _ present)]
    simp [last]
  rw [isDocument, extension?, same, isDocument, extension?]

end Below

section Order

/-- How far to the front a step stands among steps of different kinds. -/
def Component.rank : Component → Nat
  | root => 0
  | current => 1
  | parent => 2
  | normal _ => 3

def Component.Before : Component → Component → Prop
  | normal name, normal other => name < other
  | step, other => step.rank < other.rank

/-- Paths come in the order of their steps, the first that differs deciding. -/
def Before (path other : String) : Prop :=
  List.Lex Component.Before (components path) (components other)

variable {path : String} {names others : List String}

theorem before_below (nonempty : path ≠ "") (named : ∀ name ∈ names, FileName name)
    (otherNamed : ∀ name ∈ others, FileName name) (before : List.Lex (· < ·) names others) :
    Before (below path names) (below path others) := by
  rw [Before, components_below nonempty named, components_below nonempty otherNamed]
  apply List.Lex.append_left
  clear named otherNamed
  induction before with
  | nil => exact .nil
  | rel before => exact .rel before
  | cons _ ih => exact .cons ih

end Order

end Path

namespace FileTree

def child? (name : String) : FileTree → Option FileTree
  | file _ => none
  | directory entries => lookup? name entries

def find? : List String → FileTree → Option FileTree
  | [], tree => some tree
  | name :: rest, tree => (tree.child? name).bind (find? rest)

/-- An empty part behind a path asks for a directory. -/
def onlyDirectory? : FileTree → Option FileTree
  | file _ => none
  | directory entries => some (directory entries)

section Paths

variable {tree found : FileTree} {name path last : String} {names : List String}
  {arrive : FileTree → Option FileTree}

theorem follow_part (above : List FileTree) (entries : List (String × FileTree)) (part : String)
    (rest : List String) : follow above (.directory entries) (part :: rest) =
      if part = "" || part = "." then follow above (.directory entries) rest
      else if part = ".." then
        match above with
        | outer :: above => follow above outer rest
        | [] => follow [] ((lookup? ".." entries).getD empty) rest
      else
        match lookup? part entries with
        | some inner => follow (.directory entries :: above) inner rest
        | none => none := by
  cases above <;> rfl

/-- Only what stands before the last part matters to it: the directories above, which a part
may lead back to, are those of the parts before. -/
theorem follow_last (arrives : ∀ above tree, follow above tree [last] = arrive tree)
    (above : List FileTree) (tree : FileTree) (front : List String) :
    follow above tree (front ++ [last]) = (follow above tree front).bind arrive := by
  induction front generalizing above tree with
  | nil => exact arrives above tree
  | cons part rest ih =>
      rw [List.cons_append]
      cases tree with
      | file => rfl
      | directory entries =>
          rw [follow_part, follow_part]
          split
          · exact ih ..
          split
          · split <;> exact ih ..
          · split
            · exact ih ..
            · rfl

theorem walk_last (arrives : ∀ above tree, follow above tree [last] = arrive tree)
    (tree : FileTree) {front : List String} (nonempty : front ≠ []) :
    tree.walk (front ++ [last]) = (tree.walk front).bind arrive := by
  obtain ⟨first, rest, rfl⟩ := List.exists_cons_of_ne_nil nonempty
  rw [List.cons_append]
  by_cases absolute : first = ""
  · subst absolute
    cases tree with
    | file => rfl
    | directory entries => exact follow_last arrives ..
  · rw [walk, walk]
    · exact follow_last arrives _ _ (first :: rest)
    all_goals
      rintro _ _ ⟨⟩
      exact absurd rfl absolute

theorem follow_name (named : FileName name) (above : List FileTree) (tree : FileTree) :
    follow above tree [name] = tree.child? name := by
  cases tree with
  | file => rfl
  | directory entries =>
      have notIdle : ¬((decide (name = "") || decide (name = ".")) = true) := by
        simp [named.notEmpty, named.notCurrent]
      rw [follow_part, if_neg notIdle, if_neg named.notParent, child?]
      cases lookup? name entries <;> rfl

theorem follow_idle (above : List FileTree) (tree : FileTree) :
    follow above tree [""] = tree.onlyDirectory? := by
  cases tree <;> rfl

theorem at_join (named : FileName name) (nonempty : path ≠ "") :
    tree.at? (Path.join path name) = (tree.at? path).bind (child? name) := by
  obtain ⟨front, found, split, joined⟩ := Path.parts_join named path
  rw [at?, if_neg (Path.join_ne_empty named path), at?, if_neg nonempty, joined,
    walk_last (follow_name named) tree found]
  rcases split with split | split
  · rw [split]
  -- a slash at the end asks for a directory, and so does a name behind it
  · have same : ∀ inner : FileTree, inner.onlyDirectory?.bind (child? name) = inner.child? name := by
      intro inner
      cases inner <;> rfl
    rw [split, walk_last follow_idle tree found, Option.bind_assoc]
    simp only [same]

theorem at_below (nonempty : path ≠ "") (named : ∀ name ∈ names, FileName name) :
    tree.at? (Path.below path names) = (tree.at? path).bind (find? names) := by
  induction names generalizing path with
  | nil =>
      show tree.at? path = (tree.at? path).bind (find? [])
      cases tree.at? path <;> rfl
  | cons name rest ih =>
      obtain ⟨first, later⟩ := List.forall_mem_cons.1 named
      have inner := ih (Path.join_ne_empty first path) later
      rw [at_join first nonempty, Option.bind_assoc] at inner
      exact inner

end Paths

end FileTree

end RefLint
