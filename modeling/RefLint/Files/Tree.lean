import RefLint.Document
import RefLint.Files.Path

/-!
# Trees of files

The files that the program can see, as a tree of directories below the one it
works in. What lies outside of that directory can be held too: the directory
above it under the name `..`, and the one that absolute paths start from under
the empty name. These two are always there, if only as empty directories.
-/

namespace RefLint

set_option autoImplicit false

inductive FileTree where
  | file (content : ByteArray)
  | directory (entries : List (String × FileTree))

inductive WriteFailure where
  | noSuchDirectory
  | notDirectory
  | isDirectory
  deriving DecidableEq

def WriteFailure.message : WriteFailure → String
  | noSuchDirectory => "No such file or directory (os error 2)"
  | notDirectory => "Not a directory (os error 20)"
  | isDirectory => "Is a directory (os error 21)"

namespace FileTree

def empty : FileTree := directory []

def isFile : FileTree → Bool
  | file _ => true
  | directory _ => false

def lookup? (name : String) : List (String × FileTree) → Option FileTree
  | [] => none
  | (other, tree) :: rest => if other = name then some tree else lookup? name rest

def setEntry (name : String) (tree : FileTree) : List (String × FileTree) →
    List (String × FileTree)
  | [] => [(name, tree)]
  | (other, old) :: rest =>
      if other = name then (name, tree) :: rest else (other, old) :: setEntry name tree rest

/-- Follow the parts of a path; `above` holds the directories above `tree`. -/
def follow (above : List FileTree) (tree : FileTree) : List String → Option FileTree
  | [] => some tree
  | part :: rest =>
      match tree with
      | file _ => none
      | directory entries =>
          if part = "" || part = "." then follow above tree rest
          else if part = ".." then
            match above with
            | outer :: above => follow above outer rest
            | [] =>
                follow [] ((lookup? ".." entries).getD empty) rest
          else
            match lookup? part entries with
            | some inner => follow (tree :: above) inner rest
            | none => none

/-- Follow the parts of a path from the start that the first of them names. -/
def walk (tree : FileTree) (parts : List String) : Option FileTree :=
  match parts, tree with
  | "" :: rest, directory entries => follow [] ((lookup? "" entries).getD empty) rest
  | parts, _ => follow [] tree parts

/-- The file or directory that a path names. -/
def at? (tree : FileTree) (path : String) : Option FileTree :=
  if path = "" then none else tree.walk (Path.parts path)

/-- Put a file or an empty directory at a list of names, with the directories above it. -/
def put (inner : FileTree) : FileTree → List String → FileTree
  | _, [] => inner
  | tree, name :: rest =>
      let entries :=
        match tree with
        | directory entries => entries
        | file _ => []
      directory (setEntry name (put inner ((lookup? name entries).getD empty) rest) entries)

/-- The names that lead to a path, without the steps that cancel each other. -/
def plainNames (path : String) : List String :=
  (Path.components path).foldl (fun names component =>
    match component with
    | .root => names ++ [""]
    | .current => names
    | .normal name => names ++ [name]
    | .parent =>
        match names.getLast? with
        | none => [".."]
        | some "" => names
        | some ".." => names ++ [".."]
        | some _ => names.dropLast) []

/-- Write a file, which may not exist yet; its directory has to. -/
def write (tree : FileTree) (path : String) (content : String) : Except WriteFailure FileTree :=
  let parts := Path.parts path
  let written := put (file content.toUTF8) tree (plainNames path)
  match tree.at? path with
  | some (directory _) => .error .isDirectory
  | some (file _) => .ok written
  | none =>
      match tree.walk parts.dropLast with
      | some (directory _) =>
          if path = "" then .error .noSuchDirectory
          else if parts.getLast? = some "" then .error .isDirectory
          else .ok written
      | some (file _) => .error .notDirectory
      | none => .error (missingParent tree parts)
where
  /-- Whether the walk to the parent ends at a file or at nothing. -/
  missingParent (tree : FileTree) (parts : List String) : WriteFailure :=
    let reached := (List.range parts.length).filterMap fun count => tree.walk (parts.take count)
    match reached.getLast? with
    | some (file _) => .notDirectory
    | _ => .noSuchDirectory

def text? (tree : FileTree) : Except ReadFailure String :=
  match tree with
  | directory _ => .error .isDirectory
  | file content =>
      match String.fromUTF8? content with
      | some text => .ok text
      | none => .error .notUtf8

def load (tree : FileTree) (path : String) : Except LoadError Value :=
  match tree.at? path with
  | none => .error (.fileNotFound path)
  | some found =>
      match found.text? with
      | .error failure => .error (.unreadable path failure)
      | .ok text => readDocument text (.ofName path)

/-- Load a document by path. This is the branch of a build without the `remote` feature, where
a document with a web address is never found; with the feature, which is on by default, the
address is fetched. -/
def loadSource (tree : FileTree) (source : String) : Except LoadError Value :=
  if isUrl source then .error (.fileNotFound source) else tree.load source

/-- The documents below a tree, each by the names that lead to it. -/
def documents : FileTree → List (List String)
  | file _ => []
  | directory entries => inEntries entries
where
  inEntries : List (String × FileTree) → List (List String)
    | [] => []
    | (name, file _) :: rest =>
        if Path.isDocument name then [name] :: inEntries rest else inEntries rest
    | (name, directory entries) :: rest =>
        (documents (directory entries)).map (name :: ·) ++ inEntries rest

end FileTree

end RefLint
