import RefLint.Command.Run

/-!
# The program

Reads the files that the arguments name, runs the command on them, and carries
out what it decided.
-/

namespace RefLint.Program

set_option autoImplicit false

/-- What stands at a path. Only documents of a directory are read. -/
partial def readTree (isNamed : Bool) (path : String) : IO FileTree := do
  let place := (← IO.currentDir) / path
  if ← place.isDir then
    let entries ← place.readDir
    let inner ← entries.toList.mapM fun entry => do
      return (entry.fileName, ← readTree false (Path.join path entry.fileName))
    return .directory inner
  else if isNamed || Path.isDocument path then
    return .file (← IO.FS.readBinFile place)
  else
    return .file .empty

/-- Put the directories that a path goes through into a tree, without what they hold. -/
def addDirectories (tree : FileTree) (path : String) : IO FileTree := do
  let parts := Path.parts path
  (List.range parts.length).foldlM (fun tree count => do
    let directory := "/".intercalate (parts.take count)
    if directory ≠ "" && (tree.at? directory).isNone
        && (← ((← IO.currentDir) / directory).isDir) then
      return FileTree.put .empty tree (FileTree.plainNames directory)
    else
      return tree) tree

def addPath (tree : FileTree) (path : String) : IO FileTree := do
  let around ← addDirectories tree path
  if ← ((← IO.currentDir) / path).pathExists then
    return FileTree.put (← readTree true path) around (FileTree.plainNames path)
  else
    return around

def run (arguments : List String) : IO UInt32 := do
  let request := Command.Request.ofArguments arguments
  let named :=
    match request with
    | .ok request => request.readPaths ++ request.outputPath?.toList
    | .error _ => []
  let tree ← named.foldlM addPath FileTree.empty
  let outcome := Command.run arguments tree
  match request with
  | .ok request =>
      match request.outputPath? with
      | some path =>
          match outcome.code, (outcome.tree.at? path).map FileTree.text? with
          | 0, some (.ok text) => IO.FS.writeFile ((← IO.currentDir) / path) text
          | _, _ => pure ()
      | none => pure ()
  | .error _ => pure ()
  IO.print outcome.stdout
  IO.eprint outcome.stderr
  return outcome.code.toUInt32

end RefLint.Program

def main (arguments : List String) : IO UInt32 := RefLint.Program.run arguments
