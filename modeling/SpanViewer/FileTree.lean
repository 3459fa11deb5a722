import SpanViewer.Fault

/-!
# File trees

Files held in memory. A name is looked up from the root of the tree component by component, as a
system looks up a relative path.
-/

namespace SpanViewer

/-- The name of a file or directory, component by component from the root. -/
abbrev TreePath := List Text

/-- Files and directories under one root. -/
structure FileTree where
  /-- The files and their contents. -/
  files : List (TreePath × Bytes) := []
  /-- The directories below the root. -/
  directories : List TreePath := []
  deriving DecidableEq, Repr

/-- What a name stands for. -/
inductive Place where
  /-- Nothing has this name. -/
  | missing
  /-- A file stands where the name has a directory. -/
  | notDirectory
  /-- A directory and its name from the root. -/
  | directory (path : TreePath)
  /-- A file and its contents. -/
  | file (contents : Bytes)
  deriving DecidableEq, Repr

namespace FileTree

/-- The root of the system, which is outside of the tree. -/
def systemRoot : TreePath := [['/']]

/-- The directory is at or above the root of the tree. -/
def isAbove (path : TreePath) : Bool :=
  path.all (· = ['.', '.'])

/-- The tree has a directory of this name. -/
def hasDirectory (tree : FileTree) (path : TreePath) : Bool :=
  isAbove path || path = systemRoot || path ∈ tree.directories

/-- The directory around a directory. -/
def parent (path : TreePath) : TreePath :=
  if path = systemRoot then path else if isAbove path then ['.', '.'] :: path else path.dropLast

/-- Follows the components of a name from a directory. -/
def walk (tree : FileTree) (directory : TreePath) : TreePath → Place
  | [] => .directory directory
  | component :: rest =>
    if component = [] ∨ component = ['.'] then
      tree.walk directory rest
    else if component = ['.', '.'] then
      tree.walk (parent directory) rest
    else if tree.hasDirectory (directory ++ [component]) then
      tree.walk (directory ++ [component]) rest
    else
      match tree.files.lookup (directory ++ [component]) with
      | none => .missing
      | some contents => if rest = [] then .file contents else .notDirectory

/-- The directory from which a path is followed. -/
def start (path : Text) : TreePath :=
  if path.head? = some '/' then systemRoot else []

/-- What a path stands for. -/
def find (tree : FileTree) (path : Text) : Place :=
  if path = [] then .missing else tree.walk (start path) (path.splitOn '/')

/-- The contents of the file at a path. -/
def read (tree : FileTree) : Files := fun path =>
  if '\x00' ∈ path then
    .error .nulInName
  else
    match tree.find path with
    | .file contents => .ok contents
    | .missing => .error .missing
    | .notDirectory => .error .notDirectory
    | .directory _ => .error .isDirectory

/-- There is a file at a path. -/
def isFile (tree : FileTree) (path : Text) : Bool :=
  match tree.read path with
  | .ok _ => true
  | .error _ => false

/-- Adds the directories that lead to a name. -/
def addDirectories (tree : FileTree) (path : TreePath) : FileTree :=
  let above := (List.range path.length).map fun n => path.take (n + 1)
  { tree with directories := tree.directories ++ above }

/-- Adds a file, or a directory if the path ends in a slash. -/
def insert (tree : FileTree) (path : Text) (contents : Bytes) : FileTree :=
  let components := (path.splitOn '/').filter (· ≠ [])
  if path.getLast? = some '/' then
    tree.addDirectories components
  else
    let tree := tree.addDirectories components.dropLast
    { tree with files := (components, contents) :: tree.files }

/-- Opens a file for writing at its end. A file that does not exist is made, if its directory
exists. A path that ends in a slash or in dots is that of a directory. -/
def openForAppend (tree : FileTree) (path : Text) : Except FileError FileTree :=
  let components := ((path.splitOn '/').reverse.dropWhile (· = [])).reverse
  if '\x00' ∈ path then
    .error .nulInName
  else
    match components.getLast? with
    | none => .error (if path = [] then .missing else .isDirectory)
    | some name =>
      match tree.walk (start path) components.dropLast with
      | .missing => .error .missing
      | .notDirectory => .error .notDirectory
      | .file _ => .error .notDirectory
      | .directory directory =>
        let full := directory ++ [name]
        if path.getLast? = some '/' ∨ name = ['.'] ∨ name = ['.', '.'] ∨ tree.hasDirectory full then
          .error .isDirectory
        else if (tree.files.lookup full).isSome then
          .ok tree
        else
          .ok { tree with files := (full, []) :: tree.files }

end FileTree

end SpanViewer
