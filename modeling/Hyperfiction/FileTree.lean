/-! # File trees

    A tree of folders and files as a value. A path is the list of the names on the
    way from the root; what a path cannot reach is missing, and what stands in the
    way is refused.
-/

namespace Hyperfiction

/-- The names on the way to a folder or file. -/
abbrev Path := List String

/-- The path that a text with slashes writes. An empty name and a single dot stay
    where they are, and two dots go back. -/
def Path.ofText (text : String) : Path :=
  ((text.toList.splitOn '/').map String.ofList).foldl
    (fun path name =>
      if name.isEmpty || name = "." then path
      else if name = ".." then path.dropLast
      else path ++ [name]) []

/-- The text of a path. -/
def Path.text (path : Path) : String :=
  "/".intercalate path

/-- What a path leads to. -/
inductive FileEntry where
  | folder
  | file (text : String)
deriving DecidableEq, Repr, Inhabited

/-- Why a path cannot be used. -/
inductive FileFault where
  | missing
  | refused
deriving DecidableEq, Repr, Inhabited

/-- Folders and files below a root folder. -/
structure FileTree where
  entries : List (Path × FileEntry) := []
deriving DecidableEq, Repr, Inhabited

namespace FileTree

/-- The most bytes a name may have. -/
def maxNameBytes : Nat := 255

/-- Whether a file may have the name. -/
def isName (name : String) : Bool :=
  name.utf8ByteSize ≤ maxNameBytes && name.toList.all fun c => c.toNat ≠ 0

/-- What a path leads to; the root is a folder. -/
def entry? (path : Path) (tree : FileTree) : Option FileEntry :=
  if path.isEmpty then some .folder else tree.entries.lookup path

/-- Sets what a path leads to. -/
def put (path : Path) (entry : FileEntry) (tree : FileTree) : FileTree :=
  { entries := (path, entry) :: tree.entries.filter fun p => p.1 ≠ path }

/-- Takes a path away. -/
def drop (path : Path) (tree : FileTree) : FileTree :=
  { entries := tree.entries.filter fun p => p.1 ≠ path }

/-- What is found at the end of a path by following it from the folder `passed`. -/
def followFrom (tree : FileTree) (passed : Path) : Path → Except FileFault FileEntry
  | [] =>
    match tree.entry? passed with
    | some entry => .ok entry
    | none => .error .missing
  | name :: rest =>
    match tree.entry? passed with
    | some .folder =>
      if isName name then followFrom tree (passed ++ [name]) rest else .error .refused
    | some (.file _) => .error .refused
    | none => .error .missing

/-- What is found at the end of a path. -/
def follow (path : Path) (tree : FileTree) : Except FileFault FileEntry :=
  followFrom tree [] path

/-- The text of the file at a path. -/
def read (path : Path) (tree : FileTree) : Except FileFault String :=
  match tree.follow path with
  | .ok (.file text) => .ok text
  | .ok .folder => .error .refused
  | .error fault => .error fault

/-- Writes the file at a path, in a folder that exists. -/
def write (path : Path) (text : String) (tree : FileTree) : Except FileFault FileTree :=
  match tree.follow path.dropLast with
  | .ok .folder =>
    if path.getLast?.any isName ∧ tree.entry? path ≠ some .folder then
      .ok (tree.put path (.file text))
    else .error .refused
  | .ok (.file _) => .error .refused
  | .error fault => .error fault

/-- Takes the file at a path away. -/
def remove (path : Path) (tree : FileTree) : Except FileFault FileTree :=
  match tree.follow path with
  | .ok (.file _) => .ok (tree.drop path)
  | .ok .folder => .error .refused
  | .error fault => .error fault

/-- Makes the folders on the way from the folder `passed` along a path, as far as
    they are missing. -/
def makeFoldersFrom (passed : Path) : Path → FileTree → Except FileFault FileTree
  | [], tree => .ok tree
  | name :: rest, tree =>
    let path := passed ++ [name]
    if !isName name then .error .refused
    else
      match tree.entry? path with
      | some .folder => makeFoldersFrom path rest tree
      | some (.file _) => .error .refused
      | none => makeFoldersFrom path rest (tree.put path .folder)

/-- Makes the folders of a path, as far as they are missing. -/
def makeFolders (path : Path) (tree : FileTree) : Except FileFault FileTree :=
  makeFoldersFrom [] path tree

/-- The tree of files given by their paths, with the folders they need; a file that
    another one is in the way of is left out. -/
def ofFiles (files : List (Path × String)) : FileTree :=
  files.foldl (fun tree file =>
    match tree.makeFolders file.1.dropLast >>= write file.1 file.2 with
    | .ok tree => tree
    | .error _ => tree) {}

/-- The files of the tree. -/
def files (tree : FileTree) : List (Path × String) :=
  tree.entries.filterMap fun p =>
    match p.2 with
    | .file text => some (p.1, text)
    | .folder => none

end FileTree

end Hyperfiction
