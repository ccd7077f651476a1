import Hyperfiction.FileTree
import Hyperfiction.Storage

/-! # Storage in a folder

    A store that keeps the text of each key in a file of that name in one folder.
    A key that names no file in the folder itself is refused.
-/

namespace Hyperfiction

/-- A store in a folder of a file tree. -/
structure FolderStore where
  folder : Path
  tree : FileTree
deriving DecidableEq, Inhabited

namespace FolderStore

/-- Opens the store in a folder, which is made if it is missing. -/
def open? (folder : Path) (tree : FileTree) : Except StoreError FolderStore :=
  match tree.makeFolders folder with
  | .ok tree => .ok { folder, tree }
  | .error _ => .error .io

/-- Whether a key is the name of a file in the folder. -/
def isKey (key : String) : Bool :=
  match key.toList with
  | [] => false
  | c :: cs => c ≠ '.' && (c :: cs).all fun c => c ≠ '/' && c ≠ '\\'

/-- The path of a key's file. -/
def pathOf (s : FolderStore) (key : String) : Path :=
  s.folder ++ [key]

instance : Storage FolderStore where
  get s key :=
    if isKey key then
      match s.tree.read (s.pathOf key) with
      | .ok text => .ok (some text)
      | .error .missing => .ok none
      | .error .refused => .error .io
    else .error (.invalidKey key)
  set s key text :=
    if isKey key then
      match s.tree.write (s.pathOf key) text with
      | .ok tree => (.ok (), { s with tree })
      | .error _ => (.error .io, s)
    else (.error (.invalidKey key), s)
  remove s key :=
    if isKey key then
      match s.tree.remove (s.pathOf key) with
      | .ok tree => (.ok (), { s with tree })
      | .error .missing => (.ok (), s)
      | .error .refused => (.error .io, s)
    else (.error (.invalidKey key), s)

end FolderStore

end Hyperfiction
