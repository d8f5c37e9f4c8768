/-
Disks: a file tree with a current folder.

Paths are followed piece by piece from the root or the current folder.  Every piece, also
an empty one behind a trailing slash, must be taken in a folder.
-/
import ImportGrid.Files.Tree
import ImportGrid.Path

namespace ImportGrid

/-- A file tree with a current folder. -/
structure Disk where
  /-- The tree, beginning at the root. -/
  tree : FileTree
  /-- The names that lead from the root to the current folder. -/
  here : List Text

/-- Why an operation on a file failed. -/
inductive FileFault where
  /-- The file is missing, is a folder, or holds no text. -/
  | unreadable (path : Text)
  /-- The path leads to a folder, or into nothing. -/
  | unwritable (path : Text)
  /-- The copy of the former content cannot be made. -/
  | noBackup (path : Text)
deriving Repr, DecidableEq

/-- The message for a fault. -/
def FileFault.message : FileFault → Text
  | unreadable path => "Failed to read file: ".toList ++ path
  | unwritable path => "Failed to write file: ".toList ++ path
  | noBackup path => "Failed to create backup: ".toList ++ path

namespace Disk

/-! ## Following paths -/

/-- Where one piece of a path leads from a place. -/
def follow? (d : Disk) (place : List Text) (piece : Text) : Option (List Text) :=
  match d.tree.get? place with
  | some (.folder entries) =>
    if piece = [] ∨ piece = ['.'] then some place
    else if piece = ['.', '.'] then some place.dropLast
    else if (entries.lookup piece).isSome then some (place ++ [piece])
    else none
  | _ => none

/-- Where a path begins. -/
def origin (d : Disk) (path : Text) : List Text := if path.head? = some '/' then [] else d.here

/-- The place that a path leads to, if there is something. -/
def place? (d : Disk) (path : Text) : Option (List Text) :=
  if path = [] then none else (Path.pieces path).foldlM d.follow? (d.origin path)

/-- What a path leads to. -/
def get? (d : Disk) (path : Text) : Option FileTree := (d.place? path).bind fun place => d.tree.get? place

/-- Whether a path leads to a file. -/
def isFile (d : Disk) (path : Text) : Bool := (d.get? path).any FileTree.isFile

/-- Whether a path leads to a folder. -/
def isFolder (d : Disk) (path : Text) : Bool := (d.get? path).any FileTree.isFolder

/-- The place of a file that is to be written: a name in a folder that exists. -/
def target? (d : Disk) (path : Text) : Option (List Text) :=
  match (Path.pieces path).reverse with
  | [] => none
  | name :: before =>
    if name = [] ∨ name = ['.'] ∨ name = ['.', '.'] then none
    else (before.reverse.foldlM d.follow? (d.origin path)).map (· ++ [name])

/-! ## Reading and writing -/

/-- What the file at a path holds. -/
def content? (d : Disk) (path : Text) : Option Content :=
  match d.get? path with
  | some (.file c) => some c
  | _ => none

/-- The disk with a file written. -/
def put? (d : Disk) (path : Text) (c : Content) : Option Disk :=
  ((d.target? path).bind fun place => d.tree.put? c place).map fun t => { d with tree := t }

/-- The text of a file. -/
def read (d : Disk) (path : Text) : Except FileFault Text :=
  match (d.content? path).bind Content.text? with
  | some t => .ok t
  | none => .error (.unreadable path)

/-- The path of the copy that is made of a file before it is overwritten: `.bak` is put behind
the extension, or behind a dot if there is none. -/
def backupPath (path : Text) : Text :=
  match Path.fileName? path with
  | none => path
  | some name =>
    let folder := ((Path.pieces path).reverse.dropWhile (· ≠ name)).tail.reverse
    let backup := match Path.splitExtension? name with
      | some _ => name ++ ".bak".toList
      | none => name ++ "..bak".toList
    Text.joinWith ['/'] (folder ++ [backup])

/-- The disk with a copy made of the file at a path. -/
def backUp (d : Disk) (path : Text) : Except FileFault Disk :=
  match (d.content? path).bind (d.put? (backupPath path)) with
  | some d => .ok d
  | none => .error (.noBackup (backupPath path))

/-- The disk with a text written to a path, after a copy of what was there if `backup` is set. -/
def write (d : Disk) (backup : Bool) (path t : Text) : Except FileFault Disk :=
  let copied := if backup then d.backUp path else .ok d
  match copied with
  | .error e => .error e
  | .ok d =>
    match d.put? path (.text t) with
    | some d => .ok d
    | none => .error (.unwritable path)

end Disk

end ImportGrid
