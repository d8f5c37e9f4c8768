/-
Finding source files.

A path names a file, a folder, or else a glob pattern.  In a folder all files with the
extension of a source file are found, at any depth, but not in folders of installed
packages or in hidden folders.
-/
import ImportGrid.Files.Glob

namespace ImportGrid

/-- The extensions of source files. -/
def sourceExtensions : List Text :=
  ["ts", "tsx", "mts", "cts", "js", "jsx", "mjs", "cjs"].map String.toList

/-- Whether a path has the extension of a source file. -/
def isSourcePath (path : Text) : Bool := (Path.extension? path).any (sourceExtensions.contains ·)

/-- Whether a folder of this name is passed over. -/
def isPassedOver (name : Text) : Bool := name == "node_modules".toList || name.head? == some '.'

namespace FileTree

mutual

/-- The source files at and below a path. -/
def sourceFiles (path : Text) : FileTree → List Text
  | file _ => if isSourcePath path then [path] else []
  | folder entries => sourceFilesIn path entries

/-- The source files among and below the entries of a folder. -/
def sourceFilesIn (path : Text) : List (Text × FileTree) → List Text
  | [] => []
  | (name, t) :: rest =>
    (if t.isFolder && isPassedOver name then [] else t.sourceFiles (Path.join path name)) ++
      sourceFilesIn path rest

end

end FileTree

/-- The message for a malformed glob pattern. -/
def globMessage : Text := "Failed to read glob pattern".toList

namespace Disk

/-- The source files that a path stands for; nothing if it is a malformed pattern. -/
def sourceFilesAt? (d : Disk) (path : Text) : Option (List Text) :=
  match d.get? path with
  | some t => some (t.sourceFiles path)
  | none => (Glob.find? d path).map (·.filter isSourcePath)

/-- The source files that paths stand for, one path after the other. -/
def sourceFiles? (d : Disk) (paths : List Text) : Option (List Text) :=
  (paths.mapM d.sourceFilesAt?).map List.flatten

end Disk

end ImportGrid
