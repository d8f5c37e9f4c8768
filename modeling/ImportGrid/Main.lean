/-
The program.

The disk is read as far as a command line needs it, the command is run on that copy, and the
files that it changed are written back.
-/
import ImportGrid.Command.Run

namespace ImportGrid.Program

/-! ## Places -/

/-- The place that a path names, taken from its text alone. -/
def placeOf (here : List Text) (path : Text) : List Text :=
  (Path.pieces path).foldl
    (fun place piece =>
      if piece = [] ∨ piece = ['.'] then place
      else if piece = ['.', '.'] then place.dropLast
      else place ++ [piece])
    (if path.head? = some '/' then [] else here)

/-- The absolute path of a place. -/
def pathOf (place : List Text) : String := String.ofList ('/' :: Text.joinWith ['/'] place)

/-- The part of a glob pattern before its first component with a special character. -/
def plainPart (pattern : Text) : Text :=
  Text.joinWith ['/'] ((Path.pieces pattern).takeWhile fun piece =>
    piece.all fun c => c ≠ '*' && c ≠ '?' && c ≠ '[')

/-! ## Reading -/

/-- What bytes are as the content of a file. -/
def contentOf (bytes : ByteArray) : Content :=
  match String.fromUTF8? bytes with
  | some t => .text t.toList
  | none => .binary bytes.toList

/-- Reads what is at a path.  Files that cannot be laid out are read as empty. -/
partial def readTree (path : String) : IO FileTree := do
  let real ← IO.FS.realPath path
  if ← real.isDir then
    let mut entries := []
    for e in ← real.readDir do
      try
        let t ← readTree (path ++ "/" ++ e.fileName)
        entries := FileTree.insertEntry e.fileName.toList t entries
      catch _ => pure ()
    return .folder entries
  else if isSourcePath path.toList then
    return .file (contentOf (← IO.FS.readBinFile path))
  else return .file (.binary [])

/-- Adds a single file to a tree, if there is one. -/
def addFile (place : List Text) (t : FileTree) : IO FileTree := do
  try
    let bytes ← IO.FS.readBinFile (pathOf place)
    return FileTree.graft (.file (contentOf bytes)) place t
  catch _ => return t

/-- Adds what is at a place to a tree, if there is something. -/
def addTree (place : List Text) (t : FileTree) : IO FileTree := do
  try return FileTree.graft (← readTree (pathOf place)) place t
  catch _ => return t

/-- Reads the part of the disk that an invocation needs. -/
def readDisk (here : List Text) (i : Invocation) : IO Disk := do
  let mut t := FileTree.graft .empty here .empty
  for path in i.paths do
    let place := placeOf here path
    let present ← (do discard (IO.FS.realPath (pathOf place)); return true) <|> pure false
    t ← addTree (if present then place else placeOf here (plainPart path)) t
  for folder in Path.ancestors (Disk.herePath ⟨t, here⟩) do
    t ← addFile (placeOf [] folder ++ [configFileName]) t
  if let some path := i.config then
    t ← addFile (placeOf here path) t
  return ⟨t, here⟩

/-! ## Writing -/

/-- Writes the files in which a tree differs from what it was. -/
def writeChanges (before after : FileTree) : IO Unit := do
  for (place, content) in after.files do
    let unchanged : Bool := match before.get? place with
      | some (.file c) => c = content
      | _ => false
    unless unchanged do
      match content with
      | .text t => IO.FS.writeFile (pathOf place) (String.ofList t)
      | .binary bytes => IO.FS.writeBinFile (pathOf place) ⟨bytes.toArray⟩

/-- Runs a command line on the disk. -/
def run (arguments : List Text) : IO UInt32 := do
  let here := placeOf [] (← IO.currentDir).toString.toList
  let disk ← match Request.ofArguments? arguments with
    | some (.run i) => readDisk here i
    | _ => pure ⟨.empty, here⟩
  let outcome := runCommandLine disk arguments
  writeChanges disk.tree outcome.disk.tree
  IO.print (String.ofList outcome.printed.output)
  IO.eprint (String.ofList outcome.printed.errors)
  return outcome.code.toUInt32

end ImportGrid.Program

def main (arguments : List String) : IO UInt32 :=
  ImportGrid.Program.run (arguments.map String.toList)
