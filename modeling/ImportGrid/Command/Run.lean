/-
Running commands.

A run reads the configuration, finds the source files and lays out one after the other, reading
them with a given parser.  A file that cannot be read, is no module or cannot be written is
reported and left alone; the others are not affected.  What a run prints and how the disk looks
afterwards is its `Outcome`.
-/
import ImportGrid.Command.Arguments
import ImportGrid.Files.ConfigLookup
import ImportGrid.Files.SourceFiles
import ImportGrid.Organize
import ImportGrid.Source.Module

namespace ImportGrid

/-! ## Single files -/

/-- Why a file is not laid out. -/
inductive LayoutFault where
  | file (f : FileFault)
  | source (f : SourceFault)
deriving Repr, DecidableEq

/-- The message for a fault. -/
def LayoutFault.message : LayoutFault → Text
  | file f => f.message
  | source f => f.message

/-- Applies a layout to the text of a file: the answer, and the new text if there is one to
write. -/
def layOutFile {α : Type} (d : Disk) (backup : Bool) (path : Text)
    (layout : Text → Except SourceFault (α × Option Text)) : Except LayoutFault α × Disk :=
  match d.read path with
  | .error f => (.error (.file f), d)
  | .ok source =>
    match layout source with
    | .error f => (.error (.source f), d)
    | .ok (answer, none) => (.ok answer, d)
    | .ok (answer, some new) =>
      match d.write backup path new with
      | .error f => (.error (.file f), d)
      | .ok d => (.ok answer, d)

/-- Formats a file: the formatted text, if it differs from what the file holds. -/
def formatFile (p : Parser) (c : Config) (write backup : Bool) (d : Disk) (path : Text) :
    Except LayoutFault (Option Text) × Disk :=
  layOutFile d backup path fun source =>
    (formatSource p c path source).map fun formatted =>
      if source = formatted then (none, none)
      else (some formatted, if write then some formatted else none)

/-- What linting a file found. -/
structure LintReport where
  diagnostics : List Diagnostic
  /-- The file was fixed. -/
  fixed : Bool
deriving Repr, DecidableEq

/-- Lints a file, and fixes it if `fix` is set. -/
def lintFile (p : Parser) (c : Config) (fix backup : Bool) (d : Disk) (path : Text) :
    Except LayoutFault LintReport × Disk :=
  layOutFile d backup path fun source =>
    if fix then
      (fixSource p c path source).map fun o =>
        if o.output = source then (⟨o.remaining, false⟩, none)
        else (⟨o.remaining, true⟩, some o.output)
    else (lintSource p c path source).map fun ds => (⟨ds, false⟩, none)

/-- Treats files one after the other: the answer for each, and the disk behind all of them. -/
def eachFile {α : Type} (treat : Disk → Text → α × Disk) (d : Disk) :
    List Text → List (Text × α) × Disk
  | [] => ([], d)
  | path :: rest =>
    let (a, d) := treat d path
    let (others, d) := eachFile treat d rest
    ((path, a) :: others, d)

/-! ## Reports -/

/-- What is printed. -/
structure Printed where
  /-- To the standard output. -/
  output : Text
  /-- To the standard error. -/
  errors : Text
deriving Repr, DecidableEq

namespace Printed

def nothing : Printed := ⟨[], []⟩

/-- Text on the standard output. -/
def out (t : Text) : Printed := ⟨t, []⟩

/-- Text on the standard error. -/
def err (t : Text) : Printed := ⟨[], t⟩

/-- One report and then another. -/
def append (p q : Printed) : Printed := ⟨p.output ++ q.output, p.errors ++ q.errors⟩

instance : Append Printed := ⟨append⟩

/-- Reports one after the other. -/
def join (ps : List Printed) : Printed := ps.foldr (· ++ ·) nothing

end Printed

/-- A line, with its end. -/
def line (t : Text) : Text := t ++ ['\n']

/-- A line behind a blank line. -/
def lineApart (t : Text) : Text := '\n' :: line t

/-- A number in decimal digits. -/
def decimal (n : Nat) : Text := Nat.toDigits 10 n

/-- The line for a file that was laid out. -/
def doneLine (path note : Text) : Text := line ("✓ ".toList ++ path ++ note)

/-- The line for a file that was not. -/
def failedLine (path : Text) (f : LayoutFault) : Text :=
  line ("✗ ".toList ++ path ++ ": ".toList ++ f.message)

/-- The report on a formatted file.  With `toOutput` it is the text of the file, which is read
again if nothing changed. -/
def formatReport (d : Disk) (check toOutput : Bool) (path : Text) :
    Except LayoutFault (Option Text) → Printed
  | .error f => .err (failedLine path f)
  | .ok (some formatted) =>
    if toOutput then .out formatted
    else if check then .out (line ("✗ ".toList ++ path))
    else .out (doneLine path [])
  | .ok none =>
    if toOutput then .out ((d.read path).toOption.getD [])
    else .out (doneLine path " (no changes)".toList)

/-- The line for a diagnostic. -/
def diagnosticLine (path : Text) (g : Diagnostic) : Text :=
  line (path ++ ':' :: decimal g.line ++ ':' :: decimal g.column ++ "  ".toList ++
    importRule.message ++ "  ".toList ++ importRule.name)

/-- The report on a linted file. -/
def lintReport (path : Text) : Except LayoutFault LintReport → Printed
  | .error f => .err (failedLine path f)
  | .ok r =>
    .out ((if r.fixed then doneLine path " (fixed)".toList else []) ++
      r.diagnostics.flatMap (diagnosticLine path))

/-! ## Commands -/

/-- What a run leads to. -/
structure Outcome where
  /-- The exit code. -/
  code : Nat
  printed : Printed
  /-- The disk afterwards. -/
  disk : Disk

/-- Whether an answer is a fault. -/
def isFault {α : Type} (r : Text × Except LayoutFault α) : Bool := r.2.toOption.isNone

/-- Formats files. -/
def runFormat (p : Parser) (c : Config) (check toOutput backup : Bool) (d : Disk)
    (paths : List Text) : Outcome :=
  let (results, d) := eachFile (formatFile p c (!check && !toOutput) backup) d paths
  let heading : Printed := if toOutput then .nothing
    else .out (line ("Formatting ".toList ++ decimal paths.length ++ " files".toList))
  let body := heading ++ .join (results.map fun r => formatReport d check toOutput r.1 r.2)
  let changed := results.any fun r => r.2.toOption.any (·.isSome)
  if check && changed then
    ⟨1, body ++ .err (lineApart "Some files are not formatted".toList), d⟩
  else if results.any isFault then
    ⟨1, body ++ .err (lineApart "Some files had errors".toList), d⟩
  else if check || toOutput then ⟨0, body, d⟩
  else ⟨0, body ++ .out (lineApart "All files formatted successfully".toList), d⟩

/-- Lints files. -/
def runLint (p : Parser) (c : Config) (fix backup : Bool) (d : Disk) (paths : List Text) :
    Outcome :=
  let (results, d) := eachFile (lintFile p c fix backup) d paths
  let reports := results.filterMap fun r => r.2.toOption
  let fixed := (reports.filter (·.fixed)).length
  let reported := (reports.flatMap (·.diagnostics)).length
  let summary : Printed := if fix ∧ 0 < fixed then
      .out (lineApart ("Fixed ".toList ++ decimal fixed ++ " files".toList))
    else .nothing
  let body := .join (results.map fun r => lintReport r.1 r.2) ++ summary
  if 0 < reported then
    let count := "Found ".toList ++ decimal reported ++ " import layout problems".toList
    ⟨1, body ++ .err (lineApart count), d⟩
  else if results.any isFault then
    ⟨1, body ++ .err (lineApart "Some files had errors".toList), d⟩
  else if fix then ⟨0, body, d⟩
  else ⟨0, body ++ .out (line "All imports are laid out".toList), d⟩

/-- A run that fails as a whole. -/
def failedRun (d : Disk) (t : Text) : Outcome := ⟨1, .err (line ("Error: ".toList ++ t)), d⟩

/-- The path of the current folder. -/
def Disk.herePath (d : Disk) : Text := '/' :: Text.joinWith ['/'] d.here

/-- Runs a command. -/
def Invocation.run (i : Invocation) (p : Parser) (d : Disk) : Outcome :=
  match d.config i.config d.herePath with
  | .error f => failedRun d f.heading
  | .ok c =>
    if i.paths = [] then failedRun d "No files or directories specified".toList
    else
      match d.sourceFiles? i.paths with
      | none => failedRun d globMessage
      | some [] => ⟨0, .out (line "No source files found".toList), d⟩
      | some paths =>
        match i.command with
        | .format check toOutput => runFormat p c check toOutput i.backup d paths
        | .lint fix => runLint p c fix i.backup d paths

/-- The name and the version of the program. -/
def versionText : Text := "import-layout 0.1.0".toList

/-- How the program is used. -/
def helpText : Text :=
  Text.joinWith ['\n'] (["Groups, sorts and aligns TypeScript import blocks", "",
    "Usage: import-layout [--config FILE] [-v] format [-c] [--stdout] [--no-backup] PATH...",
    "       import-layout [--config FILE] [-v] lint [--fix] [--no-backup] PATH..."].map String.toList)

/-- Runs a command line. -/
def runCommandLine (d : Disk) (arguments : List Text) : Outcome :=
  match Request.ofArguments? arguments with
  | none => ⟨2, .nothing, d⟩
  | some .help => ⟨0, .out (line helpText), d⟩
  | some .version => ⟨0, .out (line versionText), d⟩
  | some (.run i) => i.run sourceParser d

end ImportGrid
