/-
Command lines.

A command line names a command with its options and the paths it works on.  The options
`--config` and `--verbose` may stand before or behind the name of the command, all others
behind it; `--` ends the options.  An option is given at most once on either side.
-/
import ImportGrid.Path

namespace ImportGrid

/-- What is done with the source files. -/
inductive Command where
  /-- Renders imports where they stand.  `check` and `toOutput` leave the files alone and report
  or print them instead. -/
  | format (check toOutput : Bool)
  /-- Reports imports that are out of place.  `fix` repairs them. -/
  | lint (fix : Bool)
deriving Repr, DecidableEq

/-- A command with all that was given to it. -/
structure Invocation where
  /-- The configuration file, if one is named. -/
  config : Option Text
  command : Command
  /-- Files are copied before they are overwritten. -/
  backup : Bool
  paths : List Text
deriving Repr, DecidableEq

/-- What a command line asks for. -/
inductive Request where
  | help
  | version
  | run (i : Invocation)
deriving Repr, DecidableEq

namespace Arguments

/-- Options without a value. -/
inductive Flag where
  | verbose
  | check
  | toOutput
  | fix
  | noBackup
deriving Repr, DecidableEq

/-- Where on a command line an option stands. -/
inductive Position where
  | beforeCommand
  | ofFormat
  | ofLint
deriving Repr, DecidableEq

/-- A single argument. -/
inductive Argument where
  | flags (fs : List Flag)
  /-- `--config=` with its value. -/
  | config (path : Text)
  /-- `--config`, whose value is the next argument. -/
  | configBefore
  | help
  | version
  /-- `--` -/
  | endOfOptions
  /-- Anything that is no option. -/
  | word (t : Text)
deriving Repr, DecidableEq

/-! ## Options -/

/-- The flags that may stand in a position. -/
def Position.allows : Position → Flag → Bool
  | _, .verbose => true
  | .ofFormat, .check | .ofFormat, .toOutput | .ofFormat, .noBackup => true
  | .ofLint, .fix | .ofLint, .noBackup => true
  | _, _ => false

/-- The flag of a long name. -/
def longFlag? (name : Text) : Option Flag :=
  [("verbose", Flag.verbose), ("check", .check), ("stdout", .toOutput), ("fix", .fix),
    ("no-backup", .noBackup)].findSome? fun p => if p.1.toList = name then some p.2 else none

/-- The flag of a letter. -/
def shortFlag? : Char → Option Flag
  | 'v' => some .verbose
  | 'c' => some .check
  | _ => none

/-- A long option, without its dashes. -/
def readLong? (p : Position) (t : Text) : Option Argument :=
  if t = "config".toList then some .configBefore
  else if t = "help".toList then some .help
  else if t = "version".toList ∧ p = .beforeCommand then some .version
  else
    match "config=".toList.isPrefixOf t, (longFlag? t).filter p.allows with
    | true, _ => some (.config (t.drop 7))
    | false, some f => some (.flags [f])
    | false, none => none

/-- Letters behind one dash; the letters for help and version end them. -/
def readLetters? (p : Position) : Text → Option Argument
  | [] => some (.flags [])
  | c :: t =>
    if c = 'h' then some .help
    else if c = 'V' ∧ p = .beforeCommand then some .version
    else
      match (shortFlag? c).filter p.allows, readLetters? p t with
      | some f, some (.flags fs) => some (.flags (f :: fs))
      | some _, a => a
      | none, _ => none

/-- Reads an argument; nothing if it is an option that is unknown in its position. -/
def readArgument? (p : Position) : Text → Option Argument
  | ['-', '-'] => some .endOfOptions
  | '-' :: '-' :: t => readLong? p t
  | '-' :: c :: t => readLetters? p (c :: t)
  | t => some (.word t)

/-- The options and words read so far. -/
structure Options where
  config : Option Text
  flags : List Flag
  paths : List Text
deriving Repr, DecidableEq

namespace Options

/-- Before anything is read. -/
def none : Options := ⟨.none, [], []⟩

/-- Adds flags; each may be given once. -/
def addFlags? (o : Options) : List Flag → Option Options
  | [] => some o
  | f :: fs => if f ∈ o.flags then .none else addFlags? { o with flags := f :: o.flags } fs

/-- Sets the configuration file, which may be named once and not be empty. -/
def setConfig? (o : Options) (path : Text) : Option Options :=
  if o.config.isSome ∨ path = [] then .none else some { o with config := some path }

/-- Adds a path, which may not be empty. -/
def addPath? (o : Options) (path : Text) : Option Options :=
  if path = [] then .none else some { o with paths := o.paths ++ [path] }

end Options

/-- Whether an argument can be the value of an option. -/
def isValue (t : Text) : Bool := t.head? ≠ some '-' || t = ['-']

/-! ## Commands -/

/-- What is behind the name of a command. -/
inductive Tail where
  | help
  | options (o : Options)
deriving Repr, DecidableEq

/-- Reads what is behind the name of a command. -/
def readTail? (p : Position) (o : Options) : List Text → Option Tail
  | [] => some (.options o)
  | a :: rest =>
    match readArgument? p a with
    | some (.flags fs) => (o.addFlags? fs).bind (readTail? p · rest)
    | some (.config path) => (o.setConfig? path).bind (readTail? p · rest)
    | some .configBefore =>
      match rest with
      | path :: rest => if isValue path then (o.setConfig? path).bind (readTail? p · rest) else none
      | [] => none
    | some .help => some .help
    | some .version => none
    | some .endOfOptions => (rest.foldlM Options.addPath? o).map .options
    | some (.word t) => (o.addPath? t).bind (readTail? p · rest)
    | none => none

/-- The request for a command, given the options before and behind its name. -/
def request (p : Position) (before behind : Options) : Request :=
  let command : Command := match p with
    | .ofLint => .lint (.fix ∈ behind.flags)
    | _ => .format (.check ∈ behind.flags) (.toOutput ∈ behind.flags)
  .run ⟨behind.config.or before.config, command, .noBackup ∉ behind.flags, behind.paths⟩

/-- The position behind the name of a command. -/
def position? (name : Text) : Option Position :=
  if name = "format".toList then some .ofFormat
  else if name = "lint".toList then some .ofLint
  else none

/-- Reads a command line from the options before the name of the command on. -/
def readFrom? (o : Options) : List Text → Option Request
  | [] => none
  | a :: rest =>
    match readArgument? .beforeCommand a with
    | some (.flags fs) => (o.addFlags? fs).bind (readFrom? · rest)
    | some (.config path) => (o.setConfig? path).bind (readFrom? · rest)
    | some .configBefore =>
      match rest with
      | path :: rest => if isValue path then (o.setConfig? path).bind (readFrom? · rest) else none
      | [] => none
    | some .help => some .help
    | some .version => some .version
    | some .endOfOptions => none
    | some (.word name) =>
      if name = "help".toList then
        if rest.length ≤ 1 && rest.all fun r => (position? r).isSome then some .help else none
      else
        (position? name).bind fun p =>
          (readTail? p .none rest).map fun tail =>
            match tail with
            | .help => .help
            | .options behind => request p o behind
    | none => none

end Arguments

/-- What a command line asks for; nothing if it is used wrongly. -/
def Request.ofArguments? (arguments : List Text) : Option Request :=
  Arguments.readFrom? .none arguments

end ImportGrid
