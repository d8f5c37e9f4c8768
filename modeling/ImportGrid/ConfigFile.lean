/-
Configuration files.

A configuration file is a TOML document with the keys `order`, `type-imports-first` and
`matchers`, each optional; what it leaves out keeps the value of the default
configuration.  The whole document is checked before any matcher is looked at, and the
first fault in the order of the document is the one reported.

Documents and regular expressions are read by given readers (`ConfigReaders`).
-/
import ImportGrid.Config
import ImportGrid.Toml.Reader

namespace ImportGrid

/-- Why a text is no configuration. -/
inductive ConfigFault where
  /-- The text is no TOML document, or a key is unknown or has a value of the wrong type. -/
  | malformed
  /-- The policy for types is a word other than `ignore`. -/
  | unknownPlacement (word : Text)
  /-- A matcher is given as something other than a string. -/
  | matcherNotText (name : Text)
  /-- The pattern of a matcher is no regular expression. -/
  | badPattern (name pattern : Text)
deriving Repr, DecidableEq

/-- The message for a fault. -/
def ConfigFault.message : ConfigFault → Text
  | malformed => "Failed to parse import-layout config".toList
  | unknownPlacement word =>
    "Failed to parse import-layout config: expected true, false or \"ignore\", found \"".toList
      ++ word ++ ['"']
  | matcherNotText name =>
    "matcher `".toList ++ name ++ "` must be a regular expression string".toList
  | badPattern name pattern =>
    "Invalid pattern for matcher `".toList ++ name ++ "`: ".toList ++ pattern

/-- What a configuration file says; a key that it leaves out is absent. -/
structure ConfigFile where
  order : Option (List Text)
  typeImports : Option TypePlacement
  matchers : Toml.Entries

namespace ConfigFile

/-- The texts of an array of strings. -/
def texts? : List Toml.Value → Option (List Text)
  | [] => some []
  | .string t :: rest => (texts? rest).map (t :: ·)
  | _ :: _ => none

/-- The policy that a value stands for. -/
def placement : Toml.Value → Except ConfigFault TypePlacement
  | .boolean true => .ok .first
  | .boolean false => .ok .last
  | .string word => if word = "ignore".toList then .ok .ignore else .error (.unknownPlacement word)
  | _ => .error .malformed

/-- Takes over the entries of the root table, one after the other. -/
def ofEntries : ConfigFile → Toml.Entries → Except ConfigFault ConfigFile
  | f, [] => .ok f
  | f, (key, value) :: rest =>
    if key = "order".toList then
      match value with
      | .array items =>
        match texts? items with
        | some order => ofEntries { f with order := some order } rest
        | none => .error .malformed
      | _ => .error .malformed
    else if key = "type-imports-first".toList then
      match placement value with
      | .ok p => ofEntries { f with typeImports := some p } rest
      | .error e => .error e
    else if key = "matchers".toList then
      match value with
      | .table _ entries => ofEntries { f with matchers := entries } rest
      | _ => .error .malformed
    else .error .malformed

end ConfigFile

/-- The readers that a configuration file needs. -/
structure ConfigReaders where
  /-- The root table of a document. -/
  document? : Text → Option Toml.Entries
  /-- A regular expression. -/
  pattern? : Text → Option ModulePattern

namespace ConfigReaders

variable (r : ConfigReaders)

/-- Reads a configuration file. -/
def file (t : Text) : Except ConfigFault ConfigFile :=
  match r.document? t with
  | some entries => ConfigFile.ofEntries ⟨none, none, []⟩ entries
  | none => .error .malformed

/-- The matcher of a name with a regular expression. -/
def matcher (name pattern : Text) : Except ConfigFault Matcher :=
  match r.pattern? pattern with
  | some p => .ok ⟨name, .pattern p⟩
  | none => .error (.badPattern name pattern)

/-- Inserts the matchers of a file into a list of matchers, in the order of the file. -/
def insertMatchers : Toml.Entries → List Matcher → Except ConfigFault (List Matcher)
  | [], ms => .ok ms
  | (name, .string pattern) :: rest, ms =>
    match r.matcher name pattern with
    | .ok m => insertMatchers rest (Config.insertMatcher m ms)
    | .error e => .error e
  | (name, _) :: _, _ => .error (.matcherNotText name)

/-- A configuration with what a file says put over it. -/
def merge (f : ConfigFile) (c : Config) : Except ConfigFault Config :=
  match r.insertMatchers f.matchers c.matchers with
  | .ok ms =>
    .ok { matchers := ms
          order := f.order.getD c.order
          typeImports := f.typeImports.getD c.typeImports }
  | .error e => .error e

/-- The configuration that a file text gives, starting from the default. -/
def config (t : Text) : Except ConfigFault Config :=
  match r.file t with
  | .ok f => r.merge f .default
  | .error e => .error e

/-- The readers that configuration files are read with. -/
def standard : ConfigReaders := ⟨Toml.readDocument?, ModulePattern.ofText?⟩

end ConfigReaders

/-- The matcher of a name with a regular expression. -/
def ConfigFile.matcher (name pattern : Text) : Except ConfigFault Matcher :=
  ConfigReaders.standard.matcher name pattern

/-- The configuration that a file text gives. -/
def Config.ofText (t : Text) : Except ConfigFault Config := ConfigReaders.standard.config t

end ImportGrid
