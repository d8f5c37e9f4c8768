/-
Laying out the imports of a source text.

`formatSource` renders every import where it stands.  `fixSource` lints the text and applies
the fixes, again and again until nothing can be fixed; `organizeSource` is its output.
All of them read texts with a given parser and fail on a text that is no module, and fixing can
itself produce such a text.
-/
import ImportGrid.Reprint
import ImportGrid.Rule
import ImportGrid.Source.ParsedModule

namespace ImportGrid

/-- The message for a text that is no module. -/
def parseMessage : Text := "Failed to parse TypeScript module".toList

/-- The text of a file is no module. -/
structure SourceFault where
  fileName : Text
deriving Repr, DecidableEq

/-- The message for a file that is no module. -/
def SourceFault.message (f : SourceFault) : Text :=
  "Failed to read imports of ".toList ++ f.fileName ++ ": ".toList ++ parseMessage

variable (p : Parser)

/-- The import declarations of the text of a file. -/
def importsOf (fileName source : Text) : Except SourceFault (List Declaration) :=
  match p.imports? (.ofFileName fileName) source with
  | some imports => .ok imports
  | none => .error ⟨fileName⟩

theorem importsOf_eq_ok_iff {p : Parser} {fileName source : Text} {imports : List Declaration} :
    importsOf p fileName source = .ok imports ↔
      p.imports? (.ofFileName fileName) source = some imports := by
  unfold importsOf
  split
  · next h => rw [h, Except.ok.injEq, Option.some.injEq]
  · next h => simp [h]

/-- The text with every import rendered in place. -/
def formatSource (c : Config) (fileName source : Text) : Except SourceFault Text :=
  (importsOf p fileName source).map (reprint c source)

/-- The diagnostics for the imports of a text. -/
def lintSource (c : Config) (fileName source : Text) : Except SourceFault (List Diagnostic) :=
  (importsOf p fileName source).map (check c source)

/-- What fixing a text leads to. -/
structure FixOutcome where
  output : Text
  /-- How often fixes were applied. -/
  passes : Nat
  /-- The diagnostics for the output. -/
  remaining : List Diagnostic
deriving Repr, DecidableEq

/-- Fixes a text, applying fixes at most the given number of times. -/
def fixAtMost (c : Config) (fileName : Text) (limit : Nat) (source : Text) :
    Except SourceFault FixOutcome :=
  match lintSource p c fileName source with
  | .error e => .error e
  | .ok diagnostics =>
    let fixes := fixesOf diagnostics
    match limit with
    | 0 => .ok ⟨source, 0, diagnostics⟩
    | limit + 1 =>
      if fixes = [] then .ok ⟨source, 0, diagnostics⟩
      else
        (fixAtMost c fileName limit (applyFixes source fixes)).map fun o =>
          { o with passes := o.passes + 1 }

/-- Fixes a text until nothing can be fixed, in at most `maxFixPasses` passes. -/
def fixSource (c : Config) (fileName source : Text) : Except SourceFault FixOutcome :=
  fixAtMost p c fileName maxFixPasses source

/-- The text with its imports grouped, sorted and aligned. -/
def organizeSource (c : Config) (fileName source : Text) : Except SourceFault Text :=
  (fixSource p c fileName source).map (·.output)

end ImportGrid
