/-
Editing sessions.

A session holds the text of a file, the name of the file and a configuration.  A step edits
one of them or lays the imports out; a step that fails leaves the session as it was.
-/
import ImportGrid.Organize
import ImportGrid.Source.Module

namespace ImportGrid

/-- The state of an editing session. -/
structure Session where
  buffer : Text
  fileName : Text
  config : Config

namespace Session

/-- A step of a session. -/
inductive Step where
  /-- Renders the imports in place. -/
  | format
  /-- Reports diagnostics. -/
  | lint
  /-- Applies the fixes of one lint. -/
  | fixOnce
  /-- Fixes until nothing can be fixed. -/
  | fix
  /-- Fixes, and reports the text alone. -/
  | organize
  /-- Replaces the first occurrence of a text. -/
  | replace (pattern replacement : Text)
  /-- Adds a text at the end. -/
  | append (t : Text)
  /-- Adds a text at the beginning. -/
  | prepend (t : Text)
  /-- Gives the file another name. -/
  | rename (fileName : Text)
  /-- Changes the configuration. -/
  | configure (c : Config)

/-- What a step reports. -/
inductive Answer where
  /-- The new text. -/
  | output (t : Text)
  | diagnostics (ds : List Diagnostic)
  /-- The number of diagnostics before the fixes, and the new text. -/
  | fixedOnce (reported : Nat) (t : Text)
  | fixed (o : FixOutcome)
  /-- Whether the text to replace was found, and the new text. -/
  | replaced (found : Bool) (t : Text)
  | renamed (fileName : Text)
  | configured (c : Config)

/-- The text that an answer holds, which becomes the text of the session. -/
def Answer.text? : Answer → Option Text
  | output t | fixedOnce _ t | replaced _ t => some t
  | fixed o => some o.output
  | diagnostics _ | renamed _ | configured _ => none

/-- What a step reports on a session. -/
def answer (s : Session) : Step → Except SourceFault Answer
  | .format => (formatSource sourceParser s.config s.fileName s.buffer).map .output
  | .lint => (lintSource sourceParser s.config s.fileName s.buffer).map .diagnostics
  | .fixOnce => (lintSource sourceParser s.config s.fileName s.buffer).map fun ds =>
    .fixedOnce ds.length (applyFixes s.buffer (fixesOf ds))
  | .fix => (fixSource sourceParser s.config s.fileName s.buffer).map .fixed
  | .organize => (organizeSource sourceParser s.config s.fileName s.buffer).map .output
  | .replace pattern replacement =>
    match Text.cut? pattern s.buffer with
    | some (before, after) => .ok (.replaced true (before ++ replacement ++ after))
    | none => .ok (.replaced false s.buffer)
  | .append t => .ok (.output (s.buffer ++ t))
  | .prepend t => .ok (.output (t ++ s.buffer))
  | .rename fileName => .ok (.renamed fileName)
  | .configure c => .ok (.configured c)

/-- The session behind a step with an answer. -/
def update (s : Session) : Answer → Session
  | .renamed fileName => { s with fileName := fileName }
  | .configured c => { s with config := c }
  | a => { s with buffer := a.text?.getD s.buffer }

/-- Takes a step. -/
def step (s : Session) (st : Step) : Except SourceFault Answer × Session :=
  match s.answer st with
  | .ok a => (.ok a, s.update a)
  | .error e => (.error e, s)

end Session

end ImportGrid
