/-
The layout of imports as a lint rule.

The rule lays out all imports of a file, one line per unit, and deals the lines out to the
declarations in source order: each gets as many lines as it has specifiers.  A declaration
whose text is not what it was dealt, or that is not followed by the right gap, is
reported, together with a fix that puts the right text in its place.  Fixes move text from
one declaration to another, so a comment inside any declaration withholds them all.
-/
import ImportGrid.Fix
import ImportGrid.Gap
import ImportGrid.Grid

namespace ImportGrid

/-! ## The rule -/

/-- What a lint host is told about a rule. -/
structure RuleInfo where
  name : Text
  kind : Text
  fixable : Bool
  description : Text
  /-- The message of every diagnostic of the rule. -/
  message : Text
deriving Repr, DecidableEq

/-- The rule that imports are ordered and aligned. -/
def importRule : RuleInfo where
  name := "import-layout/import".toList
  kind := "layout".toList
  fixable := true
  description := "Imports should have valid order and layout".toList
  message := "Relayout imports".toList

/-- How often fixes are applied to a file before giving up. -/
def maxFixPasses : Nat := 10

/-- A declaration that is out of place or misaligned. -/
structure Diagnostic where
  /-- The span of the declaration. -/
  span : Span
  /-- Its line, counted from 1. -/
  line : Nat
  /-- Its column in characters, counted from 1. -/
  column : Nat
  /-- The fix, unless a comment inside a declaration withholds it. -/
  fix : Option Fix
deriving Repr, DecidableEq

/-- Line and column of the place behind a text. -/
def positionBehind (before : Text) : Nat × Nat :=
  (Text.lineFeeds before + 1, (before.reverse.takeWhile (· != '\n')).length + 1)

/-- Line and column of a byte offset; an offset that is no place in the text counts as its
end. -/
def lineAndColumn (source : Text) (offset : Nat) : Nat × Nat :=
  positionBehind ((Text.upTo? offset source).getD source)

/-! ## Expected lines -/

/-- A line of the layout. -/
structure ExpectedLine where
  text : Text
  /-- The line is the last of its group. -/
  endsGroup : Bool
deriving Repr, DecidableEq

/-- The lines of a group. -/
def Group.expectedLines (render : Declaration → Text) : List Declaration → List ExpectedLine
  | [] => []
  | [u] => [⟨render u, true⟩]
  | u :: v :: rest => ⟨render u, false⟩ :: expectedLines render (v :: rest)

/-- The layout of all imports of a file, one entry per unit. -/
def expectedLines (c : Config) (newline : Text) (imports : List Declaration) :
    List ExpectedLine :=
  let grid := Grid.ofImports imports
  (groupImports c (imports.flatMap Declaration.units)).flatMap fun g =>
    Group.expectedLines (fun u => Text.joinWith newline (grid.lines c.typeImports u)) g.imports

/-- Lines put together: a blank line behind one that ends its group, a line ending behind
any other. -/
def joinExpected (newline : Text) : List ExpectedLine → Text
  | [] => []
  | [l] => l.text
  | l :: m :: rest =>
    l.text ++ (if l.endsGroup then newline ++ newline else newline) ++
      joinExpected newline (m :: rest)

/-! ## Checking -/

/-- What a declaration is compared with. -/
structure Slot where
  /-- The text that it should have. -/
  text : Text
  /-- A blank line should follow it. -/
  needsGap : Bool
deriving Repr, DecidableEq

/-- The slot that a declaration is dealt, and the lines left over; none if there are too few. -/
def dealSlot? (newline : Text) (d : Declaration) (expected : List ExpectedLine) :
    Option (Slot × List ExpectedLine) :=
  if d.unitCount ≤ expected.length then
    let dealt := expected.take d.unitCount
    let left := expected.drop d.unitCount
    some (⟨joinExpected newline dealt, dealt.getLast?.any (·.endsGroup) && !left.isEmpty⟩, left)
  else none

/-- The diagnostic for a declaration that is compared with a slot, if it differs. -/
def checkSlot (source newline : Text) (fixable : Bool) (d : Declaration) (next : Option Nat)
    (slot : Slot) : Option Diagnostic :=
  let gap := Gap.after source d.span.stop next
  let spacingOk := gap.blockedByComment || gap.cut.isNone || gap.hasBlankLine == slot.needsGap
  if d.span.textIn source = slot.text ∧ spacingOk then none
  else
    let separator := if slot.needsGap then newline ++ newline else newline
    let replacement := if gap.cut.isSome then slot.text ++ separator else slot.text
    let (line, column) := lineAndColumn source d.span.start
    some
      { span := d.span
        line := line
        column := column
        fix := if fixable then some ⟨⟨d.span.start, gap.cut.getD d.span.stop⟩, replacement⟩
          else none }

/-- Compares declarations in source order with the lines expected of them. -/
def checkFrom (source newline : Text) (fixable : Bool) :
    List Declaration → List ExpectedLine → List Diagnostic
  | [], _ => []
  | d :: rest, expected =>
    match dealSlot? newline d expected with
    | none => []
    | some (slot, left) =>
      (checkSlot source newline fixable d (rest.head?.map (·.span.start)) slot).toList ++
        checkFrom source newline fixable rest left

/-- The diagnostics for the imports of a file, which are given in source order. -/
def check (c : Config) (source : Text) (imports : List Declaration) : List Diagnostic :=
  let newline := lineEnding source
  let fixable := !imports.any fun d => hasInnerComment source d.span
  checkFrom source newline fixable imports (expectedLines c newline imports)

/-- The fixes of diagnostics. -/
def fixesOf (diagnostics : List Diagnostic) : List Fix := diagnostics.filterMap (·.fix)

end ImportGrid
