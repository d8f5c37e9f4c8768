/-
Fixes and their application.

A fix replaces a stretch of a text.  Several fixes are applied in the order of their
spans; one that overlaps an earlier one, or whose span is no piece of the text, is left
out.
-/
import ImportGrid.Text.Basic

namespace ImportGrid

/-- A stretch of a text and what to put in its place. -/
structure Fix where
  span : Span
  replacement : Text
deriving Repr, DecidableEq

namespace Fix

/-- Whether the span of a fix does not come after that of another: by start, then by end. -/
def notAfter (a b : Fix) : Bool :=
  decide (a.span.start < b.span.start ∨
    (a.span.start = b.span.start ∧ a.span.stop ≤ b.span.stop))

/-- Applies fixes that are in order to what is left of a text behind the byte offset `last`. -/
def splice (source : Text) : Nat → List Fix → Text
  | last, [] => (Text.from? last source).getD []
  | last, f :: rest =>
    if f.span.start < last then splice source last rest
    else
      match Text.slice? last f.span.start source,
          Text.slice? f.span.start f.span.stop source with
      | some unchanged, some _ => unchanged ++ f.replacement ++ splice source f.span.stop rest
      | _, _ => splice source last rest

end Fix

/-- A text with fixes applied. -/
def applyFixes (source : Text) (fixes : List Fix) : Text :=
  Fix.splice source 0 (fixes.mergeSort Fix.notAfter)

end ImportGrid
