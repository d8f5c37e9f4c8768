/-
Laying out imports where they stand.

Every declaration is replaced by its own lines on the grid of the file.  Nothing is moved,
everything between the declarations is kept, and so is a declaration with a comment inside.
-/
import ImportGrid.Gap
import ImportGrid.Grid

namespace ImportGrid

/-- The rest of a text behind the byte offset `last`, with its declarations rendered anew.
A declaration that begins before `last` or outside the text is passed over. -/
def reprintFrom (render : Declaration → Text) (source : Text) : Nat → List Declaration → Text
  | last, [] => (Text.from? last source).getD []
  | last, d :: rest =>
    match Text.slice? last d.span.start source with
    | none => reprintFrom render source last rest
    | some between =>
      if hasInnerComment source d.span then
        between ++ reprintFrom render source d.span.start rest
      else between ++ render d ++ reprintFrom render source d.span.stop rest

/-- A text with its imports laid out in place. -/
def reprint (c : Config) (source : Text) (imports : List Declaration) : Text :=
  let grid := Grid.ofImports imports
  reprintFrom (fun d => Text.joinWith (lineEnding source) (grid.lines c.typeImports d))
    source 0 imports

end ImportGrid
