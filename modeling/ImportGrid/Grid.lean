/-
The alignment grid.

Every import line of a file puts the word `from` in one column and the module path in
another:

    | import type { Props }    from './button.interface'
    | import      React        from 'react'
    | import      { useState } from 'react'
    | import                        './styles.css'

The columns depend on two measurements of the whole file: the width of its widest
specifier, and whether anything in it is marked as a type.
-/
import ImportGrid.Group

namespace ImportGrid

/-- The measurements that the lines of a file are aligned to. -/
structure Grid where
  /-- Width of the widest specifier. -/
  nameWidth : Nat
  /-- Something is marked as a type, so that every line has a column for the word. -/
  hasTypes : Bool
deriving Repr, DecidableEq

namespace Grid

/-- The width of the widest of some specifiers. -/
def widest (specifiers : List PrintedSpecifier) : Nat :=
  specifiers.foldl (fun w p => max w p.width) 0

/-- The grid of all imports of a file. -/
def ofImports (imports : List Declaration) : Grid where
  nameWidth := imports.foldl (fun w d => max w (widest d.printedSpecifiers)) 0
  hasTypes := imports.any Declaration.hasTypeMarker

/-- The word `type ` in the column reserved for it, or the blanks instead; nothing if no
column is reserved. -/
def typeColumn (g : Grid) (typeOnly : Bool) : Text :=
  if g.hasTypes then (if typeOnly then "type ".toList else Text.blanks 5) else []

/-- The line of one specifier, ending in the given source clause. -/
def specifierLine (g : Grid) (sourceClause : Text) (p : PrintedSpecifier) : Text :=
  "import ".toList ++ g.typeColumn p.typeOnly ++ p.text ++ Text.blanks (g.nameWidth - p.width) ++
    " from ".toList ++ sourceClause

/-- The line of a side-effect import: blanks up to the column of module paths. -/
def sideEffectLine (g : Grid) (sourceClause : Text) : Text :=
  "import ".toList ++ Text.blanks (g.nameWidth + 4 + 1 + if g.hasTypes then 5 else 0) ++
    ' ' :: sourceClause

/-- The lines of a declaration: one per specifier, or the one of a side-effect import. -/
def lines (g : Grid) (placement : TypePlacement) (d : Declaration) : List Text :=
  if d.isSideEffect then [g.sideEffectLine d.sourceClause]
  else (d.orderedSpecifiers placement).map (g.specifierLine d.sourceClause)

/-- The lines of declarations, in the order given. -/
def stack (g : Grid) (placement : TypePlacement) (imports : List Declaration) : List Text :=
  imports.flatMap (g.lines placement)

/-- Groups rendered one below the other, with a blank line between each two. -/
def block (g : Grid) (placement : TypePlacement) (groups : List Group) : Text :=
  Text.joinWith "\n\n".toList
    ((groups.filter fun gr => !gr.imports.isEmpty).map fun gr =>
      Text.joinWith ['\n'] (g.stack placement gr.imports))

end Grid

/-- All imports of a file, rendered in source order on their own grid. -/
def importStack (placement : TypePlacement) (imports : List Declaration) : List Text :=
  (Grid.ofImports imports).stack placement imports

/-- The line ending of a text: carriage return and line feed if it has one anywhere, else a
line feed. -/
def lineEnding (source : Text) : Text :=
  if Text.contains ['\r', '\n'] source then ['\r', '\n'] else ['\n']

end ImportGrid
