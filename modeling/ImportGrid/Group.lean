/-
Groups of imports.

Declarations are put into groups by the category of their module path.  Groups come in
the order of the configuration, and each is sorted.
-/
import ImportGrid.Config

namespace ImportGrid

/-- The declarations of one group, in output order. -/
structure Group where
  name : Text
  imports : List Declaration
deriving Repr, DecidableEq

namespace Group

/-- Adds a declaration to the group of a name; a name met for the first time gets a group at
the end. -/
def insert (name : Text) (d : Declaration) : List Group → List Group
  | [] => [⟨name, [d]⟩]
  | g :: rest =>
    if g.name = name then { g with imports := g.imports ++ [d] } :: rest
    else g :: insert name d rest

/-- Declarations by group, groups in order of first appearance. -/
def bucket (groupOf : Text → Text) (imports : List Declaration) : List Group :=
  imports.foldl (fun groups d => insert (groupOf d.source) d groups) []

end Group

/-- The groups of a list of declarations, in output order and each sorted. -/
def groupImports (c : Config) (imports : List Declaration) : List Group :=
  let groups := (Group.bucket c.groupOf imports).mergeSort fun a b =>
    decide (c.groupRank a.name ≤ c.groupRank b.name)
  groups.map fun g => { g with imports := sortChunk c.typeImports g.imports }

end ImportGrid
