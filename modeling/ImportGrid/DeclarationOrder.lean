/-
The order of declarations within a group.

Declarations are sorted by module path.  Those of one path stay together and are ordered
by a policy for types and then by the first name they bind.  The specifiers of one
declaration are ordered by the same policy.
-/
import ImportGrid.Collation
import ImportGrid.Declaration

namespace ImportGrid

/-- Where type-only imports go among the imports from one module. -/
inductive TypePlacement where
  /-- Before the values. -/
  | first
  /-- After the values. -/
  | last
  /-- Among them: types and values are sorted together. -/
  | ignore
deriving Repr, DecidableEq

open Collation

/-- Stable sort by an optional name, missing names first. -/
def sortByName {α : Type} (name : α → Option Text) (items : List α) : List α :=
  items.mergeSort fun a b => (compareName (name a) (name b)).isLE

/-- Items sorted by name, types and values apart unless the policy ignores types. -/
def orderByType {α : Type} (placement : TypePlacement) (isType : α → Bool)
    (name : α → Option Text) (items : List α) : List α :=
  let types := sortByName name (items.filter isType)
  let values := sortByName name (items.filter (!isType ·))
  match placement with
  | .first => types ++ values
  | .last => values ++ types
  | .ignore => sortByName name items

theorem sortByName_perm {α : Type} (name : α → Option Text) (items : List α) :
    (sortByName name items).Perm items := List.mergeSort_perm _ _

/-- Ordering by type only rearranges. -/
theorem orderByType_perm {α : Type} (placement : TypePlacement) (isType : α → Bool)
    (name : α → Option Text) (items : List α) :
    (orderByType placement isType name items).Perm items := by
  have hp : (items.filter isType ++ items.filter (!isType ·)).Perm items :=
    List.filter_append_perm isType items
  cases placement with
  | first => exact ((sortByName_perm _ _).append (sortByName_perm _ _)).trans hp
  | last =>
    exact ((sortByName_perm _ _).append (sortByName_perm _ _)).trans
      (List.perm_append_comm.trans hp)
  | ignore => exact sortByName_perm _ _

/-- The specifiers of a declaration as printed, in the order in which their lines are
rendered. -/
def Declaration.orderedSpecifiers (d : Declaration) (placement : TypePlacement) :
    List PrintedSpecifier :=
  (orderByType placement (fun s => d.typeOnly || s.typeOnly) (fun s => some s.name)
    d.specifiers).map (·.printed d.typeOnly)

/-- The declarations of one group in output order: by module path, and each run of one path
by type and first name. -/
def sortChunk (placement : TypePlacement) (chunk : List Declaration) : List Declaration :=
  let byPath := chunk.mergeSort fun a b => notAfter a.source b.source
  let runs := byPath.splitBy fun a b => a.source == b.source
  runs.flatMap (orderByType placement Declaration.isTypeOnly Declaration.firstName)

end ImportGrid
