/-
The lines of a declaration and of its units.

A declaration is laid out in one of two ways: its own bindings are put in order and printed one by one,
or it is split into units, which are sorted like the declarations of a group and laid out each by
itself.  The order of the units is the order of the bindings (`sortChunk_units`), and a unit is laid
out on the line of its binding (`Grid.forall₂_lines_sortChunk`).  So both ways lead to the same lines
(`Grid.lines_eq_stack_sortChunk`).
-/
import ImportGrid.Proofs.LayoutLines

namespace ImportGrid

open Collation

/-! ## Sorted units -/

section Units

variable (placement : TypePlacement) (d : Declaration)

/-- A marker that is pushed down to a unit marks the unit. -/
lemma Declaration.isTypeOnly_unit (b : Specifier) :
    (d.unit b).isTypeOnly = (d.typeOnly || b.typeOnly) := by
  cases ht : d.typeOnly <;> simp [unit, isTypeOnly, ht]

/-- The units of a declaration are in the order of their bindings. -/
lemma chunkOrder_unit (a b : Specifier) :
    chunkOrder placement (d.unit a) (d.unit b) =
      typeOrder placement (fun s : Specifier => d.typeOnly || s.typeOnly) (fun s => some s.name) a b := by
  have hsource : compareText (d.unit a).source (d.unit b).source = .eq := compareText_self d.source
  rw [chunkOrder, compareLex, hsource, Ordering.eq_then]
  simp only [typeOrder, compareLex, Declaration.isTypeOnly_unit]
  rfl

/-- Sorting the units of a declaration is putting its bindings in order. -/
theorem sortChunk_units {d : Declaration} (hs : d.specifiers ≠ []) :
    sortChunk placement d.units =
      (orderByType placement (fun s => d.typeOnly || s.typeOnly) (fun s => some s.name)
        d.specifiers).map d.unit := by
  rw [sortChunk_eq_stableSort, orderByType_eq_stableSort, Declaration.units_of_specifiers_ne_nil hs,
    stableSort, stableSort]
  refine (List.map_mergeSort fun a _ b _ => ?_).symm
  rw [chunkOrder_unit]

end Units

/-! ## Lines of units -/

/-- Lists of one element each, put together, are the list of these elements. -/
lemma flatMap_eq_of_forall₂ {α β : Type} {f : α → List β} {l : List α} {m : List β}
    (h : List.Forall₂ (fun a b => f a = [b]) l m) : l.flatMap f = m := by
  induction h with
  | nil => rfl
  | cons hab _ ih => rw [List.flatMap_cons, hab, ih, List.singleton_append]

namespace Grid

variable (g : Grid) (placement : TypePlacement) (d : Declaration)

/-- A unit is laid out on the line of its binding. -/
lemma lines_unit (b : Specifier) :
    g.lines placement (d.unit b) = [g.specifierLine d.sourceClause (b.printed d.typeOnly)] := by
  have hmarker : (d.typeOnly || (b.typeOnly || d.typeOnly)) = (d.typeOnly || b.typeOnly) := by
    cases d.typeOnly <;> simp
  rw [g.lines_of_eq_singleton placement (show (d.unit b).specifiers = [_] from rfl)]
  simp only [Specifier.printed, Specifier.text, Declaration.unit, Declaration.sourceClause, hmarker]

/-- The sorted units of a declaration are laid out on its lines, one by one. -/
lemma forall₂_lines_sortChunk :
    List.Forall₂ (fun u line => g.lines placement u = [line]) (sortChunk placement d.units)
      (g.lines placement d) := by
  by_cases hs : d.specifiers = []
  · rw [Declaration.units_of_specifiers_eq_nil hs, sortChunk_eq_stableSort,
      stableSort_of_pairwise (List.pairwise_singleton ..), g.lines_of_eq_nil placement hs]
    exact .cons (g.lines_of_eq_nil placement hs) .nil
  · have hside : ¬ d.isSideEffect = true := by simpa [Declaration.isSideEffect] using hs
    rw [sortChunk_units placement hs, lines, if_neg hside, Declaration.orderedSpecifiers, List.map_map,
      List.forall₂_map_left_iff, List.forall₂_map_right_iff]
    exact List.forall₂_same.2 fun b _ => g.lines_unit placement d b

/-- Laying out a declaration in place and laying out its units as those of a group are the same, line
for line. -/
theorem lines_eq_stack_sortChunk :
    g.lines placement d = g.stack placement (sortChunk placement d.units) ∧
      List.Forall₂ (fun u line => g.lines placement u = [line]) (sortChunk placement d.units)
        (g.lines placement d) := by
  have hlines := g.forall₂_lines_sortChunk placement d
  exact ⟨(flatMap_eq_of_forall₂ hlines).symm, hlines⟩

end Grid

end ImportGrid
