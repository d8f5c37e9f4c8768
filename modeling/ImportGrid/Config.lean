/-
Configurations of the layout.

A configuration holds the matchers in the order in which they are tried, the names of the
groups in output order, and where type-only imports go.  The matchers form a map that
keeps the order of first insertion (`names_insertMatcher`).  A category that the order
does not list belongs to the group `unqualified`, and a group that the order does not
list comes before all others.
-/
import ImportGrid.Category
import ImportGrid.DeclarationOrder

namespace ImportGrid

/-- How imports are grouped and ordered. -/
structure Config where
  /-- Tried in order; the first that accepts a path decides. -/
  matchers : List Matcher
  /-- The names of the groups in output order. -/
  order : List Text
  /-- Where type-only imports go among the imports from one module. -/
  typeImports : TypePlacement

namespace Config

/-- The configuration that holds when nothing is configured. -/
def default : Config where
  matchers := defaultMatchers
  order := ["privileged".toList, "node".toList, unqualified, "relative".toList]
  typeImports := .first

/-! ## Matchers -/

/-- The matchers with one more: it takes the place of the first matcher of its name, or goes to the
end if there is none. -/
def insertMatcher (m : Matcher) : List Matcher → List Matcher
  | [] => [m]
  | n :: rest => if n.name = m.name then m :: rest else n :: insertMatcher m rest

/-- The names after an insertion: the same, or with the new one at the end. -/
theorem names_insertMatcher (m : Matcher) (ms : List Matcher) :
    (insertMatcher m ms).map (·.name) =
      if m.name ∈ ms.map (·.name) then ms.map (·.name) else ms.map (·.name) ++ [m.name] := by
  induction ms with
  | nil => simp [insertMatcher]
  | cons n rest ih =>
    by_cases h : n.name = m.name
    · simp [insertMatcher, h]
    · have h' : ¬ m.name = n.name := fun e => h e.symm
      simp only [insertMatcher, if_neg h, List.map_cons, ih, List.mem_cons, h', false_or]
      split <;> simp

/-- The configuration with one more matcher. -/
def withMatcher (c : Config) (m : Matcher) : Config :=
  { c with matchers := insertMatcher m c.matchers }

/-! ## Groups -/

/-- The group of a category: itself if the order lists it, else `unqualified`. -/
def resolveGroup (c : Config) (category : Text) : Text :=
  if c.order.contains category then category else unqualified

/-- The place of a group in the output; a group that is not listed comes first. -/
def groupRank (c : Config) (group : Text) : Nat :=
  match c.order.idxOf? group with
  | some i => i + 1
  | none => 0

/-- The group of a module path. -/
def groupOf (c : Config) (path : Text) : Text := c.resolveGroup (categorize c.matchers path)

end Config

end ImportGrid
