/-
What a declaration imports.

The same can be written in several ways: the marker for types on the declaration or on each of its
bindings, and the exported name of a binding left out if the binding has that name.  The content of a
declaration (`Declaration.content`) is what they have in common.
-/
import ImportGrid.Proofs.LayoutLines

namespace ImportGrid

/-- How a specifier introduces its binding, with the exported name given: the name that the binding
has unless there is another one. -/
def Specifier.explicitKind (b : Specifier) : Specifier.Kind :=
  match b.kind with
  | .namedImport none => .namedImport (some b.name)
  | k => k

/-- The text of a specifier does not show whether the exported name is given that it has anyway. -/
lemma Specifier.text_explicitKind (b : Specifier) :
    (Specifier.mk b.explicitKind b.name false).text = b.text := by
  obtain ⟨_ | _ | (_ | i), name, typeOnly⟩ := b
  · rfl
  · rfl
  · simp [explicitKind, text]
  · rfl

namespace Declaration

/-- What a declaration imports, however it is written down. -/
structure Content where
  source : Text
  quotedSource : Text
  attributes : Option Text
  /-- The bindings with their kinds and names. -/
  bindings : List (Specifier.Kind × Text)
  /-- Everything that is bound is marked as a type, or the declaration is. -/
  typeOnly : Bool
deriving Repr, DecidableEq

/-- What a declaration imports. -/
def content (d : Declaration) : Content where
  source := d.source
  quotedSource := d.quotedSource
  attributes := d.attributes
  bindings := d.specifiers.map fun b => (b.explicitKind, b.name)
  typeOnly := d.isTypeOnly

end Declaration

end ImportGrid
