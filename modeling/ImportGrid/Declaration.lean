/-
Import declarations.

A declaration imports any number of bindings from one module.  Each binding is introduced
by a specifier: a default binding `a`, a namespace binding `* as a`, or a named one `{ a }`
or `{ x as a }`.  A declaration without specifiers runs the module for its side effects.
The word `type` before the clause or before one name marks what exists at compile time
only.

`Declaration.units` splits a declaration into one declaration per specifier; units are
what is sorted, dealt out and compared.  Splitting is stable: the units of a unit are that
unit alone (`units_of_mem_units`).
-/
import ImportGrid.Text.Basic

namespace ImportGrid

/-- How a specifier introduces its binding. -/
inductive Specifier.Kind where
  /-- `import React from 'react'` -/
  | defaultImport
  /-- `import * as path from 'node:path'` -/
  | namespaceImport
  /-- `import { join }`, or `import { join as joinPath }` with the exported name given. -/
  | namedImport (imported : Option Text)
deriving Repr, DecidableEq

/-- One binding of a declaration. -/
structure Specifier where
  /-- How the binding is introduced. -/
  kind : Specifier.Kind
  /-- The name it has in the importing file. -/
  name : Text
  /-- The word `type` stands before this name. -/
  typeOnly : Bool
deriving Repr, DecidableEq

/-- An import declaration of a source text. -/
structure Declaration where
  /-- The whole statement, a terminating semicolon included. -/
  span : Span
  /-- The module path without its quotes. -/
  source : Text
  /-- The module path as written, quotes included. -/
  quotedSource : Text
  /-- The word `type` stands before the clause. -/
  typeOnly : Bool
  /-- The bindings, in the order written. -/
  specifiers : List Specifier
  /-- The import attributes as written, keyword included. -/
  attributes : Option Text
deriving Repr, DecidableEq

/-! ## Printed specifiers -/

/-- The text of a specifier in a rendered line. -/
structure PrintedSpecifier where
  /-- The specifier in the form of a clause of its own. -/
  text : Text
  /-- It is marked, or the declaration is. -/
  typeOnly : Bool
deriving Repr, DecidableEq

/-- Columns that a printed specifier takes, one per character. -/
def PrintedSpecifier.width (p : PrintedSpecifier) : Nat := p.text.length

namespace Specifier

/-- A specifier as the clause of a declaration that has no other. -/
def text (s : Specifier) : Text :=
  match s.kind with
  | .defaultImport => s.name
  | .namespaceImport => "* as ".toList ++ s.name
  | .namedImport imported =>
    let named := "\x7b ".toList ++ s.name ++ " \x7d".toList
    match imported with
    | none => named
    | some i =>
      if i = [] ∨ i = s.name then named
      else "\x7b ".toList ++ i ++ " as ".toList ++ s.name ++ " \x7d".toList

/-- A specifier as printed within a declaration that is marked or not. -/
def printed (s : Specifier) (declarationTypeOnly : Bool) : PrintedSpecifier :=
  ⟨s.text, declarationTypeOnly || s.typeOnly⟩

@[simp] theorem printed_text (s : Specifier) (b : Bool) : (s.printed b).text = s.text := rfl

@[simp] theorem printed_typeOnly (s : Specifier) (b : Bool) :
    (s.printed b).typeOnly = (b || s.typeOnly) := rfl

end Specifier

/-! ## Properties of declarations -/

namespace Declaration

/-- The module path and the attributes, as they end a rendered line. -/
def sourceClause (d : Declaration) : Text :=
  match d.attributes with
  | some a => d.quotedSource ++ ' ' :: a
  | none => d.quotedSource

/-- The declaration binds nothing. -/
def isSideEffect (d : Declaration) : Bool := d.specifiers.isEmpty

/-- Something in the declaration is marked as a type. -/
def hasTypeMarker (d : Declaration) : Bool := d.typeOnly || d.specifiers.any (·.typeOnly)

/-- Everything that the declaration binds is marked as a type. -/
def isTypeOnly (d : Declaration) : Bool :=
  d.typeOnly || (!d.specifiers.isEmpty && d.specifiers.all (·.typeOnly))

/-- The first name that the declaration binds. -/
def firstName (d : Declaration) : Option Text := d.specifiers.head?.map (·.name)

/-- The specifiers as printed, in the order written. -/
def printedSpecifiers (d : Declaration) : List PrintedSpecifier :=
  d.specifiers.map (·.printed d.typeOnly)

/-! ## Units -/

/-- The declaration reduced to one of its specifiers, to which its own marker is pushed
down. -/
def unit (d : Declaration) (s : Specifier) : Declaration :=
  { d with specifiers := [{ s with typeOnly := s.typeOnly || d.typeOnly }] }

/-- One declaration per specifier; a side-effect import is its own unit. -/
def units (d : Declaration) : List Declaration :=
  if d.specifiers = [] then [d] else d.specifiers.map d.unit

/-- How many lines a declaration is laid out on. -/
def unitCount (d : Declaration) : Nat := max d.specifiers.length 1

theorem units_of_specifiers_eq_nil {d : Declaration} (h : d.specifiers = []) : d.units = [d] := by
  simp [units, h]

theorem units_of_specifiers_ne_nil {d : Declaration} (h : d.specifiers ≠ []) :
    d.units = d.specifiers.map d.unit := by
  simp [units, h]

@[simp] theorem length_units (d : Declaration) : d.units.length = d.unitCount := by
  unfold units unitCount
  split
  · simp_all
  · next h =>
    have := List.length_pos_iff.2 h
    simp; omega

/-- The units of a unit are that unit alone. -/
theorem units_of_mem_units {d u : Declaration} (h : u ∈ d.units) : u.units = [u] := by
  unfold units at h
  split at h
  · next hs =>
    obtain rfl := List.mem_singleton.1 h
    exact units_of_specifiers_eq_nil hs
  · obtain ⟨s, _, rfl⟩ := List.mem_map.1 h
    rw [units_of_specifiers_ne_nil (by simp [unit])]
    simp [unit]

end Declaration

end ImportGrid
