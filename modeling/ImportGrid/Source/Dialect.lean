/-
The dialects of source files.

The extension of a file name says whether its text has type annotations and whether it has
markup elements.  Names without a known extension are read as having types and no markup.
-/
import ImportGrid.Path

namespace ImportGrid

/-- What a source text may hold besides plain code. -/
structure Dialect where
  /-- Type annotations, type-only imports and import aliases. -/
  types : Bool
  /-- Markup elements. -/
  markup : Bool
deriving Repr, DecidableEq

namespace Dialect

/-- Extensions of files without types. -/
def untypedExtensions : List Text := ["js", "jsx", "mjs", "cjs"].map String.toList

/-- The dialect of a file. -/
def ofFileName (name : Text) : Dialect :=
  let extension := (Path.extension? name).getD []
  if extension ∈ untypedExtensions then ⟨false, true⟩
  else ⟨true, extension == "tsx".toList⟩

end Dialect

end ImportGrid
