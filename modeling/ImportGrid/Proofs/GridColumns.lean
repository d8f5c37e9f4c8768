/-
The columns of a grid.

The grid of a file is measured over all its declarations at once, and every line is laid out on it.
So no binding is wider than the column for names, and padding always fills that column
(`length_padTo`).  On every line that binds something the word `from` stands in one column of the
file, and on every line the module path does, whether the declaration binds something or not
(`lines_ofImports`).

The column for the word `type` is there when anything is marked, and a declaration that binds
nothing can be marked as well (`lines_markedWithoutBindings`).

Splitting the declarations of a file into units and putting these in another order does not move the
columns (`Grid.ofImports_eq_of_perm_units`).
-/
import ImportGrid.Proofs.LayoutLines
import ImportGrid.Source.Module

namespace ImportGrid

/-- A text filled up with blanks to a width. -/
def Text.padTo (width : Nat) (t : Text) : Text := t ++ Text.blanks (width - t.length)

lemma Text.length_padTo {width : Nat} {t : Text} (h : t.length ≤ width) :
    (Text.padTo width t).length = width := by
  rw [padTo, List.length_append, blanks, List.length_replicate]
  omega

/-- Something in declarations is there for types only: a binding, by its own marker or that of its
declaration, or a declaration that binds nothing. -/
def HasTypeOnly (imports : List Declaration) : Prop :=
  ∃ d ∈ imports, (∃ b ∈ d.specifiers, (d.typeOnly || b.typeOnly) = true) ∨
    (d.specifiers = [] ∧ d.typeOnly = true)

instance (imports : List Declaration) : Decidable (HasTypeOnly imports) :=
  inferInstanceAs (Decidable (∃ d ∈ imports, _ ∨ _))

/-- What stands before a binding: the word `type`, or as many blanks if other things are marked. -/
def typeMark (imports : List Declaration) (typeOnly : Bool) : Text :=
  if typeOnly then "type ".toList else if HasTypeOnly imports then Text.blanks 5 else []

/-- The line of a binding of a declaration, among all declarations of a file. -/
def bindingLine (imports : List Declaration) (d : Declaration) (b : Specifier) : Text :=
  "import ".toList ++ typeMark imports (d.typeOnly || b.typeOnly) ++
    Text.padTo (Grid.ofImports imports).nameWidth b.text ++ " from ".toList ++ d.sourceClause

/-! ## The type column -/

namespace Grid

variable {imports : List Declaration} {d : Declaration}

lemma hasTypeMarker_iff : d.hasTypeMarker = true ↔
    (∃ b ∈ d.specifiers, (d.typeOnly || b.typeOnly) = true) ∨
      (d.specifiers = [] ∧ d.typeOnly = true) := by
  cases ht : d.typeOnly with
  | false => simp [Declaration.hasTypeMarker, ht]
  | true =>
    simp only [Declaration.hasTypeMarker, ht, Bool.true_or, and_true, true_iff]
    rcases List.eq_nil_or_concat d.specifiers with hs | ⟨bs, b, hs⟩
    · exact .inr hs
    · exact .inl ⟨b, by simp [hs]⟩

lemma hasTypes_iff_hasTypeOnly : (ofImports imports).hasTypes = true ↔ HasTypeOnly imports := by
  rw [hasTypes_iff]
  simp only [hasTypeMarker_iff, HasTypeOnly]

/-- The type column holds the mark of a binding of the file. -/
lemma typeColumn_eq_typeMark (hd : d ∈ imports) {b : Specifier} (hb : b ∈ d.specifiers) :
    (ofImports imports).typeColumn (d.typeOnly || b.typeOnly) =
      typeMark imports (d.typeOnly || b.typeOnly) := by
  unfold typeColumn typeMark
  by_cases ht : HasTypeOnly imports
  · rw [if_pos (hasTypes_iff_hasTypeOnly.2 ht), if_pos ht]
  · have hno : ¬ (d.typeOnly || b.typeOnly) = true := fun h => ht ⟨d, hd, .inl ⟨b, hb, h⟩⟩
    rw [if_neg (mt hasTypes_iff_hasTypeOnly.1 ht), if_neg ht, if_neg hno]

lemma length_typeMark (hd : d ∈ imports) {b : Specifier} (hb : b ∈ d.specifiers) :
    (typeMark imports (d.typeOnly || b.typeOnly)).length =
      if (ofImports imports).hasTypes then 5 else 0 := by
  rw [← typeColumn_eq_typeMark hd hb]
  unfold typeColumn
  split
  · split <;> rfl
  · rfl

/-! ## Columns -/

/-- The column of the word `from`. -/
def fromColumn (g : Grid) : Nat := 7 + (if g.hasTypes then 5 else 0) + g.nameWidth + 1

/-- The column of the module paths. -/
def pathColumn (g : Grid) : Nat := g.fromColumn + 5

/-- No binding is wider than the column for names. -/
lemma length_text_le_nameWidth (hd : d ∈ imports) {b : Specifier} (hb : b ∈ d.specifiers) :
    b.text.length ≤ (ofImports imports).nameWidth :=
  nameWidth_le_iff.1 (le_refl _) d hd b hb

lemma specifierLine_eq_bindingLine (hd : d ∈ imports) {b : Specifier} (hb : b ∈ d.specifiers) :
    (ofImports imports).specifierLine d.sourceClause (b.printed d.typeOnly) =
      bindingLine imports d b := by
  unfold specifierLine bindingLine
  rw [Specifier.printed_typeOnly, typeColumn_eq_typeMark hd hb]
  simp only [Text.padTo, PrintedSpecifier.width, Specifier.printed_text, List.append_assoc]

/-- On the line of a binding the word `from` stands in its column. -/
lemma exists_bindingLine_eq (hd : d ∈ imports) {b : Specifier} (hb : b ∈ d.specifiers) :
    ∃ before, bindingLine imports d b = before ++ "from ".toList ++ d.sourceClause ∧
      before.length = (ofImports imports).fromColumn := by
  have himport : "import ".toList.length = 7 := by decide
  have hfrom : " from ".toList = [' '] ++ "from ".toList := by decide
  unfold bindingLine
  generalize "import ".toList = word at himport ⊢
  refine ⟨word ++ typeMark imports (d.typeOnly || b.typeOnly) ++
    Text.padTo (ofImports imports).nameWidth b.text ++ [' '], ?_, ?_⟩
  · rw [hfrom]
    simp only [List.append_assoc]
  · rw [List.length_append, List.length_append, List.length_append, himport, length_typeMark hd hb,
      Text.length_padTo (length_text_le_nameWidth hd hb)]
    rfl

/-- On the line of a declaration that binds nothing the module path stands in its column. -/
lemma exists_sideEffectLine_eq (g : Grid) (sourceClause : Text) :
    ∃ before, g.sideEffectLine sourceClause = before ++ sourceClause ∧
      before.length = g.pathColumn := by
  have himport : "import ".toList.length = 7 := by decide
  unfold sideEffectLine
  generalize "import ".toList = word at himport ⊢
  refine ⟨word ++ Text.blanks (g.nameWidth + 4 + 1 + if g.hasTypes then 5 else 0) ++ [' '], ?_, ?_⟩
  · simp only [List.append_assoc, List.cons_append, List.nil_append]
  · rw [List.length_append, List.length_append, himport, Text.blanks, List.length_replicate,
      List.length_singleton, pathColumn, fromColumn]
    omega

/-- The lines of a declaration that binds something are those of its bindings. -/
lemma exists_perm_lines_eq (placement : TypePlacement) (hd : d ∈ imports) (hs : d.specifiers ≠ []) :
    ∃ bs : List Specifier, bs.Perm d.specifiers ∧
      (ofImports imports).lines placement d = bs.map (bindingLine imports d) := by
  have hperm := orderByType_perm placement (fun b => d.typeOnly || b.typeOnly)
    (fun b => some b.name) d.specifiers
  refine ⟨_, hperm, ?_⟩
  have hside : ¬ d.isSideEffect = true := by
    simpa [Declaration.isSideEffect] using hs
  rw [lines, if_neg hside, Declaration.orderedSpecifiers, List.map_map]
  refine List.map_congr_left fun b hb => ?_
  exact specifierLine_eq_bindingLine hd (hperm.mem_iff.1 hb)

end Grid

/-- All lines of a file are laid out on one grid.  A declaration has one line for every binding, with
the mark for types before the binding and blanks behind it up to the width of the widest binding of the
file.  The word `from` stands in one column of the file, and so does the module path, also where
nothing is bound. -/
theorem lines_ofImports (placement : TypePlacement) (imports : List Declaration) (d : Declaration)
    (hd : d ∈ imports) :
    (d.specifiers ≠ [] →
      (∃ bs : List Specifier, bs.Perm d.specifiers ∧
        (Grid.ofImports imports).lines placement d = bs.map (bindingLine imports d)) ∧
      ((Grid.ofImports imports).lines placement d).length = d.specifiers.length ∧
      (∀ b ∈ d.specifiers,
        b.text.length ≤ (Grid.ofImports imports).nameWidth ∧
        (Text.padTo (Grid.ofImports imports).nameWidth b.text).length =
          (Grid.ofImports imports).nameWidth) ∧
      ∀ line ∈ (Grid.ofImports imports).lines placement d, ∃ before,
        line = before ++ "from ".toList ++ d.sourceClause ∧
        before.length = (Grid.ofImports imports).fromColumn ∧
        (before ++ "from ".toList).length = (Grid.ofImports imports).pathColumn) ∧
    (d.specifiers = [] →
      ∃ before, (Grid.ofImports imports).lines placement d = [before ++ d.sourceClause] ∧
        before.length = (Grid.ofImports imports).pathColumn) := by
  constructor
  · intro hs
    obtain ⟨bs, hperm, hlines⟩ := Grid.exists_perm_lines_eq placement hd hs
    refine ⟨⟨bs, hperm, hlines⟩, ?_, ?_, ?_⟩
    · rw [hlines, List.length_map, hperm.length_eq]
    · intro b hb
      have hle := Grid.length_text_le_nameWidth hd hb
      exact ⟨hle, Text.length_padTo hle⟩
    · intro line hline
      rw [hlines] at hline
      obtain ⟨b, hb, rfl⟩ := List.mem_map.1 hline
      obtain ⟨before, heq, hlen⟩ := Grid.exists_bindingLine_eq hd (hperm.mem_iff.1 hb)
      refine ⟨before, heq, hlen, ?_⟩
      rw [List.length_append, hlen]
      rfl
  · intro hs
    obtain ⟨before, heq, hlen⟩ := (Grid.ofImports imports).exists_sideEffectLine_eq d.sourceClause
    exact ⟨before, by rw [Grid.lines_of_eq_nil _ placement hs, heq], hlen⟩

/-- A text whose only marker is on a declaration that binds nothing. -/
def markedText : Text := "import type \x7b\x7d from 'a'\nimport b from 'b'\n".toList

/-- The declaration of that text that binds nothing. -/
def markedImport : Declaration := ⟨⟨0, 23⟩, "a".toList, "'a'".toList, true, [], none⟩

/-- The declaration of that text that binds something. -/
def plainImport : Declaration :=
  ⟨⟨24, 41⟩, "b".toList, "'b'".toList, false, [⟨.defaultImport, "b".toList, false⟩], none⟩

theorem lines_ofImports_plainImport :
    plainImport.specifiers ≠ [] ∧
    ((Grid.ofImports [markedImport, plainImport]).lines .first plainImport).length = 1 ∧
    ∀ line ∈ (Grid.ofImports [markedImport, plainImport]).lines .first plainImport, ∃ before,
      line = before ++ "from ".toList ++ "'b'".toList ∧
      before.length = (Grid.ofImports [markedImport, plainImport]).fromColumn ∧
      (before ++ "from ".toList).length = (Grid.ofImports [markedImport, plainImport]).pathColumn := by
  have hmem : plainImport ∈ [markedImport, plainImport] := by simp
  have hne : plainImport.specifiers ≠ [] := by decide
  obtain ⟨-, hlen, -, hlines⟩ := (lines_ofImports .first [markedImport, plainImport] plainImport hmem).1 hne
  exact ⟨hne, hlen, hlines⟩

/-- No binding of the text is there for types only, and yet blanks stand in the place of the word
`type`. -/
theorem lines_markedWithoutBindings :
    readImports? (.ofFileName "a.ts".toList) markedText = some [markedImport, plainImport] ∧
    (∀ d ∈ [markedImport, plainImport], ∀ b ∈ d.specifiers, (d.typeOnly || b.typeOnly) = false) ∧
    ∃ b ∈ plainImport.specifiers,
      ∀ line ∈ (Grid.ofImports [markedImport, plainImport]).lines .first plainImport,
        line ≠ "import ".toList ++
          Text.padTo (Grid.ofImports [markedImport, plainImport]).nameWidth b.text ++
          " from ".toList ++ plainImport.sourceClause := by
  decide +kernel

/-! ## Splitting and reordering -/

/-- The grid of declarations is that of their units in any order, and the units have no other units than
themselves: splitting them once more changes nothing. -/
theorem Grid.ofImports_eq_of_perm_units {imports units : List Declaration}
    (h : units.Perm (imports.flatMap Declaration.units)) :
    Grid.ofImports units = Grid.ofImports imports ∧ ∀ u ∈ units, u.units = [u] := by
  constructor
  · calc Grid.ofImports units = Grid.ofImports (imports.flatMap Declaration.units) := ofImports_perm h
      _ = Grid.ofImports imports := ofImports_units imports
  · intro u hu
    obtain ⟨d, -, hd⟩ := List.mem_flatMap.1 (h.mem_iff.1 hu)
    exact Declaration.units_of_mem_units hd

/-- A marked declaration with two bindings, of which one is renamed. -/
def markedPair : Declaration :=
  ⟨⟨42, 81⟩, "./p".toList, "'./p'".toList, true,
    [⟨.namedImport none, "x".toList, false⟩, ⟨.namedImport (some "y".toList), "z".toList, false⟩], none⟩

theorem Grid.ofImports_eq_of_perm_units_markedPair :
    let units := [⟨⟨42, 81⟩, "./p".toList, "'./p'".toList, true,
        [⟨.namedImport (some "y".toList), "z".toList, true⟩], none⟩, plainImport, markedImport,
      ⟨⟨42, 81⟩, "./p".toList, "'./p'".toList, true, [⟨.namedImport none, "x".toList, true⟩], none⟩]
    units.Perm ([markedImport, plainImport, markedPair].flatMap Declaration.units) ∧
    Grid.ofImports [markedImport, plainImport, markedPair] = ⟨"\x7b y as z \x7d".length, true⟩ ∧
    Grid.ofImports units = Grid.ofImports [markedImport, plainImport, markedPair] ∧
    ∀ u ∈ units, u.units = [u] := by
  intro units
  have hperm : units.Perm ([markedImport, plainImport, markedPair].flatMap Declaration.units) := by
    decide +kernel
  exact ⟨hperm, by decide +kernel, Grid.ofImports_eq_of_perm_units hperm⟩

end ImportGrid
