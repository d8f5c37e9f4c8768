/-
Lines and columns.

The position of a place in a text is a line, counted by the line feeds before the place, and a column,
counted in characters behind the last of them.  One more character leads to the next column or to the
next line (`positionBehind_append_singleton`), so positions grow along a text
(`positionBehind_lt_append`) and no two places of a text share one.  A position says into how many
lines the text before the place is cut, and how much of the next line stands there
(`IsCutInto.positionBehind_eq`).

Every diagnostic has the position of its declaration, and diagnostics come in the order of the
declarations (`map_span_position_check_sublist`), which is the order of their positions
(`lineAndColumn_strictMono`).
-/
import Mathlib.Data.List.Induction
import Mathlib.Data.Prod.Lex
import ImportGrid.Proofs.LayoutLines
import ImportGrid.Proofs.Stretch

namespace ImportGrid

/-! ## Positions behind a text -/

/-- A text cut into lines: complete ones, each ended by a line feed, and what stands on the line behind
them. -/
structure IsCutInto (t : Text) (lines : List Text) (last : Text) : Prop where
  eq_append : t = lines.flatMap (· ++ ['\n']) ++ last
  notMem_lines : ∀ l ∈ lines, '\n' ∉ l
  notMem_last : '\n' ∉ last

/-- One more character leads to the next line or to the next column. -/
lemma positionBehind_append_singleton (t : Text) (c : Char) :
    positionBehind (t ++ [c]) =
      if c = '\n' then ((positionBehind t).1 + 1, 1)
      else ((positionBehind t).1, (positionBehind t).2 + 1) := by
  unfold positionBehind Text.lineFeeds
  rw [List.count_append, List.count_singleton, List.reverse_append, List.reverse_singleton,
    List.singleton_append, List.takeWhile_cons]
  by_cases hc : c = '\n' <;> simp [hc]

/-- Behind more characters of the same line stands a later column of that line. -/
lemma positionBehind_append_of_notMem {t u : Text} (hu : '\n' ∉ u) :
    positionBehind (t ++ u) = ((positionBehind t).1, (positionBehind t).2 + u.length) := by
  induction u generalizing t with
  | nil => simp
  | cons c u ih =>
    simp only [List.mem_cons, not_or] at hu
    rw [List.append_cons, ih hu.2, positionBehind_append_singleton, if_neg (Ne.symm hu.1),
      List.length_cons, Nat.add_assoc, Nat.add_comm 1]

/-- One more character leads to a later position. -/
lemma positionBehind_lt_append_singleton (t : Text) (c : Char) :
    toLex (positionBehind t) < toLex (positionBehind (t ++ [c])) := by
  rw [positionBehind_append_singleton, Prod.Lex.toLex_lt_toLex]
  split
  · exact .inl (Nat.lt_succ_self _)
  · exact .inr ⟨rfl, Nat.lt_succ_self _⟩

/-- Positions grow along a text. -/
lemma positionBehind_lt_append (t : Text) {u : Text} (hu : u ≠ []) :
    toLex (positionBehind t) < toLex (positionBehind (t ++ u)) := by
  induction u generalizing t with
  | nil => exact absurd rfl hu
  | cons c u ih =>
    have hstep := positionBehind_lt_append_singleton t c
    rw [List.append_cons]
    by_cases hu' : u = []
    · rwa [hu', List.append_nil]
    · exact hstep.trans (ih (t ++ [c]) hu')

/-! ## Lines -/

namespace IsCutInto

variable {t last : Text} {lines : List Text}

/-- The position behind a text tells how the text is cut into lines. -/
lemma positionBehind_eq (h : IsCutInto t lines last) :
    positionBehind t = (lines.length + 1, last.length + 1) := by
  obtain ⟨rfl, hlines, hlast⟩ := h
  have hcomplete : positionBehind (lines.flatMap (· ++ ['\n'])) = (lines.length + 1, 1) := by
    induction lines using List.reverseRecOn with
    | nil => rfl
    | append_singleton lines l ih =>
      rw [List.flatMap_append, List.flatMap_singleton, ← List.append_assoc,
        positionBehind_append_singleton, if_pos rfl,
        positionBehind_append_of_notMem (hlines l (by simp)),
        ih fun x hx => hlines x (List.mem_append_left _ hx), List.length_append, List.length_singleton]
  rw [positionBehind_append_of_notMem hlast, hcomplete, Nat.add_comm 1]

/-- A line feed completes the line that is begun. -/
lemma append_lineFeed (h : IsCutInto t lines last) : IsCutInto (t ++ ['\n']) (lines ++ [last]) [] where
  eq_append := by simp [h.eq_append]
  notMem_lines l hl := by
    rcases List.mem_append.1 hl with hl | hl
    · exact h.notMem_lines l hl
    · exact List.mem_singleton.1 hl ▸ h.notMem_last
  notMem_last := List.not_mem_nil

/-- Any other character stands on that line. -/
lemma append_singleton (h : IsCutInto t lines last) {c : Char} (hc : c ≠ '\n') :
    IsCutInto (t ++ [c]) lines (last ++ [c]) where
  eq_append := by simp [h.eq_append]
  notMem_lines := h.notMem_lines
  notMem_last := by simp [h.notMem_last, Ne.symm hc]

end IsCutInto

lemma exists_isCutInto (t : Text) : ∃ lines last, IsCutInto t lines last := by
  induction t using List.reverseRecOn with
  | nil => exact ⟨[], [], rfl, by simp, by simp⟩
  | append_singleton t c ih =>
    obtain ⟨lines, last, h⟩ := ih
    by_cases hc : c = '\n'
    · exact ⟨_, _, hc ▸ h.append_lineFeed⟩
    · exact ⟨_, _, h.append_singleton hc⟩

lemma positionBehind_eq_iff {t : Text} {line column : Nat} :
    positionBehind t = (line, column) ↔
      ∃ lines last, IsCutInto t lines last ∧ lines.length + 1 = line ∧ last.length + 1 = column := by
  constructor
  · intro h
    obtain ⟨lines, last, hcut⟩ := exists_isCutInto t
    rw [hcut.positionBehind_eq, Prod.mk.injEq] at h
    exact ⟨lines, last, hcut, h⟩
  · rintro ⟨lines, last, hcut, rfl, rfl⟩
    exact hcut.positionBehind_eq

/-! ## Positions of offsets -/

section Offsets

variable {source a b : Text} {m n : Nat}

lemma lineAndColumn_eq (ha : Text.upTo? m source = some a) :
    lineAndColumn source m = positionBehind a := by
  rw [lineAndColumn, ha, Option.getD_some]

/-- Later places have later positions. -/
lemma lineAndColumn_lt (ha : Text.upTo? m source = some a) (hb : Text.upTo? n source = some b)
    (h : m < n) : toLex (lineAndColumn source m) < toLex (lineAndColumn source n) := by
  rw [lineAndColumn_eq ha, lineAndColumn_eq hb]
  obtain ⟨x, hx, rfl⟩ := Text.upTo?_eq_some_iff.1 ha
  obtain ⟨y, hy, rfl⟩ := Text.upTo?_eq_some_iff.1 hb
  obtain ⟨g, rfl, -⟩ := Text.exists_eq_append_of_le (hx.symm.trans hy) h.le
  refine positionBehind_lt_append a ?_
  rintro rfl
  simp at h

/-- No two places have the same position. -/
lemma eq_of_lineAndColumn_eq (ha : Text.upTo? m source = some a) (hb : Text.upTo? n source = some b)
    (h : lineAndColumn source m = lineAndColumn source n) : m = n := by
  rcases Nat.lt_trichotomy m n with hlt | heq | hlt
  · exact absurd (congrArg toLex h) (lineAndColumn_lt ha hb hlt).ne
  · exact heq
  · exact absurd (congrArg toLex h) (lineAndColumn_lt hb ha hlt).ne'

end Offsets

/-! ## Positions of diagnostics -/

/-- Line and column of a diagnostic. -/
def Diagnostic.position (x : Diagnostic) : Nat × Nat := (x.line, x.column)

section Diagnostics

variable {source newline : Text} {fixable : Bool}

/-- A diagnostic stands where its declaration does. -/
lemma span_position_of_checkSlot {d : Declaration} {next : Option Nat} {s : Slot} {x : Diagnostic}
    (h : checkSlot source newline fixable d next s = some x) :
    x.span = d.span ∧ x.position = lineAndColumn source d.span.start := by
  unfold checkSlot at h
  simp only at h
  split at h
  · simp at h
  · obtain rfl := (Option.some.inj h).symm
    exact ⟨rfl, rfl⟩

/-- Diagnostics come in the order of the declarations. -/
lemma map_span_position_checkFrom_sublist (imports : List Declaration) (expected : List ExpectedLine) :
    ((checkFrom source newline fixable imports expected).map fun x => (x.span, x.position)).Sublist
      (imports.map fun d => (d.span, lineAndColumn source d.span.start)) := by
  induction imports generalizing expected with
  | nil => simp [checkFrom]
  | cons d rest ih =>
    rw [checkFrom]
    split
    · exact List.nil_sublist _
    · next slot left _ =>
      rw [List.map_append, List.map_cons]
      cases hc : checkSlot source newline fixable d (rest.head?.map (·.span.start)) slot with
      | none => exact (ih left).cons _
      | some x =>
        obtain ⟨hspan, hposition⟩ := span_position_of_checkSlot hc
        rw [Option.toList_some, List.map_singleton, hspan, hposition]
        exact (ih left).cons_cons _

lemma map_span_position_check_sublist (c : Config) (source : Text) (imports : List Declaration) :
    ((check c source imports).map fun x => (x.span, x.position)).Sublist
      (imports.map fun d => (d.span, lineAndColumn source d.span.start)) :=
  map_span_position_checkFrom_sublist ..

/-- Declarations in source order that are not empty stand at growing positions. -/
lemma InSourceOrder.pairwise_lineAndColumn {imports : List Declaration}
    (h : InSourceOrder source imports) (hne : ∀ d ∈ imports, d.span.start < d.span.stop) :
    imports.Pairwise fun d e =>
      toLex (lineAndColumn source d.span.start) < toLex (lineAndColumn source e.span.start) := by
  have hplace : ∀ d ∈ imports, ∃ a, Text.upTo? d.span.start source = some a := by
    intro d hd
    obtain ⟨t, ht⟩ := Option.isSome_iff_exists.1 (h.isPiece d hd)
    obtain ⟨a, b, hsource, ha, -⟩ := Text.slice?_eq_some_iff.1 ht
    exact ⟨a, Text.upTo?_eq_some_iff.2 ⟨t ++ b, by rw [hsource, List.append_assoc], ha⟩⟩
  refine h.ordered.imp_of_mem fun {d e} hd he hle => ?_
  obtain ⟨a, ha⟩ := hplace d hd
  obtain ⟨b, hb⟩ := hplace e he
  exact lineAndColumn_lt ha hb ((hne d hd).trans_le hle)

end Diagnostics

/-- Positions are in the order of the places in a text, and no two places share one.  The position of a
place says how the text before it is cut: so many complete lines, and so many characters of the next
line.  Diagnostics have the positions of their declarations and come in the order of positions. -/
theorem lineAndColumn_strictMono (source : Text) :
    (∀ m n a b, Text.upTo? m source = some a → Text.upTo? n source = some b → m < n →
      toLex (lineAndColumn source m) < toLex (lineAndColumn source n)) ∧
    (∀ m n a b, Text.upTo? m source = some a → Text.upTo? n source = some b →
      lineAndColumn source m = lineAndColumn source n → m = n) ∧
    (∀ n a line column, Text.upTo? n source = some a →
      (lineAndColumn source n = (line, column) ↔
        ∃ lines last, IsCutInto a lines last ∧ lines.length + 1 = line ∧ last.length + 1 = column)) ∧
    ∀ (c : Config) (imports : List Declaration), InSourceOrder source imports →
      (∀ d ∈ imports, d.span.start < d.span.stop) →
      ((check c source imports).map fun x => (x.span, x.position)).Sublist
        (imports.map fun d => (d.span, lineAndColumn source d.span.start)) ∧
      (check c source imports).Pairwise fun x y => toLex x.position < toLex y.position := by
  refine ⟨fun m n a b => lineAndColumn_lt, fun m n a b => eq_of_lineAndColumn_eq, ?_, ?_⟩
  · intro n a line column ha
    rw [lineAndColumn_eq ha]
    exact positionBehind_eq_iff
  · intro c imports h hne
    have hsub := map_span_position_check_sublist c source imports
    have hpositions : (imports.map fun d => (d.span, lineAndColumn source d.span.start)).Pairwise
        fun p q => toLex p.2 < toLex q.2 :=
      List.pairwise_map.2 (h.pairwise_lineAndColumn hne)
    refine ⟨hsub, ?_⟩
    have hreported := hpositions.sublist hsub
    rwa [List.pairwise_map] at hreported

/-- A text with a character of two bytes, line endings of two characters, and declarations that are in
order, but not on a grid. -/
def greekText : Text := "// δ\r\nimport  a from 'a'\r\nimport  b from 'b'".toList

/-- The declarations of that text. -/
def greekImports : List Declaration :=
  [⟨⟨7, 25⟩, "a".toList, "'a'".toList, false, [⟨.defaultImport, "a".toList, false⟩], none⟩,
    ⟨⟨27, 45⟩, "b".toList, "'b'".toList, false, [⟨.defaultImport, "b".toList, false⟩], none⟩]

theorem lineAndColumn_strictMono_greekText :
    Text.upTo? 5 greekText = some "// δ".toList ∧ Text.upTo? 7 greekText = some "// δ\r\n".toList ∧
    5 < 7 ∧ toLex (lineAndColumn greekText 5) < toLex (lineAndColumn greekText 7) ∧
    lineAndColumn greekText 5 ≠ lineAndColumn greekText 7 ∧
    lineAndColumn greekText 5 = (1, 5) ∧
    (∃ lines last, IsCutInto "// δ".toList lines last ∧ lines.length + 1 = 1 ∧ last.length + 1 = 5) ∧
    InSourceOrder greekText greekImports ∧ (∀ d ∈ greekImports, d.span.start < d.span.stop) ∧
    (check .default greekText greekImports).map (·.position) = [(2, 1), (3, 1)] ∧
    (check .default greekText greekImports).Pairwise fun x y => toLex x.position < toLex y.position := by
  obtain ⟨hlt, hinj, hcut, hcheck⟩ := lineAndColumn_strictMono greekText
  have hfive : Text.upTo? 5 greekText = some "// δ".toList := by decide +kernel
  have hseven : Text.upTo? 7 greekText = some "// δ\r\n".toList := by decide +kernel
  have hposition : lineAndColumn greekText 5 = (1, 5) := by decide +kernel
  have hne : lineAndColumn greekText 5 ≠ lineAndColumn greekText 7 := fun h =>
    absurd (hinj 5 7 _ _ hfive hseven h) (by decide)
  have hordered : InSourceOrder greekText greekImports := by decide +kernel
  have hfilled : ∀ d ∈ greekImports, d.span.start < d.span.stop := by decide +kernel
  have hunits : layoutUnits Config.default greekImports = greekImports := by
    have hsame : greekImports.flatMap Declaration.units = greekImports := by decide +kernel
    rw [layoutUnits, flatMap_groupImports, hsame]
    exact stableSort_of_pairwise (by decide +kernel)
  have hreported : (check .default greekText greekImports).map (·.position) = [(2, 1), (3, 1)] := by
    rw [check, expectedLines_eq_markGroups, hunits]
    decide +kernel
  exact ⟨hfive, hseven, by decide, hlt 5 7 _ _ hfive hseven (by decide), hne, hposition,
    (hcut 5 _ 1 5 hfive).1 hposition, hordered, hfilled, hreported,
    (hcheck .default greekImports hordered hfilled).2⟩

end ImportGrid
