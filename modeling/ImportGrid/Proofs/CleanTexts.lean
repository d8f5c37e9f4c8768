/-
Texts that are laid out already.

When a check reports nothing, every declaration stands on its portion of the layout
(`map_textIn_of_check_eq_nil`).  Then it has a single line and this is its own, though it was dealt as
the line of a unit that may come from elsewhere (`lines_eq_textIn`).  So rendering declarations where
they stand changes nothing in such a text (`formatSource_of_lintSource_eq_nil`).

Of the parser this needs that what it tells of the text is read from the text
(`Parser.IsReadFrom`).
-/
import ImportGrid.Organize
import ImportGrid.Proofs.InPlaceEdits
import ImportGrid.Proofs.NodeReading
import ImportGrid.Source.Module

namespace ImportGrid

/-! ## Declarations on their portions -/

section Check

variable {c : Config} {source newline : Text} {imports : List Declaration}

lemma map_textIn_of_checkSlots_eq_nil {fixable : Bool} {slots : List Slot}
    (hlen : slots.length = imports.length)
    (h : checkSlots source newline fixable imports slots = []) :
    imports.map (·.span.textIn source) = slots.map (·.text) := by
  induction imports generalizing slots with
  | nil =>
    obtain rfl := List.length_eq_zero_iff.1 hlen
    rfl
  | cons d imports ih =>
    obtain ⟨s, slots, rfl⟩ := List.exists_cons_of_length_eq_add_one hlen
    rw [checkSlots, List.append_eq_nil_iff] at h
    have hnone : checkSlot source newline fixable d (imports.head?.map (·.span.start)) s = none := by
      simpa using h.1
    rw [List.map_cons, List.map_cons, textIn_of_checkSlot_eq_none hnone, ih (by simpa using hlen) h.2]

/-- If a check reports nothing, the declarations have the texts of their portions. -/
lemma map_textIn_of_check_eq_nil (h : check c source imports = []) :
    imports.map (·.span.textIn source) =
      (portions c (lineEnding source) imports).map (joinExpected (lineEnding source)) := by
  rw [check, checkFrom_eq_checkSlots (length_expectedLines ..)] at h
  rw [← map_text_slotsOf]
  exact map_textIn_of_checkSlots_eq_nil (by simp) h

/-- If a check reports nothing, a declaration begins with the line of a unit, and there is more of it
only if it has more bindings. -/
lemma exists_line_of_check_eq_nil (h : check c source imports = []) {e : Declaration} (he : e ∈ imports) :
    ∃ l rest, e.span.textIn source = l.text ++ rest ∧ l ∈ expectedLines c (lineEnding source) imports ∧
      (e.specifiers.length ≤ 1 → rest = []) := by
  obtain ⟨i, hi, rfl⟩ := List.mem_iff_getElem.1 he
  have hi' : i < (portions c (lineEnding source) imports).length := by simpa using hi
  have htext := List.getElem_of_eq (map_textIn_of_check_eq_nil h) (i := i) (by simpa using hi)
  obtain ⟨hflatten, hlengths⟩ := portions_spec c (lineEnding source) imports
  have hcount := List.getElem_of_eq hlengths (i := i) (by simpa using hi)
  simp only [List.getElem_map] at htext hcount
  have hmem : ∀ l ∈ (portions c (lineEnding source) imports)[i],
      l ∈ expectedLines c (lineEnding source) imports := fun l hl =>
    hflatten ▸ List.mem_flatten_of_mem (List.getElem_mem hi') hl
  generalize (portions c (lineEnding source) imports)[i] = p at htext hcount hmem
  have hpos := unitCount_pos imports[i]
  match p with
  | [] => simp at hcount; omega
  | [l] =>
    refine ⟨l, [], ?_, hmem l (by simp), fun _ => rfl⟩
    rw [htext, joinExpected, List.append_nil]
  | l :: m :: p =>
    refine ⟨l, (if l.endsGroup then lineEnding source ++ lineEnding source else lineEnding source) ++
      joinExpected (lineEnding source) (m :: p), ?_, hmem l (by simp), fun hsingle => ?_⟩
    · rw [htext, joinExpected, List.append_assoc]
    · rw [Declaration.unitCount, Nat.max_eq_right hsingle] at hcount
      simp at hcount

end Check

/-! ## Marked texts -/

section Mark

/-- The word `import` does not begin again three bytes behind its beginning. -/
lemma import_ne_append {e x y : Text} (he : e.byteLength = 3) :
    "import".toList ++ x ≠ e ++ ("import".toList ++ y) := by
  have himport : "import".toList = ['i', 'm', 'p', 'o', 'r', 't'] := by decide
  rw [himport]
  intro h
  match e with
  | [] => simp at he
  | [_] => simp at h
  | [_, _] => simp at h
  | [_, _, _] => simp at h
  | a :: b :: c :: k :: e =>
    have ha := a.utf8Size_pos
    have hb := b.utf8Size_pos
    have hc := c.utf8Size_pos
    have hk := k.utf8Size_pos
    simp only [Text.byteLength_cons] at he
    omega

/-- A span that leads to the word `import` leads elsewhere if a byte order mark stands before the text. -/
lemma not_prefix_textIn_of_mark {t : Text} {s : Span} (h : "import".toList <+: s.textIn t) :
    ¬ "import".toList <+: s.textIn ('\ufeff' :: t) := by
  have hmark : '\ufeff'.utf8Size = 3 := by decide
  have hne : ∀ {u : Text}, "import".toList <+: u → u ≠ [] := by
    rintro u ⟨r, rfl⟩
    simp
  intro hprefix
  obtain ⟨g, y, ht, hg, -⟩ := Span.exists_of_textIn_ne_nil (hne h)
  obtain ⟨a, b, hsplit, ha, -⟩ := Span.exists_of_textIn_ne_nil (hne hprefix)
  obtain ⟨x, hx⟩ := h
  obtain ⟨z, hz⟩ := hprefix
  rw [← hx] at ht
  rw [← hz] at hsplit
  cases a with
  | nil => exact absurd (List.cons.inj hsplit).1 (by decide)
  | cons c a =>
    -- the word stands at the offset, and three bytes before it
    obtain ⟨rfl, hrest⟩ := List.cons.inj hsplit
    rw [Text.byteLength_cons, hmark] at ha
    rw [ht] at hrest
    obtain ⟨e, rfl, he⟩ := Text.exists_eq_append_of_le hrest.symm (by omega)
    rw [Text.byteLength_append] at hg
    rw [List.append_assoc, List.append_assoc] at he
    exact import_ne_append (by omega) he

/-- A marked text on which a check reports nothing has no declarations. -/
lemma imports_eq_nil_of_mark {c : Config} {t : Text} {m : ParsedModule} (hm : m.IsReadFrom t)
    (hcheck : check c ('\ufeff' :: t) (m.declarations ('\ufeff' :: t)) = []) : m.imports = [] := by
  by_contra hne
  obtain ⟨n, hn⟩ := List.exists_mem_of_ne_nil _ hne
  obtain ⟨l, rest, htext, hl, -⟩ := exists_line_of_check_eq_nil hcheck (List.mem_map_of_mem hn)
  have hprefix := (prefix_of_mem_expectedLines hl).trans (List.prefix_append l.text rest)
  rw [← htext] at hprefix
  exact not_prefix_textIn_of_mark (hm.isReadFrom n hn).prefix_ownText hprefix

end Mark

/-! ## Texts without diagnostics -/

section Clean

variable {c : Config} {source : Text} {m : ParsedModule}

lemma Declaration.HasReadParts.of_mem_units {d u : Declaration} (hd : d.HasReadParts) (hu : u ∈ d.units) :
    u.HasReadParts := by
  unfold units at hu
  split at hu
  · obtain rfl := List.mem_singleton.1 hu
    exact hd
  · obtain ⟨b, hb, rfl⟩ := List.mem_map.1 hu
    refine ⟨?_, ?_, hd.isReadString, hd.attributes⟩
    · intro b' hb'
      obtain rfl := List.mem_singleton.1 hb'
      exact hd.isWord b hb
    · intro b' hb'
      obtain rfl := List.mem_singleton.1 hb'
      exact hd.imported b hb

/-- If a check reports nothing, every declaration stands on its own line. -/
theorem lines_eq_textIn (hm : m.IsReadFrom source)
    (hcheck : check c source (m.declarations source) = []) {n : ImportNode} (hn : n ∈ m.imports) :
    (Grid.ofImports (m.declarations source)).lines c.typeImports (n.declaration source m.start) =
      [n.ownText source m.start] := by
  have hmem : n.declaration source m.start ∈ m.declarations source := List.mem_map_of_mem hn
  -- the declaration begins with the line of a unit, which was read from the text, too
  obtain ⟨l, rest, htext, hl, hrest⟩ := exists_line_of_check_eq_nil hcheck hmem
  obtain ⟨f, hf, u, hu, hline⟩ := exists_of_mem_expectedLines hl
  have hparts : u.HasReadParts := by
    obtain ⟨k, hk, rfl⟩ := List.mem_map.1 hf
    exact (hm.isReadFrom k hk).hasReadParts.of_mem_units hu
  have hsingle := Declaration.length_specifiers_of_units_eq (Declaration.units_of_mem_units hu)
  have hcolumn : u.hasTypeMarker = true → (Grid.ofImports (m.declarations source)).hasTypes = true :=
    fun hmarker => Grid.hasTypes_iff.2 ⟨f, hf, Declaration.exists_units_iff.1 ⟨u, hu, hmarker⟩⟩
  have hwidth := Grid.nameWidth_le_iff.1 (le_refl (Grid.ofImports (m.declarations source)).nameWidth)
    _ hmem
  rw [Grid.lines_eq_head hsingle hcolumn, List.singleton_inj] at hline
  rw [← hline, List.append_assoc] at htext
  obtain ⟨hlength, hlines⟩ :=
    (hm.isReadFrom n hn).lines_eq hparts hsingle hcolumn hwidth htext c.typeImports
  exact hlines (hrest hlength)

/-- A text on which a check reports nothing is rendered as it is. -/
theorem reprint_eq_self (hm : m.IsReadFrom (withoutMark source))
    (hcheck : check c source (m.declarations source) = []) :
    reprint c source (m.declarations source) = source := by
  by_cases hmark : ∃ t, source = '\ufeff' :: t
  · obtain ⟨t, rfl⟩ := hmark
    rw [ParsedModule.declarations, imports_eq_nil_of_mark hm hcheck, List.map_nil, reprint, reprintFrom,
      Text.from?_zero, Option.getD_some]
  · have hwithout : withoutMark source = source := by
      unfold withoutMark
      split
      · next t => exact absurd ⟨t, rfl⟩ hmark
      · rfl
    rw [hwithout] at hm
    obtain ⟨strip, behind, hstrip⟩ := hm.inSourceOrder.exists_strip
    have hsource : source = Stretch.spell strip ++ behind := by simpa using hstrip.rest
    rw [hstrip.reprint_eq, reprinted_eq_self hstrip, ← hsource]
    intro e he _
    obtain ⟨n, hn, rfl⟩ := List.mem_map.1 he
    rw [renderedText, lines_eq_textIn hm hcheck hn, Text.joinWith_singleton]
    rfl

/-- Linting and formatting agree on what is laid out already.  If linting a text reports nothing, then
formatting it gives it back. -/
theorem formatSource_of_lintSource_eq_nil (p : Parser) (c : Config) (fileName source : Text)
    (hp : p.IsReadFrom (.ofFileName fileName) source) (h : lintSource p c fileName source = .ok []) :
    formatSource p c fileName source = .ok source := by
  cases himports : importsOf p fileName source with
  | error e => simp [lintSource, himports, Except.map] at h
  | ok imports =>
    have hcheck : check c source imports = [] := by
      simpa [lintSource, himports, Except.map] using h
    obtain ⟨m, hm, rfl⟩ := Option.map_eq_some_iff.1 (importsOf_eq_ok_iff.1 himports)
    rw [formatSource, himports, Except.map, reprint_eq_self (hp m hm) hcheck]

end Clean

/-! ## A text that is laid out already -/

section Aligned

variable {text : Text} {start : Nat} {n : ImportNode}

/-- A node whose text begins with the head of a line need not say more than this head, as its text begins
with no other one. -/
lemma ImportNode.head_of_ownText_eq (h₀ : ImportHead) (q₀ : Char) (y₀ : Text) (hwell : h₀.IsWellFormed)
    (hq₀ : IsStringQuote q₀) (hown : n.ownText text start = h₀.text ++ q₀ :: y₀)
    (hclause : n.typeOnly = h₀.typeOnly ∧
      n.specifiers.map (·.specifier text start) = h₀.binding?.toList.map Binding.specifier ∧
      (n.path.from start).start = (n.span.from start).start + h₀.text.byteLength)
    (h : ImportHead) (q : Char) (y : Text) (hh : h.IsWellFormed) (hq : IsStringQuote q)
    (heq : n.ownText text start = h.text ++ q :: y) :
    n.typeOnly = h.typeOnly ∧
      n.specifiers.map (·.specifier text start) = h.binding?.toList.map Binding.specifier ∧
      (n.path.from start).start = (n.span.from start).start + h.text.byteLength := by
  obtain ⟨rfl, -⟩ := ImportHead.eq_of_text_append hwell hh hq₀ hq (hown.symm.trans heq)
  exact hclause

/-- Where no quote stands one blank behind the first brace, no string stands behind the opening brace. -/
lemma ne_append_of_not_isStringQuote {t : Text}
    (h : ¬ BeginsQuoted ((t.dropWhile (· ≠ '\x7b')).drop 2)) (typeOnly : Bool) (gap : Nat)
    {q : Char} (hq : IsStringQuote q) (y : Text) : t ≠ ImportHead.opening typeOnly gap ++ q :: y := by
  have hmarker : ∀ c ∈ ImportHead.marker typeOnly, decide (c ≠ '\x7b') = true := by
    cases typeOnly <;> exact List.all_eq_true.1 (by decide)
  have hblanks : ∀ c ∈ Text.blanks (gap + 1), decide (c ≠ '\x7b') = true := by
    intro c hc
    rw [List.eq_of_mem_replicate hc]
    decide
  rintro rfl
  rw [ImportHead.opening, List.append_assoc, List.append_assoc, List.dropWhile_append_of_pos hmarker,
    List.dropWhile_append_of_pos hblanks] at h
  exact h hq

/-- Two declarations on the grid: the names are padded, and the column for the marker is blank on the
second line. -/
def alignedText : Text :=
  ("// names\nimport type \x7b a as b \x7d from './a' // one\n" ++
    "import      c          from './c'\n\nuse(b, c)\n").toList

/-- What is read of the text. -/
def alignedModule : ParsedModule :=
  ⟨1, [⟨⟨10, 43⟩, true, [.namedImport (some (.name "a".toList)) "b".toList false], ⟨38, 43⟩, none⟩,
    ⟨⟨51, 84⟩, false, [.defaultImport "c".toList], ⟨79, 84⟩, none⟩]⟩

lemma isReadFrom_alignedModule : alignedModule.IsReadFrom alignedText := by
  refine ⟨by decide +kernel, fun n hn => ?_⟩
  rcases List.mem_pair.1 hn with rfl | rfl
  · refine ⟨by decide +kernel, by decide +kernel, ⟨alignedText.take 37, '\'', alignedText.drop 38, ?_⟩,
      by simp [SpecifierNode.string?], ?_, ?_, by decide, by decide, by decide, by decide⟩
    · decide +kernel
    · exact ImportNode.head_of_ownText_eq (.clause true 0 (.renamed "a".toList "b".toList) 0) '\''
        "./a'".toList (by decide) (by decide) (by decide +kernel) (by decide +kernel)
    · intro typeOnly gap q y hq hown
      exact absurd hown (ne_append_of_not_isStringQuote (by decide +kernel) typeOnly gap hq y)
  · refine ⟨by decide +kernel, by decide +kernel, ⟨alignedText.take 78, '\'', alignedText.drop 79, ?_⟩,
      by simp [SpecifierNode.string?], ?_, ?_, by decide, by decide, by decide, by decide⟩
    · decide +kernel
    · exact ImportNode.head_of_ownText_eq (.clause false 5 (.defaultImport "c".toList) 9) '\''
        "./c'".toList (by decide) (by decide) (by decide +kernel) (by decide +kernel)
    · intro typeOnly gap q y hq hown
      exact absurd hown (ne_append_of_not_isStringQuote (by decide +kernel) typeOnly gap hq y)

lemma parse?_alignedText :
    sourceParser.parse? (.ofFileName "a.ts".toList) alignedText = some alignedModule := by
  decide +kernel

lemma isReadFrom_sourceParser_alignedText :
    sourceParser.IsReadFrom (.ofFileName "a.ts".toList) alignedText := by
  intro m hm
  obtain rfl : alignedModule = m := Option.some.inj (parse?_alignedText.symm.trans hm)
  exact isReadFrom_alignedModule

lemma check_alignedText : check .default alignedText (alignedModule.declarations alignedText) = [] := by
  have hunits : layoutUnits .default (alignedModule.declarations alignedText) =
      (alignedModule.declarations alignedText).flatMap Declaration.units := by
    rw [layoutUnits, flatMap_groupImports]
    exact stableSort_of_pairwise (by decide +kernel)
  rw [check, expectedLines_eq_markGroups, hunits]
  decide +kernel

theorem formatSource_alignedText :
    sourceParser.IsReadFrom (.ofFileName "a.ts".toList) alignedText ∧
    lintSource sourceParser .default "a.ts".toList alignedText = .ok [] ∧
    formatSource sourceParser .default "a.ts".toList alignedText = .ok alignedText := by
  have hclean : lintSource sourceParser .default "a.ts".toList alignedText = .ok [] := by
    rw [lintSource, importsOf_eq_ok_iff.2 (congrArg (Option.map _) parse?_alignedText), Except.map]
    exact congrArg Except.ok check_alignedText
  exact ⟨isReadFrom_sourceParser_alignedText, hclean, formatSource_of_lintSource_eq_nil sourceParser
    .default "a.ts".toList alignedText isReadFrom_sourceParser_alignedText hclean⟩

end Aligned

end ImportGrid
