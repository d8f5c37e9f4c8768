/-
Edits in place.

Rendering declarations where they stand leaves the strip of the source with the rendered texts on it
(`OnStrip.reprintFrom_eq`).  Fixes that replace the same declarations by the same texts leave the same
strip (`OnStrip.splice_fixesInPlace`), so rendering moves nothing and keeps all that it does not replace
(`reprint_eq_applyFixes`).

A declaration that was rendered is left as its units, one a line, and one with a comment inside is left
as it is (`renderedUnits`).  All these have the grid of the file (`ofImports_renderedUnits`), and
a unit is laid out on its line, so rendering them again changes nothing (`reprint_reprint`).
-/
import ImportGrid.Reprint
import ImportGrid.Proofs.Settling
import ImportGrid.Proofs.UnitLines

namespace ImportGrid

/-! ## Rendering on a strip -/

section Strip

variable {render : Declaration → Text} {source behind : Text} {imports : List Declaration}
  {strip : List Stretch}

/-- The strip that rendering leaves.  A declaration with a comment inside is kept. -/
def reprinted (render : Declaration → Text) (source : Text) (imports : List Declaration)
    (strip : List Stretch) : List Stretch :=
  List.zipWith (fun d t => ⟨t.gap, if hasInnerComment source d.span then t.text else render d⟩)
    imports strip

/-- Rendering leaves the text up to the first declaration alone. -/
lemma reprintFrom_eq_append {last place : Nat} {between : Text}
    (h : Text.slice? last place source = some between) (hd : ∀ d ∈ imports, place ≤ d.span.start) :
    reprintFrom render source last imports = between ++ reprintFrom render source place imports := by
  obtain ⟨a, b, rfl, ha, hb⟩ := Text.slice?_eq_some_iff.1 h
  induction imports with
  | nil =>
    rw [reprintFrom, reprintFrom, List.append_assoc, Text.from?_append ha, ← List.append_assoc,
      Text.from?_append (by simp only [Text.byteLength_append]; omega)]
    rfl
  | cons d imports ih =>
    have hrest := ih fun e he => hd e (by simp [he])
    rw [reprintFrom, reprintFrom, Text.slice?_eq_map_append h (hd d (by simp))]
    cases Text.slice? place d.span.start (a ++ between ++ b) with
    | none => simpa using hrest
    | some u =>
      simp only [Option.map_some]
      split <;> simp only [List.append_assoc]

/-- Rendering writes every declaration where it stands, and leaves the rest of the text alone. -/
theorem OnStrip.reprintFrom_eq {n : Nat} (h : OnStrip source n imports strip behind) :
    reprintFrom render source n imports =
      Stretch.spell (reprinted render source imports strip) ++ behind := by
  induction imports generalizing n strip with
  | nil =>
    obtain rfl := List.length_eq_zero_iff.1 h.length_eq
    rw [reprintFrom, h.rest]
    rfl
  | cons d imports ih =>
    obtain ⟨t, strip, rfl⟩ := List.exists_cons_of_length_eq_add_one h.length_eq
    have hrest := ih h.tail
    rw [reprintFrom, h.slice_gap, reprinted, List.zipWith_cons_cons, Stretch.spell_cons]
    by_cases hc : hasInnerComment source d.span = true
    · -- what is kept is passed over with the gap behind it
      have hbehind : ∀ e ∈ imports, d.span.stop ≤ e.span.start := fun e he =>
        Stretch.le_start_of_mem_spans (h.tail.spans ▸ List.mem_map_of_mem he)
      simp only [hc, if_true]
      rw [reprintFrom_eq_append h.slice_text hbehind, hrest, reprinted]
      simp only [List.append_assoc]
    · simp only [hc, if_false, Bool.false_eq_true]
      rw [hrest, reprinted]
      simp only [List.append_assoc]

/-- Rendering declarations as they are written changes nothing. -/
lemma reprinted_eq_self {n : Nat} (h : OnStrip source n imports strip behind)
    (hr : ∀ d ∈ imports, hasInnerComment source d.span = false → render d = d.span.textIn source) :
    reprinted render source imports strip = strip := by
  induction imports generalizing n strip with
  | nil =>
    obtain rfl := List.length_eq_zero_iff.1 h.length_eq
    rfl
  | cons d imports ih =>
    obtain ⟨t, strip, rfl⟩ := List.exists_cons_of_length_eq_add_one h.length_eq
    have htext : (if hasInnerComment source d.span then t.text else render d) = t.text := by
      split
      · rfl
      · next hc => exact (hr d (by simp) (by simpa using hc)).trans h.textIn_eq
    have hrest := ih h.tail fun e he => hr e (by simp [he])
    rw [reprinted] at hrest
    rw [reprinted, List.zipWith_cons_cons, hrest, htext]

/-- Rendering keeps the gaps, and the texts of declarations with a comment inside. -/
lemma OnStrip.map_reprinted (render : Declaration → Text) {n : Nat}
    (h : OnStrip source n imports strip behind) :
    (reprinted render source imports strip).map (·.gap) = strip.map (·.gap) ∧
      (reprinted render source imports strip).map (·.text) =
        imports.map fun d =>
          if hasInnerComment source d.span then d.span.textIn source else render d := by
  induction imports generalizing n strip with
  | nil =>
    obtain rfl := List.length_eq_zero_iff.1 h.length_eq
    exact ⟨rfl, rfl⟩
  | cons d imports ih =>
    obtain ⟨t, strip, rfl⟩ := List.exists_cons_of_length_eq_add_one h.length_eq
    obtain ⟨hgap, htext⟩ := ih h.tail
    rw [reprinted] at hgap htext
    simp only [reprinted, List.zipWith_cons_cons, List.map_cons, hgap, htext, h.textIn_eq, and_self]

/-! ## Rendering as fixing -/

/-- The fixes that rendering amounts to: one for every declaration without a comment inside. -/
def fixesInPlace (render : Declaration → Text) (source : Text) (imports : List Declaration) :
    List Fix :=
  (imports.filter fun d => !hasInnerComment source d.span).map fun d => ⟨d.span, render d⟩

/-- Every fix stands at a declaration. -/
lemma exists_of_mem_fixesInPlace {f : Fix} (hf : f ∈ fixesInPlace render source imports) :
    ∃ d ∈ imports, f.span = d.span := by
  obtain ⟨d, hd, rfl⟩ := List.mem_map.1 hf
  exact ⟨d, (List.mem_filter.1 hd).1, rfl⟩

/-- The fixes stand in the order in which they are applied. -/
lemma pairwise_fixesInPlace (h : InSourceOrder source imports) :
    (fixesInPlace render source imports).Pairwise fun a b => Fix.notAfter a b = true := by
  refine List.pairwise_map.2 ((h.ordered.filter _).imp_of_mem fun {d e} hd he hde => ?_)
  have hdle := h.start_le_stop (List.mem_filter.1 hd).1
  have hele := h.start_le_stop (List.mem_filter.1 he).1
  simp only [Fix.notAfter, decide_eq_true_eq]
  omega

/-- Fixing declarations in place leaves the strip that rendering leaves. -/
lemma OnStrip.splice_fixesInPlace {n : Nat} (h : OnStrip source n imports strip behind) :
    Fix.splice source n (fixesInPlace render source imports) =
      Stretch.spell (reprinted render source imports strip) ++ behind := by
  induction imports generalizing n strip with
  | nil =>
    obtain rfl := List.length_eq_zero_iff.1 h.length_eq
    rw [fixesInPlace, List.filter_nil, List.map_nil, Fix.splice, h.rest]
    rfl
  | cons d imports ih =>
    obtain ⟨t, strip, rfl⟩ := List.exists_cons_of_length_eq_add_one h.length_eq
    have hrest := ih h.tail
    obtain ⟨hstart, hstop⟩ := h.span_eq
    rw [reprinted, List.zipWith_cons_cons, Stretch.spell_cons]
    by_cases hc : hasInnerComment source d.span = true
    · -- no fix touches what is kept or the gap before it
      have hbehind : ∀ f ∈ fixesInPlace render source imports, d.span.stop ≤ f.span.start := by
        intro f hf
        obtain ⟨e, he, hfe⟩ := exists_of_mem_fixesInPlace hf
        rw [hfe]
        exact Stretch.le_start_of_mem_spans (h.tail.spans ▸ List.mem_map_of_mem he)
      have hkept : fixesInPlace render source (d :: imports) = fixesInPlace render source imports := by
        simp [fixesInPlace, hc]
      have hslice : Text.slice? n d.span.stop source = some (t.gap ++ t.text) := by
        rw [Text.slice?_eq_map_append h.slice_gap (by omega), h.slice_text, Option.map_some]
      rw [hkept, splice_eq_append hslice hbehind, hrest, reprinted, if_pos hc]
      simp only [List.append_assoc]
    · have hfixed : fixesInPlace render source (d :: imports) =
          ⟨d.span, render d⟩ :: fixesInPlace render source imports := by
        simp [fixesInPlace, hc]
      have hbehind : ¬ d.span.start < n := by omega
      rw [hfixed, Fix.splice]
      simp only [hbehind, hc, if_false, Bool.false_eq_true, h.slice_gap, h.slice_text]
      rw [hrest, reprinted]
      simp only [List.append_assoc]

end Strip

/-- What rendering writes in the place of a declaration of a file. -/
def renderedText (c : Config) (source : Text) (imports : List Declaration) (d : Declaration) : Text :=
  Text.joinWith (lineEnding source) ((Grid.ofImports imports).lines c.typeImports d)

/-- Rendering the declarations of a file leaves its strip with the rendered texts on it. -/
lemma OnStrip.reprint_eq {source behind : Text} {imports : List Declaration} {strip : List Stretch}
    (c : Config) (h : OnStrip source 0 imports strip behind) :
    reprint c source imports =
      Stretch.spell (reprinted (renderedText c source imports) source imports strip) ++ behind :=
  h.reprintFrom_eq

/-- Rendering declarations where they stand is fixing each of them where it stands, with a fix that puts
its lines in its place, except those with a comment inside.  So no declaration is moved, and what
stands before, between and behind the declarations is kept, as are the declarations with a comment
inside. -/
theorem reprint_eq_applyFixes (c : Config) (source : Text) (imports : List Declaration)
    (h : InSourceOrder source imports) :
    reprint c source imports =
      applyFixes source (fixesInPlace (renderedText c source imports) source imports) ∧
    ∃ old new behind,
      source = Stretch.spell old ++ behind ∧
      Stretch.spans 0 old = imports.map (·.span) ∧
      reprint c source imports = Stretch.spell new ++ behind ∧
      new.map (·.gap) = old.map (·.gap) ∧
      new.map (·.text) = imports.map fun d =>
        if hasInnerComment source d.span then d.span.textIn source
        else renderedText c source imports d := by
  obtain ⟨strip, behind, hs⟩ := h.exists_strip
  have hsource : source = Stretch.spell strip ++ behind := by simpa using hs.rest
  constructor
  · rw [applyFixes, List.mergeSort_of_pairwise (pairwise_fixesInPlace h), hs.splice_fixesInPlace,
      hs.reprint_eq]
  · exact ⟨strip, _, behind, hsource, hs.spans, hs.reprint_eq c, hs.map_reprinted _⟩

/-- A text with comments inside its first two imports, and a line ending inside the third. -/
def commentedText : Text :=
  ("import \x7b c /* k */ \x7d from 'c'\nimport d from 'd' /* m */;\n" ++
    "import \x7b b,\r\n type A \x7d from './x'; // t\nimport './s'\n").toList

/-- The declarations of that text. -/
def commentedImports : List Declaration :=
  [⟨⟨0, 29⟩, "c".toList, "'c'".toList, false, [⟨.namedImport none, "c".toList, false⟩], none⟩,
    ⟨⟨30, 56⟩, "d".toList, "'d'".toList, false, [⟨.defaultImport, "d".toList, false⟩], none⟩,
    ⟨⟨57, 91⟩, "./x".toList, "'./x'".toList, false,
      [⟨.namedImport none, "b".toList, false⟩, ⟨.namedImport none, "A".toList, true⟩], none⟩,
    ⟨⟨97, 109⟩, "./s".toList, "'./s'".toList, false, [], none⟩]

theorem reprint_eq_applyFixes_commentedText :
    InSourceOrder commentedText commentedImports ∧
    reprint Config.default commentedText commentedImports =
      applyFixes commentedText
        (fixesInPlace (renderedText Config.default commentedText commentedImports) commentedText
          commentedImports) := by
  have h : InSourceOrder commentedText commentedImports := by decide +kernel
  exact ⟨h, (reprint_eq_applyFixes Config.default commentedText commentedImports h).1⟩

/-! ## Rows of a rendered text -/

section Rows

variable {newline : Text}

/-- Lines of which none ends a group. -/
def plainLines (lines : List Text) : List ExpectedLine := lines.map fun l => ⟨l, false⟩

lemma joinExpected_plainLines (lines : List Text) :
    joinExpected newline (plainLines lines) = Text.joinWith newline lines := by
  induction lines with
  | nil => rfl
  | cons l lines ih =>
    cases lines with
    | nil => simp [plainLines, joinExpected]
    | cons m lines =>
      rw [Text.joinWith_cons_cons, ← ih]
      rfl

lemma map_text_plainLines (lines : List Text) : (plainLines lines).map (·.text) = lines := by
  rw [plainLines, List.map_map]
  exact List.map_id' lines

/-- A strip on which lines stand one below the other, read row by row. -/
lemma rowsOn_plainLines {α : Type} {lines : α → List Text} {l : List α} {strip : List Stretch}
    (ht : strip.map (·.text) = l.map fun a => Text.joinWith newline (lines a))
    (hne : ∀ a ∈ l, lines a ≠ []) :
    Stretch.spell (rowsOn newline strip (l.map fun a => plainLines (lines a))) = Stretch.spell strip ∧
      (rowsOn newline strip (l.map fun a => plainLines (lines a))).map (·.text) = l.flatMap lines := by
  constructor
  · refine spell_rowsOn ?_ ?_
    · rw [ht, List.map_map]
      exact List.map_congr_left fun a _ => (joinExpected_plainLines _).symm
    · rw [List.forall_mem_map]
      intro a ha hnil
      exact hne a ha (List.map_eq_nil_iff.1 hnil)
  · have hlen : strip.length = (l.map fun a => plainLines (lines a)).length := by
      simpa using congrArg List.length ht
    rw [map_text_rowsOn hlen, ← List.flatMap_def, List.map_flatMap]
    exact List.flatMap_congr fun a _ => map_text_plainLines _

end Rows

section Units

variable (c : Config) (source : Text) (imports : List Declaration)

/-- The declarations that rendering leaves of one: itself, if a comment stands inside, else its units in
the order of their lines. -/
def renderedUnits (d : Declaration) : List Declaration :=
  if hasInnerComment source d.span then [d] else sortChunk c.typeImports d.units

/-- The lines on which these declarations stand: what was kept as one, or the lines of the units. -/
def renderedLines (d : Declaration) : List Text :=
  if hasInnerComment source d.span then [d.span.textIn source]
  else (Grid.ofImports imports).lines c.typeImports d

/-- What rendering leaves of a declaration is its lines, one below the other. -/
lemma joinWith_renderedLines (d : Declaration) :
    Text.joinWith (lineEnding source) (renderedLines c source imports d) =
      if hasInnerComment source d.span then d.span.textIn source
      else renderedText c source imports d := by
  unfold renderedLines
  split
  · exact Text.joinWith_singleton ..
  · rfl

/-- Declarations have the grid of the declarations that rendering leaves of them. -/
theorem ofImports_renderedUnits :
    Grid.ofImports (imports.flatMap (renderedUnits c source)) = Grid.ofImports imports := by
  have hunits : ∀ d ∈ imports,
      ((renderedUnits c source d).flatMap Declaration.units).Perm d.units := by
    intro d _
    unfold renderedUnits
    split
    · rw [List.flatMap_singleton]
    · -- what is split into units is not split any further
      have hsplit : ∀ u ∈ sortChunk c.typeImports d.units, u.units = [u] := fun u hu =>
        Declaration.units_of_mem_units ((sortChunk_perm ..).mem_iff.1 hu)
      rw [flatMap_eq_of_forall₂ (List.forall₂_same.2 hsplit)]
      exact sortChunk_perm ..
  rw [← Grid.ofImports_units, List.flatMap_assoc, ← Grid.ofImports_units imports]
  exact Grid.ofImports_perm (List.Perm.flatMap_left imports hunits)

lemma renderedLines_ne_nil (d : Declaration) : renderedLines c source imports d ≠ [] := by
  unfold renderedLines
  split
  · exact List.cons_ne_nil _ _
  · refine List.ne_nil_of_length_pos ?_
    rw [Grid.length_lines]
    exact unitCount_pos d

/-- Rendering leaves on every row a comment, or the line on which the declaration of the row is laid
out. -/
lemma forall₂_renderedUnits :
    List.Forall₂ (fun u text => scanForComment none text = true ∨
        (Grid.ofImports imports).lines c.typeImports u = [text])
      (imports.flatMap (renderedUnits c source)) (imports.flatMap (renderedLines c source imports)) := by
  rw [List.flatMap_def, List.flatMap_def]
  refine List.rel_flatten (List.forall₂_map_left_iff.2 (List.forall₂_map_right_iff.2 ?_))
  refine List.forall₂_same.2 fun d _ => ?_
  unfold renderedUnits renderedLines
  split
  · next hc => exact .cons (.inl hc) .nil
  · exact ((Grid.ofImports imports).forall₂_lines_sortChunk c.typeImports d).imp fun _ _ => .inr

end Units

/-- Rendering a text again changes nothing.  The declarations are looked at where rendering has left
them: those with a comment inside at their new places, and the units of the others, in the order of
their lines, each on its own line. -/
theorem reprint_reprint (c : Config) (source : Text) (imports : List Declaration)
    (h : InSourceOrder source imports) :
    ∃ old new rows placed behind,
      source = Stretch.spell old ++ behind ∧
      Stretch.spans 0 old = imports.map (·.span) ∧
      reprint c source imports = Stretch.spell new ++ behind ∧
      new.map (·.gap) = old.map (·.gap) ∧
      new.map (·.text) = imports.map (fun d =>
        Text.joinWith (lineEnding source) (renderedLines c source imports d)) ∧
      rows = rowsOn (lineEnding source) new
        (imports.map fun d => plainLines (renderedLines c source imports d)) ∧
      Stretch.spell rows = Stretch.spell new ∧
      placed = place (imports.flatMap (renderedUnits c source)) (Stretch.spans 0 rows) ∧
      placed.map (·.span.textIn (reprint c source imports)) =
        imports.flatMap (renderedLines c source imports) ∧
      (∀ d ∈ imports, hasInnerComment source d.span = false →
        List.Forall₂ (fun u line => (Grid.ofImports imports).lines c.typeImports u = [line])
          (renderedUnits c source d) (renderedLines c source imports d)) ∧
      reprint c (reprint c source imports) placed = reprint c source imports := by
  obtain ⟨strip, behind, hs⟩ := h.exists_strip
  have hsource : source = Stretch.spell strip ++ behind := by simpa using hs.rest
  have hout := hs.reprint_eq c
  obtain ⟨hgaps, htexts⟩ := hs.map_reprinted (renderedText c source imports)
  simp only [← joinWith_renderedLines] at htexts
  -- the rendered text is read row by row, and on every row stands one declaration
  obtain ⟨hspell, hrows⟩ := rowsOn_plainLines htexts fun d _ => renderedLines_ne_nil c source imports d
  have hunits := forall₂_renderedUnits c source imports
  have hlen := hunits.length_eq
  rw [← hrows, List.length_map, ← Stretch.length_spans 0] at hlen
  -- the declarations stand on these rows, wherever they came from
  have hplaced : OnStrip (reprint c source imports) 0
      (place (imports.flatMap (renderedUnits c source)) (Stretch.spans 0 _)) _ behind :=
    ⟨by rw [Text.from?_zero, hout, hspell], (map_span_place hlen.symm).symm⟩
  have hgrid : Grid.ofImports (place (imports.flatMap (renderedUnits c source)) _) =
      Grid.ofImports imports :=
    (ofImports_place hlen.symm).trans (ofImports_renderedUnits c source imports)
  have hstand := forall₂_place (fun _ _ _ h => h) hunits hlen.symm
  rw [← hrows, ← hplaced.map_textIn, List.forall₂_map_right_iff, List.forall₂_same] at hstand
  refine ⟨strip, _, _, _, behind, hsource, hs.spans, hout, hgaps, htexts, rfl, hspell, rfl,
    hplaced.map_textIn.trans hrows, ?_, ?_⟩
  · intro d _ hc
    simpa [renderedUnits, renderedLines, hc] using
      (Grid.ofImports imports).forall₂_lines_sortChunk c.typeImports d
  · rw [hplaced.reprint_eq c, reprinted_eq_self hplaced, hspell, ← hout]
    intro e he hc
    rcases hstand e he with hcomment | hline
    · exact absurd hcomment (by simpa [hasInnerComment] using hc)
    · rw [renderedText, hgrid, hline, Text.joinWith_singleton]

theorem reprint_reprint_commentedText :
    InSourceOrder commentedText commentedImports ∧
    ∃ placed,
      placed.map (·.span.textIn (reprint Config.default commentedText commentedImports)) =
        commentedImports.flatMap (renderedLines Config.default commentedText commentedImports) ∧
      reprint Config.default (reprint Config.default commentedText commentedImports) placed =
        reprint Config.default commentedText commentedImports := by
  have h : InSourceOrder commentedText commentedImports := by decide +kernel
  obtain ⟨_, _, _, placed, _, -, -, -, -, -, -, -, -, htexts, -, hagain⟩ :=
    reprint_reprint Config.default commentedText commentedImports h
  exact ⟨h, placed, htexts, hagain⟩

end ImportGrid
