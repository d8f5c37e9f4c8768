/-
Settling in one pass.

After a pass of fixes every unit stands on a row of its own, and the rows fit the layout: each
has the text of its line, and white space between two rows has a blank line exactly where a group
ends (`Fits`).  Laying out the units where they stand now gives the same lines, so a check
of the result reports nothing (`check_applyFixes_eq_nil`).
-/
import ImportGrid.Proofs.FixPass

namespace ImportGrid

/-! ## Spacing -/

/-- A gap suits the line before it: white space has a blank line exactly if the line ends its
group. -/
def GapFits (endsGroup : Bool) (gap : Text) : Prop :=
  gap.all Text.isWhiteSpace = true → decide (1 < Text.lineFeeds gap) = endsGroup

lemma lineEnding_eq (source : Text) : lineEnding source = ['\n'] ∨ lineEnding source = ['\r', '\n'] := by
  unfold lineEnding
  split
  · exact .inr rfl
  · exact .inl rfl

/-- A line break has a blank line if it should. -/
lemma gapFits_lineBreak (source : Text) (blank : Bool) :
    GapFits blank (lineBreak (lineEnding source) blank) := by
  intro _
  rcases lineEnding_eq source with h | h <;> rw [h] <;> cases blank <;> rfl

section Check

variable {source newline behind : Text} {n : Nat} {fixable : Bool} {d e : Declaration}
  {imports : List Declaration} {s : Slot} {t u : Stretch} {strip : List Stretch}

/-- White space that leads up to an import is a gap to be laid out. -/
lemma after_of_all_isWhiteSpace {stop : Nat} {g x : Text}
    (hrest : Text.from? stop source = some (g ++ x)) (hx : "import".toList <+: x)
    (hg : g.all Text.isWhiteSpace = true) :
    Gap.after source stop (some (stop + g.byteLength)) =
      ⟨1 < Text.lineFeeds g, some (stop + g.byteLength), false⟩ := by
  obtain ⟨y, rfl⟩ := hx
  obtain ⟨z, hz⟩ : ∃ z, "import".toList ++ y = 'i' :: z := ⟨_, rfl⟩
  have hi : ¬ Text.isWhiteSpace 'i' = true := by decide
  rw [hz] at hrest
  rw [List.all_eq_true] at hg
  have hspace : Text.leadingSpace (g ++ 'i' :: z) = g := by
    rw [Text.leadingSpace, List.takeWhile_append_of_pos hg, List.takeWhile_cons_of_neg hi,
      List.append_nil]
  have htrim : Text.trimStart (g ++ 'i' :: z) = 'i' :: z := by
    rw [Text.trimStart, List.dropWhile_append_of_pos hg, List.dropWhile_cons_of_neg hi]
  have hcomment : startsWithComment ('i' :: z) = false := rfl
  simp [Gap.after, hrest, hspace, htrim, hcomment]

/-- The last declaration is right if its text is. -/
lemma checkSlot_none_eq_none_iff :
    checkSlot source newline fixable d none s = none ↔ d.span.textIn source = s.text := by
  simp [checkSlot]

/-- A declaration is right if its text is and the gap up to the next one. -/
lemma OnStrip.checkSlot_eq_none_iff
    (h : OnStrip source n (d :: e :: imports) (t :: u :: strip) behind)
    (hu : "import".toList <+: u.text) :
    checkSlot source newline fixable d (some e.span.start) s = none ↔
      t.text = s.text ∧ GapFits s.needsGap u.gap := by
  obtain ⟨y, hy⟩ := h.exists_from?_stop
  rw [checkSlot, h.textIn_eq, h.tail.span_eq.1]
  by_cases hg : u.gap.all Text.isWhiteSpace = true
  · rw [after_of_all_isWhiteSpace hy (hu.trans (List.prefix_append ..)) hg]
    simp [GapFits, hg]
  · have hcut : (Gap.after source d.span.stop (some (d.span.stop + u.gap.byteLength))).cut = none :=
      Option.not_isSome_iff_eq_none.1 fun hcut => hg (all_isWhiteSpace_of_cut hy hcut)
    simp [GapFits, hg, hcut]

/-- Fixing a declaration leaves a gap that suits its slot. -/
lemma OnStrip.gapFits_gapLeft (origin : Text)
    (h : OnStrip source n (d :: e :: imports) (t :: u :: strip) behind)
    (hu : "import".toList <+: u.text) :
    GapFits s.needsGap (gapLeft source (lineEnding origin) d (some e.span.start) s u.gap) := by
  unfold gapLeft
  split
  · exact gapFits_lineBreak origin s.needsGap
  · next hleft =>
    intro hg
    obtain ⟨y, hy⟩ := h.exists_from?_stop
    have hcut : (Gap.after source d.span.stop (some e.span.start)).cut.isSome := by
      rw [h.tail.span_eq.1, after_of_all_isWhiteSpace hy (hu.trans (List.prefix_append ..)) hg]
      rfl
    have hnone : checkSlot source (lineEnding origin) true d (some e.span.start) s = none :=
      Option.not_isSome_iff_eq_none.1 fun hsome => hleft ⟨hsome, hcut⟩
    exact ((h.checkSlot_eq_none_iff hu).1 hnone).2 hg

end Check

/-! ## Rows that fit -/

/-- Rows have the texts of lines, and gaps that suit them. -/
inductive Fits : List ExpectedLine → List Stretch → Prop
  | nil : Fits [] []
  | cons {l : ExpectedLine} {lines : List ExpectedLine} {t : Stretch} {strip : List Stretch}
      (text : t.text = l.text) (gap : ∀ u ∈ strip.head?, GapFits l.endsGroup u.gap)
      (rest : Fits lines strip) : Fits (l :: lines) (t :: strip)

namespace Fits

lemma map_text {lines : List ExpectedLine} {strip : List Stretch} (h : Fits lines strip) :
    strip.map (·.text) = lines.map (·.text) := by
  induction h with
  | nil => rfl
  | cons text gap rest ih => rw [List.map_cons, List.map_cons, text, ih]

/-- On rows that fit a check finds nothing to report. -/
theorem checkFrom_eq_nil {source newline behind : Text} {fixable : Bool} {n : Nat}
    {imports : List Declaration} {lines : List ExpectedLine} {strip : List Stretch}
    (hf : Fits lines strip) (h : OnStrip source n imports strip behind)
    (hone : ∀ d ∈ imports, d.unitCount = 1) (himp : ∀ t ∈ strip, "import".toList <+: t.text) :
    checkFrom source newline fixable imports lines = [] := by
  induction hf generalizing n imports with
  | nil =>
    obtain rfl := List.length_eq_zero_iff.1 h.length_eq.symm
    rfl
  | @cons l lines t strip text gap rest ih =>
    obtain ⟨d, imports, rfl⟩ := List.exists_cons_of_length_eq_add_one h.length_eq.symm
    have hd : d.unitCount = 1 := hone d (by simp)
    have hrest := ih h.tail (fun e he => hone e (by simp [he])) fun u hu => himp u (by simp [hu])
    have hdeal : dealSlot? newline d (l :: lines) =
        some (⟨l.text, l.endsGroup && !lines.isEmpty⟩, lines) := by
      simp [dealSlot?, hd, joinExpected]
    rw [checkFrom, hdeal]
    simp only [hrest, List.append_nil, Option.toList_eq_nil_iff]
    cases strip with
    | nil =>
      obtain rfl := List.length_eq_zero_iff.1 h.tail.length_eq.symm
      exact checkSlot_none_eq_none_iff.2 (h.textIn_eq.trans text)
    | cons u strip =>
      obtain ⟨e, imports, rfl⟩ := List.exists_cons_of_length_eq_add_one h.tail.length_eq.symm
      cases rest with
      | cons text' gap' rest' =>
        refine (h.checkSlot_eq_none_iff (himp u (by simp))).2 ⟨text, ?_⟩
        simpa using gap u (by simp)

end Fits

/-! ## Rows of a pass -/

/-- The rows of a portion of the layout that stands behind a gap. -/
def rowsOf (newline : Text) : Text → List ExpectedLine → List Stretch
  | _, [] => []
  | gap, l :: lines => ⟨gap, l.text⟩ :: rowsOf newline (lineBreak newline l.endsGroup) lines

/-- The rows of a strip on which portions of the layout stand. -/
def rowsOn (newline : Text) : List Stretch → List (List ExpectedLine) → List Stretch
  | t :: strip, portion :: dealt => rowsOf newline t.gap portion ++ rowsOn newline strip dealt
  | _, _ => []

lemma spell_rowsOf (newline gap : Text) {portion : List ExpectedLine} (h : portion ≠ []) :
    Stretch.spell (rowsOf newline gap portion) = gap ++ joinExpected newline portion := by
  fun_induction joinExpected newline portion generalizing gap with
  | case1 => exact absurd rfl h
  | case2 l => simp [rowsOf]
  | case3 l m rest ih =>
    rw [rowsOf, Stretch.spell_cons, ih _ (by simp), lineBreak]
    simp only [List.append_assoc]

/-- Rows are the strip read line by line. -/
lemma spell_rowsOn {newline : Text} {strip : List Stretch} {dealt : List (List ExpectedLine)}
    (ht : strip.map (·.text) = dealt.map (joinExpected newline)) (hne : ∀ p ∈ dealt, p ≠ []) :
    Stretch.spell (rowsOn newline strip dealt) = Stretch.spell strip := by
  induction strip generalizing dealt with
  | nil => cases dealt <;> rfl
  | cons t strip ih =>
    cases dealt with
    | nil => simp at ht
    | cons p dealt =>
      rw [List.map_cons, List.map_cons, List.cons.injEq] at ht
      rw [rowsOn, Stretch.spell_append, spell_rowsOf _ _ (hne p (by simp)), Stretch.spell_cons, ht.1,
        ih ht.2 fun q hq => hne q (by simp [hq]), List.append_assoc]

lemma map_text_rowsOf (newline gap : Text) (portion : List ExpectedLine) :
    (rowsOf newline gap portion).map (·.text) = portion.map (·.text) := by
  induction portion generalizing gap with
  | nil => rfl
  | cons l portion ih => rw [rowsOf, List.map_cons, ih, List.map_cons]

lemma map_text_rowsOn {newline : Text} {strip : List Stretch} {dealt : List (List ExpectedLine)}
    (hlen : strip.length = dealt.length) :
    (rowsOn newline strip dealt).map (·.text) = dealt.flatten.map (·.text) := by
  induction strip generalizing dealt with
  | nil =>
    obtain rfl := List.length_eq_zero_iff.1 hlen.symm
    rfl
  | cons t strip ih =>
    obtain ⟨p, dealt, rfl⟩ := List.exists_cons_of_length_eq_add_one hlen.symm
    rw [rowsOn, List.map_append, map_text_rowsOf, ih (by simpa using hlen), List.flatten_cons,
      List.map_append]

/-- The rows of a portion fit, and go on as the rows behind it do. -/
lemma fits_rowsOf_append {origin gap : Text} {portion lines : List ExpectedLine}
    {strip : List Stretch} (hrest : Fits lines strip)
    (hgap : ∀ l ∈ portion.getLast?, ∀ u ∈ strip.head?, GapFits l.endsGroup u.gap) :
    Fits (portion ++ lines) (rowsOf (lineEnding origin) gap portion ++ strip) := by
  induction portion generalizing gap with
  | nil => exact hrest
  | cons l portion ih =>
    refine .cons rfl ?_ (ih fun m hm u hu => hgap m ?_ u hu)
    · intro u hu
      cases portion with
      | nil => exact hgap l rfl u hu
      | cons m portion =>
        obtain rfl : _ = u := Option.some.inj hu
        exact gapFits_lineBreak origin l.endsGroup
    · exact List.mem_getLast?_cons hm

/-- The rows that a pass leaves fit the layout. -/
lemma OnStrip.fits_rowsOn (origin gap : Text) {source behind : Text} {n : Nat}
    {imports : List Declaration} {strip : List Stretch} {dealt : List (List ExpectedLine)}
    (h : OnStrip source n imports strip behind) (hlen : dealt.length = imports.length)
    (hne : ∀ p ∈ dealt, p ≠ []) (himp : ∀ t ∈ strip, "import".toList <+: t.text) :
    Fits dealt.flatten (rowsOn (lineEnding origin)
      (relaid source (lineEnding origin) gap imports (slotsOf (lineEnding origin) dealt) strip)
      dealt) := by
  induction imports generalizing n gap strip dealt with
  | nil =>
    obtain rfl := List.length_eq_zero_iff.1 hlen
    exact .nil
  | cons d imports ih =>
    obtain ⟨p, dealt, rfl⟩ := List.exists_cons_of_length_eq_add_one hlen
    obtain ⟨t, strip, rfl⟩ := List.exists_cons_of_length_eq_add_one h.length_eq
    rw [slotsOf, relaid, rowsOn, List.flatten_cons]
    refine fits_rowsOf_append (ih _ h.tail (by simpa using hlen) (fun q hq => hne q (by simp [hq]))
      fun u hu => himp u (by simp [hu])) fun l hl u hu => ?_
    -- the next row stands behind the gap that the fix of this portion leaves
    cases imports with
    | nil =>
      obtain rfl := List.length_eq_zero_iff.1 (Nat.succ.inj hlen)
      simp [rowsOn, relaid] at hu
    | cons e imports =>
      obtain ⟨v, strip, rfl⟩ := List.exists_cons_of_length_eq_add_one h.tail.length_eq
      obtain ⟨q, dealt, rfl⟩ := List.exists_cons_of_length_eq_add_one (Nat.succ.inj hlen)
      obtain ⟨m, q, rfl⟩ := List.exists_cons_of_ne_nil (hne q (by simp))
      obtain rfl : _ = u := Option.some.inj hu
      have hlast : p.getLast? = some l := hl
      have hfit := h.gapFits_gapLeft origin (himp v (by simp))
        (s := ⟨joinExpected (lineEnding origin) p, l.endsGroup⟩)
      simpa [slotsOf, hlast] using hfit

/-! ## The second check -/

lemma Grid.prefix_of_mem_lines {g : Grid} {placement : TypePlacement} {d : Declaration} {line : Text}
    (h : line ∈ g.lines placement d) : "import".toList <+: line := by
  unfold lines at h
  split at h
  · obtain rfl := List.mem_singleton.1 h
    exact ⟨' ' :: _, rfl⟩
  · obtain ⟨p, -, rfl⟩ := List.mem_map.1 h
    exact ⟨' ' :: _, rfl⟩

/-- Every line of a layout is an import. -/
lemma prefix_of_mem_expectedLines {c : Config} {newline : Text} {imports : List Declaration}
    {l : ExpectedLine} (h : l ∈ expectedLines c newline imports) : "import".toList <+: l.text := by
  obtain ⟨d, -, u, -, hline⟩ := exists_of_mem_expectedLines h
  exact Grid.prefix_of_mem_lines (hline ▸ List.mem_singleton_self l.text)

/-- A pass of fixes settles the file.  When the units are looked at on the rows where the pass has
put them, one row a line, a check of the result reports nothing. -/
theorem check_applyFixes_eq_nil (c : Config) (source : Text) (imports : List Declaration)
    (h : InSourceOrder source imports)
    (himp : ∀ d ∈ imports, "import".toList <+: d.span.textIn source)
    (hc : ∀ d ∈ imports, hasInnerComment source d.span = false) :
    ∃ old new dealt behind,
      source = Stretch.spell old ++ behind ∧
      Stretch.spans 0 old = imports.map (·.span) ∧
      applyFixes source (fixesOf (check c source imports)) = Stretch.spell new ++ behind ∧
      IsDealt c (lineEnding source) imports old new dealt ∧
      Stretch.spell (rowsOn (lineEnding source) new dealt) = Stretch.spell new ∧
      (rowsOn (lineEnding source) new dealt).map (fun r => [r.text]) =
        (layoutUnits c imports).map ((Grid.ofImports imports).lines c.typeImports) ∧
      check c (applyFixes source (fixesOf (check c source imports)))
        (place (layoutUnits c imports)
          (Stretch.spans 0 (rowsOn (lineEnding source) new dealt))) = [] := by
  obtain ⟨strip, behind, hs⟩ := h.exists_strip
  have hsource : source = Stretch.spell strip ++ behind := by simpa using hs.rest
  have hstart : ∀ t ∈ strip, "import".toList <+: t.text := hs.forall_text himp
  have hout := hs.applyFixes_check c hc
  have hdealt := hs.isDealt c (lineEnding source)
  have hfits := hs.fits_rowsOn source ((strip.head?.map (·.gap)).getD [])
    (length_portions c (lineEnding source) imports) hdealt.ne_nil hstart
  rw [hdealt.lines] at hfits
  generalize relaid source _ _ imports _ strip = new at hout hdealt hfits
  generalize portions c (lineEnding source) imports = dealt at hdealt hfits
  have hspell := spell_rowsOn hdealt.texts hdealt.ne_nil
  have hrows : (rowsOn (lineEnding source) new dealt).map (fun r => [r.text]) =
      (layoutUnits c imports).map ((Grid.ofImports imports).lines c.typeImports) := by
    have htexts := congrArg (List.map fun t => [t]) hfits.map_text
    rw [List.map_map, List.map_map] at htexts
    exact htexts.trans (map_text_expectedLines c (lineEnding source) imports)
  refine ⟨strip, new, dealt, behind, hsource, hs.spans, hout, hdealt, hspell, hrows, ?_⟩
  have hlen : (Stretch.spans 0 (rowsOn (lineEnding source) new dealt)).length =
      (layoutUnits c imports).length := by
    simpa using congrArg List.length hrows
  have hplaced : OnStrip (applyFixes source (fixesOf (check c source imports))) 0
      (place (layoutUnits c imports) (Stretch.spans 0 (rowsOn (lineEnding source) new dealt)))
      (rowsOn (lineEnding source) new dealt) behind := by
    refine ⟨?_, (map_span_place hlen).symm⟩
    rw [Text.from?_zero, hout, hspell]
  rw [check, expectedLines_place (lineEnding source) _ hlen]
  refine hfits.checkFrom_eq_nil hplaced ?_ ?_
  · intro d hd
    rw [← Declaration.length_units,
      units_of_mem_place (fun u hu => units_of_mem_layoutUnits hu) hd]
    rfl
  · intro t ht
    have hmem : t.text ∈ (rowsOn (lineEnding source) new dealt).map (·.text) :=
      List.mem_map_of_mem ht
    rw [hfits.map_text] at hmem
    obtain ⟨l, hl, htext⟩ := List.mem_map.1 hmem
    exact htext ▸ prefix_of_mem_expectedLines hl

theorem check_applyFixes_unorderedText :
    ∃ old new dealt behind,
      unorderedText = Stretch.spell old ++ behind ∧
      Stretch.spans 0 old = unorderedImports.map (·.span) ∧
      applyFixes unorderedText (fixesOf (check Config.default unorderedText unorderedImports)) =
        Stretch.spell new ++ behind ∧
      IsDealt Config.default (lineEnding unorderedText) unorderedImports old new dealt ∧
      Stretch.spell (rowsOn (lineEnding unorderedText) new dealt) = Stretch.spell new ∧
      (rowsOn (lineEnding unorderedText) new dealt).map (fun r => [r.text]) =
        (layoutUnits Config.default unorderedImports).map
          ((Grid.ofImports unorderedImports).lines Config.default.typeImports) ∧
      check Config.default
        (applyFixes unorderedText (fixesOf (check Config.default unorderedText unorderedImports)))
        (place (layoutUnits Config.default unorderedImports)
          (Stretch.spans 0 (rowsOn (lineEnding unorderedText) new dealt))) = [] :=
  check_applyFixes_eq_nil Config.default unorderedText unorderedImports
    (by decide +kernel) (by decide +kernel) (by decide +kernel)

end ImportGrid
