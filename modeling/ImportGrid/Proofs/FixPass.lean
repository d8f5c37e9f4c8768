/-
One pass of fixes.

A pass lints a text whose declarations carry no comments and applies all fixes.  What it
writes is the strip of the text with portions of the expected lines in the places of the
declarations (`applyFixes_check_eq_spell`): every unit of every declaration stands in exactly one
portion, and a gap changes only from white space to line endings.
-/
import ImportGrid.Proofs.LayoutLines
import ImportGrid.Proofs.Splice

namespace ImportGrid

/-! ## Gaps -/

/-- How a gap may change: not at all, or from white space to one or two line endings. -/
def GapKept (newline old new : Text) : Prop :=
  new = old ∨ (old.all Text.isWhiteSpace ∧ (new = newline ∨ new = newline ++ newline))

lemma lineBreak_eq (newline : Text) (blank : Bool) :
    lineBreak newline blank = newline ∨ lineBreak newline blank = newline ++ newline := by
  cases blank
  · exact .inl rfl
  · exact .inr rfl

section Strip

variable {source newline behind : Text} {n : Nat} {imports : List Declaration} {strip : List Stretch}

/-- A fix reaches over white space only. -/
lemma all_isWhiteSpace_of_cut {stop : Nat} {g x : Text}
    (hrest : Text.from? stop source = some (g ++ x))
    (hcut : (Gap.after source stop (some (stop + g.byteLength))).cut.isSome) :
    g.all Text.isWhiteSpace = true := by
  obtain ⟨m, hm⟩ := Option.isSome_iff_exists.1 hcut
  obtain ⟨hnext, hplace⟩ := cut_after_eq_some hm
  rw [hrest, Option.getD_some] at hplace
  -- the white space and the gap begin the same text and are of one length
  have hsplit : Text.leadingSpace (g ++ x) ++ Text.trimStart (g ++ x) = g ++ x :=
    List.takeWhile_append_dropWhile
  have hlen : (Text.leadingSpace (g ++ x)).byteLength = g.byteLength := by
    have hm' : stop + g.byteLength = m := by simpa using hnext
    omega
  obtain ⟨y, hy, -⟩ := Text.exists_eq_append_of_le hsplit hlen.le
  have hnil : y = [] := by
    rw [← Text.byteLength_eq_zero_iff]
    have hyl := congrArg Text.byteLength hy
    rw [Text.byteLength_append, hlen] at hyl
    omega
  rw [hy, hnil, List.append_nil]
  exact List.all_takeWhile

/-- Behind a declaration stand the gap before the next one and more. -/
lemma OnStrip.exists_from?_stop {d e : Declaration} {t u : Stretch}
    (h : OnStrip source n (d :: e :: imports) (t :: u :: strip) behind) :
    ∃ y, Text.from? d.span.stop source = some (u.gap ++ (u.text ++ y)) :=
  ⟨Stretch.spell strip ++ behind, by simp [h.tail.rest]⟩

/-- Fixing a declaration leaves the gap behind it or makes it a line break. -/
lemma OnStrip.gapKept_gapLeft {d e : Declaration} {t u : Stretch} (newline : Text) (s : Slot)
    (h : OnStrip source n (d :: e :: imports) (t :: u :: strip) behind) :
    GapKept newline u.gap (gapLeft source newline d (some e.span.start) s u.gap) := by
  obtain ⟨y, hy⟩ := h.exists_from?_stop
  unfold gapLeft
  split
  · next hcut =>
    rw [h.tail.span_eq.1] at hcut
    exact .inr ⟨all_isWhiteSpace_of_cut hy hcut.2, lineBreak_eq newline s.needsGap⟩
  · exact .inl rfl

lemma map_text_relaid {slots : List Slot} (gap : Text) (hs : slots.length = imports.length)
    (ht : strip.length = imports.length) :
    (relaid source newline gap imports slots strip).map (·.text) = slots.map (·.text) := by
  induction imports generalizing gap slots strip with
  | nil =>
    obtain rfl := List.length_eq_zero_iff.1 hs
    rfl
  | cons d imports ih =>
    obtain ⟨s, slots, rfl⟩ := List.exists_cons_of_length_eq_add_one hs
    obtain ⟨t, strip, rfl⟩ := List.exists_cons_of_length_eq_add_one ht
    rw [relaid, List.map_cons, List.map_cons, ih _ (by simpa using hs) (by simpa using ht)]

lemma head?_relaid {slots : List Slot} (gap : Text) (d : Declaration) (t : Stretch)
    (hs : slots.length = (d :: imports).length) :
    (relaid source newline gap (d :: imports) slots (t :: strip)).head?.map (·.gap) = some gap := by
  obtain ⟨s, slots, rfl⟩ := List.exists_cons_of_length_eq_add_one hs
  rfl

/-- Fixing changes the gaps between declarations from white space to line breaks only. -/
lemma OnStrip.forall₂_gapKept {slots : List Slot} (gap newline : Text)
    (h : OnStrip source n imports strip behind) (hs : slots.length = imports.length) :
    List.Forall₂ (GapKept newline) (strip.tail.map (·.gap))
      ((relaid source newline gap imports slots strip).tail.map (·.gap)) := by
  induction imports generalizing gap n slots strip with
  | nil =>
    obtain rfl := List.length_eq_zero_iff.1 h.length_eq
    exact .nil
  | cons d imports ih =>
    obtain ⟨s, slots, rfl⟩ := List.exists_cons_of_length_eq_add_one hs
    obtain ⟨t, strip, rfl⟩ := List.exists_cons_of_length_eq_add_one h.length_eq
    cases imports with
    | nil =>
      obtain rfl := List.length_eq_zero_iff.1 h.tail.length_eq
      exact .nil
    | cons e imports =>
      obtain ⟨u, strip, rfl⟩ := List.exists_cons_of_length_eq_add_one h.tail.length_eq
      obtain ⟨s', slots, rfl⟩ := List.exists_cons_of_length_eq_add_one (Nat.succ.inj hs)
      have hlen : (s' :: slots).length = (e :: imports).length := by simpa using hs
      rw [relaid_cons_cons]
      exact .cons (h.gapKept_gapLeft newline s)
        (ih (gapLeft source newline d (some e.span.start) s u.gap) h.tail hlen)

end Strip

/-! ## The pass -/

/-- A strip on which portions of the layout stand where declarations stood. -/
structure IsDealt (c : Config) (newline : Text) (imports : List Declaration)
    (old new : List Stretch) (portions : List (List ExpectedLine)) : Prop where
  /-- A stretch holds its portion. -/
  texts : new.map (·.text) = portions.map (joinExpected newline)
  /-- The portions, one after the other, are the layout. -/
  lines : portions.flatten = expectedLines c newline imports
  /-- A declaration is dealt a line for each of its units. -/
  counts : portions.map List.length = imports.map (·.unitCount)
  first : new.head?.map (·.gap) = old.head?.map (·.gap)
  gaps : List.Forall₂ (GapKept newline) (old.tail.map (·.gap)) (new.tail.map (·.gap))

/-- What is left of the expected lines when declarations were dealt theirs; none if the lines run
out. -/
def undealt? (newline : Text) (imports : List Declaration) (expected : List ExpectedLine) :
    Option (List ExpectedLine) :=
  imports.foldlM (fun left d => (dealSlot? newline d left).map (·.2)) expected

/-- Lines for all units are dealt out to the last. -/
lemma undealt?_eq_some_nil {newline : Text} {imports : List Declaration}
    {expected : List ExpectedLine} (h : expected.length = (imports.flatMap Declaration.units).length) :
    undealt? newline imports expected = some [] := by
  induction imports generalizing expected with
  | nil =>
    obtain rfl := List.length_eq_zero_iff.1 h
    rfl
  | cons d imports ih =>
    simp only [List.flatMap_cons, List.length_append, Declaration.length_units] at h
    have hle : d.unitCount ≤ expected.length := by omega
    have hleft : (expected.drop d.unitCount).length = (imports.flatMap Declaration.units).length := by
      rw [List.length_drop]
      omega
    rw [undealt?, List.foldlM_cons, dealSlot?, if_pos hle]
    exact ih hleft

/-- A list with an entry for every unit can be cut into as many entries for each declaration as it has
units. -/
lemma splitLengths_unitCount {α : Type} {imports : List Declaration} {l : List α}
    (h : l.length = (imports.flatMap Declaration.units).length) :
    ((imports.map (·.unitCount)).splitLengths l).flatten = l ∧
      ((imports.map (·.unitCount)).splitLengths l).map List.length = imports.map (·.unitCount) := by
  have hsum : (imports.map (·.unitCount)).sum = l.length := by
    rw [h, List.length_flatMap]
    simp
  exact ⟨List.flatten_splitLengths _ _ hsum.ge, List.map_splitLengths_length _ _ hsum.le⟩

/-- The expected lines, cut into one portion for each declaration. -/
def portions (c : Config) (newline : Text) (imports : List Declaration) : List (List ExpectedLine) :=
  (imports.map (·.unitCount)).splitLengths (expectedLines c newline imports)

@[simp] lemma length_portions (c : Config) (newline : Text) (imports : List Declaration) :
    (portions c newline imports).length = imports.length := by
  simp [portions]

/-- The portions, one after the other, are the layout, and each declaration is dealt a line for each of
its units. -/
lemma portions_spec (c : Config) (newline : Text) (imports : List Declaration) :
    (portions c newline imports).flatten = expectedLines c newline imports ∧
      (portions c newline imports).map List.length = imports.map (·.unitCount) :=
  splitLengths_unitCount (length_expectedLines ..)

/-- Without comments inside declarations a check compares each with its portion. -/
lemma check_eq_checkSlots {c : Config} {source : Text} {imports : List Declaration}
    (hc : ∀ d ∈ imports, hasInnerComment source d.span = false) :
    check c source imports =
      checkSlots source (lineEnding source) true imports
        (slotsOf (lineEnding source) (portions c (lineEnding source) imports)) := by
  have hfix : (!imports.any fun d => hasInnerComment source d.span) = true := by
    simpa using hc
  rw [check, hfix]
  exact checkFrom_eq_checkSlots (length_expectedLines ..)

lemma IsDealt.ne_nil {c : Config} {newline : Text} {imports : List Declaration}
    {old new : List Stretch} {dealt : List (List ExpectedLine)}
    (h : IsDealt c newline imports old new dealt) : ∀ p ∈ dealt, p ≠ [] := by
  intro p hp hnil
  have hlen : p.length ∈ imports.map (·.unitCount) := h.counts ▸ List.mem_map_of_mem hp
  obtain ⟨d, -, hd⟩ := List.mem_map.1 hlen
  have hpos := unitCount_pos d
  rw [hd, hnil] at hpos
  exact absurd hpos (Nat.lt_irrefl 0)

/-- The portions of the layout stand where the declarations stood. -/
lemma OnStrip.isDealt {source behind : Text} {imports : List Declaration} {strip : List Stretch}
    (c : Config) (newline : Text) (h : OnStrip source 0 imports strip behind) :
    IsDealt c newline imports strip
      (relaid source newline ((strip.head?.map (·.gap)).getD []) imports
        (slotsOf newline (portions c newline imports)) strip)
      (portions c newline imports) := by
  have hlen : (slotsOf newline (portions c newline imports)).length = imports.length := by simp
  obtain ⟨hflatten, hlengths⟩ := portions_spec c newline imports
  refine ⟨?_, hflatten, hlengths, ?_,
    h.forall₂_gapKept _ _ hlen⟩
  · rw [map_text_relaid _ hlen h.length_eq, map_text_slotsOf]
  · cases imports with
    | nil =>
      obtain rfl := List.length_eq_zero_iff.1 h.length_eq
      rfl
    | cons d imports =>
      obtain ⟨t, strip, rfl⟩ := List.exists_cons_of_length_eq_add_one h.length_eq
      exact head?_relaid t.gap d t hlen

/-- A pass of fixes leaves the strip with the portions on it. -/
lemma OnStrip.applyFixes_check {source behind : Text} {imports : List Declaration}
    {strip : List Stretch} (c : Config) (h : OnStrip source 0 imports strip behind)
    (hc : ∀ d ∈ imports, hasInnerComment source d.span = false) :
    applyFixes source (fixesOf (check c source imports)) =
      Stretch.spell (relaid source (lineEnding source) ((strip.head?.map (·.gap)).getD []) imports
        (slotsOf (lineEnding source) (portions c (lineEnding source) imports)) strip) ++ behind := by
  rw [check_eq_checkSlots hc]
  cases strip with
  | nil =>
    obtain rfl := List.length_eq_zero_iff.1 h.length_eq.symm
    simpa [checkSlots, relaid, applyFixes_nil] using h.rest
  | cons t strip => exact applyFixes_checkSlots (lineEnding source) h (by simp)

/-- A pass of fixes loses, duplicates and damages nothing.  It leaves a strip on which the lines
of all units stand, every unit once and in the order of the layout, and on which gaps are kept;
what stands before the first declaration and behind the last is left alone. -/
theorem applyFixes_check_eq_spell (c : Config) (source : Text) (imports : List Declaration)
    (h : InSourceOrder source imports)
    (hc : ∀ d ∈ imports, hasInnerComment source d.span = false) :
    (∃ old new dealt behind,
      source = Stretch.spell old ++ behind ∧
      Stretch.spans 0 old = imports.map (·.span) ∧
      applyFixes source (fixesOf (check c source imports)) = Stretch.spell new ++ behind ∧
      IsDealt c (lineEnding source) imports old new dealt) ∧
    (expectedLines c (lineEnding source) imports).map (fun l => [l.text]) =
      (layoutUnits c imports).map ((Grid.ofImports imports).lines c.typeImports) ∧
    (layoutUnits c imports).Perm (imports.flatMap Declaration.units) ∧
    undealt? (lineEnding source) imports (expectedLines c (lineEnding source) imports) =
      some [] := by
  obtain ⟨strip, behind, hs⟩ := h.exists_strip
  have hsource : source = Stretch.spell strip ++ behind := by simpa using hs.rest
  exact ⟨⟨strip, _, _, behind, hsource, hs.spans, hs.applyFixes_check c hc, hs.isDealt c _⟩,
    map_text_expectedLines .., layoutUnits_perm .., undealt?_eq_some_nil (length_expectedLines ..)⟩

/-- A text with two imports out of order, the second with two names. -/
def unorderedText : Text := "import b from 'b'\nimport a, \x7b c \x7d from 'a'\n".toList

/-- The declarations of that text. -/
def unorderedImports : List Declaration :=
  [⟨⟨0, 17⟩, "b".toList, "'b'".toList, false, [⟨.defaultImport, "b".toList, false⟩], none⟩,
    ⟨⟨18, 42⟩, "a".toList, "'a'".toList, false,
      [⟨.defaultImport, "a".toList, false⟩, ⟨.namedImport none, "c".toList, false⟩], none⟩]

theorem applyFixes_check_unorderedText :
    ∃ old new dealt behind,
      unorderedText = Stretch.spell old ++ behind ∧
      Stretch.spans 0 old = unorderedImports.map (·.span) ∧
      applyFixes unorderedText (fixesOf (check Config.default unorderedText unorderedImports)) =
        Stretch.spell new ++ behind ∧
      IsDealt Config.default (lineEnding unorderedText) unorderedImports old new dealt :=
  (applyFixes_check_eq_spell Config.default unorderedText unorderedImports
    (by decide +kernel) (by decide +kernel)).1

end ImportGrid
