/-
Uniform line endings.

What laying out writes is put together from pieces of the source, from the words and names of the
declarations, and from the line ending of the source (`IsUniform.reprint`, `IsUniform.applyFixes`).  So a
property of texts that pieces hand on to the whole is kept.  There are two of these: that no line feed
stands without a carriage return before it, which a piece of the source has if it is not cut out between
the two (`OnStrip.hasNoBareFeed`), and that there is no carriage return at all.  Together they say that
laying out does not mix line endings (`hasNoBareFeed_and_notMem_return`).
-/
import Mathlib.Data.List.Chain
import ImportGrid.Proofs.InPlaceEdits

namespace ImportGrid

/-! ## Line feeds and carriage returns -/

namespace Text

/-- No line feed of a text stands without a carriage return before it. -/
structure HasNoBareFeed (t : Text) : Prop where
  first : t.head? ≠ some '\n'
  others : List.IsChain (fun a b => b = '\n' → a = '\r') t

instance (t : Text) : Decidable (HasNoBareFeed t) :=
  decidable_of_iff (t.head? ≠ some '\n' ∧ List.IsChain (fun a b => b = '\n' → a = '\r') t)
    ⟨fun h => ⟨h.1, h.2⟩, fun h => ⟨h.first, h.others⟩⟩

/-- A byte offset falls between a carriage return and its line feed. -/
def cutsLineEnding (n : Nat) (t : Text) : Bool :=
  match splitAt? n t with
  | some (before, after) => before.getLast? == some '\r' && after.head? == some '\n'
  | none => false

namespace HasNoBareFeed

variable {a b : Text}

lemma append (ha : HasNoBareFeed a) (hb : HasNoBareFeed b) : HasNoBareFeed (a ++ b) := by
  constructor
  · rw [List.head?_append]
    cases h : a.head? with
    | none => exact hb.first
    | some c =>
      rw [Option.some_or, ← h]
      exact ha.first
  · refine List.isChain_append.2 ⟨ha.others, hb.others, ?_⟩
    rintro x - y hy rfl
    exact absurd hy hb.first

lemma left_of_append (h : HasNoBareFeed (a ++ b)) : HasNoBareFeed a := by
  constructor
  · intro ha
    exact h.first (by rw [List.head?_append, ha]; rfl)
  · exact h.others.left_of_append

/-- A text that is not cut out between a carriage return and its line feed has no bare line feed. -/
lemma right_of_append (h : HasNoBareFeed (a ++ b))
    (hcut : ¬ (a.getLast? = some '\r' ∧ b.head? = some '\n')) : HasNoBareFeed b := by
  constructor
  · intro hb
    cases ha : a.getLast? with
    | none =>
      rw [List.getLast?_eq_none_iff.1 ha] at h
      exact h.first hb
    | some c =>
      obtain rfl : c = '\r' := (List.isChain_append.1 h.others).2.2 c ha '\n' hb rfl
      exact hcut ⟨ha, hb⟩
  · exact h.others.right_of_append

end HasNoBareFeed

/-- A pattern occurs in a text exactly if it is found there. -/
lemma contains_iff {pattern t : Text} : contains pattern t = true ↔ pattern <:+: t := by
  rw [contains]
  fun_induction cut? pattern t with
  | case1 h => simp [h]
  | case2 h => simpa using h
  | case3 c t h => simpa using (List.isPrefixOf_iff_prefix.1 h).isInfix
  | case4 c t h ih =>
    have hstart : ¬ pattern <+: c :: t := fun hp => h (List.isPrefixOf_iff_prefix.2 hp)
    rw [Option.isSome_map, ih, List.infix_cons_iff]
    simp only [hstart, false_or]

end Text

/-- The line ending of a text without carriage returns is a line feed. -/
lemma lineEnding_of_notMem {source : Text} (h : '\r' ∉ source) : lineEnding source = ['\n'] := by
  rw [lineEnding, if_neg]
  rw [Text.contains_iff]
  exact fun hoccurs => h (hoccurs.subset (by simp))

/-! ## What is written of a declaration -/

/-- The names in a specifier. -/
def Specifier.names (s : Specifier) : List Text :=
  match s.kind with
  | .namedImport (some imported) => [s.name, imported]
  | _ => [s.name]

/-- The texts of a declaration that are written out: the path, the attributes and the names. -/
def Declaration.writtenTexts (d : Declaration) : List Text :=
  d.quotedSource :: (d.attributes.toList ++ d.specifiers.flatMap Specifier.names)

lemma Declaration.writtenTexts_subset {d u : Declaration} (hu : u ∈ d.units) :
    u.writtenTexts ⊆ d.writtenTexts := by
  by_cases hs : d.specifiers = []
  · rw [units_of_specifiers_eq_nil hs, List.mem_singleton] at hu
    rw [hu]
    exact List.Subset.refl _
  · rw [units_of_specifiers_ne_nil hs] at hu
    obtain ⟨s, hs, rfl⟩ := List.mem_map.1 hu
    refine List.cons_subset_cons _ ?_
    refine List.append_subset.2 ⟨List.subset_append_left .., fun t ht => ?_⟩
    rw [unit, List.flatMap_singleton] at ht
    exact List.mem_append_right _ (List.mem_flatMap.2 ⟨s, hs, ht⟩)

/-! ## Properties of all that is written -/

/-- A property of texts that pieces hand on to what is put together from them, and that words and blanks
have. -/
structure IsUniform (P : Text → Prop) : Prop where
  append : ∀ {a b : Text}, P a → P b → P (a ++ b)
  plain : ∀ {t : Text}, '\r' ∉ t → '\n' ∉ t → P t

lemma isUniform_hasNoBareFeed : IsUniform Text.HasNoBareFeed where
  append := Text.HasNoBareFeed.append
  plain := by
    intro t _ hfeed
    constructor
    · exact fun h => hfeed (List.mem_of_head? h)
    · refine List.Pairwise.isChain (List.Pairwise.imp_of_mem ?_ (List.pairwise_of_forall fun _ _ => trivial))
      rintro a b - hb - rfl
      exact absurd hb hfeed

lemma isUniform_notMem_return : IsUniform fun t => '\r' ∉ t where
  append := by
    intro a b ha hb
    rw [List.mem_append]
    exact not_or.2 ⟨ha, hb⟩
  plain := fun h _ => h

namespace IsUniform

variable {P : Text → Prop} {c : Config} {source newline : Text} {imports : List Declaration}

section Lines

variable {d : Declaration} {s : Specifier}

lemma nil (hP : IsUniform P) : P [] := hP.plain List.not_mem_nil List.not_mem_nil

lemma blanks (hP : IsUniform P) (n : Nat) : P (Text.blanks n) := by
  refine hP.plain ?_ ?_
  · exact fun h => absurd (List.eq_of_mem_replicate h) (by decide)
  · exact fun h => absurd (List.eq_of_mem_replicate h) (by decide)

lemma text (hP : IsUniform P) (hs : ∀ t ∈ s.names, P t) : P s.text := by
  have hopen : P "\x7b ".toList := hP.plain (by decide) (by decide)
  have hclose : P " \x7d".toList := hP.plain (by decide) (by decide)
  have hname : P s.name := hs s.name (by unfold Specifier.names; split <;> simp)
  have hnamed : P ("\x7b ".toList ++ s.name ++ " \x7d".toList) := hP.append (hP.append hopen hname) hclose
  unfold Specifier.text
  split
  · exact hname
  · exact hP.append (hP.plain (by decide) (by decide)) hname
  · next imported hkind =>
    cases imported with
    | none => exact hnamed
    | some i =>
      have hi : P i := hs i (by simp [Specifier.names, hkind])
      show P (if _ then _ else _)
      split
      · exact hnamed
      · exact hP.append (hP.append (hP.append (hP.append hopen hi)
          (hP.plain (by decide) (by decide))) hname) hclose

lemma sourceClause (hP : IsUniform P) (hd : ∀ t ∈ d.writtenTexts, P t) : P d.sourceClause := by
  have hpath : P d.quotedSource := hd _ List.mem_cons_self
  unfold Declaration.sourceClause
  split
  · next a ha =>
    have hattributes : P a := hd a (by simp [Declaration.writtenTexts, ha])
    exact hP.append hpath (hP.append (a := [' ']) (hP.plain (by decide) (by decide)) hattributes)
  · exact hpath

/-- The lines of a declaration. -/
lemma lines (hP : IsUniform P) (hd : ∀ t ∈ d.writtenTexts, P t) {g : Grid} {placement : TypePlacement}
    {line : Text} (h : line ∈ g.lines placement d) : P line := by
  have hword : P "import ".toList := hP.plain (by decide) (by decide)
  have hclause := hP.sourceClause hd
  unfold Grid.lines at h
  split at h
  · obtain rfl := List.mem_singleton.1 h
    exact hP.append (hP.append hword (hP.blanks _))
      (hP.append (a := [' ']) (hP.plain (by decide) (by decide)) hclause)
  · obtain ⟨p, hp, rfl⟩ := List.mem_map.1 h
    obtain ⟨s, hs, rfl⟩ := List.mem_map.1 hp
    have hmem : s ∈ d.specifiers := (orderByType_perm ..).mem_iff.1 hs
    have htext : P s.text := hP.text fun t ht =>
      hd t (List.mem_cons_of_mem _ (List.mem_append_right _ (List.mem_flatMap.2 ⟨s, hmem, ht⟩)))
    have hcolumn : P (g.typeColumn (s.printed d.typeOnly).typeOnly) := by
      unfold Grid.typeColumn
      split
      · split
        · exact hP.plain (by decide) (by decide)
        · exact hP.blanks 5
      · exact hP.nil
    exact hP.append (hP.append (hP.append (hP.append (hP.append hword hcolumn) htext) (hP.blanks _))
      (hP.plain (by decide) (by decide))) hclause

lemma joinWith (hP : IsUniform P) (hnewline : P newline) {texts : List Text} (h : ∀ t ∈ texts, P t) :
    P (Text.joinWith newline texts) := by
  induction texts with
  | nil => exact hP.nil
  | cons t texts ih =>
    obtain ⟨ht, htexts⟩ := List.forall_mem_cons.1 h
    cases texts with
    | nil => rwa [Text.joinWith_singleton]
    | cons u texts =>
      rw [Text.joinWith_cons_cons]
      exact hP.append (hP.append ht hnewline) (ih htexts)

lemma lineBreak (hP : IsUniform P) (hnewline : P newline) (blank : Bool) :
    P (lineBreak newline blank) := by
  rcases lineBreak_eq newline blank with h | h
  · rwa [h]
  · rw [h]
    exact hP.append hnewline hnewline

lemma joinExpected (hP : IsUniform P) (hnewline : P newline) {portion : List ExpectedLine}
    (h : ∀ l ∈ portion, P l.text) : P (joinExpected newline portion) := by
  fun_induction ImportGrid.joinExpected newline portion with
  | case1 => exact hP.nil
  | case2 l => exact h l List.mem_cons_self
  | case3 l m rest ih =>
    obtain ⟨hl, hrest⟩ := List.forall_mem_cons.1 h
    exact hP.append (hP.append hl (hP.lineBreak hnewline l.endsGroup)) (ih hrest)

/-- The lines of a layout. -/
lemma expectedLines (hP : IsUniform P) (hd : ∀ d ∈ imports, ∀ t ∈ d.writtenTexts, P t) {l : ExpectedLine}
    (h : l ∈ expectedLines c newline imports) : P l.text := by
  obtain ⟨d, hmem, u, hu, hline⟩ := exists_of_mem_expectedLines h
  exact hP.lines (fun t ht => hd d hmem t (Declaration.writtenTexts_subset hu ht))
    (hline ▸ List.mem_singleton_self l.text)

lemma spell (hP : IsUniform P) {strip : List Stretch} (h : ∀ t ∈ strip, P (t.gap ++ t.text)) :
    P (Stretch.spell strip) := by
  induction strip with
  | nil => exact hP.nil
  | cons t strip ih =>
    obtain ⟨ht, hstrip⟩ := List.forall_mem_cons.1 h
    rw [Stretch.spell_cons, ← List.append_assoc]
    exact hP.append ht (ih hstrip)

end Lines

/-! ## Laying out -/

section Strip

variable {behind : Text} {strip : List Stretch}

/-- Rendering in place. -/
theorem reprint (hP : IsUniform P) (hnewline : P (lineEnding source))
    (hd : ∀ d ∈ imports, ∀ t ∈ d.writtenTexts, P t) (h : OnStrip source 0 imports strip behind)
    (hstrip : ∀ t ∈ strip, P t.gap ∧ P (t.gap ++ t.text)) (hbehind : P behind) :
    P (reprint c source imports) := by
  have hrendered : ∀ d ∈ imports, P (renderedText c source imports d) := fun d hmem =>
    hP.joinWith hnewline fun line hline => hP.lines (hd d hmem) hline
  rw [h.reprint_eq]
  refine hP.append (hP.spell ?_) hbehind
  generalize renderedText c source imports = render at hrendered
  clear h hd
  induction imports generalizing strip with
  | nil => simp [reprinted]
  | cons d imports ih =>
    cases strip with
    | nil => simp [reprinted]
    | cons t strip =>
      obtain ⟨⟨hgap, htext⟩, hstrip⟩ := List.forall_mem_cons.1 hstrip
      obtain ⟨hrender, hrendered⟩ := List.forall_mem_cons.1 hrendered
      refine List.forall_mem_cons.2 ⟨?_, ih hstrip hrendered⟩
      show P (t.gap ++ if _ then _ else _)
      split
      · exact htext
      · exact hP.append hgap hrender

/-- What a pass of fixes leaves between declarations. -/
lemma gapsKept (hP : IsUniform P) (hnewline : P newline) {old new : List Text}
    (h : List.Forall₂ (GapKept newline) old new) (hold : ∀ g ∈ old, P g) : ∀ g ∈ new, P g := by
  induction h with
  | nil => simp
  | cons hkept _ ih =>
    obtain ⟨hgap, hold⟩ := List.forall_mem_cons.1 hold
    refine List.forall_mem_cons.2 ⟨?_, ih hold⟩
    rcases hkept with rfl | ⟨-, rfl | rfl⟩
    · exact hgap
    · exact hnewline
    · exact hP.append hnewline hnewline

/-- What a pass of fixes leaves between declarations and in their places. -/
lemma isDealt (hP : IsUniform P) (hnewline : P newline) (hd : ∀ d ∈ imports, ∀ t ∈ d.writtenTexts, P t)
    {old new : List Stretch} {dealt : List (List ExpectedLine)} (h : IsDealt c newline imports old new dealt)
    (hold : ∀ t ∈ old, P t.gap) : ∀ t ∈ new, P (t.gap ++ t.text) := by
  have htexts : ∀ t ∈ new, P t.text := by
    intro t ht
    obtain ⟨p, hp, htext⟩ := List.mem_map.1 (h.texts ▸ List.mem_map_of_mem ht)
    rw [← htext]
    exact hP.joinExpected hnewline fun l hl =>
      hP.expectedLines hd (h.lines ▸ List.mem_flatten_of_mem hp hl)
  have hkept : ∀ g ∈ new.tail.map (·.gap), P g :=
    hP.gapsKept hnewline h.gaps (List.forall_mem_map.2 fun t ht => hold t (List.mem_of_mem_tail ht))
  intro t ht
  refine hP.append ?_ (htexts t ht)
  cases new with
  | nil => simp at ht
  | cons u new =>
    rcases List.mem_cons.1 ht with rfl | ht
    · cases old with
      | nil => exact absurd h.first (by simp)
      | cons o old =>
        have hfirst : t.gap = o.gap := by simpa using h.first
        exact hfirst ▸ hold o List.mem_cons_self
    · exact hkept t.gap (List.mem_map_of_mem ht)

end Strip

end IsUniform

/-- Applying the fixes of a check. -/
theorem IsUniform.applyFixes {P : Text → Prop} {c : Config} {source behind : Text}
    {imports : List Declaration} {strip : List Stretch} (hP : IsUniform P) (hnewline : P (lineEnding source))
    (hd : ∀ d ∈ imports, ∀ t ∈ d.writtenTexts, P t) (h : OnStrip source 0 imports strip behind)
    (hstrip : ∀ t ∈ strip, P t.gap ∧ P (t.gap ++ t.text)) (hbehind : P behind) :
    P (applyFixes source (fixesOf (check c source imports))) := by
  by_cases hc : ∀ d ∈ imports, hasInnerComment source d.span = false
  · rw [h.applyFixes_check c hc]
    refine hP.append (hP.spell ?_) hbehind
    exact hP.isDealt hnewline hd (h.isDealt c (lineEnding source)) fun t ht => (hstrip t ht).1
  · obtain ⟨d, hmem, hcomment⟩ : ∃ d ∈ imports, hasInnerComment source d.span = true := by
      simpa using hc
    have hsource : source = Stretch.spell strip ++ behind := by simpa using h.rest
    rw [fixesOf_check_of_hasInnerComment c hmem hcomment, applyFixes_nil, hsource]
    exact hP.append (hP.spell fun t ht => (hstrip t ht).2) hbehind

/-! ## Pieces of the source -/

/-- If no declaration ends between a carriage return and its line feed, no piece of the source begins with
a bare line feed. -/
lemma OnStrip.hasNoBareFeed {source behind : Text} {n : Nat} {imports : List Declaration}
    {strip : List Stretch} (h : OnStrip source n imports strip behind)
    (hsource : Text.HasNoBareFeed (Stretch.spell strip ++ behind))
    (hcut : ∀ d ∈ imports, Text.cutsLineEnding d.span.stop source = false) :
    (∀ t ∈ strip, t.gap.HasNoBareFeed ∧ (t.gap ++ t.text).HasNoBareFeed) ∧ behind.HasNoBareFeed := by
  induction imports generalizing n strip with
  | nil =>
    obtain rfl := List.length_eq_zero_iff.1 h.length_eq
    exact ⟨by simp, hsource⟩
  | cons d imports ih =>
    obtain ⟨t, strip, rfl⟩ := List.exists_cons_of_length_eq_add_one h.length_eq
    obtain ⟨hd, himports⟩ := List.forall_mem_cons.1 hcut
    rw [Stretch.spell_cons, ← List.append_assoc t.gap, List.append_assoc (t.gap ++ t.text)] at hsource
    have hrest : Text.HasNoBareFeed (Stretch.spell strip ++ behind) := by
      refine hsource.right_of_append ?_
      rintro ⟨hlast, hhead⟩
      -- the declaration would end between the two
      obtain ⟨a, hs, ha⟩ := Text.from?_eq_some_iff.1 h.rest
      have hsplit : Text.splitAt? d.span.stop source =
          some (a ++ (t.gap ++ t.text), Stretch.spell strip ++ behind) := by
        obtain ⟨hstart, hstop⟩ := h.span_eq
        refine Text.splitAt?_eq_some_iff.2 ⟨by simp [hs], ?_⟩
        simp only [Text.byteLength_append]
        omega
      have hlast' : (a ++ (t.gap ++ t.text)).getLast? = some '\r' := by
        rw [List.getLast?_append, hlast, Option.some_or]
      rw [Text.cutsLineEnding, hsplit] at hd
      simp [hlast', hhead] at hd
    obtain ⟨hstrip, hbehind⟩ := ih h.tail hrest himports
    have hfirst := hsource.left_of_append
    exact ⟨List.forall_mem_cons.2 ⟨⟨hfirst.left_of_append, hfirst⟩, hstrip⟩, hbehind⟩

/-- Laying out does not mix line endings, neither in place nor by fixes.  If the source ends its lines in a
carriage return and a line feed and never in a line feed alone, and no text of a declaration holds a
bare line feed, then none is written, provided that no declaration ends between the two characters.
If neither the source nor a text of a declaration holds a carriage return, none is written. -/
theorem hasNoBareFeed_and_notMem_return (c : Config) (source : Text) (imports : List Declaration)
    (h : InSourceOrder source imports) :
    (['\r', '\n'] <:+: source → source.HasNoBareFeed →
      (∀ d ∈ imports, Text.cutsLineEnding d.span.stop source = false) →
      (∀ d ∈ imports, ∀ t ∈ d.writtenTexts, t.HasNoBareFeed) →
      (reprint c source imports).HasNoBareFeed ∧
        (applyFixes source (fixesOf (check c source imports))).HasNoBareFeed) ∧
    ('\r' ∉ source → (∀ d ∈ imports, ∀ t ∈ d.writtenTexts, '\r' ∉ t) →
      '\r' ∉ reprint c source imports ∧
        '\r' ∉ applyFixes source (fixesOf (check c source imports))) := by
  obtain ⟨strip, behind, hs⟩ := h.exists_strip
  have hsource : source = Stretch.spell strip ++ behind := by simpa using hs.rest
  constructor
  · intro hreturn hfeed hcut hd
    have hnewline : (lineEnding source).HasNoBareFeed := by
      rw [lineEnding, if_pos (Text.contains_iff.2 hreturn)]
      decide
    obtain ⟨hstrip, hbehind⟩ := hs.hasNoBareFeed (hsource ▸ hfeed) hcut
    exact ⟨isUniform_hasNoBareFeed.reprint hnewline hd hs hstrip hbehind,
      isUniform_hasNoBareFeed.applyFixes hnewline hd hs hstrip hbehind⟩
  · intro hreturn hd
    have hnewline : '\r' ∉ lineEnding source := by
      rw [lineEnding_of_notMem hreturn]
      decide
    rw [hsource, List.mem_append, not_or] at hreturn
    obtain ⟨hspell, hbehind⟩ := hreturn
    have hstrip : ∀ t ∈ strip, '\r' ∉ t.gap ∧ '\r' ∉ t.gap ++ t.text := by
      intro t ht
      have hpiece : '\r' ∉ t.gap ++ t.text := fun hmem => hspell (List.mem_flatMap.2 ⟨t, ht, hmem⟩)
      exact ⟨fun hmem => hpiece (List.mem_append_left _ hmem), hpiece⟩
    exact ⟨isUniform_notMem_return.reprint hnewline hd hs hstrip hbehind,
      isUniform_notMem_return.applyFixes hnewline hd hs hstrip hbehind⟩

/-- A text whose lines end in a carriage return and a line feed, one of them inside the first import. -/
def returnedText : Text :=
  "import \x7b b,\r\n c \x7d from 'b'\r\nimport a from './a';\r\n// end\r\n".toList

/-- The declarations of that text. -/
def returnedImports : List Declaration :=
  [⟨⟨0, 26⟩, "b".toList, "'b'".toList, false,
      [⟨.namedImport none, "b".toList, false⟩, ⟨.namedImport none, "c".toList, false⟩], none⟩,
    ⟨⟨28, 48⟩, "./a".toList, "'./a'".toList, false, [⟨.defaultImport, "a".toList, false⟩], none⟩]

theorem hasNoBareFeed_and_notMem_return_returnedText :
    (InSourceOrder returnedText returnedImports ∧ ['\r', '\n'] <:+: returnedText ∧
      returnedText.HasNoBareFeed ∧
      (reprint Config.default returnedText returnedImports).HasNoBareFeed ∧
      (applyFixes returnedText
        (fixesOf (check Config.default returnedText returnedImports))).HasNoBareFeed) ∧
    InSourceOrder unorderedText unorderedImports ∧ '\r' ∉ unorderedText ∧
    '\r' ∉ reprint Config.default unorderedText unorderedImports ∧
    '\r' ∉ applyFixes unorderedText (fixesOf (check Config.default unorderedText unorderedImports)) := by
  have hreturned : InSourceOrder returnedText returnedImports := by decide +kernel
  have hoccurs : ['\r', '\n'] <:+: returnedText := Text.contains_iff.1 (by decide +kernel)
  have hfeed : returnedText.HasNoBareFeed := by decide +kernel
  have hunordered : InSourceOrder unorderedText unorderedImports := by decide +kernel
  have hnone : '\r' ∉ unorderedText := by decide +kernel
  obtain ⟨hkept, -⟩ :=
    hasNoBareFeed_and_notMem_return Config.default returnedText returnedImports hreturned
  obtain ⟨-, hfree⟩ :=
    hasNoBareFeed_and_notMem_return Config.default unorderedText unorderedImports hunordered
  exact ⟨⟨hreturned, hoccurs, hfeed, hkept hoccurs hfeed (by decide +kernel) (by decide +kernel)⟩,
    hunordered, hnone, hfree hnone (by decide +kernel)⟩

end ImportGrid
