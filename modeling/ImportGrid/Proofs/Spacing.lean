/-
The spacing of organized imports.

A pass of fixes deals the units of a layout out to the declarations, a share to each.  Within a share a
line ending separates two lines, or two line endings where a new group begins (`spelledUnits`).
Between the shares of two declarations the same holds wherever the pass writes the white space
(`OnStrip.gapLeft_eq`).  It does not write it behind a declaration that reads right already if the white
space has a blank line exactly where one belongs: there the white space stays as it is, and it
may be more or less than line endings (`spacing_applyFixes_check`).
-/
import Mathlib.Data.List.Chain
import ImportGrid.Proofs.Settling

namespace ImportGrid

/-- Of two units that follow each other in a layout the second begins a new group. -/
def startsGroup (c : Config) (u v : Declaration) : Bool := c.groupOf u.source != c.groupOf v.source

/-- Units below each other, with a blank line before each new group. -/
def spelledUnits (c : Config) (newline : Text) (line : Declaration → Text) : List Declaration → Text
  | [] => []
  | [u] => line u
  | u :: v :: rest =>
    line u ++ lineBreak newline (startsGroup c u v) ++ spelledUnits c newline line (v :: rest)

/-! ## Shares of a layout -/

section Shares

variable (c : Config) (line : Declaration → Text)

/-- The lines of a share, marked where a group ends, when the share behind it begins with the given unit. -/
def markShare : List Declaration → Option Declaration → List ExpectedLine
  | [], _ => []
  | [u], next => [⟨line u, next.all (startsGroup c u)⟩]
  | u :: v :: rest, next => ⟨line u, startsGroup c u v⟩ :: markShare (v :: rest) next

/-- The lines of shares that follow each other. -/
def markShares : List (List Declaration) → List (List ExpectedLine)
  | [] => []
  | share :: rest => markShare c line share rest.flatten.head? :: markShares rest

variable {c line}

@[simp] lemma length_markShare (share : List Declaration) (next : Option Declaration) :
    (markShare c line share next).length = share.length := by
  fun_induction markShare c line share next with
  | case1 => rfl
  | case2 => rfl
  | case3 u v rest next ih => rw [List.length_cons, ih, ← List.length_cons]

/-- The lines of a layout, cut behind a share. -/
lemma markGroups_append_map (share rest : List Declaration) :
    markGroups ((share ++ rest).map fun u => (line u, c.groupOf u.source)) =
      markShare c line share rest.head? ++ markGroups (rest.map fun u => (line u, c.groupOf u.source)) := by
  induction share with
  | nil => rfl
  | cons u share ih =>
    cases share with
    | nil => cases rest <;> rfl
    | cons v share =>
      rw [List.cons_append, List.cons_append, List.map_cons, List.map_cons, markGroups, markShare,
        List.cons_append, ← ih]
      rfl

/-- The lines of a layout, cut into shares. -/
lemma splitLengths_markGroups (shares : List (List Declaration)) :
    (shares.map List.length).splitLengths
        (markGroups (shares.flatten.map fun u => (line u, c.groupOf u.source))) =
      markShares c line shares := by
  induction shares with
  | nil => rfl
  | cons share shares ih =>
    have hlen : share.length = (markShare c line share shares.flatten.head?).length :=
      (length_markShare ..).symm
    rw [List.map_cons, List.splitLengths_cons, List.flatten_cons, markGroups_append_map, hlen,
      List.take_left, List.drop_left, ih, markShares]

/-- What a declaration is to read is its share, line by line. -/
lemma joinExpected_markShare (newline : Text) (share : List Declaration) (next : Option Declaration) :
    joinExpected newline (markShare c line share next) = spelledUnits c newline line share := by
  fun_induction spelledUnits c newline line share with
  | case1 => rfl
  | case2 u => rfl
  | case3 u v rest ih =>
    rw [markShare, ← ih]
    cases rest <;> rfl

/-- A share ends its group if the unit behind it begins a new one. -/
lemma endsGroup_of_mem_getLast? {share : List Declaration} {u v : Declaration}
    (hu : u ∈ share.getLast?) :
    (markShare c line share (some v)).getLast?.any (·.endsGroup) = startsGroup c u v := by
  induction share with
  | nil => simp at hu
  | cons w share ih =>
    cases share with
    | nil =>
      obtain rfl : w = u := by simpa using hu
      simp [markShare]
    | cons x share =>
      rw [List.getLast?_cons_cons] at hu
      have hrest := ih hu
      obtain ⟨l, lines, hlines⟩ : ∃ l lines, markShare c line (x :: share) (some v) = l :: lines :=
        List.exists_cons_of_length_eq_add_one (n := share.length) (by simp)
      rw [markShare, hlines, List.getLast?_cons_cons, ← hlines, hrest]

end Shares

/-! ## Gaps between shares -/

/-- A gap that is white space when a pass is done was left as it was if the declaration before it read
right and a blank line stood there exactly where one belongs, and is a line break otherwise. -/
lemma OnStrip.gapLeft_eq {source newline behind : Text} {n : Nat} {d e : Declaration}
    {imports : List Declaration} {s : Slot} {t u : Stretch} {strip : List Stretch}
    (h : OnStrip source n (d :: e :: imports) (t :: u :: strip) behind)
    (hu : "import".toList <+: u.text)
    (hwhite : (gapLeft source newline d (some e.span.start) s u.gap).all Text.isWhiteSpace = true) :
    gapLeft source newline d (some e.span.start) s u.gap =
      if s.text = t.text ∧ decide (1 < Text.lineFeeds u.gap) = s.needsGap then u.gap
      else lineBreak newline s.needsGap := by
  obtain ⟨y, hy⟩ := h.exists_from?_stop
  rw [gapLeft, h.tail.span_eq.1] at hwhite ⊢
  by_cases hg : u.gap.all Text.isWhiteSpace = true
  · have hcut : (Gap.after source d.span.stop (some (d.span.stop + u.gap.byteLength))).cut.isSome := by
      rw [after_of_all_isWhiteSpace hy (hu.trans (List.prefix_append ..)) hg]
      rfl
    have hright : checkSlot source newline true d (some (d.span.stop + u.gap.byteLength)) s = none ↔
        s.text = t.text ∧ decide (1 < Text.lineFeeds u.gap) = s.needsGap := by
      rw [← h.tail.span_eq.1, h.checkSlot_eq_none_iff hu, eq_comm, GapFits]
      simp only [hg, true_imp_iff]
    by_cases hok : s.text = t.text ∧ decide (1 < Text.lineFeeds u.gap) = s.needsGap
    · rw [if_pos hok, hright.2 hok, if_neg (by simp)]
    · have hsome := Option.isSome_iff_ne_none.2 fun hnone => hok (hright.1 hnone)
      rw [if_neg hok, if_pos ⟨hsome, hcut⟩]
  · -- a pass does not touch other gaps
    have hcut : ¬ (Gap.after source d.span.stop (some (d.span.stop + u.gap.byteLength))).cut.isSome :=
      fun hcut => hg (all_isWhiteSpace_of_cut hy hcut)
    rw [if_neg fun hleft => hcut hleft.2] at hwhite
    exact absurd hwhite hg

/-- A declaration before and behind a pass. -/
structure Laid where
  /-- The declaration in the source, with the gap before it. -/
  old : Stretch
  /-- What stands in its place, with the gap before it. -/
  new : Stretch
  /-- The units that it was dealt. -/
  share : List Declaration

/-- The spacing between two declarations that follow each other.  White space is a line ending, or two if
a new group begins.  If the first of the declarations reads as it did before, and the white space behind
it has a blank line exactly where a new group begins, the white space is what it was, too. -/
def IsSpaced (c : Config) (newline : Text) (a b : Laid) : Prop :=
  ∀ u ∈ a.share.getLast?, ∀ v ∈ b.share.head?, b.new.gap.all Text.isWhiteSpace = true →
    b.new.gap =
      if a.new.text = a.old.text ∧ decide (1 < Text.lineFeeds b.old.gap) = startsGroup c u v
      then b.old.gap else lineBreak newline (startsGroup c u v)

/-- A pass leaves the shares with the right spacing between them. -/
theorem OnStrip.exists_laid (c : Config) (line : Declaration → Text) (newline gap : Text)
    {source behind : Text} {n : Nat} {imports : List Declaration} {strip : List Stretch}
    {shares : List (List Declaration)} (h : OnStrip source n imports strip behind)
    (hlen : shares.length = imports.length) (himp : ∀ t ∈ strip, "import".toList <+: t.text) :
    ∃ laid : List Laid, laid.map (·.old) = strip ∧
      laid.map (·.new) =
        relaid source newline gap imports (slotsOf newline (markShares c line shares)) strip ∧
      laid.map (·.share) = shares ∧
      (∀ a ∈ laid, a.new.text = spelledUnits c newline line a.share) ∧
      laid.IsChain (IsSpaced c newline) := by
  induction imports generalizing n gap strip shares with
  | nil =>
    obtain rfl := List.length_eq_zero_iff.1 hlen
    obtain rfl := List.length_eq_zero_iff.1 h.length_eq
    exact ⟨[], rfl, rfl, rfl, by simp, .nil⟩
  | cons d imports ih =>
    obtain ⟨share, shares, rfl⟩ := List.exists_cons_of_length_eq_add_one hlen
    obtain ⟨t, strip, rfl⟩ := List.exists_cons_of_length_eq_add_one h.length_eq
    obtain ⟨-, himps⟩ := List.forall_mem_cons.1 himp
    rw [markShares, slotsOf, relaid, joinExpected_markShare]
    obtain ⟨laid, hold, hnew, hshare, htext, hchain⟩ := ih _ h.tail (by simpa using hlen) himps
    refine ⟨⟨t, ⟨gap, _⟩, share⟩ :: laid, by rw [List.map_cons, hold], by rw [List.map_cons, hnew],
      by rw [List.map_cons, hshare], List.forall_mem_cons.2 ⟨rfl, htext⟩, ?_⟩
    refine hchain.cons ?_
    -- the spacing behind the first share
    intro b hb u hu v hv hwhite
    obtain ⟨laid, rfl⟩ := List.head?_eq_some_iff.1 hb
    obtain ⟨w, strip, rfl⟩ := List.exists_cons_of_length_eq_add_one (congrArg List.length hold.symm)
    obtain ⟨e, imports, rfl⟩ := List.exists_cons_of_length_eq_add_one h.tail.length_eq.symm
    obtain ⟨next, shares, rfl⟩ := List.exists_cons_of_length_eq_add_one (Nat.succ.inj hlen)
    obtain rfl : b.old = w := (List.cons.inj hold).1
    obtain rfl : b.share = next := (List.cons.inj hshare).1
    have hhead : markShare c line share (List.flatten (b.share :: shares)).head? =
        markShare c line share (some v) := by
      rw [List.flatten_cons, List.head?_append, Option.mem_def.1 hv, Option.some_or]
    have hnew' : b.new = _ := (List.cons.inj hnew).1
    rw [hnew'] at hwhite ⊢
    refine (h.gapLeft_eq (himps b.old List.mem_cons_self) hwhite).trans ?_
    simp only [hhead, endsGroup_of_mem_getLast? hu, markShares, List.isEmpty_cons, Bool.not_false,
      Bool.and_true]

/-! ## A pass over a file -/

/-- The line of a unit on the grid of declarations. -/
def layoutLine (c : Config) (imports : List Declaration) (u : Declaration) : Text :=
  ((Grid.ofImports imports).lines c.typeImports u).flatten

/-- The units of a layout, cut into a share for each declaration. -/
def unitShares (c : Config) (imports : List Declaration) : List (List Declaration) :=
  (imports.map (·.unitCount)).splitLengths (layoutUnits c imports)

/-- The shares, one after the other, are the layout, and each declaration has as many units as before. -/
lemma unitShares_spec (c : Config) (imports : List Declaration) :
    (unitShares c imports).flatten = layoutUnits c imports ∧
      (unitShares c imports).map List.length = imports.map (·.unitCount) :=
  splitLengths_unitCount (layoutUnits_perm c imports).length_eq

/-- A portion of the layout is the lines of a share. -/
lemma portions_eq_markShares (c : Config) (newline : Text) (imports : List Declaration) :
    portions c newline imports = markShares c (layoutLine c imports) (unitShares c imports) := by
  obtain ⟨hflatten, hlengths⟩ := unitShares_spec c imports
  rw [portions, expectedLines_eq_markGroups, ← splitLengths_markGroups, hflatten, hlengths]
  rfl

/-- A pass of fixes leaves the lines of all units with the right spacing between them.  The units that
a declaration was dealt stand in its place, with a line ending between two of them, or two where a new
group begins.  Between the declarations the white space is the same, unless it had a blank line
exactly where a new group begins, and the declaration before it was right already. -/
theorem spacing_applyFixes_check (c : Config) (source : Text) (imports : List Declaration)
    (h : InSourceOrder source imports)
    (himp : ∀ d ∈ imports, "import".toList <+: d.span.textIn source)
    (hc : ∀ d ∈ imports, hasInnerComment source d.span = false) :
    ∃ laid : List Laid, ∃ behind,
      source = Stretch.spell (laid.map (·.old)) ++ behind ∧
      Stretch.spans 0 (laid.map (·.old)) = imports.map (·.span) ∧
      applyFixes source (fixesOf (check c source imports)) =
        Stretch.spell (laid.map (·.new)) ++ behind ∧
      laid.flatMap (·.share) = layoutUnits c imports ∧
      laid.map (·.share.length) = imports.map (·.unitCount) ∧
      (∀ u ∈ layoutUnits c imports,
        (Grid.ofImports imports).lines c.typeImports u = [layoutLine c imports u]) ∧
      (∀ a ∈ laid, a.new.text = spelledUnits c (lineEnding source) (layoutLine c imports) a.share) ∧
      laid.IsChain (IsSpaced c (lineEnding source)) := by
  obtain ⟨strip, behind, hs⟩ := h.exists_strip
  obtain ⟨hflatten, hlengths⟩ := unitShares_spec c imports
  have hlen : (unitShares c imports).length = imports.length := by
    simpa using congrArg List.length hlengths
  obtain ⟨laid, rfl, hnew, hshare, htext, hchain⟩ := hs.exists_laid c (layoutLine c imports)
    (lineEnding source) ((strip.head?.map (·.gap)).getD []) hlen (hs.forall_text himp)
  refine ⟨laid, behind, by simpa using hs.rest, hs.spans, ?_, ?_, ?_, ?_, htext, hchain⟩
  · rw [hs.applyFixes_check c hc, portions_eq_markShares, hnew]
  · rw [List.flatMap, hshare, hflatten]
  · rw [← hlengths, ← hshare, List.map_map]
    rfl
  · intro u hu
    obtain ⟨d, -, hud⟩ := exists_of_mem_layoutUnits hu
    obtain ⟨line, hline⟩ := Grid.exists_lines_eq_singleton hud (Grid.ofImports imports) c.typeImports
    simp [layoutLine, hline]

/-- A text with three imports in order and on the grid.  The second is indented, and before the third,
which is the first of its group, stand two blank lines. -/
def spreadText : Text := "import a from 'a'\n  import b from 'b'\n\n\nimport c from './c'\n".toList

/-- The declarations of that text. -/
def spreadImports : List Declaration :=
  [⟨⟨0, 17⟩, "a".toList, "'a'".toList, false, [⟨.defaultImport, "a".toList, false⟩], none⟩,
    ⟨⟨20, 37⟩, "b".toList, "'b'".toList, false, [⟨.defaultImport, "b".toList, false⟩], none⟩,
    ⟨⟨40, 59⟩, "./c".toList, "'./c'".toList, false, [⟨.defaultImport, "c".toList, false⟩], none⟩]

theorem spacing_applyFixes_check_spreadText :
    ∃ laid : List Laid, ∃ behind,
      spreadText = Stretch.spell (laid.map (·.old)) ++ behind ∧
      Stretch.spans 0 (laid.map (·.old)) = spreadImports.map (·.span) ∧
      applyFixes spreadText (fixesOf (check Config.default spreadText spreadImports)) =
        Stretch.spell (laid.map (·.new)) ++ behind ∧
      laid.flatMap (·.share) = layoutUnits Config.default spreadImports ∧
      laid.map (·.share.length) = spreadImports.map (·.unitCount) ∧
      (∀ u ∈ layoutUnits Config.default spreadImports,
        (Grid.ofImports spreadImports).lines Config.default.typeImports u =
          [layoutLine Config.default spreadImports u]) ∧
      (∀ a ∈ laid, a.new.text = spelledUnits Config.default (lineEnding spreadText)
        (layoutLine Config.default spreadImports) a.share) ∧
      laid.IsChain (IsSpaced Config.default (lineEnding spreadText)) :=
  spacing_applyFixes_check Config.default spreadText spreadImports
    (by decide +kernel) (by decide +kernel) (by decide +kernel)

/-- The strip of that text. -/
def spreadStrip : List Stretch :=
  [⟨[], "import a from 'a'".toList⟩, ⟨"\n  ".toList, "import b from 'b'".toList⟩,
    ⟨"\n\n\n".toList, "import c from './c'".toList⟩]

/-- A pass does not make white space that it leaves alone a line ending or two: the lines of that text
stay as far from each other as they are. -/
theorem applyFixes_check_spreadText :
    InSourceOrder spreadText spreadImports ∧
    (∀ d ∈ spreadImports, "import".toList <+: d.span.textIn spreadText) ∧
    (∀ d ∈ spreadImports, hasInnerComment spreadText d.span = false) ∧
    applyFixes spreadText (fixesOf (check Config.default spreadText spreadImports)) =
      Stretch.spell spreadStrip ++ "\n".toList ∧
    spreadStrip.map (·.text) = (layoutUnits Config.default spreadImports).map
      (layoutLine Config.default spreadImports) ∧
    (spreadStrip.zip (layoutUnits Config.default spreadImports)).IsChain fun a b =>
      b.1.gap.all Text.isWhiteSpace = true ∧
        b.1.gap ≠ lineBreak (lineEnding spreadText) (startsGroup Config.default a.2 b.2) := by
  have hunits : layoutUnits Config.default spreadImports = spreadImports := by
    have hsame : spreadImports.flatMap Declaration.units = spreadImports := by decide +kernel
    rw [layoutUnits, flatMap_groupImports, hsame]
    exact stableSort_of_pairwise (by decide +kernel)
  have hc : ∀ d ∈ spreadImports, hasInnerComment spreadText d.span = false := by decide +kernel
  have hcheck : check Config.default spreadText spreadImports = [] := by
    rw [check_eq_checkSlots hc, portions, expectedLines_eq_markGroups, hunits]
    decide +kernel
  rw [hunits, hcheck]
  exact ⟨by decide +kernel, by decide +kernel, hc, applyFixes_nil spreadText, by decide +kernel,
    by decide +kernel⟩

end ImportGrid
