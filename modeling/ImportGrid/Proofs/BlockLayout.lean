/-
The block of a layout.

Groups can be rendered as one block, apart from any source text.  The block is the expected lines
put together (`layoutBlock_eq_joinExpected`), so where it stands in a text, whatever stands around it, a
check of its lines reports nothing, and the lines fall into the groups that were rendered
(`check_layoutBlock`).
-/
import ImportGrid.Proofs.Settling

namespace ImportGrid

/-! ## Lines put together -/

section Join

variable {newline : Text}

/-- The lines of a group, put together. -/
lemma joinExpected_group (render : Declaration → Text) (units : List Declaration) :
    joinExpected newline (Group.expectedLines render units) =
      Text.joinWith newline (units.map render) := by
  fun_induction Group.expectedLines render units with
  | case1 => rfl
  | case2 u => simp [joinExpected]
  | case3 u v rest ih =>
    obtain ⟨l, lines, hlines⟩ : ∃ l lines, Group.expectedLines render (v :: rest) = l :: lines := by
      cases rest with
      | nil => exact ⟨_, _, rfl⟩
      | cons w rest => exact ⟨_, _, rfl⟩
    rw [hlines] at ih ⊢
    rw [joinExpected, ih, List.map_cons, List.map_cons, List.map_cons, Text.joinWith_cons_cons]
    rfl

lemma expectedLines_ne_nil {render : Declaration → Text} {units : List Declaration}
    (h : units ≠ []) : Group.expectedLines render units ≠ [] := by
  match units with
  | [] => exact absurd rfl h
  | [u] => exact List.cons_ne_nil _ _
  | u :: v :: rest => exact List.cons_ne_nil _ _

lemma endsGroup_of_getLast? {render : Declaration → Text} {units : List Declaration} :
    ∀ l ∈ (Group.expectedLines render units).getLast?, l.endsGroup = true := by
  fun_induction Group.expectedLines render units with
  | case1 => simp
  | case2 u => simp
  | case3 u v rest ih =>
    have hne : Group.expectedLines render (v :: rest) ≠ [] := expectedLines_ne_nil (by simp)
    intro l hl
    rw [List.getLast?_cons_of_ne_nil hne] at hl
    exact ih l hl

/-- Behind lines that end a group stands a blank line. -/
lemma joinExpected_append {lines others : List ExpectedLine} (hl : lines ≠ []) (ho : others ≠ [])
    (hends : ∀ l ∈ lines.getLast?, l.endsGroup = true) :
    joinExpected newline (lines ++ others) =
      joinExpected newline lines ++ (newline ++ newline) ++ joinExpected newline others := by
  induction lines with
  | nil => exact absurd rfl hl
  | cons l lines ih =>
    cases lines with
    | nil =>
      obtain ⟨m, others, rfl⟩ := List.exists_cons_of_ne_nil ho
      have hl : l.endsGroup = true := hends l rfl
      simp [joinExpected, hl]
    | cons m lines =>
      have hrest := ih (by simp) fun k hk => hends k (by simpa using hk)
      rw [List.cons_append, List.cons_append, joinExpected, ← List.cons_append, hrest, joinExpected]
      simp only [List.append_assoc]

/-- The lines of groups, put together group by group. -/
lemma joinWith_groups (render : Declaration → Text) {groups : List Group}
    (hne : ∀ g ∈ groups, g.imports ≠ []) :
    Text.joinWith (newline ++ newline)
        (groups.map fun g => Text.joinWith newline (g.imports.map render)) =
      joinExpected newline (groups.flatMap fun g => Group.expectedLines render g.imports) := by
  induction groups with
  | nil => rfl
  | cons g groups ih =>
    have hrest := ih fun k hk => hne k (by simp [hk])
    cases groups with
    | nil => simp [joinExpected_group]
    | cons k groups =>
      have hg : Group.expectedLines render g.imports ≠ [] := expectedLines_ne_nil (hne g (by simp))
      have hk : (k :: groups).flatMap (fun g => Group.expectedLines render g.imports) ≠ [] := by
        rw [List.flatMap_cons]
        exact List.append_ne_nil_of_left_ne_nil (expectedLines_ne_nil (hne k (by simp))) _
      calc Text.joinWith (newline ++ newline)
            ((g :: k :: groups).map fun g => Text.joinWith newline (g.imports.map render))
          = Text.joinWith newline (g.imports.map render) ++ (newline ++ newline) ++
              Text.joinWith (newline ++ newline)
                ((k :: groups).map fun g => Text.joinWith newline (g.imports.map render)) :=
            Text.joinWith_cons_cons ..
        _ = joinExpected newline (Group.expectedLines render g.imports) ++ (newline ++ newline) ++
              joinExpected newline
                ((k :: groups).flatMap fun g => Group.expectedLines render g.imports) := by
            rw [joinExpected_group, hrest]
        _ = _ := (joinExpected_append hg hk endsGroup_of_getLast?).symm

end Join

/-- The units of declarations, grouped and rendered as a block. -/
def layoutBlock (c : Config) (imports : List Declaration) : Text :=
  (Grid.ofImports imports).block c.typeImports (groupImports c (imports.flatMap Declaration.units))

/-- The block of a layout is the expected lines put together. -/
theorem layoutBlock_eq_joinExpected (c : Config) (newline : Text) (imports : List Declaration) :
    layoutBlock c imports = joinExpected ['\n'] (expectedLines c newline imports) := by
  obtain ⟨hne, -, -⟩ := groupImports_spec c (imports.flatMap Declaration.units)
  have hlines : "\n\n".toList = ['\n'] ++ ['\n'] := by decide
  have hfilter : (groupImports c (imports.flatMap Declaration.units)).filter
      (fun g => !g.imports.isEmpty) = groupImports c (imports.flatMap Declaration.units) := by
    refine List.filter_eq_self.2 fun g hg => ?_
    simpa using hne g hg
  -- a unit has one line, so it does not matter what its lines are put together with
  have hstack : ∀ g ∈ groupImports c (imports.flatMap Declaration.units),
      (Grid.ofImports imports).stack c.typeImports g.imports = g.imports.map fun u =>
        Text.joinWith newline ((Grid.ofImports imports).lines c.typeImports u) := by
    intro g hg
    rw [Grid.stack, List.map_eq_flatMap]
    refine List.flatMap_congr fun u hu => ?_
    obtain ⟨d, -, hud⟩ := exists_of_mem_layoutUnits (List.mem_flatMap_of_mem hg hu)
    obtain ⟨line, hline⟩ :=
      Grid.exists_lines_eq_singleton hud (Grid.ofImports imports) c.typeImports
    rw [hline, Text.joinWith_singleton]
  rw [layoutBlock, Grid.block, hfilter, hlines, List.map_congr_left fun g hg => congrArg _ (hstack g hg),
    joinWith_groups _ hne]
  rfl

/-! ## Groups as runs -/

namespace Group

/-- Groups that are not empty and have names of their own, each with the declarations of its name. -/
structure AreRuns (groupOf : Text → Text) (groups : List Group) : Prop where
  ne_nil : ∀ g ∈ groups, g.imports ≠ []
  groupOf_eq : ∀ g ∈ groups, ∀ d ∈ g.imports, groupOf d.source = g.name
  nodup : (groups.map (·.name)).Nodup

/-- A group wherever its declarations stand. -/
def unplaced (g : Group) : Group := { g with imports := g.imports.map (·.moved ⟨0, 0⟩) }

namespace AreRuns

variable {groupOf : Text → Text} {groups others : List Group}

/-- The declarations fall into the groups where the name of the group changes. -/
lemma splitBy_eq (h : AreRuns groupOf groups) :
    (groups.flatMap (·.imports)).splitBy (fun d e => groupOf d.source == groupOf e.source) =
      groups.map (·.imports) := by
  rw [List.flatMap_def]
  refine List.splitBy_flatten ?_ ?_ ?_
  · intro hmem
    obtain ⟨g, hg, hnil⟩ := List.mem_map.1 hmem
    exact h.ne_nil g hg hnil
  · intro l hl
    obtain ⟨g, hg, rfl⟩ := List.mem_map.1 hl
    refine (List.pairwise_of_forall_mem_list fun d hd e he => ?_).isChain
    rw [beq_iff_eq, h.groupOf_eq g hg d hd, h.groupOf_eq g hg e he]
  · have hne : groups.Pairwise fun g k => g.name ≠ k.name := List.pairwise_map.1 h.nodup
    refine (List.pairwise_map.2 (hne.imp_of_mem ?_)).isChain
    intro g k hg hk hname
    refine ⟨h.ne_nil g hg, h.ne_nil k hk, ?_⟩
    rw [beq_eq_false_iff_ne, h.groupOf_eq g hg _ (List.getLast_mem _),
      h.groupOf_eq k hk _ (List.head_mem _)]
    exact hname

/-- Groups of the same declarations in the same order are the same. -/
lemma eq_of_flatMap_eq (h : AreRuns groupOf groups) (h' : AreRuns groupOf others)
    (heq : groups.flatMap (·.imports) = others.flatMap (·.imports)) : groups = others := by
  have himports : groups.map (·.imports) = others.map (·.imports) := by
    rw [← h.splitBy_eq, heq, h'.splitBy_eq]
  have hlen : groups.length = others.length := by simpa using congrArg List.length himports
  refine List.ext_getElem hlen fun i hi hi' => ?_
  have hi₁ : groups[i].imports = others[i].imports := by
    have hget := congrArg (·[i]?) himports
    simpa [hi, hi'] using hget
  -- a group has the name that its declarations give it
  obtain ⟨d, rest, hd⟩ := List.exists_cons_of_ne_nil (h.ne_nil _ (List.getElem_mem hi))
  have hname : groups[i].name = others[i].name := by
    rw [← h.groupOf_eq _ (List.getElem_mem hi) d (by simp [hd]),
      ← h'.groupOf_eq _ (List.getElem_mem hi') d (by simp [← hi₁, hd])]
  calc groups[i] = ⟨groups[i].name, groups[i].imports⟩ := rfl
    _ = others[i] := by rw [hname, hi₁]

lemma map_unplaced (h : AreRuns groupOf groups) : AreRuns groupOf (groups.map unplaced) where
  ne_nil := by
    intro g hg
    obtain ⟨k, hk, rfl⟩ := List.mem_map.1 hg
    simpa [unplaced] using h.ne_nil k hk
  groupOf_eq := by
    intro g hg d hd
    obtain ⟨k, hk, rfl⟩ := List.mem_map.1 hg
    obtain ⟨e, he, rfl⟩ := List.mem_map.1 hd
    exact h.groupOf_eq k hk e he
  nodup := by
    rw [List.map_map]
    exact h.nodup

end AreRuns

lemma areRuns_groupImports (c : Config) (imports : List Declaration) :
    AreRuns c.groupOf (groupImports c imports) :=
  let ⟨hne, hg, hn⟩ := groupImports_spec c imports
  ⟨hne, hg, hn⟩

lemma flatMap_map_unplaced (groups : List Group) :
    (groups.map unplaced).flatMap (·.imports) =
      (groups.flatMap (·.imports)).map (·.moved ⟨0, 0⟩) := by
  rw [List.flatMap_map, List.map_flatMap]
  rfl

end Group

/-- Units that are placed in the order of the layout are grouped as they were. -/
lemma map_unplaced_groupImports_place {c : Config} {imports : List Declaration} {spans : List Span}
    (hl : spans.length = (layoutUnits c imports).length) :
    (groupImports c (place (layoutUnits c imports) spans)).flatMap (·.imports) =
        place (layoutUnits c imports) spans ∧
      (groupImports c (place (layoutUnits c imports) spans)).map Group.unplaced =
        (groupImports c (imports.flatMap Declaration.units)).map Group.unplaced := by
  have halike : List.Forall₂ Declaration.Alike (place (layoutUnits c imports) spans)
      (layoutUnits c imports) := by
    refine forall₂_place (fun d e s h => (d.alike_moved s).trans h) ?_ hl
    exact List.forall₂_same.2 fun u _ => ⟨rfl, rfl, rfl, rfl, rfl⟩
  have hsorted : (layoutUnits c imports).Pairwise fun d e => (layoutOrder c d e).isLE := by
    rw [layoutUnits, flatMap_groupImports]
    exact pairwise_stableSort ..
  have hflat : (groupImports c (place (layoutUnits c imports) spans)).flatMap (·.imports) =
      place (layoutUnits c imports) spans := by
    rw [flatMap_groupImports]
    exact stableSort_of_pairwise (pairwise_of_alike halike hsorted)
  refine ⟨hflat, ?_⟩
  refine (Group.areRuns_groupImports c _).map_unplaced.eq_of_flatMap_eq
    (Group.areRuns_groupImports c _).map_unplaced ?_
  rw [Group.flatMap_map_unplaced, Group.flatMap_map_unplaced, hflat, map_place (fun _ _ => rfl) hl]
  rfl

/-! ## The block in a text -/

/-- The rows of a block, each behind the line feeds that separate it from the one before. -/
def blockRows (c : Config) (imports : List Declaration) : List Stretch :=
  rowsOf ['\n'] [] (expectedLines c ['\n'] imports)

section Rows

variable (c : Config) (imports : List Declaration)

lemma spell_blockRows : Stretch.spell (blockRows c imports) = layoutBlock c imports := by
  rw [blockRows, layoutBlock_eq_joinExpected c ['\n']]
  by_cases hnil : expectedLines c ['\n'] imports = []
  · rw [hnil]
    rfl
  · rw [spell_rowsOf _ _ hnil, List.nil_append]

lemma fits_blockRows : Fits (expectedLines c ['\n'] imports) (blockRows c imports) := by
  -- a line feed, which is what a block is written with, is the line ending of a text without lines
  have happend : Fits (expectedLines c ['\n'] imports ++ [])
      (rowsOf (lineEnding []) [] (expectedLines c ['\n'] imports) ++ []) :=
    fits_rowsOf_append Fits.nil (by simp)
  rwa [List.append_nil, List.append_nil] at happend

lemma map_text_blockRows : (blockRows c imports).map (fun r => [r.text]) =
    (layoutUnits c imports).map ((Grid.ofImports imports).lines c.typeImports) := by
  have htexts := congrArg (List.map fun t => [t]) (fits_blockRows c imports).map_text
  rw [List.map_map, List.map_map] at htexts
  exact htexts.trans (map_text_expectedLines c ['\n'] imports)

lemma prefix_of_mem_blockRows {r : Stretch} (hr : r ∈ blockRows c imports) :
    "import".toList <+: r.text := by
  have hmem : r.text ∈ (blockRows c imports).map (·.text) := List.mem_map_of_mem hr
  rw [(fits_blockRows c imports).map_text] at hmem
  obtain ⟨l, hl, htext⟩ := List.mem_map.1 hmem
  exact htext ▸ prefix_of_mem_expectedLines hl

/-- Only line feeds separate the rows. -/
lemma eq_lineFeed_of_mem_gap {gap : Text} {lines : List ExpectedLine} (hgap : ∀ a ∈ gap, a = '\n') :
    ∀ r ∈ rowsOf ['\n'] gap lines, ∀ a ∈ r.gap, a = '\n' := by
  induction lines generalizing gap with
  | nil => simp [rowsOf]
  | cons l lines ih =>
    have hbreak : ∀ a ∈ lineBreak ['\n'] l.endsGroup, a = '\n' := by
      cases l.endsGroup <;> simp [lineBreak]
    intro r hr
    rcases List.mem_cons.1 hr with rfl | hr
    · exact hgap
    · exact ih hbreak r hr

end Rows

/-- The block of a layout passes a check, whatever stands before and behind it.  The units are looked at
on the rows of the block, each where its line stands; then nothing is reported, and the units are
grouped again as they were. -/
theorem check_layoutBlock (c : Config) (imports : List Declaration) (before behind : Text) :
    ∃ rows placed,
      Stretch.spell rows = layoutBlock c imports ∧
      (∀ r ∈ rows, ∀ a ∈ r.gap, a = '\n') ∧
      placed = place (layoutUnits c imports) (Stretch.spans before.byteLength rows) ∧
      placed.map (fun d => [d.span.textIn (before ++ layoutBlock c imports ++ behind)]) =
        (layoutUnits c imports).map ((Grid.ofImports imports).lines c.typeImports) ∧
      check c (before ++ layoutBlock c imports ++ behind) placed = [] ∧
      (groupImports c placed).flatMap (·.imports) = placed ∧
      (groupImports c placed).map Group.unplaced =
        (groupImports c (imports.flatMap Declaration.units)).map Group.unplaced := by
  have hrows := map_text_blockRows c imports
  have hlen : (Stretch.spans before.byteLength (blockRows c imports)).length =
      (layoutUnits c imports).length := by
    simpa using congrArg List.length hrows
  have hplaced : OnStrip (before ++ layoutBlock c imports ++ behind) before.byteLength
      (place (layoutUnits c imports) (Stretch.spans before.byteLength (blockRows c imports)))
      (blockRows c imports) behind := by
    refine ⟨?_, (map_span_place hlen).symm⟩
    rw [spell_blockRows, List.append_assoc]
    exact Text.from?_append rfl
  refine ⟨blockRows c imports, _, spell_blockRows c imports, ?_, rfl, ?_, ?_,
    map_unplaced_groupImports_place hlen⟩
  · exact eq_lineFeed_of_mem_gap (by simp)
  · have htexts := congrArg (List.map fun t => [t]) hplaced.map_textIn
    rw [List.map_map, List.map_map] at htexts
    exact htexts.trans hrows
  · rw [check, expectedLines_place ['\n'] _ hlen]
    refine (fits_blockRows c imports).checkFrom_eq_nil hplaced ?_ fun r hr =>
      prefix_of_mem_blockRows c imports hr
    intro d hd
    rw [← Declaration.length_units, units_of_mem_place (fun u hu => units_of_mem_layoutUnits hu) hd]
    rfl

end ImportGrid
