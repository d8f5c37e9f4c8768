/-
The lines of a layout.

The layout of declarations has one line for every unit (`map_text_expectedLines`), on the grid that
the declarations and their units share (`Grid.ofImports_units`).  A line ends its group when
the next one belongs to another group (`expectedLines_eq_markGroups`).  Nothing of this depends on
where the declarations stand or how else they differ from what is printed of them, so units that are
laid out already have the layout that they were dealt from (`expectedLines_of_alike`).
-/
import ImportGrid.Proofs.LayoutOrder
import ImportGrid.Rule

namespace ImportGrid

/-! ## One line for every unit -/

namespace Group

lemma map_text_expectedLines (render : Declaration → Text) (units : List Declaration) :
    (expectedLines render units).map (·.text) = units.map render := by
  fun_induction expectedLines render units with
  | case1 => rfl
  | case2 => rfl
  | case3 u v rest ih =>
    rw [List.map_cons, ih]
    rfl

end Group

namespace Grid

/-- A declaration is laid out on as many lines as it has units. -/
@[simp] lemma length_lines (g : Grid) (placement : TypePlacement) (d : Declaration) :
    (g.lines placement d).length = d.unitCount := by
  have hlen := (orderByType_perm placement (fun s => d.typeOnly || s.typeOnly)
    (fun s => some s.name) d.specifiers).length_eq
  unfold lines Declaration.isSideEffect Declaration.unitCount
  cases hs : d.specifiers with
  | nil => simp
  | cons s rest =>
    rw [hs] at hlen
    simp [Declaration.orderedSpecifiers, hs, hlen]

/-- A unit is laid out on one line. -/
lemma exists_lines_eq_singleton {d u : Declaration} (hu : u ∈ d.units) (g : Grid)
    (placement : TypePlacement) : ∃ line, g.lines placement u = [line] := by
  refine List.length_eq_one_iff.1 ?_
  rw [length_lines, ← Declaration.length_units, Declaration.units_of_mem_units hu]
  rfl

end Grid

/-- The units of declarations in the order of the layout. -/
def layoutUnits (c : Config) (imports : List Declaration) : List Declaration :=
  (groupImports c (imports.flatMap Declaration.units)).flatMap (·.imports)

lemma layoutUnits_perm (c : Config) (imports : List Declaration) :
    (layoutUnits c imports).Perm (imports.flatMap Declaration.units) :=
  groupImports_perm ..

lemma exists_of_mem_layoutUnits {c : Config} {imports : List Declaration} {u : Declaration}
    (h : u ∈ layoutUnits c imports) : ∃ d ∈ imports, u ∈ d.units :=
  List.mem_flatMap.1 ((layoutUnits_perm c imports).mem_iff.1 h)

/-- The expected lines are the lines of the units. -/
lemma map_text_expectedLines (c : Config) (newline : Text) (imports : List Declaration) :
    (expectedLines c newline imports).map (fun l => [l.text]) =
      (layoutUnits c imports).map ((Grid.ofImports imports).lines c.typeImports) := by
  have htext : (expectedLines c newline imports).map (·.text) = (layoutUnits c imports).map
      fun u => Text.joinWith newline ((Grid.ofImports imports).lines c.typeImports u) := by
    simp only [expectedLines, layoutUnits, List.map_flatMap, Group.map_text_expectedLines]
  have hsingle : (expectedLines c newline imports).map (fun l => [l.text]) =
      ((expectedLines c newline imports).map (·.text)).map fun t => [t] := by simp
  rw [hsingle, htext, List.map_map]
  refine List.map_congr_left fun u hu => ?_
  obtain ⟨d, -, hud⟩ := exists_of_mem_layoutUnits hu
  obtain ⟨line, hline⟩ := Grid.exists_lines_eq_singleton hud (Grid.ofImports imports) c.typeImports
  simp [hline]

/-- Every expected line is the line of a unit. -/
lemma exists_of_mem_expectedLines {c : Config} {newline : Text} {imports : List Declaration}
    {l : ExpectedLine} (h : l ∈ expectedLines c newline imports) :
    ∃ d ∈ imports, ∃ u ∈ d.units, (Grid.ofImports imports).lines c.typeImports u = [l.text] := by
  have hmem : [l.text] ∈ (expectedLines c newline imports).map fun l => [l.text] :=
    List.mem_map_of_mem h
  rw [map_text_expectedLines] at hmem
  obtain ⟨u, hu, hline⟩ := List.mem_map.1 hmem
  obtain ⟨d, hd, hud⟩ := exists_of_mem_layoutUnits hu
  exact ⟨d, hd, u, hud, hline⟩

/-- There is one expected line for every unit, so none is left when all are dealt out. -/
lemma length_expectedLines (c : Config) (newline : Text) (imports : List Declaration) :
    (expectedLines c newline imports).length = (imports.flatMap Declaration.units).length := by
  have hlen := congrArg List.length (map_text_expectedLines c newline imports)
  rw [List.length_map, List.length_map] at hlen
  rw [hlen, (layoutUnits_perm c imports).length_eq]

/-! ## The grid of units -/

namespace Grid

lemma foldl_max_le_iff {α : Type} (f : α → Nat) (l : List α) (w m : Nat) :
    l.foldl (fun w a => max w (f a)) w ≤ m ↔ w ≤ m ∧ ∀ a ∈ l, f a ≤ m := by
  induction l generalizing w with
  | nil => simp
  | cons a l ih =>
    rw [List.foldl_cons, ih, Nat.max_le, List.forall_mem_cons, and_assoc]

/-- The width of the grid is the least one that all specifiers fit in. -/
lemma nameWidth_le_iff {imports : List Declaration} {m : Nat} :
    (ofImports imports).nameWidth ≤ m ↔ ∀ d ∈ imports, ∀ s ∈ d.specifiers, s.text.length ≤ m := by
  simp only [ofImports, widest, foldl_max_le_iff, Nat.zero_le, true_and,
    Declaration.printedSpecifiers, List.forall_mem_map, PrintedSpecifier.width, Specifier.printed_text]

lemma hasTypes_iff {imports : List Declaration} :
    (ofImports imports).hasTypes = true ↔ ∃ d ∈ imports, d.hasTypeMarker = true := by
  simp [ofImports]

/-- A grid is measured declaration by declaration. -/
lemma ofImports_eq (imports : List Declaration) :
    ofImports imports = ⟨(imports.map fun d => widest d.printedSpecifiers).foldl max 0,
      (imports.map Declaration.hasTypeMarker).any id⟩ := by
  rw [List.foldl_map, List.any_map]
  rfl

/-- Grids with the same specifiers and markers are the same. -/
lemma ofImports_congr {imports others : List Declaration}
    (hw : ∀ m, (∀ d ∈ imports, ∀ s ∈ d.specifiers, s.text.length ≤ m) ↔
      ∀ d ∈ others, ∀ s ∈ d.specifiers, s.text.length ≤ m)
    (ht : (∃ d ∈ imports, d.hasTypeMarker = true) ↔ ∃ d ∈ others, d.hasTypeMarker = true) :
    ofImports imports = ofImports others := by
  have hwidth : (ofImports imports).nameWidth = (ofImports others).nameWidth := by
    refine Nat.le_antisymm ?_ ?_
    · rw [nameWidth_le_iff, hw, ← nameWidth_le_iff]
    · rw [nameWidth_le_iff, ← hw, ← nameWidth_le_iff]
  have htypes : (ofImports imports).hasTypes = (ofImports others).hasTypes := by
    rw [Bool.eq_iff_iff, hasTypes_iff, hasTypes_iff, ht]
  calc ofImports imports = ⟨(ofImports imports).nameWidth, (ofImports imports).hasTypes⟩ := rfl
    _ = ofImports others := by rw [hwidth, htypes]

lemma ofImports_perm {imports others : List Declaration} (h : imports.Perm others) :
    ofImports imports = ofImports others :=
  ofImports_congr (fun m => by simp only [h.mem_iff]) (by simp only [h.mem_iff])

end Grid

/-- The units of a declaration have its specifiers. -/
lemma Declaration.forall_units_iff {d : Declaration} {m : Nat} :
    (∀ u ∈ d.units, ∀ s ∈ u.specifiers, s.text.length ≤ m) ↔
      ∀ s ∈ d.specifiers, s.text.length ≤ m := by
  by_cases hs : d.specifiers = []
  · simp [units_of_specifiers_eq_nil hs]
  · rw [units_of_specifiers_ne_nil hs, List.forall_mem_map]
    simp only [unit, List.mem_singleton, forall_eq]
    rfl

/-- A marker is pushed down to some unit, and comes from there. -/
lemma Declaration.exists_units_iff {d : Declaration} :
    (∃ u ∈ d.units, u.hasTypeMarker = true) ↔ d.hasTypeMarker = true := by
  cases hs : d.specifiers with
  | nil => simp [units_of_specifiers_eq_nil hs]
  | cons s rest =>
    rw [units_of_specifiers_ne_nil (by simp [hs]), hs]
    cases ht : d.typeOnly
    · simp [unit, hasTypeMarker, ht, hs]
    · simp [unit, hasTypeMarker, ht]

/-- Splitting declarations into units leaves the grid as it is. -/
theorem Grid.ofImports_units (imports : List Declaration) :
    Grid.ofImports (imports.flatMap Declaration.units) = Grid.ofImports imports := by
  refine ofImports_congr (fun m => ?_) ?_
  · constructor
    · intro h d hd
      rw [← Declaration.forall_units_iff]
      exact fun u hu => h u (List.mem_flatMap_of_mem hd hu)
    · intro h u hu
      obtain ⟨d, hd, hud⟩ := List.mem_flatMap.1 hu
      exact Declaration.forall_units_iff.2 (h d hd) u hud
  · constructor
    · rintro ⟨u, hu, ht⟩
      obtain ⟨d, hd, hud⟩ := List.mem_flatMap.1 hu
      exact ⟨d, hd, Declaration.exists_units_iff.1 ⟨u, hud, ht⟩⟩
    · rintro ⟨d, hd, ht⟩
      obtain ⟨u, hud, hu⟩ := Declaration.exists_units_iff.2 ht
      exact ⟨u, List.mem_flatMap_of_mem hd hud, hu⟩

lemma ofImports_layoutUnits (c : Config) (imports : List Declaration) :
    Grid.ofImports (layoutUnits c imports) = Grid.ofImports imports :=
  (Grid.ofImports_perm (layoutUnits_perm c imports)).trans (Grid.ofImports_units imports)

/-! ## The ends of groups -/

/-- Lines, each with the name of its group, marked where a group ends. -/
def markGroups : List (Text × Text) → List ExpectedLine
  | [] => []
  | [p] => [⟨p.1, true⟩]
  | p :: q :: rest => ⟨p.1, p.2 != q.2⟩ :: markGroups (q :: rest)

/-- The line of a unit, with the name of its group. -/
def groupedLine (c : Config) (g : Grid) (u : Declaration) : Text × Text :=
  ((g.lines c.typeImports u).flatten, c.groupOf u.source)

/-- A group and other groups behind it, which another one leads. -/
lemma markGroups_append {render : Declaration → Text} {groupOf : Declaration → Text}
    {units : List Declaration} {n : Text} {rest : List (Text × Text)} (hne : units ≠ [])
    (hu : ∀ u ∈ units, groupOf u = n) (hr : ∀ p ∈ rest.head?, p.2 ≠ n) :
    markGroups (units.map (fun u => (render u, groupOf u)) ++ rest) =
      Group.expectedLines render units ++ markGroups rest := by
  fun_induction Group.expectedLines render units with
  | case1 => exact absurd rfl hne
  | case2 u =>
    have hun := hu u (by simp)
    cases rest with
    | nil => rfl
    | cons p rest =>
      have hp : n ≠ p.2 := (hr p (by simp)).symm
      simp [markGroups, hun, hp]
  | case3 u v units ih =>
    have hun := hu u (by simp)
    have hvn := hu v (by simp)
    have hrest := ih (by simp) fun w hw => hu w (by simp [hw])
    simp only [List.map_cons, List.cons_append] at hrest ⊢
    rw [markGroups, hrest, hun, hvn, bne_self_eq_false]

/-- The lines of groups, marked group by group. -/
lemma flatMap_expectedLines (render groupOf : Declaration → Text) {groups : List Group}
    (hne : ∀ g ∈ groups, g.imports ≠ [])
    (hg : ∀ g ∈ groups, ∀ u ∈ g.imports, groupOf u = g.name) (hn : (groups.map (·.name)).Nodup) :
    groups.flatMap (fun g => Group.expectedLines render g.imports) =
      markGroups ((groups.flatMap (·.imports)).map fun u => (render u, groupOf u)) := by
  induction groups with
  | nil => rfl
  | cons g groups ih =>
    rw [List.map_cons, List.nodup_cons] at hn
    have hrest := ih (fun k hk => hne k (by simp [hk])) (fun k hk => hg k (by simp [hk])) hn.2
    rw [List.flatMap_cons, List.flatMap_cons, List.map_append, hrest]
    refine (markGroups_append (hne g (by simp)) (hg g (by simp)) fun p hp => ?_).symm
    obtain ⟨u, hu, rfl⟩ := List.mem_map.1 (List.mem_of_mem_head? hp)
    obtain ⟨k, hk, huk⟩ := List.mem_flatMap.1 hu
    show groupOf u ≠ g.name
    rw [hg k (by simp [hk]) u huk]
    exact fun h => hn.1 (h ▸ List.mem_map_of_mem hk)

/-- The groups of a layout are not empty and have names of their own. -/
lemma groupImports_spec (c : Config) (imports : List Declaration) :
    (∀ g ∈ groupImports c imports, g.imports ≠ []) ∧
      (∀ g ∈ groupImports c imports, ∀ u ∈ g.imports, c.groupOf u.source = g.name) ∧
      ((groupImports c imports).map (·.name)).Nodup := by
  obtain ⟨groups, h, -, heq⟩ := exists_isGrouping c imports
  rw [heq, List.map_map]
  refine ⟨?_, ?_, h.nodup⟩
  · intro k hk
    obtain ⟨g, hg, rfl⟩ := List.mem_map.1 hk
    obtain ⟨d, hd, hname⟩ := (h.mem_names g.name).1 (List.mem_map_of_mem hg)
    have hmem : d ∈ g.imports := by
      rw [h.imports_eq g hg]
      simp [hd, hname]
    exact List.ne_nil_of_mem ((sortChunk_perm ..).mem_iff.2 hmem)
  · intro k hk u hu
    obtain ⟨g, hg, rfl⟩ := List.mem_map.1 hk
    exact h.groupOf_eq hg ((sortChunk_perm ..).mem_iff.1 hu)

/-- The layout is the lines of the units, marked where the group changes. -/
theorem expectedLines_eq_markGroups (c : Config) (newline : Text) (imports : List Declaration) :
    expectedLines c newline imports =
      markGroups ((layoutUnits c imports).map (groupedLine c (Grid.ofImports imports))) := by
  obtain ⟨hne, hg, hn⟩ := groupImports_spec c (imports.flatMap Declaration.units)
  have hmark := flatMap_expectedLines
    (fun u => Text.joinWith newline ((Grid.ofImports imports).lines c.typeImports u))
    (fun u => c.groupOf u.source) hne hg hn
  rw [expectedLines, hmark]
  refine congrArg markGroups (List.map_congr_left fun u hu => ?_)
  obtain ⟨d, -, hud⟩ := exists_of_mem_layoutUnits hu
  obtain ⟨line, hline⟩ := Grid.exists_lines_eq_singleton hud (Grid.ofImports imports) c.typeImports
  simp [groupedLine, hline]

/-! ## Units in other places -/

/-- A declaration that stands somewhere else. -/
def Declaration.moved (d : Declaration) (s : Span) : Declaration := { d with span := s }

/-- Declarations with the spans of other places. -/
def place (imports : List Declaration) (spans : List Span) : List Declaration :=
  List.zipWith Declaration.moved imports spans

/-- What relates declarations to others wherever they stand relates them in other places. -/
lemma forall₂_place {α : Type} {R : Declaration → α → Prop} (hR : ∀ d a s, R d a → R (d.moved s) a)
    {imports : List Declaration} {l : List α} (h : List.Forall₂ R imports l) {spans : List Span}
    (hl : spans.length = imports.length) : List.Forall₂ R (place imports spans) l := by
  induction h generalizing spans with
  | nil => exact .nil
  | @cons d a imports l hd _ ih =>
    obtain ⟨s, spans, rfl⟩ := List.exists_cons_of_length_eq_add_one hl
    exact .cons (hR d a s hd) (ih (by simpa using hl))

lemma map_eq_of_forall₂ {α β : Type} {R : α → α → Prop} {f : α → β} {l l' : List α}
    (h : List.Forall₂ R l l') (hf : ∀ a ∈ l', ∀ b, R b a → f b = f a) : l.map f = l'.map f := by
  induction h with
  | nil => rfl
  | @cons b a l l' hab _ ih =>
    rw [List.map_cons, List.map_cons, hf a (by simp) b hab,
      ih fun e he => hf e (List.mem_cons_of_mem a he)]

/-- What does not depend on where a declaration stands is the same in other places. -/
lemma map_place {β : Type} {f : Declaration → β} (hf : ∀ d s, f (d.moved s) = f d)
    {imports : List Declaration} {spans : List Span} (hl : spans.length = imports.length) :
    (place imports spans).map f = imports.map f :=
  map_eq_of_forall₂
    (forall₂_place (R := fun d e => f d = f e) (fun d _ s h => (hf d s).trans h)
      (List.forall₂_same.2 fun _ _ => rfl) hl)
    fun _ _ _ h => h

/-- Where declarations stand has no influence on their grid. -/
lemma ofImports_place {imports : List Declaration} {spans : List Span}
    (hl : spans.length = imports.length) :
    Grid.ofImports (place imports spans) = Grid.ofImports imports := by
  rw [Grid.ofImports_eq, map_place (fun _ _ => rfl) hl, map_place (fun _ _ => rfl) hl,
    ← Grid.ofImports_eq]

lemma map_span_place {imports : List Declaration} {spans : List Span}
    (hl : spans.length = imports.length) : (place imports spans).map (·.span) = spans := by
  induction imports generalizing spans with
  | nil =>
    obtain rfl := List.length_eq_zero_iff.1 hl
    rfl
  | cons d imports ih =>
    obtain ⟨s, spans, rfl⟩ := List.exists_cons_of_length_eq_add_one hl
    exact congrArg (s :: ·) (ih (by simpa using hl))

@[simp] lemma Declaration.units_moved (d : Declaration) (s : Span) :
    (d.moved s).units = d.units.map (·.moved s) := by
  by_cases hs : d.specifiers = []
  · rw [units_of_specifiers_eq_nil hs, units_of_specifiers_eq_nil (show (d.moved s).specifiers = [] from hs)]
    rfl
  · rw [units_of_specifiers_ne_nil hs, units_of_specifiers_ne_nil (show (d.moved s).specifiers ≠ [] from hs),
      List.map_map]
    rfl

lemma units_of_mem_layoutUnits {c : Config} {imports : List Declaration} {u : Declaration}
    (h : u ∈ layoutUnits c imports) : u.units = [u] := by
  obtain ⟨d, -, hud⟩ := exists_of_mem_layoutUnits h
  exact Declaration.units_of_mem_units hud

/-- Units are not split any further where they are placed. -/
lemma units_of_mem_place {imports : List Declaration} {spans : List Span} {d : Declaration}
    (h : ∀ u ∈ imports, u.units = [u]) (hd : d ∈ place imports spans) : d.units = [d] := by
  obtain ⟨i, hi, rfl⟩ := List.mem_iff_getElem.1 hd
  simp only [place, List.getElem_zipWith, Declaration.units_moved]
  rw [h _ (List.getElem_mem _)]
  rfl

/-! ## Declarations that are laid out alike -/

namespace Declaration

/-- Declarations that look the same in a layout: the module, what is printed of the bindings, and
whether all of it is marked as a type. -/
structure Alike (d e : Declaration) : Prop where
  source : d.source = e.source
  sourceClause : d.sourceClause = e.sourceClause
  names : d.specifiers.map (·.name) = e.specifiers.map (·.name)
  printed : d.printedSpecifiers = e.printedSpecifiers
  typeOnly : d.isTypeOnly = e.isTypeOnly

lemma alike_moved (d : Declaration) (s : Span) : (d.moved s).Alike d := ⟨rfl, rfl, rfl, rfl, rfl⟩

/-- A declaration with at most one binding is alone among its units. -/
lemma exists_units_eq {d : Declaration} (h : d.specifiers.length ≤ 1) :
    ∃ u, d.units = [u] ∧ u.Alike d := by
  match hs : d.specifiers with
  | [] => exact ⟨d, units_of_specifiers_eq_nil hs, rfl, rfl, rfl, rfl, rfl⟩
  | [s] =>
    have hmarker : (d.typeOnly || (s.typeOnly || d.typeOnly)) = (d.typeOnly || s.typeOnly) := by
      cases d.typeOnly <;> simp
    refine ⟨d.unit s, by rw [units_of_specifiers_ne_nil (by simp [hs]), hs]; rfl, rfl, rfl, ?_, ?_, ?_⟩
    · simp [unit, hs]
    · simp [unit, printedSpecifiers, hs, Specifier.printed, Specifier.text, hmarker]
    · simp [unit, isTypeOnly, hs, hmarker]
  | _ :: _ :: _ => simp [hs] at h

lemma length_specifiers_of_units_eq {d u : Declaration} (h : d.units = [u]) :
    d.specifiers.length ≤ 1 := by
  have hlen := congrArg List.length h
  rw [length_units, unitCount, List.length_singleton] at hlen
  omega

lemma hasTypeMarker_eq_isTypeOnly {d : Declaration} (h : d.specifiers.length ≤ 1) :
    d.hasTypeMarker = d.isTypeOnly := by
  match hs : d.specifiers with
  | [] => simp [hasTypeMarker, isTypeOnly, hs]
  | [s] => simp [hasTypeMarker, isTypeOnly, hs]
  | _ :: _ :: _ => simp [hs] at h

/-- A single binding is printed as it is written. -/
lemma orderedSpecifiers_eq_printedSpecifiers {d : Declaration} (h : d.specifiers.length ≤ 1)
    (placement : TypePlacement) : d.orderedSpecifiers placement = d.printedSpecifiers := by
  have hperm := orderByType_perm placement (fun s => d.typeOnly || s.typeOnly) (fun s => some s.name)
    d.specifiers
  rw [orderedSpecifiers, printedSpecifiers]
  match hs : d.specifiers with
  | [] =>
    rw [hs] at hperm
    rw [List.perm_nil.1 hperm]
  | [s] =>
    rw [hs] at hperm
    rw [List.perm_singleton.1 hperm]
  | _ :: _ :: _ => simp [hs] at h

namespace Alike

variable {d e f : Declaration}

lemma trans (h : d.Alike e) (h' : e.Alike f) : d.Alike f :=
  ⟨h.source.trans h'.source, h.sourceClause.trans h'.sourceClause, h.names.trans h'.names,
    h.printed.trans h'.printed, h.typeOnly.trans h'.typeOnly⟩

lemma length_specifiers (h : d.Alike e) : d.specifiers.length = e.specifiers.length := by
  simpa using congrArg List.length h.names

lemma hasTypeMarker (h : d.Alike e) (he : e.specifiers.length ≤ 1) :
    d.hasTypeMarker = e.hasTypeMarker := by
  rw [hasTypeMarker_eq_isTypeOnly he, hasTypeMarker_eq_isTypeOnly (h.length_specifiers.trans_le he),
    h.typeOnly]

lemma firstName (h : d.Alike e) : d.firstName = e.firstName := by
  rw [Declaration.firstName, Declaration.firstName, ← List.head?_map, ← List.head?_map, h.names]

lemma layoutOrder_eq {c : Config} {d' e' : Declaration} (h : d.Alike e) (h' : d'.Alike e') :
    layoutOrder c d d' = layoutOrder c e e' := by
  simp only [layoutOrder, chunkOrder, typeOrder, compareLex, h.source, h'.source, h.firstName,
    h'.firstName, h.typeOnly, h'.typeOnly]

lemma lines_eq (h : d.Alike e) (he : e.specifiers.length ≤ 1) (g : Grid) (placement : TypePlacement) :
    g.lines placement d = g.lines placement e := by
  have hside : d.isSideEffect = e.isSideEffect := by
    rw [Bool.eq_iff_iff, isSideEffect, isSideEffect, List.isEmpty_iff_length_eq_zero,
      List.isEmpty_iff_length_eq_zero, h.length_specifiers]
  rw [Grid.lines, Grid.lines, hside, h.sourceClause, orderedSpecifiers_eq_printedSpecifiers he,
    orderedSpecifiers_eq_printedSpecifiers (h.length_specifiers.trans_le he), h.printed]

end Alike

end Declaration

namespace Grid

variable (g : Grid) (placement : TypePlacement) {d : Declaration}

/-- The line of a declaration that binds nothing. -/
lemma lines_of_eq_nil (hs : d.specifiers = []) :
    g.lines placement d = [g.sideEffectLine d.sourceClause] := by
  have hside : d.isSideEffect = true := by
    simp [Declaration.isSideEffect, hs]
  rw [lines, if_pos hside]

/-- The line of a declaration with a single binding. -/
lemma lines_of_eq_singleton {b : Specifier} (hs : d.specifiers = [b]) :
    g.lines placement d = [g.specifierLine d.sourceClause (b.printed d.typeOnly)] := by
  have hside : ¬ d.isSideEffect = true := by
    simp [Declaration.isSideEffect, hs]
  rw [lines, if_neg hside, Declaration.orderedSpecifiers_eq_printedSpecifiers (by simp [hs]),
    Declaration.printedSpecifiers, hs]
  rfl

end Grid

section Alike

variable {c : Config} {imports others units : List Declaration}

/-- Declarations that are alike the units of a layout have units that are. -/
lemma forall₂_units (h : List.Forall₂ Declaration.Alike others units)
    (hu : ∀ u ∈ units, u.specifiers.length ≤ 1) :
    List.Forall₂ Declaration.Alike (others.flatMap Declaration.units) units := by
  induction h with
  | nil => exact .nil
  | @cons d u others units hd _ ih =>
    obtain ⟨v, hv, hvd⟩ := Declaration.exists_units_eq (hd.length_specifiers.trans_le (hu u (by simp)))
    rw [List.flatMap_cons, hv]
    exact .cons (hvd.trans hd) (ih fun w hw => hu w (by simp [hw]))

/-- The order does not tell declarations apart that are alike. -/
lemma pairwise_of_alike (h : List.Forall₂ Declaration.Alike others units)
    (hsorted : units.Pairwise fun d e => (layoutOrder c d e).isLE) :
    others.Pairwise fun d e => (layoutOrder c d e).isLE := by
  induction h with
  | nil => exact List.Pairwise.nil
  | @cons d u others units hd hrest ih =>
    rw [List.pairwise_cons] at hsorted ⊢
    refine ⟨fun e he => ?_, ih hsorted.2⟩
    obtain ⟨i, hi, rfl⟩ := List.mem_iff_getElem.1 he
    have hi' : i < units.length := hrest.length_eq ▸ hi
    have horder : layoutOrder c d others[i] = layoutOrder c u units[i] :=
      hd.layoutOrder_eq (hrest.get hi hi')
    rw [horder]
    exact hsorted.1 _ (List.getElem_mem hi')

lemma length_specifiers_of_mem_layoutUnits {u : Declaration} (h : u ∈ layoutUnits c imports) :
    u.specifiers.length ≤ 1 :=
  Declaration.length_specifiers_of_units_eq (units_of_mem_layoutUnits h)

/-- Declarations that are alike the units of a layout, one by one, are laid out as these are. -/
lemma layoutUnits_of_alike (h : List.Forall₂ Declaration.Alike others (layoutUnits c imports)) :
    layoutUnits c others = others.flatMap Declaration.units := by
  have hunits := forall₂_units h fun u => length_specifiers_of_mem_layoutUnits
  have hsorted : (layoutUnits c imports).Pairwise fun d e => (layoutOrder c d e).isLE := by
    rw [layoutUnits, flatMap_groupImports]
    exact pairwise_stableSort ..
  rw [layoutUnits, flatMap_groupImports]
  exact stableSort_of_pairwise (pairwise_of_alike hunits hsorted)

/-- Declarations that are alike have the same grid, if none has more than one binding. -/
lemma Grid.ofImports_of_alike (h : List.Forall₂ Declaration.Alike others units)
    (hu : ∀ u ∈ units, u.specifiers.length ≤ 1) : Grid.ofImports others = Grid.ofImports units := by
  rw [Grid.ofImports_eq, map_eq_of_forall₂ h fun u _ d hd => congrArg Grid.widest hd.printed,
    map_eq_of_forall₂ h fun u hmem d hd => hd.hasTypeMarker (hu u hmem), ← Grid.ofImports_eq]

lemma ofImports_of_alike (h : List.Forall₂ Declaration.Alike others (layoutUnits c imports)) :
    Grid.ofImports others = Grid.ofImports imports :=
  (Grid.ofImports_of_alike h fun _ => length_specifiers_of_mem_layoutUnits).trans
    (ofImports_layoutUnits c imports)

/-- Declarations that are alike the units of a layout have the layout that these come from. -/
theorem expectedLines_of_alike (newline newline' : Text)
    (h : List.Forall₂ Declaration.Alike others (layoutUnits c imports)) :
    expectedLines c newline' others = expectedLines c newline imports := by
  rw [expectedLines_eq_markGroups, expectedLines_eq_markGroups, layoutUnits_of_alike h,
    ofImports_of_alike h]
  refine congrArg markGroups (map_eq_of_forall₂
    (forall₂_units h fun u => length_specifiers_of_mem_layoutUnits) fun u hu d hd => ?_)
  rw [groupedLine, groupedLine, hd.source, hd.lines_eq (length_specifiers_of_mem_layoutUnits hu)]

/-- Units that are laid out have the layout that they come from, wherever they are placed. -/
theorem expectedLines_place {spans : List Span} (newline newline' : Text)
    (hl : spans.length = (layoutUnits c imports).length) :
    expectedLines c newline' (place (layoutUnits c imports) spans) =
      expectedLines c newline imports := by
  have halike : List.Forall₂ Declaration.Alike (layoutUnits c imports) (layoutUnits c imports) :=
    List.forall₂_same.2 fun u _ => ⟨rfl, rfl, rfl, rfl, rfl⟩
  exact expectedLines_of_alike newline newline'
    (forall₂_place (fun d _ s h => (d.alike_moved s).trans h) halike hl)

end Alike

end ImportGrid
