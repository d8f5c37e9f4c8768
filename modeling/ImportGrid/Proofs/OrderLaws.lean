/-
The laws of the three orders.

Texts are in a linear order that refines the order by weight (`compareText_linear`), so a list of texts
has one sorted form.  The declarations of a group are in the order of a composite key
(`sortChunk_spec`): sorting them run by run is one stable sort.  And the groups of a file divide its
declarations, in the order of their ranks (`groupImports_isDivision`).
-/
import ImportGrid.Proofs.LayoutOrder

namespace ImportGrid

open Std Collation

/-! ## Texts -/

instance : TransCmp collate :=
  inferInstanceAs (TransCmp (compareOn weightKeys))

/-- A tie is broken by code points, and nothing but a tie. -/
lemma compareText_of_collate_ne {a b : Text} (h : collate a b ≠ .eq) :
    compareText a b = collate a b := by
  rw [compareText]
  cases hc : collate a b with
  | lt => rfl
  | eq => exact absurd hc h
  | gt => rfl

/-- A list of texts has one sorted form. -/
lemma eq_mergeSort_notAfter {texts sorted : List Text} (hp : sorted.Perm texts)
    (hs : sorted.Pairwise fun a b => (compareText a b).isLE) : sorted = texts.mergeSort notAfter := by
  have hmerge : (texts.mergeSort notAfter).Pairwise fun a b => (compareText a b).isLE :=
    pairwise_stableSort compareText texts
  refine List.Perm.eq_of_pairwise ?_ hs hmerge (hp.trans (List.mergeSort_perm ..).symm)
  intro a b _ _ hab hba
  exact compareText_eq_iff.1 (OrientedCmp.isLE_antisymm hab hba)

/-- The order by weight is a total preorder, in which texts that tie stand alike to every other text.
The order of texts is a linear order that refines it: the two differ only where weights tie, and only a
text itself compares equal to it.  So a list of texts has one sorted form, whatever order its texts come
in. -/
theorem compareText_linear :
    (∀ a b, collate b a = (collate a b).swap) ∧
    (∀ a b c, (collate a b).isLE → (collate b c).isLE → (collate a c).isLE) ∧
    (∀ a b c, collate a b = .eq → collate a c = collate b c ∧ collate c a = collate c b) ∧
    (∀ a b, collate a b ≠ .eq → compareText a b = collate a b) ∧
    (∀ a b, compareText b a = (compareText a b).swap) ∧
    (∀ a b c, (compareText a b).isLE → (compareText b c).isLE → (compareText a c).isLE) ∧
    (∀ a b, (compareText a b).isLE ∨ (compareText b a).isLE) ∧
    (∀ a b, (compareText a b).isLE → (compareText b a).isLE → a = b) ∧
    (∀ a b, compareText a b = .eq ↔ a = b) ∧
    (∀ texts sorted : List Text,
      sorted.Perm texts ∧ sorted.Pairwise (fun a b => (compareText a b).isLE) ↔
        sorted = texts.mergeSort notAfter) ∧
    ∀ texts others : List Text, texts.Perm others →
      texts.mergeSort notAfter = others.mergeSort notAfter := by
  have hsort : ∀ texts : List Text, (texts.mergeSort notAfter).Perm texts ∧
      (texts.mergeSort notAfter).Pairwise fun a b => (compareText a b).isLE :=
    fun texts => ⟨List.mergeSort_perm .., pairwise_stableSort compareText texts⟩
  refine ⟨?_, ?_, ?_, ?_, ?_, ?_, ?_, ?_, ?_, ?_, ?_⟩
  · intro a b
    exact OrientedCmp.eq_swap
  · intro a b c hab hbc
    exact TransCmp.isLE_trans hab hbc
  · intro a b c hab
    exact ⟨TransCmp.congr_left hab, TransCmp.congr_right hab⟩
  · intro a b hab
    exact compareText_of_collate_ne hab
  · intro a b
    exact OrientedCmp.eq_swap
  · intro a b c hab hbc
    exact TransCmp.isLE_trans hab hbc
  · intro a b
    have htotal := @isLE_total _ compareText _ a b
    simpa using htotal
  · intro a b hab hba
    exact compareText_eq_iff.1 (OrientedCmp.isLE_antisymm hab hba)
  · intro a b
    exact compareText_eq_iff
  · intro texts sorted
    constructor
    · rintro ⟨hp, hs⟩
      exact eq_mergeSort_notAfter hp hs
    · rintro rfl
      exact hsort texts
  · intro texts others hp
    obtain ⟨hperm, hs⟩ := hsort texts
    exact eq_mergeSort_notAfter (hperm.trans hp) hs

theorem compareText_linear_fileNames :
    collate "File2".toList "file02".toList = .eq ∧
    collate "File2".toList "file10".toList = collate "file02".toList "file10".toList ∧
    ["file10".toList, "file02".toList, "File2".toList].Perm
      ["File2".toList, "file10".toList, "file02".toList] ∧
    ["file10".toList, "file02".toList, "File2".toList].mergeSort notAfter =
      ["File2".toList, "file10".toList, "file02".toList].mergeSort notAfter := by
  have htie : collate "File2".toList "file02".toList = .eq := by decide +kernel
  have hperm : ["file10".toList, "file02".toList, "File2".toList].Perm
      ["File2".toList, "file10".toList, "file02".toList] := by decide +kernel
  obtain ⟨-, -, hcongr, -, -, -, -, -, -, -, hsort⟩ := compareText_linear
  exact ⟨htie, (hcongr _ _ "file10".toList htie).1, hperm, hsort _ _ hperm⟩

/-! ## The declarations of a group -/

/-- What declarations of one group are sorted by: the module path, the place of the type, and the first
name. -/
def Declaration.chunkKey (placement : TypePlacement) (d : Declaration) : Text × Nat × Option Text :=
  (d.source, placement.rank d.isTypeOnly, d.firstName)

/-- Only declarations with the same key compare equal. -/
lemma chunkOrder_eq_iff {placement : TypePlacement} {d e : Declaration} :
    chunkOrder placement d e = .eq ↔ d.chunkKey placement = e.chunkKey placement := by
  simp only [chunkOrder, typeOrder, compareLex, Ordering.then_eq_eq, Nat.compare_eq_eq,
    compareText_eq_iff, compareName_eq_iff, Declaration.chunkKey, Prod.mk.injEq]

/-- Nothing comes between declarations from one module. -/
lemma source_eq_of_sublist {placement : TypePlacement} {chunk : List Declaration} {d e f : Declaration}
    (h : [d, e, f].Sublist (stableSort (chunkOrder placement) chunk)) (hdf : d.source = f.source) :
    e.source = d.source := by
  have hsorted := (pairwise_stableSort (chunkOrder placement) chunk).sublist h
  have hpath : ∀ a b : Declaration, (chunkOrder placement a b).isLE →
      (compareText a.source b.source).isLE := by
    intro a b hab
    unfold chunkOrder compareLex at hab
    cases hc : compareText a.source b.source <;> simp [hc] at hab ⊢
  simp only [List.pairwise_cons, List.mem_cons, List.not_mem_nil, or_false, forall_eq_or_imp,
    forall_eq] at hsorted
  obtain ⟨⟨hde, -⟩, hef, -⟩ := hsorted
  have hle := hpath d e hde
  have hge := hpath e f hef
  rw [← hdf] at hge
  exact compareText_eq_iff.1 (OrientedCmp.isLE_antisymm hge hle)

/-- Sorting a group by module path and then each run of one path by type and name is one stable sort by
the composite key: module path, place of the type, first name.  So it rearranges, a second time it
changes nothing, the declarations from one module stand together, and those with one key stand as they
were met. -/
theorem sortChunk_spec (placement : TypePlacement) (chunk : List Declaration) :
    sortChunk placement chunk =
      stableSort
        (compareLex (fun d e => compareText d.source e.source)
          (compareLex
            (fun d e => compare (placement.rank d.isTypeOnly) (placement.rank e.isTypeOnly))
            fun d e => compareName d.firstName e.firstName))
        chunk ∧
    (sortChunk placement chunk).Perm chunk ∧
    sortChunk placement (sortChunk placement chunk) = sortChunk placement chunk ∧
    (∀ d e f, [d, e, f].Sublist (sortChunk placement chunk) → d.source = f.source →
      e.source = d.source) ∧
    ∀ d : Declaration,
      (sortChunk placement chunk).filter (fun e => d.chunkKey placement = e.chunkKey placement) =
        chunk.filter fun e => d.chunkKey placement = e.chunkKey placement := by
  have hsort := sortChunk_eq_stableSort placement
  have hclass : ∀ (d : Declaration) (l : List Declaration),
      l.filter (fun e => d.chunkKey placement = e.chunkKey placement) =
        classOf (chunkOrder placement) d l := by
    intro d l
    refine List.filter_congr fun e _ => ?_
    rw [Bool.eq_iff_iff, decide_eq_true_iff, beq_iff_eq, chunkOrder_eq_iff]
  refine ⟨hsort chunk, sortChunk_perm placement chunk, ?_, ?_, ?_⟩
  · rw [hsort, hsort]
    exact stableSort_of_pairwise (pairwise_stableSort ..)
  · intro d e f h hdf
    rw [hsort] at h
    exact source_eq_of_sublist h hdf
  · intro d
    rw [hclass, hclass, hsort, classOf_stableSort]

/-- Imports from two modules whose paths differ in case only. -/
def mixedChunk : List Declaration :=
  [⟨⟨0, 19⟩, "./A".toList, "'./A'".toList, false, [⟨.defaultImport, "x".toList, false⟩], none⟩,
    ⟨⟨20, 32⟩, "./a".toList, "'./a'".toList, false, [], none⟩,
    ⟨⟨33, 57⟩, "./A".toList, "'./A'".toList, true, [⟨.defaultImport, "T".toList, false⟩], none⟩,
    ⟨⟨58, 77⟩, "./A".toList, "'./A'".toList, false, [⟨.defaultImport, "b".toList, false⟩], none⟩]

theorem sortChunk_mixedChunk :
    [mixedChunk[2], mixedChunk[3], mixedChunk[0]].Sublist (sortChunk .first mixedChunk) ∧
      mixedChunk[2].source = mixedChunk[0].source ∧ mixedChunk[3].source = mixedChunk[2].source := by
  have hperm : mixedChunk.Perm [mixedChunk[2], mixedChunk[3], mixedChunk[0], mixedChunk[1]] := by
    decide +kernel
  have hanti : ∀ a ∈ mixedChunk, ∀ b ∈ mixedChunk, (chunkOrder .first a b).isLE →
      (chunkOrder .first b a).isLE → a = b := by
    decide +kernel
  have hsorted : sortChunk .first mixedChunk =
      [mixedChunk[2], mixedChunk[3], mixedChunk[0], mixedChunk[1]] := by
    rw [sortChunk_eq_stableSort]
    refine List.Perm.eq_of_pairwise ?_ (pairwise_stableSort ..) ?_ ((stableSort_perm ..).trans hperm)
    · intro a b ha hb
      exact hanti a ((stableSort_perm ..).mem_iff.1 ha) b (hperm.mem_iff.2 hb)
    · decide +kernel
  have hsub : [mixedChunk[2], mixedChunk[3], mixedChunk[0]].Sublist (sortChunk .first mixedChunk) := by
    rw [hsorted]
    decide
  have hsource : mixedChunk[2].source = mixedChunk[0].source := rfl
  exact ⟨hsub, hsource, (sortChunk_spec .first mixedChunk).2.2.2.1 _ _ _ hsub hsource⟩

/-! ## The groups of a file -/

section Places

variable {α β : Type}

/-- If lists put together are an image, each of them is. -/
lemma exists_map_of_flatten {f : β → α} {parts : List (List α)} {l : List β}
    (h : parts.flatten = l.map f) :
    ∃ origins : List (List β), parts = origins.map (·.map f) ∧ origins.flatten = l := by
  induction parts generalizing l with
  | nil =>
    obtain rfl := List.map_eq_nil_iff.1 h.symm
    exact ⟨[], rfl, rfl⟩
  | cons part parts ih =>
    obtain ⟨front, back, rfl, rfl, hback⟩ := List.append_eq_map_iff.1 h
    obtain ⟨origins, rfl, rfl⟩ := ih hback.symm
    exact ⟨front :: origins, rfl, rfl⟩

/-- Lists that together rearrange a list hold its places, every place in one of them and once. -/
lemma exists_places {parts : List (List α)} {l : List α} (h : parts.flatten.Perm l) :
    ∃ places : List (List (Fin l.length)),
      parts = places.map (·.map l.get) ∧ places.flatten.Perm (List.finRange l.length) := by
  have hl : List.Forall₂ (fun a i => a = l.get i) l (List.finRange l.length) := by
    have hmap : l = (List.finRange l.length).map l.get := (List.map_get_finRange l).symm
    conv => arg 2; rw [hmap]
    rw [List.forall₂_map_left_iff]
    exact List.forall₂_same.2 fun _ _ => rfl
  obtain ⟨order, horder, hperm⟩ := List.perm_comp_forall₂ h hl
  have hflat : parts.flatten = order.map l.get := by
    rw [← List.forall₂_eq_eq_eq, List.forall₂_map_right_iff]
    exact horder
  obtain ⟨places, hparts, rfl⟩ := exists_map_of_flatten hflat
  exact ⟨places, hparts, hperm⟩

end Places

/-- Groups that divide the declarations of a file. -/
structure Group.IsDivision (c : Config) (imports : List Declaration) (groups : List Group) : Prop where
  /-- No group is empty. -/
  ne_nil : ∀ g ∈ groups, g.imports ≠ []
  /-- There is one group of a name. -/
  nodup : (groups.map (·.name)).Nodup
  /-- Groups stand in the order of their ranks. -/
  rank_lt : groups.Pairwise fun g h => c.groupRank g.name < c.groupRank h.name
  /-- Every place of the list of declarations is in one group, and once. -/
  places : ∃ places : List (List (Fin imports.length)),
    groups.map (·.imports) = places.map (·.map imports.get) ∧
      places.flatten.Perm (List.finRange imports.length)
  /-- A declaration is in the group that the category of its module path belongs to. -/
  imports_perm : ∀ g ∈ groups, g.imports.Perm
    (imports.filter fun d => c.resolveGroup (categorize c.matchers d.source) = g.name)

/-- There is a group of every name that is the group of a declaration. -/
lemma mem_names_groupImports (c : Config) (imports : List Declaration) (n : Text) :
    n ∈ (groupImports c imports).map (·.name) ↔ ∃ d ∈ imports, c.groupOf d.source = n := by
  obtain ⟨groups, h, -, heq⟩ := exists_isGrouping c imports
  rw [heq, List.map_map]
  exact h.mem_names n

/-- A group holds the declarations of its name. -/
lemma imports_perm_of_mem_groupImports {c : Config} {imports : List Declaration} {g : Group}
    (hg : g ∈ groupImports c imports) :
    g.imports.Perm (imports.filter fun d => c.groupOf d.source = g.name) := by
  obtain ⟨groups, h, -, heq⟩ := exists_isGrouping c imports
  rw [heq] at hg
  obtain ⟨k, hk, rfl⟩ := List.mem_map.1 hg
  refine (sortChunk_perm c.typeImports k.imports).trans ?_
  rw [h.imports_eq k hk]
  exact List.Perm.of_eq (List.filter_congr fun d _ => beq_eq_decide ..)

/-- The ranks of the groups increase. -/
lemma pairwise_groupRank_groupImports (c : Config) (imports : List Declaration) :
    (groupImports c imports).Pairwise fun g k => c.groupRank g.name < c.groupRank k.name := by
  obtain ⟨groups, h, hrank, heq⟩ := exists_isGrouping c imports
  have hname : ∀ g ∈ groups, ∃ d : Declaration, c.groupOf d.source = g.name := by
    intro g hg
    obtain ⟨d, -, hd⟩ := (h.mem_names g.name).1 (List.mem_map_of_mem hg)
    exact ⟨d, hd⟩
  rw [heq, List.pairwise_map]
  refine (hrank.and (List.pairwise_map.1 h.nodup)).imp_of_mem ?_
  rintro g k hg hk ⟨hle, hne⟩
  obtain ⟨d, hd⟩ := hname g hg
  obtain ⟨e, he⟩ := hname k hk
  refine Nat.lt_of_le_of_ne hle fun hr => hne ?_
  rw [← hd, ← he] at hr ⊢
  exact groupOf_eq_of_groupRank_eq hr

/-- The names of groups in the order of their ranks depend on which names there are, and on nothing
else. -/
lemma map_name_eq_of_mem_iff {c : Config} {groups others : List Group}
    (hg : groups.Pairwise fun g k => c.groupRank g.name < c.groupRank k.name)
    (ho : others.Pairwise fun g k => c.groupRank g.name < c.groupRank k.name)
    (h : ∀ n, n ∈ groups.map (·.name) ↔ n ∈ others.map (·.name)) :
    groups.map (·.name) = others.map (·.name) := by
  have hpair : ∀ l : List Group, (l.Pairwise fun g k => c.groupRank g.name < c.groupRank k.name) →
      (l.map (·.name)).Pairwise fun a b => c.groupRank a < c.groupRank b :=
    fun l hl => List.pairwise_map.2 hl
  have hnodup : ∀ l : List Text, (l.Pairwise fun a b => c.groupRank a < c.groupRank b) → l.Nodup := by
    intro l hl
    exact hl.imp fun {a b} hab hne => absurd hab (by simp [hne])
  refine List.Perm.eq_of_pairwise ?_ (hpair _ hg) (hpair _ ho)
    ((List.perm_ext_iff_of_nodup (hnodup _ (hpair _ hg)) (hnodup _ (hpair _ ho))).2 h)
  intro a b _ _ hab hba
  omega

/-- Grouping divides the declarations of a file, whatever matchers and whatever order of groups are
configured.  The order of the groups does not depend on the order in which the declarations are met,
because module paths have one rank exactly when they have one group. -/
theorem groupImports_isDivision (c : Config) (imports : List Declaration) :
    Group.IsDivision c imports (groupImports c imports) ∧
    (∀ others : List Declaration, others.Perm imports →
      (groupImports c others).map (·.name) = (groupImports c imports).map (·.name)) ∧
    ∀ p q : Text,
      c.groupRank (c.resolveGroup (categorize c.matchers p)) =
          c.groupRank (c.resolveGroup (categorize c.matchers q)) ↔
        c.resolveGroup (categorize c.matchers p) = c.resolveGroup (categorize c.matchers q) := by
  refine ⟨⟨?_, ?_, pairwise_groupRank_groupImports c imports, ?_, ?_⟩, ?_, ?_⟩
  · rintro g hg hnil
    obtain ⟨d, hd, hn⟩ := (mem_names_groupImports c imports g.name).1 (List.mem_map_of_mem hg)
    have hperm := imports_perm_of_mem_groupImports hg
    rw [hnil, List.nil_perm, List.filter_eq_nil_iff] at hperm
    exact hperm d hd (by simpa using hn)
  · refine List.pairwise_map.2 ((pairwise_groupRank_groupImports c imports).imp ?_)
    intro g k hlt hname
    rw [hname] at hlt
    exact Nat.lt_irrefl _ hlt
  · refine exists_places ?_
    rw [← List.flatMap_def]
    exact groupImports_perm c imports
  · intro g hg
    exact imports_perm_of_mem_groupImports hg
  · intro others hp
    refine map_name_eq_of_mem_iff (pairwise_groupRank_groupImports c others)
      (pairwise_groupRank_groupImports c imports) fun n => ?_
    rw [mem_names_groupImports, mem_names_groupImports]
    constructor
    · rintro ⟨d, hd, hn⟩
      exact ⟨d, hp.mem_iff.1 hd, hn⟩
    · rintro ⟨d, hd, hn⟩
      exact ⟨d, hp.mem_iff.2 hd, hn⟩
  · intro p q
    constructor
    · intro h
      exact groupOf_eq_of_groupRank_eq h
    · intro h
      rw [h]

/-- An order that names one group twice, one that no matcher has, and not the group `unqualified`. -/
def carelessConfig : Config :=
  { Config.default with order := ["relative", "absent", "node", "relative"].map String.toList }

/-- Imports from a file, a platform module and two packages, one of them in no group that is listed. -/
def scatteredImports : List Declaration :=
  [⟨⟨0, 12⟩, "./a".toList, "'./a'".toList, false, [], none⟩,
    ⟨⟨13, 26⟩, "react".toList, "'react'".toList, false, [], none⟩,
    ⟨⟨27, 37⟩, "fs".toList, "'fs'".toList, false, [], none⟩,
    ⟨⟨38, 52⟩, "lodash".toList, "'lodash'".toList, false, [], none⟩]

theorem groupImports_isDivision_scatteredImports :
    Group.IsDivision carelessConfig scatteredImports (groupImports carelessConfig scatteredImports) ∧
    scatteredImports.reverse.Perm scatteredImports ∧
    (groupImports carelessConfig scatteredImports.reverse).map (·.name) =
      (groupImports carelessConfig scatteredImports).map (·.name) := by
  obtain ⟨hdivision, hnames, -⟩ := groupImports_isDivision carelessConfig scatteredImports
  have hperm := scatteredImports.reverse_perm
  exact ⟨hdivision, hperm, hnames _ hperm⟩

end ImportGrid
