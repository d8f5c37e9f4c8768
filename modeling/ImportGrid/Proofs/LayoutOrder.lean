/-
The order of units in a layout.

Grouping and sorting put declarations into one order: by the rank of their group, then by
module path, then by type, then by the first name they bind (`layoutOrder`).  Laying out is the
stable sort by this order, cut where the group changes
(`flatMap_groupImports`).  So laying out what is laid out already changes nothing.
-/
import ImportGrid.Group
import ImportGrid.Proofs.StableSort

namespace ImportGrid

open Std Collation

/-! ## Names -/

instance : TransCmp compareText :=
  inferInstanceAs (TransCmp (compareLex (compareOn weightKeys) (compare : Text → Text → Ordering)))

/-- Only a text itself is neither before nor after it. -/
lemma compareText_eq_iff {a b : Text} : compareText a b = .eq ↔ a = b := by
  constructor
  · intro h
    rw [compareText, Ordering.then_eq_eq] at h
    exact LawfulEqOrd.eq_of_compare h.2
  · rintro rfl
    exact compareText_self a

lemma compareName_eq_iff {a b : Option Text} : compareName a b = .eq ↔ a = b := by
  cases a with
  | none => cases b <;> simp [compareName]
  | some a =>
    cases b with
    | none => simp [compareName]
    | some b => simpa [compareName] using compareText_eq_iff

instance : OrientedCmp compareName where
  eq_swap {a b} := by
    have hswap : ∀ x y : Text, compareText x y = (compareText y x).swap := fun _ _ =>
      OrientedCmp.eq_swap
    cases a <;> cases b <;> simp only [compareName, Ordering.swap_eq, Ordering.swap_lt, Ordering.swap_gt]
    exact hswap _ _

instance : TransCmp compareName where
  isLE_trans {a b c} hab hbc := by
    cases a <;> cases b <;> cases c <;> simp_all [compareName]
    exact TransCmp.isLE_trans hab hbc

/-- Comparing by a key is as lawful as comparing the keys. -/
instance transCmp_comap {α β : Type} (cmp : β → β → Ordering) [TransCmp cmp] (key : α → β) :
    TransCmp fun a b => cmp (key a) (key b) where
  eq_swap := OrientedCmp.eq_swap
  isLE_trans := TransCmp.isLE_trans

/-! ## Types and names -/

section ByType

variable {α : Type}

/-- Where the policy puts types and values: a smaller number comes first. -/
def TypePlacement.rank : TypePlacement → Bool → Nat
  | .first, isType => if isType then 0 else 1
  | .last, isType => if isType then 1 else 0
  | .ignore, _ => 0

lemma TypePlacement.rank_eq_iff {placement : TypePlacement} {a b : Bool} :
    placement.rank a = placement.rank b ↔
      (placement != .ignore && a) = (placement != .ignore && b) := by
  cases placement <;> cases a <;> cases b <;> decide

/-- The order of the declarations from one module, or of the specifiers of one declaration. -/
def typeOrder (placement : TypePlacement) (isType : α → Bool) (name : α → Option Text) :
    α → α → Ordering :=
  compareLex (fun a b => compare (placement.rank (isType a)) (placement.rank (isType b)))
    fun a b => compareName (name a) (name b)

instance (placement : TypePlacement) (isType : α → Bool) (name : α → Option Text) :
    TransCmp (typeOrder placement isType name) :=
  inferInstanceAs (TransCmp (compareLex _ _))

/-- The two parts of a list under a test, each sorted, are the list sorted by the test first. -/
lemma stableSort_append_stableSort (cmp : α → α → Ordering) [TransCmp cmp] (rank : Bool → Nat)
    (hr : rank true < rank false) (p : α → Bool) (items : List α) :
    stableSort cmp (items.filter p) ++ stableSort cmp (items.filter (!p ·)) =
      stableSort (compareLex (fun a b => compare (rank (p a)) (rank (p b))) cmp) items := by
  have hrank : ∀ x y : Bool, (compare (rank x) (rank y) == .eq) = (x == y) := by
    have hne : rank true ≠ rank false := hr.ne
    intro x y
    cases x <;> cases y <;> simp [hne, hne.symm]
  have hperm : [items.filter p, items.filter (!p ·)].flatten.Perm items := by
    simpa using List.filter_append_perm p items
  have hparts := flatMap_stableSort (fun a b => compare (rank (p a)) (rank (p b))) cmp hperm
    (by
      intro a
      simp only [List.flatten_cons, List.flatten_nil, List.append_nil, classOf, hrank,
        List.filter_append, List.filter_filter]
      cases p a <;> simp)
    (by
      intro q hq a ha b hb
      simp only [List.mem_cons, List.not_mem_nil, or_false] at hq
      rcases hq with rfl | rfl <;> simp_all)
    (by
      simp only [List.pairwise_cons, List.mem_cons, List.not_mem_nil, or_false, forall_eq,
        false_implies, implies_true, List.Pairwise.nil, and_true]
      intro a ha b hb
      have hpa : p a = true := (List.mem_filter.1 ha).2
      have hpb : p b = false := by simpa using (List.mem_filter.1 hb).2
      rw [hpa, hpb]
      exact Nat.compare_eq_lt.2 hr)
  simpa using hparts

/-- Sorting by type and name is one stable sort. -/
theorem orderByType_eq_stableSort (placement : TypePlacement) (isType : α → Bool)
    (name : α → Option Text) (items : List α) :
    orderByType placement isType name items =
      stableSort (typeOrder placement isType name) items := by
  cases placement with
  | first => exact stableSort_append_stableSort _ TypePlacement.first.rank (by decide) _ _
  | last =>
    have := stableSort_append_stableSort (fun a b => compareName (name a) (name b))
      (fun b => TypePlacement.last.rank (!b)) (by decide) (!isType ·) items
    simp only [Bool.not_not] at this
    exact this
  | ignore =>
    have hignore : typeOrder .ignore isType name = fun a b => compareName (name a) (name b) := by
      funext a b
      simp [typeOrder, compareLex, TypePlacement.rank]
    rw [hignore]
    rfl

end ByType

/-! ## One group -/

/-- The order of the declarations of one group. -/
def chunkOrder (placement : TypePlacement) : Declaration → Declaration → Ordering :=
  compareLex (fun d e => compareText d.source e.source)
    (typeOrder placement Declaration.isTypeOnly Declaration.firstName)

instance (placement : TypePlacement) : TransCmp (chunkOrder placement) :=
  inferInstanceAs (TransCmp (compareLex _ _))

/-- The runs of a sorted list come in strictly increasing order. -/
lemma pairwise_lt_of_isChain {α : Type} {cmp : α → α → Ordering} [TransCmp cmp]
    {runs : List (List α)} (hsorted : runs.flatten.Pairwise fun a b => (cmp a b).isLE)
    (heq : ∀ p ∈ runs, ∀ a ∈ p, ∀ b ∈ p, cmp a b = .eq)
    (hchain : runs.IsChain fun p q => ∃ hp hq, cmp (p.getLast hp) (q.head hq) ≠ .eq) :
    runs.Pairwise fun p q => ∀ a ∈ p, ∀ b ∈ q, cmp a b = .lt := by
  induction runs with
  | nil => exact List.Pairwise.nil
  | cons p runs ih =>
    rw [List.flatten_cons, List.pairwise_append] at hsorted
    obtain ⟨-, hrest, hcross⟩ := hsorted
    refine List.pairwise_cons.2 ⟨?_, ih hrest (fun q hq => heq q (by simp [hq])) hchain.tail⟩
    intro q hq a ha b hb
    cases runs with
    | nil => simp at hq
    | cons r runs =>
      -- up to the head of the next run the order is strict, and behind it never falls
      obtain ⟨hp, hr, hne⟩ := hchain.rel
      have hlast : cmp a (p.getLast hp) = .eq := heq p (by simp) a ha _ (List.getLast_mem hp)
      have hhead := hcross (p.getLast hp) (List.getLast_mem hp) (r.head hr) (by simp)
      have hlt : cmp a (r.head hr) = .lt := by
        rw [TransCmp.congr_left hlast]
        cases h : cmp (p.getLast hp) (r.head hr) <;> simp_all
      have hle : (cmp (r.head hr) b).isLE := by
        rcases List.mem_cons.1 hq with rfl | hq
        · exact Ordering.isLE_of_eq_eq (heq q (by simp) _ (List.head_mem hr) b hb)
        · rw [List.flatten_cons, List.pairwise_append] at hrest
          exact hrest.2.2 _ (List.head_mem hr) b (List.mem_flatten_of_mem hq hb)
      exact TransCmp.lt_of_lt_of_isLE hlt hle

/-- Sorting a group by path and its runs by type and name is one stable sort. -/
theorem sortChunk_eq_stableSort (placement : TypePlacement) (chunk : List Declaration) :
    sortChunk placement chunk = stableSort (chunkOrder placement) chunk := by
  let byPath : Declaration → Declaration → Ordering := fun d e => compareText d.source e.source
  let runs := (stableSort byPath chunk).splitBy fun d e => d.source == e.source
  have hflat : runs.flatten = stableSort byPath chunk := List.flatten_splitBy ..
  have heq : ∀ p ∈ runs, ∀ d ∈ p, ∀ e ∈ p, byPath d e = .eq := by
    intro p hp d hd e he
    have hchain : p.IsChain fun x y => x.source = y.source :=
      (List.isChain_of_mem_splitBy hp).imp fun {x y} hxy => by simpa using hxy
    have hpair : p.Pairwise fun x y => x.source = y.source :=
      List.isChain_iff_pairwise.1 hchain
    have hall := List.Pairwise.forall_of_forall_of_flip
      (R := fun x y : Declaration => x.source = y.source) (fun _ _ => rfl) hpair (hpair.imp Eq.symm)
    exact compareText_eq_iff.2 (hall hd he)
  have hrun : sortChunk placement chunk =
      runs.flatMap (stableSort (typeOrder placement Declaration.isTypeOnly Declaration.firstName)) :=
    List.flatMap_congr fun p _ => orderByType_eq_stableSort ..
  rw [hrun]
  refine flatMap_stableSort byPath _ ?_ ?_ heq ?_
  · rw [hflat]
    exact stableSort_perm ..
  · intro a
    rw [hflat, classOf_stableSort]
  · refine pairwise_lt_of_isChain ?_ heq ?_
    · rw [hflat]
      exact pairwise_stableSort ..
    · refine (List.isChain_getLast_head_splitBy _ _).imp ?_
      rintro p q ⟨hp, hq, h⟩
      exact ⟨hp, hq, fun he => by simp [compareText_eq_iff.1 he] at h⟩

/-- Sorting a group rearranges it. -/
lemma sortChunk_perm (placement : TypePlacement) (chunk : List Declaration) :
    (sortChunk placement chunk).Perm chunk :=
  sortChunk_eq_stableSort placement chunk ▸ stableSort_perm ..

/-! ## Groups -/

namespace Group

lemma insert_of_notMem {n : Text} {d : Declaration} {groups : List Group}
    (h : n ∉ groups.map (·.name)) : insert n d groups = groups ++ [⟨n, [d]⟩] := by
  induction groups with
  | nil => rfl
  | cons g groups ih =>
    simp only [List.map_cons, List.mem_cons, not_or] at h
    rw [insert, if_neg (Ne.symm h.1), ih h.2, List.cons_append]

lemma insert_of_mem {n : Text} {d : Declaration} {groups : List Group}
    (hn : (groups.map (·.name)).Nodup) (h : n ∈ groups.map (·.name)) :
    insert n d groups =
      groups.map fun g => if g.name = n then { g with imports := g.imports ++ [d] } else g := by
  induction groups with
  | nil => simp at h
  | cons g groups ih =>
    rw [List.map_cons, List.nodup_cons] at hn
    rw [insert, List.map_cons]
    by_cases hg : g.name = n
    · have hrest : ∀ x ∈ groups,
          (if x.name = n then { x with imports := x.imports ++ [d] } else x) = x := by
        intro x hx
        refine if_neg fun hxn => hn.1 ?_
        rw [hg, ← hxn]
        exact List.mem_map_of_mem hx
      rw [if_pos hg, if_pos hg, List.map_congr_left hrest, List.map_id']
    · have hmem : n ∈ groups.map (·.name) := by
        simpa [Ne.symm hg] using h
      rw [if_neg hg, if_neg hg, ih hn.2 hmem]

/-- Groups that hold all declarations, each in the one group of its name and in the order
given. -/
structure IsGrouping (groupOf : Text → Text) (imports : List Declaration) (groups : List Group) :
    Prop where
  nodup : (groups.map (·.name)).Nodup
  mem_names : ∀ n, n ∈ groups.map (·.name) ↔ ∃ d ∈ imports, groupOf d.source = n
  imports_eq : ∀ g ∈ groups, g.imports = imports.filter fun d => groupOf d.source == g.name

/-- The order of the groups does not matter. -/
lemma IsGrouping.perm {groupOf : Text → Text} {imports : List Declaration} {groups others : List Group}
    (h : IsGrouping groupOf imports groups) (hp : others.Perm groups) :
    IsGrouping groupOf imports others where
  nodup := (hp.map _).nodup_iff.2 h.nodup
  mem_names n := ((hp.map _).mem_iff).trans (h.mem_names n)
  imports_eq g hg := h.imports_eq g (hp.mem_iff.1 hg)

/-- Adding a declaration behind the others adds it to its group. -/
lemma IsGrouping.insert {groupOf : Text → Text} {imports : List Declaration} {groups : List Group}
    (h : IsGrouping groupOf imports groups) (d : Declaration) :
    IsGrouping groupOf (imports ++ [d]) (insert (groupOf d.source) d groups) := by
  have hnames : ∀ n, (n = groupOf d.source ∨ n ∈ groups.map (·.name)) ↔
      ∃ e ∈ imports ++ [d], groupOf e.source = n := by
    intro n
    rw [h.mem_names]
    simp only [List.mem_append, List.mem_singleton, or_and_right, exists_or, exists_eq_left]
    rw [or_comm, eq_comm]
  have hother : ∀ g : Group, g.name ≠ groupOf d.source →
      (imports ++ [d]).filter (fun e => groupOf e.source == g.name) =
        imports.filter fun e => groupOf e.source == g.name := by
    intro g hg
    simp [List.filter_append, Ne.symm hg]
  by_cases hd : groupOf d.source ∈ groups.map (·.name)
  · rw [insert_of_mem h.nodup hd]
    have hmap : (groups.map fun g => if g.name = groupOf d.source then
        { g with imports := g.imports ++ [d] } else g).map (·.name) = groups.map (·.name) := by
      rw [List.map_map]
      refine List.map_congr_left fun g _ => ?_
      simp only [Function.comp_apply]
      split <;> rfl
    refine ⟨hmap ▸ h.nodup, fun n => ?_, fun g hg => ?_⟩
    · rw [hmap, ← hnames]
      exact ⟨.inr, fun hn => hn.elim (fun e => e ▸ hd) id⟩
    · obtain ⟨b, hb, rfl⟩ := List.mem_map.1 hg
      by_cases hn : b.name = groupOf d.source
      · simp [hn, h.imports_eq b hb]
      · rw [if_neg hn, hother b hn, h.imports_eq b hb]
  · rw [insert_of_notMem hd]
    refine ⟨?_, fun n => ?_, fun g hg => ?_⟩
    · rw [List.map_append, List.nodup_append]
      refine ⟨h.nodup, by simp, ?_⟩
      rintro a ha b hb rfl
      have hname : a = groupOf d.source := List.mem_singleton.1 hb
      exact hd (hname ▸ ha)
    · rw [← hnames, List.map_append, List.mem_append, or_comm]
      simp
    · rcases List.mem_append.1 hg with hg | hg
      · rw [hother g fun hn => hd (hn ▸ List.mem_map_of_mem hg), h.imports_eq g hg]
      · obtain rfl := List.mem_singleton.1 hg
        have hempty : imports.filter (fun e => groupOf e.source == groupOf d.source) = [] :=
          List.filter_eq_nil_iff.2 fun e he heq =>
            hd ((h.mem_names _).2 ⟨e, he, by simpa using heq⟩)
        simp [hempty]

lemma isGrouping_bucket (groupOf : Text → Text) (imports : List Declaration) :
    IsGrouping groupOf imports (bucket groupOf imports) := by
  induction imports using List.reverseRecOn with
  | nil => exact ⟨List.nodup_nil, by simp [bucket], by simp [bucket]⟩
  | append_singleton imports d ih =>
    rw [bucket, List.foldl_append]
    exact ih.insert d

namespace IsGrouping

variable {groupOf : Text → Text} {imports : List Declaration} {groups : List Group}

lemma groupOf_eq (h : IsGrouping groupOf imports groups) {g : Group} (hg : g ∈ groups)
    {d : Declaration} (hd : d ∈ g.imports) : groupOf d.source = g.name := by
  rw [h.imports_eq g hg] at hd
  simpa using (List.mem_filter.1 hd).2

/-- In all groups together, the declarations of one name are those that are given. -/
lemma filter_flatMap (h : IsGrouping groupOf imports groups) (n : Text) :
    (groups.flatMap (·.imports)).filter (fun d => groupOf d.source == n) =
      imports.filter fun d => groupOf d.source == n := by
  have hself : ∀ g ∈ groups, g.imports.filter (fun d => groupOf d.source == n) =
      if g.name = n then imports.filter (fun d => groupOf d.source == n) else [] := by
    intro g hg
    rw [h.imports_eq g hg, List.filter_filter]
    split
    · next hn => simp [hn]
    · next hn =>
      refine List.filter_eq_nil_iff.2 fun d _ hd => hn ?_
      simp only [Bool.and_eq_true, beq_iff_eq] at hd
      rw [← hd.2, hd.1]
  rw [List.filter_flatMap, List.flatMap_congr hself]
  by_cases hn : n ∈ groups.map (·.name)
  · obtain ⟨g, hg, rfl⟩ := List.mem_map.1 hn
    obtain ⟨front, back, rfl⟩ := List.append_of_mem hg
    have hnodup := h.nodup
    rw [List.map_append, List.map_cons, List.nodup_append, List.nodup_cons] at hnodup
    obtain ⟨-, ⟨hback, -⟩, hfront⟩ := hnodup
    have hnil : ∀ part : List Group, (∀ x ∈ part, x.name ≠ g.name) →
        (part.flatMap fun x => if x.name = g.name then
          imports.filter (fun d => groupOf d.source == g.name) else []) = [] :=
      fun part hpart => List.flatMap_eq_nil_iff.2 fun x hx => if_neg (hpart x hx)
    rw [List.flatMap_append, List.flatMap_cons, if_pos rfl,
      hnil front fun x hx => hfront _ (List.mem_map_of_mem hx) _ (by simp),
      hnil back fun x hx hxg => hback (hxg ▸ List.mem_map_of_mem hx)]
    simp
  · have hnone : imports.filter (fun d => groupOf d.source == n) = [] :=
      List.filter_eq_nil_iff.2 fun d hd hdn => hn ((h.mem_names n).2 ⟨d, hd, by simpa using hdn⟩)
    rw [hnone]
    simp

/-- The groups hold every declaration once. -/
lemma flatMap_perm (h : IsGrouping groupOf imports groups) :
    (groups.flatMap (·.imports)).Perm imports := by
  rw [List.perm_iff_count]
  intro d
  have hfilter := congrArg (List.count d) (h.filter_flatMap (groupOf d.source))
  rwa [List.count_filter (by simp), List.count_filter (by simp)] at hfilter

end IsGrouping

end Group

/-- Groups that occur have different ranks: at most one of them is not listed. -/
lemma groupOf_eq_of_groupRank_eq {c : Config} {p q : Text}
    (h : c.groupRank (c.groupOf p) = c.groupRank (c.groupOf q)) : c.groupOf p = c.groupOf q := by
  have hunlisted : ∀ r, c.order.idxOf? (c.groupOf r) = none → c.groupOf r = unqualified := by
    intro r hr
    rw [List.idxOf?_eq_none_iff] at hr
    unfold Config.groupOf Config.resolveGroup at hr ⊢
    split at hr <;> simp_all
  unfold Config.groupRank at h
  cases hp : c.order.idxOf? (c.groupOf p) with
  | none =>
    cases hq : c.order.idxOf? (c.groupOf q) with
    | none => rw [hunlisted p hp, hunlisted q hq]
    | some j => simp [hp, hq] at h
  | some i =>
    cases hq : c.order.idxOf? (c.groupOf q) with
    | none => simp [hp, hq] at h
    | some j =>
      obtain rfl : i = j := by simpa [hp, hq] using h
      obtain ⟨_, hpi, -⟩ := List.idxOf?_eq_some_iff.1 hp
      obtain ⟨_, hqi, -⟩ := List.idxOf?_eq_some_iff.1 hq
      rw [← hpi, ← hqi]

/-! ## All groups -/

/-- The order of all declarations of a file. -/
def layoutOrder (c : Config) : Declaration → Declaration → Ordering :=
  compareLex
    (fun d e => compare (c.groupRank (c.groupOf d.source)) (c.groupRank (c.groupOf e.source)))
    (chunkOrder c.typeImports)

instance (c : Config) : TransCmp (layoutOrder c) :=
  inferInstanceAs (TransCmp (compareLex _ _))

/-- The groups of a layout, before each is sorted. -/
lemma exists_isGrouping (c : Config) (imports : List Declaration) :
    ∃ groups, Group.IsGrouping c.groupOf imports groups ∧
      groups.Pairwise (fun g h => c.groupRank g.name ≤ c.groupRank h.name) ∧
      groupImports c imports =
        groups.map fun g => { g with imports := sortChunk c.typeImports g.imports } := by
  refine ⟨_, (Group.isGrouping_bucket c.groupOf imports).perm (List.mergeSort_perm _ _), ?_, rfl⟩
  refine (List.pairwise_mergeSort ?_ ?_ _).imp fun {g h} hgh => of_decide_eq_true hgh
  · simp only [decide_eq_true_eq]
    intro a b d hab hbd
    exact hab.trans hbd
  · simp only [Bool.or_eq_true, decide_eq_true_eq]
    intro a b
    exact Nat.le_total ..

/-- Grouping and sorting is one stable sort. -/
theorem flatMap_groupImports (c : Config) (imports : List Declaration) :
    (groupImports c imports).flatMap (·.imports) = stableSort (layoutOrder c) imports := by
  obtain ⟨groups, h, hrank, heq⟩ := exists_isGrouping c imports
  have hparts : (groupImports c imports).flatMap (·.imports) =
      (groups.map (·.imports)).flatMap (stableSort (chunkOrder c.typeImports)) := by
    rw [heq, List.flatMap_map, List.flatMap_map]
    exact List.flatMap_congr fun g _ => sortChunk_eq_stableSort ..
  rw [hparts]
  refine flatMap_stableSort _ _ ?perm (fun d => ?classes) ?same ?order
  case perm => simpa [List.flatMap_def] using h.flatMap_perm
  case classes =>
    have hkey : ∀ e : Declaration,
        (compare (c.groupRank (c.groupOf d.source)) (c.groupRank (c.groupOf e.source)) == .eq) =
          (c.groupOf e.source == c.groupOf d.source) := by
      intro e
      rw [Bool.eq_iff_iff, beq_iff_eq, beq_iff_eq, Nat.compare_eq_eq]
      exact ⟨fun hr => (groupOf_eq_of_groupRank_eq hr).symm, fun he => by rw [he]⟩
    simp only [classOf, hkey, ← List.flatMap_def]
    exact h.filter_flatMap _
  case same =>
    intro p hp d hd e he
    obtain ⟨g, hg, rfl⟩ := List.mem_map.1 hp
    rw [h.groupOf_eq hg hd, h.groupOf_eq hg he, Nat.compare_eq_eq]
  case order =>
    have hne : groups.Pairwise fun g h => g.name ≠ h.name := List.pairwise_map.1 h.nodup
    refine List.pairwise_map.2 ((hrank.and hne).imp_of_mem ?_)
    rintro g k hg hk ⟨hle, hne⟩ d hd e he
    rw [← h.groupOf_eq hg hd, ← h.groupOf_eq hk he] at hle hne
    have hlt : c.groupRank (c.groupOf d.source) ≠ c.groupRank (c.groupOf e.source) :=
      fun hr => hne (groupOf_eq_of_groupRank_eq hr)
    exact Nat.compare_eq_lt.2 (by omega)

/-- Laying out rearranges. -/
lemma groupImports_perm (c : Config) (imports : List Declaration) :
    ((groupImports c imports).flatMap (·.imports)).Perm imports :=
  flatMap_groupImports c imports ▸ stableSort_perm ..

end ImportGrid
