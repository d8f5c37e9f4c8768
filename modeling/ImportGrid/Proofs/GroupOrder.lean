/-
The normal form of the order of groups.

An order of groups answers two questions: which categories have a group of their own, and which of two
groups comes first.  Both answers depend on the first name in the order that has some property, and only
names that a group can have matter.  So orders in which all such searches find the same name give the
same groups (`groupImports_congr`).  A search does not see names that stand in the order before, nor
names of no group, and `unqualified` comes first where it is not listed.  Hence an order gives the groups
of its normal form (`groupImports_normalOrder`): every name once, names of groups only, and `unqualified`
among them.
-/
import Mathlib.Data.List.Find
import ImportGrid.Proofs.OrderLaws

namespace ImportGrid

/-! ## Searches -/

/-- Lists in which the first element with a property is the same, for all properties that only elements
that count have. -/
def SameSearch {α : Type} (counts : α → Bool) (l m : List α) : Prop :=
  ∀ p : α → Bool, (∀ a, p a = true → counts a = true) → l.find? p = m.find? p

section Search

variable {α : Type} [BEq α] [LawfulBEq α] {counts : α → Bool} {l m : List α} {a b : α}

/-- A search does not see elements that stand in the list before. -/
lemma find?_eraseDups (p : α → Bool) (l : List α) : l.eraseDups.find? p = l.find? p := by
  induction hn : l.length using Nat.strongRecOn generalizing l with
  | ind n ih =>
    cases l with
    | nil => rfl
    | cons a l =>
      have hlt : (l.filter fun b => !b == a).length < n := by
        rw [← hn, List.length_cons]
        exact Nat.lt_succ_of_le (List.length_filter_le ..)
      rw [List.eraseDups_cons, List.find?_cons, List.find?_cons, ih _ hlt _ rfl, List.find?_filter]
      cases ha : p a with
      | true => rfl
      | false =>
        refine List.find?_congr fun b _ => ?_
        by_cases hb : b = a
        · simp [hb, ha]
        · simp [hb]

lemma sameSearch_eraseDups (counts : α → Bool) (l : List α) : SameSearch counts l.eraseDups l :=
  fun p _ => find?_eraseDups p l

omit [BEq α] [LawfulBEq α] in
/-- A search does not see elements that do not count. -/
lemma sameSearch_filter (counts : α → Bool) (l : List α) : SameSearch counts (l.filter counts) l := by
  intro p hp
  rw [List.find?_filter]
  refine List.find?_congr fun a _ => ?_
  by_cases ha : p a = true
  · simp [ha, hp a ha]
  · simp [ha]

omit [BEq α] [LawfulBEq α] in
lemma SameSearch.trans {k : List α} (h : SameSearch counts k l) (h' : SameSearch counts l m) :
    SameSearch counts k m :=
  fun p hp => (h p hp).trans (h' p hp)

/-- Which elements there are is settled by searches. -/
lemma SameSearch.mem_iff (h : SameSearch counts l m) (ha : counts a = true) : a ∈ l ↔ a ∈ m := by
  have hfind := h (· == a) fun b hb => by rwa [beq_iff_eq.1 hb]
  have hmem : ∀ k : List α, a ∈ k ↔ (k.find? (· == a)).isSome = true := by simp
  rw [hmem, hmem, hfind]

/-- Which of two elements comes first is settled by a search. -/
lemma idxOf_lt_idxOf_iff (hab : a ≠ b) :
    l.idxOf a < l.idxOf b ↔ l.find? (fun x => x == a || x == b) = some a := by
  induction l with
  | nil => simp
  | cons x l ih =>
    by_cases hxa : x = a
    · simp [hxa, List.idxOf_cons_ne _ hab]
    · by_cases hxb : x = b
      · simp [hxb, Ne.symm hab]
      · rw [List.idxOf_cons_ne _ hxa, List.idxOf_cons_ne _ hxb, Nat.succ_lt_succ_iff, ih,
          List.find?_cons_of_neg (by simp [hxa, hxb])]

/-- Elements that count stand in the same order. -/
lemma SameSearch.idxOf_le_iff (h : SameSearch counts l m) (ha : counts a = true)
    (hb : counts b = true) : l.idxOf a ≤ l.idxOf b ↔ m.idxOf a ≤ m.idxOf b := by
  by_cases hab : b = a
  · rw [hab]
    exact iff_of_true (Nat.le_refl _) (Nat.le_refl _)
  · have hfind := h (fun x => x == b || x == a) fun x hx => by
      rcases (Bool.or_eq_true _ _).mp hx with hx | hx <;> rwa [beq_iff_eq.1 hx]
    rw [← Nat.not_lt, ← Nat.not_lt, idxOf_lt_idxOf_iff hab, idxOf_lt_idxOf_iff hab, hfind]

end Search

/-- Sorting compares elements of the list only. -/
lemma mergeSort_congr {α : Type} {le le' : α → α → Bool} {l : List α}
    (h : ∀ a ∈ l, ∀ b ∈ l, le a b = le' a b) : l.mergeSort le = l.mergeSort le' := by
  have hid : (l.mergeSort le).map id = (l.map id).mergeSort le' := List.map_mergeSort h
  rwa [List.map_id, List.map_id] at hid

/-! ## The groups that an order gives -/

namespace Config

/-- Whether a group can have a name: it is a matcher's name or `unqualified`. -/
def isGroupName (c : Config) (n : Text) : Bool :=
  n == unqualified || c.matchers.any (·.name == n)

/-- An order with `unqualified` in front, if it is not listed. -/
def fullOrder (order : List Text) : List Text :=
  if order.contains unqualified then order else unqualified :: order

/-- The order with every name once, only names that a group can have, and `unqualified` in front if it
is not listed. -/
def normalOrder (c : Config) : List Text := fullOrder (c.order.eraseDups.filter c.isGroupName)

lemma fullOrder_of_mem {order : List Text} (h : unqualified ∈ order) : fullOrder order = order :=
  if_pos (List.contains_iff_mem.2 h)

lemma fullOrder_of_notMem {order : List Text} (h : unqualified ∉ order) :
    fullOrder order = unqualified :: order :=
  if_neg fun hmem => h (List.contains_iff_mem.1 hmem)

lemma mem_fullOrder {n : Text} {order : List Text} :
    n ∈ fullOrder order ↔ n = unqualified ∨ n ∈ order := by
  by_cases h : unqualified ∈ order
  · rw [fullOrder_of_mem h]
    exact ⟨.inr, fun hn => hn.elim (fun e => e ▸ h) id⟩
  · rw [fullOrder_of_notMem h, List.mem_cons]

/-- Orders in which the same names are found stay so with `unqualified` in front. -/
lemma sameSearch_fullOrder {counts : Text → Bool} {order order' : List Text}
    (hcounts : counts unqualified = true) (h : SameSearch counts order order') :
    SameSearch counts (fullOrder order) (fullOrder order') := by
  intro p hp
  have hmem := h.mem_iff hcounts
  by_cases hn : unqualified ∈ order
  · rw [fullOrder_of_mem hn, fullOrder_of_mem (hmem.1 hn), h p hp]
  · rw [fullOrder_of_notMem hn, fullOrder_of_notMem fun hn' => hn (hmem.2 hn'), List.find?_cons,
      List.find?_cons, h p hp]

/-- A group is a category that is listed, or `unqualified`. -/
lemma resolveGroup_eq (c : Config) (n : Text) :
    c.resolveGroup n = if n ∈ fullOrder c.order then n else unqualified := by
  rw [resolveGroup]
  by_cases hn : n = unqualified
  · simp [hn]
  · simp [mem_fullOrder, hn]

lemma groupOf_mem_fullOrder (c : Config) (path : Text) : c.groupOf path ∈ fullOrder c.order := by
  rw [groupOf, resolveGroup_eq]
  split
  · assumption
  · exact mem_fullOrder.2 (.inl rfl)

lemma isGroupName_unqualified (c : Config) : c.isGroupName unqualified = true := by
  simp [isGroupName]

lemma isGroupName_categorize (c : Config) (path : Text) :
    c.isGroupName (categorize c.matchers path) = true := by
  unfold categorize
  split
  · next m hm =>
    have hmem : m ∈ c.matchers := List.mem_of_find?_eq_some hm
    simp only [isGroupName, Bool.or_eq_true, List.any_eq_true, beq_iff_eq]
    exact .inr ⟨m, hmem, rfl⟩
  · exact c.isGroupName_unqualified

lemma isGroupName_groupOf (c : Config) (path : Text) : c.isGroupName (c.groupOf path) = true := by
  rw [groupOf, resolveGroup]
  split
  · exact c.isGroupName_categorize path
  · exact c.isGroupName_unqualified

/-- The rank of a listed group is its place in the order, counted from one. -/
lemma groupRank_of_mem {c : Config} {n : Text} (hn : n ∈ c.order) :
    c.groupRank n = c.order.idxOf n + 1 := by
  obtain ⟨i, hi⟩ := Option.isSome_iff_exists.1 (List.isSome_idxOf?.2 hn)
  rw [groupRank, List.idxOf_eq_getD_idxOf?, hi, Option.getD_some]

/-- Groups are in the order of their places, `unqualified` in front if it is not listed. -/
lemma groupRank_le_iff {c : Config} {n k : Text} (hn : n ∈ fullOrder c.order)
    (hk : k ∈ fullOrder c.order) :
    c.groupRank n ≤ c.groupRank k ↔ (fullOrder c.order).idxOf n ≤ (fullOrder c.order).idxOf k := by
  by_cases hlisted : unqualified ∈ c.order
  · rw [fullOrder_of_mem hlisted] at hn hk ⊢
    rw [groupRank_of_mem hn, groupRank_of_mem hk, Nat.add_le_add_iff_right]
  · rw [fullOrder_of_notMem hlisted] at hn hk ⊢
    have hplace : ∀ m ∈ unqualified :: c.order, c.groupRank m = (unqualified :: c.order).idxOf m := by
      intro m hm
      by_cases hq : unqualified = m
      · subst hq
        rw [groupRank, List.idxOf?_eq_none_iff.2 hlisted, List.idxOf_cons_self]
      · have hm' : m ∈ c.order := (List.mem_cons.1 hm).resolve_left (Ne.symm hq)
        rw [groupRank_of_mem hm', List.idxOf_cons_ne _ hq]
    rw [hplace n hn, hplace k hk]

end Config

open Config

/-- Orders in which the same names of groups are found give the same groups. -/
theorem groupImports_congr {c : Config} {order : List Text}
    (h : SameSearch c.isGroupName (fullOrder order) (fullOrder c.order)) (imports : List Declaration) :
    groupImports { c with order := order } imports = groupImports c imports := by
  let d : Config := { c with order := order }
  have hgroup : d.groupOf = c.groupOf := by
    funext path
    rw [groupOf, groupOf, resolveGroup_eq, resolveGroup_eq]
    simp only [d, h.mem_iff (c.isGroupName_categorize path)]
  have hrank : ∀ p q : Text, d.groupRank (c.groupOf p) ≤ d.groupRank (c.groupOf q) ↔
      c.groupRank (c.groupOf p) ≤ c.groupRank (c.groupOf q) := by
    intro p q
    have hmem : ∀ r, c.groupOf r ∈ fullOrder d.order := fun r => hgroup ▸ d.groupOf_mem_fullOrder r
    rw [groupRank_le_iff (hmem p) (hmem q),
      groupRank_le_iff (c.groupOf_mem_fullOrder p) (c.groupOf_mem_fullOrder q)]
    exact h.idxOf_le_iff (c.isGroupName_groupOf p) (c.isGroupName_groupOf q)
  have hsort : (Group.bucket c.groupOf imports).mergeSort
        (fun g k => decide (d.groupRank g.name ≤ d.groupRank k.name)) =
      (Group.bucket c.groupOf imports).mergeSort
        fun g k => decide (c.groupRank g.name ≤ c.groupRank k.name) := by
    have hname : ∀ g ∈ Group.bucket c.groupOf imports, ∃ path, c.groupOf path = g.name := by
      intro g hg
      obtain ⟨e, -, he⟩ := ((Group.isGrouping_bucket c.groupOf imports).mem_names g.name).1
        (List.mem_map_of_mem hg)
      exact ⟨e.source, he⟩
    refine mergeSort_congr fun g hg k hk => ?_
    obtain ⟨p, hp⟩ := hname g hg
    obtain ⟨q, hq⟩ := hname k hk
    rw [decide_eq_decide, ← hp, ← hq]
    exact hrank p q
  calc groupImports d imports
      = ((Group.bucket c.groupOf imports).mergeSort fun g k =>
          decide (d.groupRank g.name ≤ d.groupRank k.name)).map
            fun g => { g with imports := sortChunk c.typeImports g.imports } := by
        rw [groupImports, hgroup]
    _ = groupImports c imports := by
        rw [hsort]
        rfl

/-- The groups of a configuration are those that the normal form of its order gives.  So a name that
stands in the order before, or that no group can have, has no effect, and leaving out `unqualified` is
listing it first. -/
theorem groupImports_normalOrder (c : Config) (imports : List Declaration) :
    groupImports { c with order := c.normalOrder } imports = groupImports c imports ∧
    (∀ (front back : List Text) (n : Text), n ∈ front ∨ c.isGroupName n = false →
      groupImports { c with order := front ++ n :: back } imports =
        groupImports { c with order := front ++ back } imports) ∧
    ∀ order : List Text, unqualified ∉ order →
      groupImports { c with order := unqualified :: order } imports =
        groupImports { c with order := order } imports := by
  have hcounts := c.isGroupName_unqualified
  refine ⟨?_, ?_, ?_⟩
  · have hnormal : SameSearch c.isGroupName (c.order.eraseDups.filter c.isGroupName) c.order :=
      (sameSearch_filter c.isGroupName _).trans (sameSearch_eraseDups c.isGroupName _)
    have hfull : fullOrder c.normalOrder = c.normalOrder :=
      fullOrder_of_mem (mem_fullOrder.2 (.inl rfl))
    refine groupImports_congr ?_ imports
    rw [hfull]
    exact sameSearch_fullOrder hcounts hnormal
  · intro front back n hn
    have hsearch : SameSearch c.isGroupName (front ++ n :: back) (front ++ back) := by
      intro p hp
      rw [List.find?_append, List.find?_append, List.find?_cons]
      cases hpn : p n with
      | false => rfl
      | true =>
        have hfront : n ∈ front := hn.resolve_right fun hnone => by simp [hp n hpn] at hnone
        obtain ⟨m, hm⟩ := Option.isSome_iff_exists.1 (List.find?_isSome.2 ⟨n, hfront, hpn⟩)
        rw [hm, Option.some_or, Option.some_or]
    exact groupImports_congr (c := { c with order := front ++ back })
      (sameSearch_fullOrder hcounts hsearch) imports
  · intro order hnot
    refine groupImports_congr (c := { c with order := order }) ?_ imports
    intro p _
    rw [fullOrder_of_mem List.mem_cons_self, fullOrder_of_notMem hnot]

theorem groupImports_normalOrder_carelessConfig :
    carelessConfig.normalOrder = ["unqualified", "relative", "node"].map String.toList ∧
    groupImports { carelessConfig with order := carelessConfig.normalOrder } scatteredImports =
      groupImports carelessConfig scatteredImports ∧
    "relative".toList ∈ ["relative", "absent", "node"].map String.toList ∧
    groupImports carelessConfig scatteredImports =
      groupImports { carelessConfig with order := ["relative", "absent", "node"].map String.toList }
        scatteredImports ∧
    carelessConfig.isGroupName "absent".toList = false ∧
    groupImports carelessConfig scatteredImports =
      groupImports { carelessConfig with order := ["relative", "node", "relative"].map String.toList }
        scatteredImports ∧
    unqualified ∉ carelessConfig.order ∧
    groupImports { carelessConfig with order := unqualified :: carelessConfig.order } scatteredImports =
      groupImports carelessConfig scatteredImports := by
  obtain ⟨hnormal, hskip, hfront⟩ := groupImports_normalOrder carelessConfig scatteredImports
  have hrepeated : "relative".toList ∈ ["relative", "absent", "node"].map String.toList := by decide
  have hunknown : carelessConfig.isGroupName "absent".toList = false := by decide +kernel
  have hunlisted : unqualified ∉ carelessConfig.order := by decide +kernel
  exact ⟨by decide +kernel, hnormal, hrepeated, hskip _ [] "relative".toList (.inl hrepeated), hunknown,
    hskip ["relative".toList] ["node".toList, "relative".toList] "absent".toList (.inr hunknown),
    hunlisted, hfront _ hunlisted⟩

end ImportGrid
