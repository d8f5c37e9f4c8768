/-
Stable sorting by a comparison.

The stable sort of a list is the only sorted list in which every class of elements that compare
equal stands as it stands in the list (`eq_stableSort`).  From this follows how a sort by two
keys is put together from sorts by one (`flatMap_stableSort`): cut the list into its classes
under the first key, in order, and sort every class by the second.
-/
import Mathlib.Data.List.Perm.Basic
import Mathlib.Data.List.SplitBy
import Mathlib.Order.Compare
import Mathlib.Tactic.Common

namespace ImportGrid

open Std

variable {α : Type} {cmp cmp₁ cmp₂ : α → α → Ordering}

/-- The stable sort of a list by a comparison. -/
def stableSort (cmp : α → α → Ordering) (l : List α) : List α :=
  l.mergeSort fun a b => (cmp a b).isLE

/-- The elements of a list that compare equal to a given one, in the order of the list. -/
def classOf (cmp : α → α → Ordering) (a : α) (l : List α) : List α :=
  l.filter fun b => cmp a b == .eq

@[simp] lemma mem_classOf {a b : α} {l : List α} : b ∈ classOf cmp a l ↔ b ∈ l ∧ cmp a b = .eq := by
  simp [classOf]

lemma stableSort_perm (cmp : α → α → Ordering) (l : List α) : (stableSort cmp l).Perm l :=
  List.mergeSort_perm ..

lemma stableSort_of_pairwise {l : List α} (h : l.Pairwise fun a b => (cmp a b).isLE) :
    stableSort cmp l = l :=
  List.mergeSort_of_pairwise h

section Order

variable [TransCmp cmp]

lemma isLE_total (a b : α) : ((cmp a b).isLE || (cmp b a).isLE) = true := by
  have hswap : cmp b a = (cmp a b).swap := OrientedCmp.eq_swap
  rw [hswap]
  cases cmp a b <;> rfl

lemma pairwise_stableSort (cmp : α → α → Ordering) [TransCmp cmp] (l : List α) :
    (stableSort cmp l).Pairwise fun a b => (cmp a b).isLE :=
  List.pairwise_mergeSort (fun _ _ _ => TransCmp.isLE_trans) isLE_total l

/-- Sorting leaves every class as it is. -/
lemma classOf_stableSort (a : α) (l : List α) :
    classOf cmp a (stableSort cmp l) = classOf cmp a l := by
  have hclass : (classOf cmp a l).Pairwise fun b c => (cmp b c).isLE := by
    refine List.pairwise_of_forall_mem_list fun b hb c hc => ?_
    have hba := OrientedCmp.eq_symm (mem_classOf.1 hb).2
    exact Ordering.isLE_of_eq_eq (TransCmp.eq_trans hba (mem_classOf.1 hc).2)
  have hsub : (classOf cmp a l).Sublist (stableSort cmp l) :=
    List.sublist_mergeSort (fun _ _ _ => TransCmp.isLE_trans) isLE_total hclass
      List.filter_sublist
  have hsub' : (classOf cmp a l).Sublist (classOf cmp a (stableSort cmp l)) := by
    simpa [classOf] using hsub.filter fun b => cmp a b == .eq
  exact (hsub'.eq_of_length ((stableSort_perm cmp l).symm.filter _).length_eq).symm

/-- Two sorted lists with the same classes are the same. -/
lemma eq_of_classOf_eq {l m : List α} (hl : l.Pairwise fun a b => (cmp a b).isLE)
    (hm : m.Pairwise fun a b => (cmp a b).isLE) (hp : l.Perm m)
    (hc : ∀ a, classOf cmp a l = classOf cmp a m) : l = m := by
  induction l generalizing m with
  | nil => exact hp.nil_eq
  | cons a l ih =>
    obtain ⟨b, m, rfl⟩ := List.exists_cons_of_length_eq_add_one hp.length_eq.symm
    -- both first elements are least, so they are of one class and lead it
    have hle : ∀ {c : α} {k : List α}, (c :: k).Pairwise (fun a b => (cmp a b).isLE) →
        ∀ x ∈ c :: k, (cmp c x).isLE := by
      intro c k h x hx
      rcases List.mem_cons.1 hx with rfl | hx
      · exact Ordering.isLE_of_eq_eq ReflCmp.compare_self
      · exact (List.pairwise_cons.1 h).1 x hx
    have hab : cmp a b = .eq := by
      have h1 := hle hl b (hp.mem_iff.2 (by simp))
      have h2 := hle hm a (hp.mem_iff.1 (by simp))
      exact OrientedCmp.isLE_antisymm h1 h2
    have hhead := hc a
    simp only [classOf, List.filter_cons, hab, ReflCmp.compare_self, beq_self_eq_true, if_true,
      List.cons.injEq] at hhead
    obtain ⟨rfl, -⟩ := hhead
    refine congrArg (a :: ·) (ih hl.tail hm.tail (hp.cons_inv) fun x => ?_)
    have := hc x
    simp only [classOf, List.filter_cons] at this ⊢
    split at this
    · exact (List.cons.inj this).2
    · exact this

/-- The stable sort is the sorted list with the classes of the list. -/
theorem eq_stableSort {l m : List α} (hm : m.Pairwise fun a b => (cmp a b).isLE)
    (hp : m.Perm l) (hc : ∀ a, classOf cmp a m = classOf cmp a l) : m = stableSort cmp l :=
  eq_of_classOf_eq hm (pairwise_stableSort cmp l) (hp.trans (stableSort_perm cmp l).symm) fun a => by
    rw [hc, classOf_stableSort]

/-- Lists with the same elements and the same classes are sorted to the same list. -/
lemma stableSort_congr {l m : List α} (hp : l.Perm m) (hc : ∀ a, classOf cmp a l = classOf cmp a m) :
    stableSort cmp l = stableSort cmp m :=
  eq_stableSort (pairwise_stableSort cmp l) ((stableSort_perm cmp l).trans hp) fun a => by
    rw [classOf_stableSort, hc]

end Order

/-! ## Two keys -/

/-- A class under two keys is a class under the second in one under the first. -/
lemma classOf_compareLex (a : α) (l : List α) :
    classOf (compareLex cmp₁ cmp₂) a l = classOf cmp₂ a (classOf cmp₁ a l) := by
  rw [classOf, classOf, classOf, List.filter_filter]
  refine List.filter_congr fun b _ => ?_
  rw [Bool.eq_iff_iff]
  simp [and_comm]

/-- Sorting a class by the second key leaves its classes under both keys as they are. -/
lemma classOf_compareLex_stableSort [TransCmp cmp₁] [TransCmp cmp₂] {p : List α}
    (h : ∀ a ∈ p, ∀ b ∈ p, cmp₁ a b = .eq) (a : α) :
    classOf (compareLex cmp₁ cmp₂) a (stableSort cmp₂ p) = classOf (compareLex cmp₁ cmp₂) a p := by
  have hmem : ∀ {b : α}, b ∈ stableSort cmp₂ p → b ∈ p := fun hb =>
    (stableSort_perm cmp₂ p).mem_iff.1 hb
  rw [classOf_compareLex, classOf_compareLex]
  by_cases ha : ∃ x ∈ p, cmp₁ a x = .eq
  · obtain ⟨x, hx, hax⟩ := ha
    have hall : ∀ b ∈ p, cmp₁ a b = .eq := fun b hb => TransCmp.eq_trans hax (h x hx b hb)
    have hp : classOf cmp₁ a p = p := List.filter_eq_self.2 fun b hb => by simp [hall b hb]
    have hs : classOf cmp₁ a (stableSort cmp₂ p) = stableSort cmp₂ p :=
      List.filter_eq_self.2 fun b hb => by simp [hall b (hmem hb)]
    rw [hp, hs, classOf_stableSort]
  · have hp : classOf cmp₁ a p = [] :=
      List.filter_eq_nil_iff.2 fun b hb hab => ha ⟨b, hb, by simpa using hab⟩
    have hs : classOf cmp₁ a (stableSort cmp₂ p) = [] :=
      List.filter_eq_nil_iff.2 fun b hb hab => ha ⟨b, hmem hb, by simpa using hab⟩
    rw [hp, hs]

/-- Sorting by two keys is cutting into classes under the first and sorting each by the second. -/
theorem flatMap_stableSort (cmp₁ cmp₂ : α → α → Ordering) [TransCmp cmp₁] [TransCmp cmp₂]
    {parts : List (List α)} {l : List α}
    (hp : parts.flatten.Perm l) (hc : ∀ a, classOf cmp₁ a parts.flatten = classOf cmp₁ a l)
    (heq : ∀ p ∈ parts, ∀ a ∈ p, ∀ b ∈ p, cmp₁ a b = .eq)
    (hlt : parts.Pairwise fun p q => ∀ a ∈ p, ∀ b ∈ q, cmp₁ a b = .lt) :
    parts.flatMap (stableSort cmp₂) = stableSort (compareLex cmp₁ cmp₂) l := by
  have hmem : ∀ {p : List α} {b : α}, b ∈ stableSort cmp₂ p → b ∈ p := fun hb =>
    (stableSort_perm cmp₂ _).mem_iff.1 hb
  refine eq_stableSort ?sorted ?perm fun a => ?classes
  case sorted =>
    refine List.pairwise_flatMap.2 ⟨fun p hpp => ?_, hlt.imp fun h a ha b hb => ?_⟩
    · refine (pairwise_stableSort cmp₂ p).imp_of_mem fun {a b} ha hb hab => ?_
      rw [compareLex, heq p hpp a (hmem ha) b (hmem hb)]
      exact hab
    · rw [compareLex, h a (hmem ha) b (hmem hb)]
      rfl
  case perm =>
    refine List.Perm.trans ?_ hp
    rw [← List.flatMap_id']
    exact List.Perm.flatMap_left parts fun p _ => stableSort_perm cmp₂ p
  case classes =>
    have hparts : classOf (compareLex cmp₁ cmp₂) a (parts.flatMap (stableSort cmp₂)) =
        classOf (compareLex cmp₁ cmp₂) a parts.flatten := by
      rw [classOf, List.filter_flatMap, classOf, ← List.flatMap_id', List.filter_flatMap]
      exact List.flatMap_congr fun p hpp => classOf_compareLex_stableSort (heq p hpp) a
    rw [hparts, classOf_compareLex, hc, ← classOf_compareLex]

end ImportGrid
