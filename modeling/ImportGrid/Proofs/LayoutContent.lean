/-
What a layout depends on.

Units are laid out by what they import (`Declaration.content`): where they stand, which of them were
written in one declaration, and whether a marker stood on the declaration or on the binding has no
influence.  The order of the layout leaves open only how units with the same key come
(`Content.sortKey`), and there the layout keeps the order in which they are written.  So two files with
the same units, in which units of one key are in the same order, have the same layout
(`expectedLines_eq_of_content`).
-/
import ImportGrid.Proofs.ImportedContent
import ImportGrid.Proofs.OrderLaws
import ImportGrid.Proofs.UnitLines

namespace ImportGrid

open Std Collation

/-! ## The order of contents -/

namespace Declaration.Content

/-- The first name that is bound. -/
def firstName (k : Content) : Option Text := k.bindings.head?.map (·.2)

/-- What the order of a layout looks at: the module path, the first name, and, unless the policy ignores
it, whether it is for types only. -/
def sortKey (placement : TypePlacement) (k : Content) : Text × Option Text × Bool :=
  (k.source, k.firstName, placement != .ignore && k.typeOnly)

/-- The order of contents in a layout. -/
def order (c : Config) : Content → Content → Ordering :=
  compareLex (fun k m => compare (c.groupRank (c.groupOf k.source)) (c.groupRank (c.groupOf m.source)))
    (compareLex (fun k m => compareText k.source m.source)
      (compareLex (fun k m => compare (c.typeImports.rank k.typeOnly) (c.typeImports.rank m.typeOnly))
        fun k m => compareName k.firstName m.firstName))

instance (c : Config) : TransCmp (order c) :=
  inferInstanceAs (TransCmp (compareLex _ (compareLex _ (compareLex _ _))))

lemma firstName_content (d : Declaration) : d.content.firstName = d.firstName := by
  simp only [firstName, content, Declaration.firstName, List.head?_map, Option.map_map]
  rfl

/-- Declarations are ordered by their contents. -/
lemma layoutOrder_eq (c : Config) (d e : Declaration) :
    layoutOrder c d e = order c d.content e.content := by
  simp only [layoutOrder, chunkOrder, typeOrder, order, compareLex, firstName_content]
  rfl

/-- The order tells contents apart whose keys differ, and no others. -/
lemma order_eq_iff {c : Config} {k m : Content} :
    order c k m = .eq ↔ k.sortKey c.typeImports = m.sortKey c.typeImports := by
  simp only [order, compareLex, Ordering.then_eq_eq, Nat.compare_eq_eq, compareText_eq_iff,
    compareName_eq_iff, TypePlacement.rank_eq_iff, sortKey, Prod.mk.injEq]
  constructor
  · rintro ⟨-, hsource, htypes, hname⟩
    exact ⟨hsource, hname, htypes⟩
  · rintro ⟨hsource, hname, htypes⟩
    exact ⟨by rw [hsource], hsource, htypes, hname⟩

/-- The contents of a layout are sorted. -/
lemma map_content_layoutUnits (c : Config) (imports : List Declaration) :
    (layoutUnits c imports).map content =
      stableSort (order c) ((imports.flatMap Declaration.units).map content) := by
  rw [layoutUnits, flatMap_groupImports, stableSort, stableSort]
  refine List.map_mergeSort fun d _ e _ => ?_
  rw [layoutOrder_eq]

/-- Contents of one key that are in the same order in two lists make the same class there. -/
lemma classOf_eq {c : Config} {l m : List Content} (hp : l.Perm m)
    (h : ∀ k ∈ l, l.filter (fun a => a.sortKey c.typeImports = k.sortKey c.typeImports) =
      m.filter fun a => a.sortKey c.typeImports = k.sortKey c.typeImports) (k : Content) :
    classOf (order c) k l = classOf (order c) k m := by
  have hclass : ∀ n : List Content, classOf (order c) k n =
      n.filter fun a => a.sortKey c.typeImports = k.sortKey c.typeImports := by
    intro n
    refine List.filter_congr fun a _ => ?_
    rw [Bool.eq_iff_iff, beq_iff_eq, order_eq_iff, decide_eq_true_iff, eq_comm]
  rw [hclass, hclass]
  by_cases hk : ∃ b ∈ l, b.sortKey c.typeImports = k.sortKey c.typeImports
  · obtain ⟨b, hb, hkey⟩ := hk
    rw [← hkey]
    exact h b hb
  · -- no content of that key is in either list
    have hnil : ∀ n : List Content, (∀ b ∈ n, b ∈ l) →
        n.filter (fun a => a.sortKey c.typeImports = k.sortKey c.typeImports) = [] := by
      intro n hn
      refine List.filter_eq_nil_iff.2 fun b hb hkey => hk ⟨b, hn b hb, ?_⟩
      simpa using hkey
    rw [hnil l fun b hb => hb, hnil m fun b hb => hp.mem_iff.2 hb]

end Declaration.Content

/-! ## Units with the same content -/

/-- A declaration with at most one binding looks in a layout as any other with its content. -/
lemma Declaration.alike_of_content_eq {d e : Declaration} (h : d.content = e.content)
    (hd : d.specifiers.length ≤ 1) : d.Alike e := by
  rw [content, content, Content.mk.injEq] at h
  obtain ⟨hsource, hquoted, hattributes, hbindings, htypes⟩ := h
  have hclause : d.sourceClause = e.sourceClause := by
    rw [sourceClause, sourceClause, hquoted, hattributes]
  have hlen : d.specifiers.length = e.specifiers.length := by
    simpa using congrArg List.length hbindings
  rcases hs : d.specifiers with _ | ⟨a, _ | ⟨a', bs⟩⟩
  · obtain he : e.specifiers = [] := List.length_eq_zero_iff.1 (by rw [← hlen, hs]; rfl)
    exact ⟨hsource, hclause, by rw [hs, he], by rw [printedSpecifiers, printedSpecifiers, hs, he]; rfl,
      htypes⟩
  · obtain ⟨b, he⟩ := List.length_eq_one_iff.1 (hlen.symm.trans (by rw [hs]; rfl))
    have hab : a.explicitKind = b.explicitKind ∧ a.name = b.name := by
      simpa [hs, he] using hbindings
    have htext : a.text = b.text := by
      rw [← a.text_explicitKind, hab.1, hab.2, b.text_explicitKind]
    have hmark : (d.typeOnly || a.typeOnly) = (e.typeOnly || b.typeOnly) := by
      simpa [isTypeOnly, hs, he] using htypes
    refine ⟨hsource, hclause, by simp [hs, he, hab.2], ?_, htypes⟩
    simp only [printedSpecifiers, hs, he, List.map_cons, List.map_nil, Specifier.printed,
      htext, hmark]
  · simp [hs] at hd

lemma forall₂_alike {units others : List Declaration}
    (h : units.map Declaration.content = others.map Declaration.content)
    (hu : ∀ u ∈ units, u.specifiers.length ≤ 1) : List.Forall₂ Declaration.Alike units others := by
  induction units generalizing others with
  | nil =>
    obtain rfl := List.map_eq_nil_iff.1 h.symm
    exact .nil
  | cons u units ih =>
    obtain ⟨v, others, rfl⟩ : ∃ v rest, others = v :: rest := by
      cases others with
      | nil => simp at h
      | cons v rest => exact ⟨v, rest, rfl⟩
    rw [List.map_cons, List.map_cons, List.cons.injEq] at h
    exact .cons (Declaration.alike_of_content_eq h.1 (hu u (by simp)))
      (ih h.2 fun w hw => hu w (by simp [hw]))

/-! ## The layout of a content -/

/-- A layout does not depend on how the imports are written down.  Files with the same units up to
their order have the same layout, if units with the same module path, first name and, unless the policy
ignores it, marker are in the same order. -/
theorem expectedLines_eq_of_content (c : Config) (newline : Text) (imports others : List Declaration)
    (hperm : ((imports.flatMap Declaration.units).map Declaration.content).Perm
      ((others.flatMap Declaration.units).map Declaration.content))
    (horder : ∀ k ∈ (imports.flatMap Declaration.units).map Declaration.content,
      ((imports.flatMap Declaration.units).map Declaration.content).filter
          (fun a => a.sortKey c.typeImports = k.sortKey c.typeImports) =
        ((others.flatMap Declaration.units).map Declaration.content).filter
          (fun a => a.sortKey c.typeImports = k.sortKey c.typeImports)) :
    expectedLines c newline imports = expectedLines c newline others := by
  have hcontent : (layoutUnits c imports).map Declaration.content =
      (layoutUnits c others).map Declaration.content := by
    rw [Declaration.Content.map_content_layoutUnits, Declaration.Content.map_content_layoutUnits]
    exact stableSort_congr hperm (Declaration.Content.classOf_eq hperm horder)
  have halike := forall₂_alike hcontent fun u => length_specifiers_of_mem_layoutUnits
  -- the units of the first file, laid out, stand between the two layouts
  calc expectedLines c newline imports
      = expectedLines c newline (layoutUnits c imports) :=
        (expectedLines_of_alike newline newline
          (List.forall₂_same.2 fun u _ => ⟨rfl, rfl, rfl, rfl, rfl⟩)).symm
    _ = expectedLines c newline others := expectedLines_of_alike newline newline halike

/-- Two types and a value in one declaration, with the marker before each of the types. -/
def bundledImports : List Declaration :=
  [⟨⟨0, 40⟩, "m".toList, "'m'".toList, false,
    [⟨.namedImport none, "B".toList, true⟩, ⟨.defaultImport, "c".toList, false⟩,
      ⟨.namedImport (some "A".toList), "A".toList, true⟩], none⟩]

/-- The same imports in declarations of their own, with the marker before the clause. -/
def separateImports : List Declaration :=
  [⟨⟨3, 20⟩, "m".toList, "'m'".toList, true, [⟨.namedImport none, "A".toList, false⟩], none⟩,
    ⟨⟨30, 48⟩, "m".toList, "'m'".toList, true, [⟨.namedImport none, "B".toList, false⟩], none⟩,
    ⟨⟨50, 62⟩, "m".toList, "'m'".toList, false, [⟨.defaultImport, "c".toList, false⟩], none⟩]

theorem expectedLines_bundledImports :
    expectedLines Config.default ['\n'] bundledImports =
      expectedLines Config.default ['\n'] separateImports :=
  expectedLines_eq_of_content Config.default ['\n'] bundledImports separateImports
    (by decide +kernel) (by decide +kernel)

end ImportGrid
