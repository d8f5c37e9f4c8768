/-
The choice of fixes.

Fixes may have any spans at all: inverted ones, ones that are no piece of the text, ones that overlap.
They are applied in order, and one is left out if its span is no piece of the text or begins before the
place that the fixes before it have reached.  What comes out is the strip of the source with the
replacements of the applied fixes on it (`exists_isChoice`).  A fix with a span in the text is left out
only if an applied one that does not come after it covers the place where it begins, so no more fixes
could be applied in this order (`applyFixes_eq_spell`).
-/
import Mathlib.Data.List.Nodup
import ImportGrid.Proofs.Stretch

namespace ImportGrid

namespace Fix

/-- The span of the fix is a piece of the text. -/
def IsPiece (source : Text) (f : Fix) : Prop :=
  (Text.slice? f.span.start f.span.stop source).isSome

/-- A fix stands in the way of another one: it does not come after it, and it ends behind the place where
the other begins. -/
structure Bars (g f : Fix) : Prop where
  notAfter : Fix.notAfter g f = true
  reaches : f.span.start < g.span.stop

/-- A strip with the replacements of fixes on it. -/
def replaced (applied : List Fix) (strip : List Stretch) : List Stretch :=
  List.zipWith (fun f t => ⟨t.gap, f.replacement⟩) applied strip

/-! ## The order of fixes -/

lemma notAfter_iff {f g : Fix} : notAfter f g = true ↔
    f.span.start < g.span.start ∨ (f.span.start = g.span.start ∧ f.span.stop ≤ g.span.stop) := by
  simp only [notAfter, decide_eq_true_eq]

/-- Fixes are applied by start, then by end. -/
lemma pairwise_mergeSort_notAfter (fixes : List Fix) :
    (fixes.mergeSort notAfter).Pairwise fun f g => notAfter f g = true := by
  refine List.pairwise_mergeSort ?_ ?_ fixes
  · intro f g h hfg hgh
    rw [notAfter_iff] at hfg hgh ⊢
    omega
  · intro f g
    rw [Bool.or_eq_true, notAfter_iff, notAfter_iff]
    omega

/-- Fixes that do not come after each other have the same span. -/
lemma span_eq_of_notAfter {f g : Fix} (hfg : notAfter f g = true) (hgf : notAfter g f = true) :
    f.span = g.span := by
  rw [notAfter_iff] at hfg hgf
  have hstart : f.span.start = g.span.start := by omega
  have hstop : f.span.stop = g.span.stop := by omega
  calc f.span = ⟨f.span.start, f.span.stop⟩ := rfl
    _ = g.span := by rw [hstart, hstop]

/-- If no two fixes have the same span, the order in which they are applied does not depend on the order
in which they are given. -/
lemma mergeSort_notAfter_congr {fixes others : List Fix} (h : (fixes.map (·.span)).Nodup)
    (hp : others.Perm fixes) : others.mergeSort notAfter = fixes.mergeSort notAfter := by
  have hperm : (others.mergeSort notAfter).Perm (fixes.mergeSort notAfter) :=
    (List.mergeSort_perm ..).trans (hp.trans (List.mergeSort_perm ..).symm)
  refine List.Perm.eq_of_pairwise ?_ (pairwise_mergeSort_notAfter others)
    (pairwise_mergeSort_notAfter fixes) hperm
  intro f g hf hg hfg hgf
  have hf' : f ∈ fixes := (List.mergeSort_perm ..).mem_iff.1 (hperm.mem_iff.1 hf)
  have hg' : g ∈ fixes := (List.mergeSort_perm ..).mem_iff.1 hg
  exact List.inj_on_of_nodup_map h hf' hg' (span_eq_of_notAfter hfg hgf)

/-! ## One step -/

section Step

variable {source behind gap text : Text} {last : Nat} {f : Fix} {fixes applied left : List Fix}
  {strip : List Stretch}

/-- A fix without a place behind the offset is passed over. -/
lemma splice_cons_of_skip (fixes : List Fix) (h : f.span.start < last ∨ ¬ f.IsPiece source) :
    splice source last (f :: fixes) = splice source last fixes := by
  rw [splice]
  split
  · rfl
  · next hlast =>
    have hnone : Text.slice? f.span.start f.span.stop source = none :=
      Option.not_isSome_iff_eq_none.1 (h.resolve_left hlast)
    rw [hnone]
    cases Text.slice? last f.span.start source <;> rfl

/-- A fix with a place behind the offset is applied there. -/
lemma splice_cons_of_piece (fixes : List Fix) (hlast : last ≤ f.span.start)
    (hgap : Text.slice? last f.span.start source = some gap)
    (htext : Text.slice? f.span.start f.span.stop source = some text) :
    splice source last (f :: fixes) = gap ++ f.replacement ++ splice source f.span.stop fixes := by
  rw [splice, if_neg (Nat.not_lt.2 hlast), hgap, htext]

/-- What is done with fixes in order, from a byte offset on: some are applied, each at its place on the
strip of the text, and the others are left out. -/
structure IsChoice (source : Text) (last : Nat) (fixes applied left : List Fix)
    (strip : List Stretch) (behind : Text) : Prop where
  perm : (applied ++ left).Perm fixes
  isPiece : ∀ f ∈ applied, f.IsPiece source
  apart : applied.Pairwise fun f g => f.span.stop ≤ g.span.start
  rest : Text.from? last source = some (Stretch.spell strip ++ behind)
  spans : Stretch.spans last strip = applied.map (·.span)
  splice_eq : splice source last fixes = Stretch.spell (replaced applied strip) ++ behind
  /-- A fix that could have been applied is left out only for an applied one. -/
  barred : ∀ f ∈ left, last ≤ f.span.start → f.IsPiece source → ∃ g ∈ applied, g.Bars f

namespace IsChoice

lemma skip (h : IsChoice source last fixes applied left strip behind)
    (hf : f.span.start < last ∨ ¬ f.IsPiece source) :
    IsChoice source last (f :: fixes) applied (f :: left) strip behind where
  perm := List.perm_middle.trans (h.perm.cons f)
  isPiece := h.isPiece
  apart := h.apart
  rest := h.rest
  spans := h.spans
  splice_eq := (splice_cons_of_skip fixes hf).trans h.splice_eq
  barred := by
    intro g hg hlast hpiece
    rcases List.mem_cons.1 hg with rfl | hg
    · rcases hf with hf | hf
      · exact absurd hf (Nat.not_lt.2 hlast)
      · exact absurd hpiece hf
    · exact h.barred g hg hlast hpiece

lemma take (h : IsChoice source f.span.stop fixes applied left strip behind) (hlast : last ≤ f.span.start)
    (hrest : Text.from? last source = some (gap ++ (text ++ (Stretch.spell strip ++ behind))))
    (hgap : Text.slice? last f.span.start source = some gap)
    (htext : Text.slice? f.span.start f.span.stop source = some text)
    (hstart : last + gap.byteLength = f.span.start)
    (hstop : f.span.start + text.byteLength = f.span.stop)
    (hf : ∀ g ∈ fixes, notAfter f g = true) :
    IsChoice source last (f :: fixes) (f :: applied) left (⟨gap, text⟩ :: strip) behind where
  perm := h.perm.cons f
  isPiece := by
    intro g hg
    rcases List.mem_cons.1 hg with rfl | hg
    · exact Option.isSome_iff_exists.2 ⟨text, htext⟩
    · exact h.isPiece g hg
  apart := by
    refine List.pairwise_cons.2 ⟨fun g hg => ?_, h.apart⟩
    exact Stretch.le_start_of_mem_spans (h.spans ▸ List.mem_map_of_mem hg)
  rest := by
    rw [hrest]
    simp only [Stretch.spell_cons, List.append_assoc]
  spans := by
    rw [Stretch.spans, hstart, hstop, h.spans, List.map_cons]
  splice_eq := by
    rw [splice_cons_of_piece fixes hlast hgap htext, h.splice_eq, replaced, replaced,
      List.zipWith_cons_cons, Stretch.spell_cons]
    simp only [List.append_assoc]
  barred := by
    intro g hg _ hpiece
    by_cases hreach : g.span.start < f.span.stop
    · have hmem : g ∈ fixes := h.perm.mem_iff.1 (List.mem_append_right applied hg)
      exact ⟨f, List.mem_cons_self, hf g hmem, hreach⟩
    · obtain ⟨k, hk, hbars⟩ := h.barred g hg (Nat.not_lt.1 hreach) hpiece
      exact ⟨k, List.mem_cons_of_mem f hk, hbars⟩

end IsChoice

end Step

/-! ## All fixes -/

/-- Fixes in order are applied or left out one by one. -/
theorem exists_isChoice {source rest : Text} {last : Nat} {fixes : List Fix}
    (hr : Text.from? last source = some rest)
    (hsorted : fixes.Pairwise fun f g => notAfter f g = true) :
    ∃ applied left strip behind, IsChoice source last fixes applied left strip behind := by
  induction fixes generalizing last rest with
  | nil =>
    exact ⟨[], [], [], rest, .refl _, by simp, .nil, hr, rfl, by rw [splice, hr]; rfl, by simp⟩
  | cons f fixes ih =>
    obtain ⟨hf, hsorted⟩ := List.pairwise_cons.1 hsorted
    by_cases hplace : last ≤ f.span.start ∧ f.IsPiece source
    · obtain ⟨hlast, hpiece⟩ := hplace
      obtain ⟨text, htext⟩ := Option.isSome_iff_exists.1 hpiece
      obtain ⟨gap, y, rfl, hgap, hy, hstart, hstop⟩ := Text.exists_of_slice? hr htext hlast
      obtain ⟨applied, left, strip, behind, h⟩ := ih hy hsorted
      obtain rfl : y = _ := Option.some.inj (hy.symm.trans h.rest)
      exact ⟨f :: applied, left, ⟨gap, text⟩ :: strip, behind,
        h.take hlast hr hgap htext hstart hstop hf⟩
    · obtain ⟨applied, left, strip, behind, h⟩ := ih hr hsorted
      have hskip : f.span.start < last ∨ ¬ f.IsPiece source := by
        rw [← Nat.not_le]
        exact not_and_or.1 hplace
      exact ⟨applied, f :: left, strip, behind, h.skip hskip⟩

end Fix

/-- Applying fixes is splicing as many of them as fit.  The fixes fall into those that are applied and those
that are left out.  The spans of the applied ones are pieces of the text that do not overlap, the
output is the source with exactly these pieces replaced, and a fix is left out only if its span is no
piece of the text or an applied one stands in its way.  If no two fixes have the same span, the output
does not depend on the order in which they are given. -/
theorem applyFixes_eq_spell (source : Text) (fixes : List Fix) :
    (∃ applied left strip behind,
      (applied ++ left).Perm fixes ∧
      (∀ f ∈ applied, f.IsPiece source) ∧
      applied.Pairwise (fun f g => f.span.stop ≤ g.span.start) ∧
      source = Stretch.spell strip ++ behind ∧
      Stretch.spans 0 strip = applied.map (·.span) ∧
      applyFixes source fixes = Stretch.spell (Fix.replaced applied strip) ++ behind ∧
      ∀ f ∈ left, ¬ f.IsPiece source ∨ ∃ g ∈ applied, g.Bars f) ∧
    ((fixes.map (·.span)).Nodup →
      ∀ others, others.Perm fixes → applyFixes source others = applyFixes source fixes) := by
  constructor
  · obtain ⟨applied, left, strip, behind, h⟩ :=
      Fix.exists_isChoice (Text.from?_zero source) (Fix.pairwise_mergeSort_notAfter fixes)
    have hrest := h.rest
    rw [Text.from?_zero, Option.some.injEq] at hrest
    refine ⟨applied, left, strip, behind, h.perm.trans (List.mergeSort_perm ..), h.isPiece, h.apart, hrest,
      h.spans, h.splice_eq, fun f hf => ?_⟩
    by_cases hpiece : f.IsPiece source
    · exact .inr (h.barred f hf (Nat.zero_le _) hpiece)
    · exact .inl hpiece
  · intro hspans others hp
    rw [applyFixes, applyFixes, Fix.mergeSort_notAfter_congr hspans hp]

/-- Fixes of a text of six bytes, of which one character takes two.  They overlap, touch, begin inside the
character, end before they begin, or end behind the text. -/
def crossingFixes : List Fix :=
  [⟨⟨4, 6⟩, "E".toList⟩, ⟨⟨0, 4⟩, "A".toList⟩, ⟨⟨2, 3⟩, "B".toList⟩, ⟨⟨4, 4⟩, "-".toList⟩,
    ⟨⟨3, 1⟩, "C".toList⟩, ⟨⟨5, 9⟩, "D".toList⟩, ⟨⟨1, 4⟩, "F".toList⟩]

theorem applyFixes_crossingFixes :
    (crossingFixes.map (·.span)).Nodup ∧
    applyFixes "aébcd".toList crossingFixes = "A-E".toList ∧
    applyFixes "aébcd".toList crossingFixes.reverse = "A-E".toList := by
  have hspans : (crossingFixes.map (·.span)).Nodup := by decide
  have hsort : crossingFixes.mergeSort Fix.notAfter =
      [⟨⟨0, 4⟩, "A".toList⟩, ⟨⟨1, 4⟩, "F".toList⟩, ⟨⟨2, 3⟩, "B".toList⟩, ⟨⟨3, 1⟩, "C".toList⟩,
        ⟨⟨4, 4⟩, "-".toList⟩, ⟨⟨4, 6⟩, "E".toList⟩, ⟨⟨5, 9⟩, "D".toList⟩] :=
    (Fix.mergeSort_notAfter_congr (by decide) (by decide)).trans (List.mergeSort_of_pairwise (by decide))
  have hout : applyFixes "aébcd".toList crossingFixes = "A-E".toList := by
    rw [applyFixes, hsort]
    decide +kernel
  refine ⟨hspans, hout, ?_⟩
  rw [← hout]
  exact (applyFixes_eq_spell "aébcd".toList crossingFixes).2 hspans _ (List.reverse_perm _)

end ImportGrid
