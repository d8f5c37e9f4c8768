/-
Texts as strips.

A source text with declarations in it is looked at as a strip: stretches, each behind the gap
that separates it from the one before, and a rest behind the last.  Where the stretches lie
follows from the lengths alone (`Stretch.spans`), so two strips that differ in what is
written on them can be compared stretch by stretch.

Declarations are given to the layout in source order, with spans that are pieces of the
text and do not overlap (`InSourceOrder`).  That is the same as a strip with these spans
(`InSourceOrder.exists_strip`).
-/
import Mathlib.Data.List.Forall2
import ImportGrid.Rule

namespace ImportGrid

namespace Text

@[simp] lemma byteLength_eq_zero_iff {t : Text} : byteLength t = 0 ↔ t = [] := by
  cases t with
  | nil => simp
  | cons c t =>
    have := Char.utf8Size_pos c
    simp only [byteLength_cons, reduceCtorEq, iff_false]
    omega

/-- Of two pieces that begin a text the shorter begins the longer. -/
lemma exists_eq_append_of_le {a b x y : Text} (h : a ++ b = x ++ y)
    (hl : byteLength a ≤ byteLength x) : ∃ g, x = a ++ g ∧ b = g ++ y := by
  rcases List.append_eq_append_iff.1 h with ⟨g, hx, hb⟩ | ⟨g, ha, hy⟩
  · exact ⟨g, hx, hb⟩
  · cases g with
    | nil => exact ⟨[], by simpa using ha.symm, by simpa using hy.symm⟩
    | cons c g =>
      exfalso
      have hc : 0 < c.utf8Size := Char.utf8Size_pos c
      rw [ha] at hl
      simp only [byteLength_append, byteLength_cons] at hl
      omega

lemma from?_eq_some_iff {n : Nat} {t b : Text} :
    from? n t = some b ↔ ∃ a, t = a ++ b ∧ byteLength a = n := by
  simp only [from?, Option.map_eq_some_iff, Prod.exists, exists_eq_right, splitAt?_eq_some_iff]

lemma upTo?_eq_some_iff {n : Nat} {t a : Text} :
    upTo? n t = some a ↔ ∃ b, t = a ++ b ∧ byteLength a = n := by
  simp only [upTo?, Option.map_eq_some_iff, Prod.exists, exists_and_right, exists_eq_right,
    splitAt?_eq_some_iff]

@[simp] lemma from?_zero (t : Text) : from? 0 t = some t := by
  simp [from?]

lemma from?_append {n : Nat} {a b : Text} (h : byteLength a = n) :
    from? n (a ++ b) = some b :=
  from?_eq_some_iff.2 ⟨a, rfl, h⟩

lemma slice?_append {n k : Nat} {a m b : Text} (ha : byteLength a = n)
    (hm : n + byteLength m = k) : slice? n k (a ++ (m ++ b)) = some m :=
  slice?_eq_some_iff.2 ⟨a, b, by simp, ha, hm⟩

/-- A slice that goes on behind another one is that one and more. -/
lemma slice?_eq_map_append {i j k : Nat} {t m : Text} (h : slice? i j t = some m) (hk : j ≤ k) :
    slice? i k t = (slice? j k t).map (m ++ ·) := by
  obtain ⟨a, b, rfl, ha, hj⟩ := slice?_eq_some_iff.1 h
  cases hs : slice? j k (a ++ m ++ b) with
  | some u =>
    obtain ⟨x, y, hxy, hx, hu⟩ := slice?_eq_some_iff.1 hs
    have hb : x = a ++ m ∧ b = u ++ y := by
      obtain ⟨g, hg, hgy⟩ := exists_eq_append_of_le (a := a ++ m) (b := b) (x := x) (y := u ++ y)
        (by rw [hxy, List.append_assoc]) (by simp only [byteLength_append]; omega)
      have hg0 : g.byteLength = 0 := by
        have := congrArg byteLength hg
        simp only [byteLength_append] at this
        omega
      rw [byteLength_eq_zero_iff.1 hg0] at hg hgy
      exact ⟨by simpa using hg, by simpa using hgy⟩
    rw [Option.map_some, hb.2, List.append_assoc, ← List.append_assoc m]
    exact slice?_append ha (by simp only [byteLength_append]; omega)
  | none =>
    rw [Option.map_none, Option.eq_none_iff_forall_ne_some]
    intro w hw
    obtain ⟨x, y, hxy, hx, hw⟩ := slice?_eq_some_iff.1 hw
    obtain ⟨g, hg, hgy⟩ := exists_eq_append_of_le (a := a ++ m) (b := b) (x := x ++ w) (y := y)
      hxy (by simp only [byteLength_append]; omega)
    rw [hgy, slice?_append (by simp only [byteLength_append]; omega)
      (by have := congrArg byteLength hg; simp only [byteLength_append] at this; omega)] at hs
    simp at hs

/-- A piece that begins behind a place lies in what is left of the text there. -/
lemma exists_of_slice? {n i j : Nat} {t rest m : Text} (hr : from? n t = some rest)
    (h : slice? i j t = some m) (hn : n ≤ i) :
    ∃ g y, rest = g ++ (m ++ y) ∧ slice? n i t = some g ∧ from? j t = some y ∧
      n + byteLength g = i ∧ i + byteLength m = j := by
  obtain ⟨a, rfl, ha⟩ := from?_eq_some_iff.1 hr
  obtain ⟨x, y, hxy, hx, hj⟩ := slice?_eq_some_iff.1 h
  obtain ⟨g, rfl, rfl⟩ := exists_eq_append_of_le (hxy.trans (List.append_assoc x m y)) (by omega)
  rw [byteLength_append, ha] at hx
  refine ⟨g, y, rfl, slice?_append ha hx, from?_eq_some_iff.2 ⟨a ++ g ++ m, ?_, ?_⟩, hx, hj⟩
  · simp only [List.append_assoc]
  · simp only [byteLength_append]
    omega

end Text

/-- A stretch of a text, with what stands before it. -/
structure Stretch where
  /-- What stands between the stretch before and this one. -/
  gap : Text
  /-- The stretch itself. -/
  text : Text
deriving Repr, DecidableEq

namespace Stretch

/-- The text of a strip. -/
def spell (strip : List Stretch) : Text := strip.flatMap fun s => s.gap ++ s.text

@[simp] lemma spell_nil : spell [] = [] := rfl

@[simp] lemma spell_cons (s : Stretch) (strip : List Stretch) :
    spell (s :: strip) = s.gap ++ (s.text ++ spell strip) := by simp [spell]

@[simp] lemma spell_append (a b : List Stretch) : spell (a ++ b) = spell a ++ spell b := by
  simp [spell]

/-- The spans of the stretches of a strip that begins at a byte offset. -/
def spans : Nat → List Stretch → List Span
  | _, [] => []
  | n, s :: strip =>
    ⟨n + s.gap.byteLength, n + s.gap.byteLength + s.text.byteLength⟩ ::
      spans (n + s.gap.byteLength + s.text.byteLength) strip

@[simp] lemma length_spans (n : Nat) (strip : List Stretch) :
    (spans n strip).length = strip.length := by
  induction strip generalizing n with
  | nil => rfl
  | cons s strip ih => simp [spans, ih]

/-- No stretch begins before the strip does. -/
lemma le_start_of_mem_spans {n : Nat} {strip : List Stretch} {s : Span}
    (h : s ∈ spans n strip) : n ≤ s.start := by
  induction strip generalizing n with
  | nil => simp [spans] at h
  | cons t strip ih =>
    rcases List.mem_cons.1 h with rfl | h
    · exact Nat.le_add_right _ _
    · have := ih h
      omega

end Stretch

/-! ## Declarations in source order -/

/-- Declarations stand in a source text one behind the other: every span is a piece of the
text and ends before the next one begins. -/
structure InSourceOrder (source : Text) (imports : List Declaration) : Prop where
  isPiece : ∀ d ∈ imports, (Text.slice? d.span.start d.span.stop source).isSome
  ordered : imports.Pairwise fun d e => d.span.stop ≤ e.span.start

instance (source : Text) (imports : List Declaration) :
    Decidable (InSourceOrder source imports) :=
  decidable_of_iff
    ((∀ d ∈ imports, (Text.slice? d.span.start d.span.stop source).isSome) ∧
      imports.Pairwise fun d e => d.span.stop ≤ e.span.start)
    ⟨fun h => ⟨h.1, h.2⟩, fun h => ⟨h.isPiece, h.ordered⟩⟩

namespace InSourceOrder

variable {source : Text} {d : Declaration} {imports : List Declaration}

lemma tail (h : InSourceOrder source (d :: imports)) : InSourceOrder source imports :=
  ⟨fun e he => h.isPiece e (by simp [he]), (List.pairwise_cons.1 h.ordered).2⟩

lemma start_le_stop (h : InSourceOrder source imports) (hd : d ∈ imports) :
    d.span.start ≤ d.span.stop := by
  obtain ⟨t, ht⟩ := Option.isSome_iff_exists.1 (h.isPiece d hd)
  obtain ⟨_, _, _, _, hstop⟩ := Text.slice?_eq_some_iff.1 ht
  omega

end InSourceOrder

/-- From a byte offset on, the source is a strip that has the declarations on it. -/
structure OnStrip (source : Text) (n : Nat) (imports : List Declaration) (strip : List Stretch)
    (behind : Text) : Prop where
  rest : Text.from? n source = some (Stretch.spell strip ++ behind)
  spans : Stretch.spans n strip = imports.map (·.span)

/-- Declarations in source order behind an offset lie on a strip. -/
lemma InSourceOrder.exists_onStrip {source rest : Text} {imports : List Declaration} {n : Nat}
    (h : InSourceOrder source imports) (hr : Text.from? n source = some rest)
    (hn : ∀ d ∈ imports, n ≤ d.span.start) : ∃ strip behind, OnStrip source n imports strip behind := by
  induction imports generalizing rest n with
  | nil => exact ⟨[], rest, hr, rfl⟩
  | cons d imports ih =>
    obtain ⟨t, ht⟩ := Option.isSome_iff_exists.1 (h.isPiece d (by simp))
    obtain ⟨g, y, rfl, -, hy, hstart, hstop⟩ := Text.exists_of_slice? hr ht (hn d (by simp))
    obtain ⟨strip, behind, hrest, hspans⟩ := ih h.tail hy (List.pairwise_cons.1 h.ordered).1
    rw [hy, Option.some.injEq] at hrest
    refine ⟨⟨g, t⟩ :: strip, behind, by simpa [hrest] using hr, ?_⟩
    simp only [Stretch.spans, hstart, hstop, hspans, List.map_cons]

namespace OnStrip

variable {source behind : Text} {n : Nat} {d : Declaration} {imports : List Declaration}
  {t : Stretch} {strip : List Stretch}

lemma length_eq (h : OnStrip source n imports strip behind) : strip.length = imports.length := by
  simpa using congrArg List.length h.spans

lemma span_eq (h : OnStrip source n (d :: imports) (t :: strip) behind) :
    d.span.start = n + t.gap.byteLength ∧ d.span.stop = d.span.start + t.text.byteLength := by
  have hd : _ = d.span := (List.cons.inj h.spans).1
  rw [← hd]
  exact ⟨rfl, rfl⟩

/-- The text of a declaration. -/
lemma slice_text (h : OnStrip source n (d :: imports) (t :: strip) behind) :
    Text.slice? d.span.start d.span.stop source = some t.text := by
  obtain ⟨a, hs, ha⟩ := Text.from?_eq_some_iff.1 h.rest
  obtain ⟨hstart, hstop⟩ := h.span_eq
  refine Text.slice?_eq_some_iff.2 ⟨a ++ t.gap, Stretch.spell strip ++ behind, by simp [hs], ?_, ?_⟩
  · rw [Text.byteLength_append, ha, hstart]
  · rw [hstop]

lemma textIn_eq (h : OnStrip source n (d :: imports) (t :: strip) behind) :
    d.span.textIn source = t.text := by
  rw [Span.textIn, h.slice_text, Option.getD_some]

/-- The gap before a declaration. -/
lemma slice_gap (h : OnStrip source n (d :: imports) (t :: strip) behind) :
    Text.slice? n d.span.start source = some t.gap := by
  obtain ⟨a, hs, ha⟩ := Text.from?_eq_some_iff.1 h.rest
  exact Text.slice?_eq_some_iff.2
    ⟨a, t.text ++ Stretch.spell strip ++ behind, by simp [hs], ha, h.span_eq.1.symm⟩

/-- The other declarations lie on the strip behind the first. -/
lemma tail (h : OnStrip source n (d :: imports) (t :: strip) behind) :
    OnStrip source d.span.stop imports strip behind := by
  obtain ⟨a, hs, ha⟩ := Text.from?_eq_some_iff.1 h.rest
  obtain ⟨hstart, hstop⟩ := h.span_eq
  refine ⟨Text.from?_eq_some_iff.2 ⟨a ++ t.gap ++ t.text, by simp [hs], ?_⟩, ?_⟩
  · simp only [Text.byteLength_append]
    omega
  · rw [hstop, hstart]
    exact (List.cons.inj h.spans).2

/-- On a strip the declarations have the texts of the stretches. -/
lemma map_textIn (h : OnStrip source n imports strip behind) :
    imports.map (·.span.textIn source) = strip.map (·.text) := by
  induction imports generalizing n strip with
  | nil =>
    obtain rfl := List.length_eq_zero_iff.1 h.length_eq
    rfl
  | cons d imports ih =>
    obtain ⟨t, strip, rfl⟩ := List.exists_cons_of_length_eq_add_one h.length_eq
    rw [List.map_cons, List.map_cons, h.textIn_eq, ih h.tail]

/-- What holds of the texts of declarations holds of the stretches they are on. -/
lemma forall_text {P : Text → Prop} (h : OnStrip source n imports strip behind)
    (hP : ∀ d ∈ imports, P (d.span.textIn source)) : ∀ t ∈ strip, P t.text := by
  rw [← List.forall_mem_map, ← h.map_textIn, List.forall_mem_map]
  exact hP

/-- Declarations on a strip are in source order. -/
lemma inSourceOrder (h : OnStrip source n imports strip behind) : InSourceOrder source imports := by
  induction imports generalizing n strip with
  | nil => exact ⟨by simp, List.Pairwise.nil⟩
  | cons d imports ih =>
    cases strip with
    | nil => simpa using h.length_eq
    | cons t strip =>
      obtain ⟨hpiece, hordered⟩ := ih h.tail
      refine ⟨?_, List.pairwise_cons.2 ⟨?_, hordered⟩⟩
      · intro e he
        rcases List.mem_cons.1 he with rfl | he
        · simp [h.slice_text]
        · exact hpiece e he
      · intro e he
        exact Stretch.le_start_of_mem_spans (h.tail.spans ▸ List.mem_map_of_mem he)

end OnStrip

/-- Declarations in source order make their source a strip. -/
lemma InSourceOrder.exists_strip {source : Text} {imports : List Declaration}
    (h : InSourceOrder source imports) : ∃ strip behind, OnStrip source 0 imports strip behind :=
  h.exists_onStrip (Text.from?_zero source) fun _ _ => Nat.zero_le _

end ImportGrid
