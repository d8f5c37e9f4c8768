/-
Splicing the fixes of a check.

A check deals one slot to every declaration (`checkFrom_eq_checkSlots`).  Its fixes come in
source order and do not overlap, so they are all applied, and what comes out is the strip of the
source with the text of each slot in the place of the declaration (`splice_checkSlots`).  Only
one thing else can change: the white space between a declaration and the next one becomes a line
ending or two when the fix reaches up to the next declaration (`gapLeft`).
-/
import Mathlib.Data.List.SplitLengths
import ImportGrid.Proofs.Stretch

namespace ImportGrid

/-- What separates a line from the next: a line ending, or two for a blank line. -/
def lineBreak (newline : Text) (blank : Bool) : Text :=
  if blank then newline ++ newline else newline

/-! ## Slots -/

/-- The slots that portions of the expected lines make. -/
def slotsOf (newline : Text) : List (List ExpectedLine) → List Slot
  | [] => []
  | portion :: rest =>
    ⟨joinExpected newline portion, portion.getLast?.any (·.endsGroup) && !rest.isEmpty⟩ ::
      slotsOf newline rest

@[simp] lemma length_slotsOf (newline : Text) (portions : List (List ExpectedLine)) :
    (slotsOf newline portions).length = portions.length := by
  induction portions with
  | nil => rfl
  | cons p rest ih => simp [slotsOf, ih]

lemma map_text_slotsOf (newline : Text) (portions : List (List ExpectedLine)) :
    (slotsOf newline portions).map (·.text) = portions.map (joinExpected newline) := by
  induction portions with
  | nil => rfl
  | cons p rest ih => simp [slotsOf, ih]

/-- Compares declarations in source order with slots. -/
def checkSlots (source newline : Text) (fixable : Bool) : List Declaration → List Slot → List Diagnostic
  | d :: rest, s :: slots =>
    (checkSlot source newline fixable d (rest.head?.map (·.span.start)) s).toList ++
      checkSlots source newline fixable rest slots
  | _, _ => []

lemma unitCount_pos (d : Declaration) : 0 < d.unitCount := by
  unfold Declaration.unitCount
  omega

/-- When there is a line for every unit, the lines are dealt out without a rest. -/
theorem checkFrom_eq_checkSlots {source newline : Text} {fixable : Bool}
    {imports : List Declaration} {expected : List ExpectedLine}
    (h : expected.length = (imports.flatMap Declaration.units).length) :
    checkFrom source newline fixable imports expected =
      checkSlots source newline fixable imports
        (slotsOf newline ((imports.map (·.unitCount)).splitLengths expected)) := by
  induction imports generalizing expected with
  | nil => simp [checkFrom, checkSlots]
  | cons d rest ih =>
    simp only [List.flatMap_cons, List.length_append, Declaration.length_units] at h
    have hle : d.unitCount ≤ expected.length := by omega
    have hleft : (expected.drop d.unitCount).length = (rest.flatMap Declaration.units).length := by
      rw [List.length_drop]
      omega
    -- lines are left over exactly when declarations are
    have hempty : (expected.drop d.unitCount).isEmpty =
        ((rest.map (·.unitCount)).splitLengths (expected.drop d.unitCount)).isEmpty := by
      cases rest with
      | nil =>
        have hnil := List.length_eq_zero_iff.1 hleft
        simp [hnil]
      | cons e rest =>
        have hpos := unitCount_pos e
        simp only [List.flatMap_cons, List.length_append, Declaration.length_units] at hleft
        have hne : expected.drop d.unitCount ≠ [] := List.ne_nil_of_length_pos (by omega)
        simp [List.splitLengths_cons, hne]
    simp only [checkFrom, dealSlot?, if_pos hle, List.map_cons, List.splitLengths_cons, slotsOf,
      checkSlots, ih hleft, hempty]

/-! ## Fixes -/

section Fixes

variable {source newline : Text}

/-- A fix reaches up to the next declaration only, over the white space before it. -/
lemma cut_after_eq_some {stop m : Nat} {next : Option Nat}
    (h : (Gap.after source stop next).cut = some m) :
    next = some m ∧
      m = stop + (Text.leadingSpace ((Text.from? stop source).getD [])).byteLength := by
  unfold Gap.after at h
  simp only at h
  split at h
  · simp at h
  · simp only [Option.filter_eq_some_iff, beq_iff_eq] at h
    exact h

/-- No fix reaches beyond the last declaration. -/
@[simp] lemma cut_after_none (source : Text) (stop : Nat) : (Gap.after source stop none).cut = none := by
  simp [Gap.after, apply_ite]

lemma le_getD_cut (source : Text) (stop : Nat) (next : Option Nat) :
    stop ≤ (Gap.after source stop next).cut.getD stop := by
  cases hcut : (Gap.after source stop next).cut with
  | none => exact le_refl _
  | some m =>
    rw [(cut_after_eq_some hcut).2]
    exact Nat.le_add_right _ _

/-- The fix of a declaration that differs from its slot. -/
lemma fix_checkSlot {d : Declaration} {next : Option Nat} {s : Slot} {diagnostic : Diagnostic}
    (h : checkSlot source newline true d next s = some diagnostic) :
    diagnostic.fix = some ⟨⟨d.span.start, (Gap.after source d.span.stop next).cut.getD d.span.stop⟩,
      s.text ++ if (Gap.after source d.span.stop next).cut.isSome then lineBreak newline s.needsGap
        else []⟩ := by
  unfold checkSlot at h
  simp only [if_true] at h
  split at h
  · simp at h
  · simp only [Option.some.injEq] at h
    rw [← h]
    simp only [lineBreak]
    split <;> simp

/-- A declaration that is not reported has the text of its slot. -/
lemma textIn_of_checkSlot_eq_none {fixable : Bool} {d : Declaration} {next : Option Nat} {s : Slot}
    (h : checkSlot source newline fixable d next s = none) : d.span.textIn source = s.text := by
  unfold checkSlot at h
  simp only at h
  split at h
  · next hok => exact hok.1
  · simp at h

@[simp] lemma fixesOf_nil : fixesOf [] = [] := rfl

lemma fixesOf_append (a b : List Diagnostic) : fixesOf (a ++ b) = fixesOf a ++ fixesOf b :=
  List.filterMap_append ..

/-- Every fix begins at a declaration and does not end before it. -/
lemma exists_of_mem_fixesOf_checkSlots {imports : List Declaration} {slots : List Slot} {f : Fix}
    (h : f ∈ fixesOf (checkSlots source newline true imports slots)) :
    ∃ d ∈ imports, f.span.start = d.span.start ∧ d.span.stop ≤ f.span.stop := by
  induction imports generalizing slots with
  | nil => simp [checkSlots] at h
  | cons d rest ih =>
    cases slots with
    | nil => simp [checkSlots] at h
    | cons s slots =>
      rw [checkSlots, fixesOf_append, List.mem_append] at h
      rcases h with h | h
      · cases hc : checkSlot source newline true d (rest.head?.map (·.span.start)) s with
        | none => simp [hc] at h
        | some diagnostic =>
          rw [hc, Option.toList_some, fixesOf, List.filterMap_cons, fix_checkSlot hc] at h
          obtain rfl : f = _ := by simpa using h
          exact ⟨d, by simp, rfl, le_getD_cut ..⟩
      · obtain ⟨e, he, heq⟩ := ih h
        exact ⟨e, by simp [he], heq⟩

/-- No fix begins before the first declaration does. -/
lemma start_le_of_mem_fixesOf {d : Declaration} {imports : List Declaration} {slots : List Slot}
    {f : Fix} (h : InSourceOrder source (d :: imports))
    (hf : f ∈ fixesOf (checkSlots source newline true (d :: imports) slots)) :
    d.span.start ≤ f.span.start := by
  obtain ⟨e, he, hstart, -⟩ := exists_of_mem_fixesOf_checkSlots hf
  rw [hstart]
  rcases List.mem_cons.1 he with rfl | he
  · exact le_refl _
  · have hle := h.start_le_stop (d := d) (by simp)
    exact hle.trans ((List.pairwise_cons.1 h.ordered).1 e he)

/-- The fix of a declaration ends before the next one begins. -/
lemma stop_le_start_of_fix {d e : Declaration} {rest : List Declaration}
    (h : InSourceOrder source (d :: rest)) (he : e ∈ rest) :
    (Gap.after source d.span.stop (rest.head?.map (·.span.start))).cut.getD d.span.stop ≤
      e.span.start := by
  have hord := List.pairwise_cons.1 h.ordered
  cases hcut : (Gap.after source d.span.stop (rest.head?.map (·.span.start))).cut with
  | none => exact hord.1 e he
  | some m =>
    have hnext := (cut_after_eq_some hcut).1
    cases rest with
    | nil => simp at he
    | cons b rest =>
      obtain rfl : b.span.start = m := by simpa using hnext
      rcases List.mem_cons.1 he with rfl | he
      · exact le_refl _
      · have hb := h.start_le_stop (d := b) (by simp)
        have hbe := (List.pairwise_cons.1 hord.2).1 e he
        exact hb.trans hbe

/-- The fixes of a check are in the order in which they are applied. -/
lemma pairwise_fixesOf_checkSlots {imports : List Declaration} {slots : List Slot}
    (h : InSourceOrder source imports) :
    (fixesOf (checkSlots source newline true imports slots)).Pairwise
      (fun a b => Fix.notAfter a b = true) := by
  induction imports generalizing slots with
  | nil => simp [checkSlots]
  | cons d rest ih =>
    cases slots with
    | nil => simp [checkSlots]
    | cons s slots =>
      rw [checkSlots, fixesOf_append]
      cases hc : checkSlot source newline true d (rest.head?.map (·.span.start)) s with
      | none => simpa using ih h.tail
      | some diagnostic =>
        rw [Option.toList_some, fixesOf, List.filterMap_cons, fix_checkSlot hc]
        refine List.pairwise_cons.2 ⟨?_, ih h.tail⟩
        intro f hf
        obtain ⟨e, he, hstart, hstop⟩ := exists_of_mem_fixesOf_checkSlots hf
        have hle := stop_le_start_of_fix h he
        have hd := h.start_le_stop (d := d) (by simp)
        have hcut := le_getD_cut source d.span.stop (rest.head?.map (·.span.start))
        have hestop := h.start_le_stop (d := e) (by simp [he])
        simp only [Fix.notAfter, decide_eq_true_eq]
        omega

/-! ## Splicing -/

/-- What fixing leaves between a declaration and the next one. -/
def gapLeft (source newline : Text) (d : Declaration) (next : Option Nat) (s : Slot) (gap : Text) :
    Text :=
  if (checkSlot source newline true d next s).isSome ∧ (Gap.after source d.span.stop next).cut.isSome
  then lineBreak newline s.needsGap else gap

/-- The strip that fixing leaves, given what stands before its first stretch. -/
def relaid (source newline : Text) : Text → List Declaration → List Slot → List Stretch →
    List Stretch
  | gap, d :: imports, s :: slots, _ :: strip =>
    let next := (strip.head?.map (·.gap)).getD []
    ⟨gap, s.text⟩ ::
      relaid source newline
        (gapLeft source newline d (imports.head?.map (·.span.start)) s next) imports slots strip
  | _, _, _, _ => []

lemma relaid_cons_cons (gap : Text) (d e : Declaration) (imports : List Declaration) (s : Slot)
    (slots : List Slot) (t u : Stretch) (strip : List Stretch) :
    relaid source newline gap (d :: e :: imports) (s :: slots) (t :: u :: strip) =
      ⟨gap, s.text⟩ ::
        relaid source newline (gapLeft source newline d (some e.span.start) s u.gap) (e :: imports)
          slots (u :: strip) := rfl

lemma spell_relaid_cons (gap : Text) (d : Declaration) (imports : List Declaration) (s : Slot)
    (slots : List Slot) (t : Stretch) (strip : List Stretch) :
    Stretch.spell (relaid source newline gap (d :: imports) (s :: slots) (t :: strip)) =
      gap ++ Stretch.spell (relaid source newline [] (d :: imports) (s :: slots) (t :: strip)) := by
  simp [relaid]

/-- Fixes that begin behind a place leave the text up to it alone. -/
lemma splice_eq_append {last place : Nat} {between : Text} {fixes : List Fix}
    (h : Text.slice? last place source = some between)
    (hf : ∀ f ∈ fixes, place ≤ f.span.start) :
    Fix.splice source last fixes = between ++ Fix.splice source place fixes := by
  obtain ⟨a, b, rfl, ha, hb⟩ := Text.slice?_eq_some_iff.1 h
  induction fixes with
  | nil =>
    rw [Fix.splice, Fix.splice, List.append_assoc, Text.from?_append ha, ← List.append_assoc,
      Text.from?_append (by simp only [Text.byteLength_append]; omega)]
    simp
  | cons f fixes ih =>
    have hfp := hf f (by simp)
    have hrest := ih fun g hg => hf g (by simp [hg])
    rw [Fix.splice, Fix.splice, if_neg (by omega), if_neg (by omega),
      Text.slice?_eq_map_append h hfp]
    cases Text.slice? place f.span.start (a ++ between ++ b) with
    | none => simpa using hrest
    | some u =>
      cases Text.slice? f.span.start f.span.stop (a ++ between ++ b) with
      | none => simpa using hrest
      | some v => simp

/-- One step of splicing.  Behind the declaration stand a gap and a text `x` that the other fixes
lead to, and the fix of the declaration may reach over the gap. -/
lemma splice_checkSlot (newline : Text) {d : Declaration} (next : Option Nat) (s : Slot)
    {t g x : Text} {fixes : List Fix} (ht : Text.slice? d.span.start d.span.stop source = some t)
    (hstop : Fix.splice source d.span.stop fixes = g ++ x)
    (hcut : ∀ m, (Gap.after source d.span.stop next).cut = some m →
      Fix.splice source m fixes = x ∧ (Text.slice? d.span.start m source).isSome)
    (hfixes : ∀ f ∈ fixes, d.span.stop ≤ f.span.start) :
    Fix.splice source d.span.start
        (fixesOf (checkSlot source newline true d next s).toList ++ fixes) =
      s.text ++ (gapLeft source newline d next s g ++ x) := by
  have hempty : Text.slice? d.span.start d.span.start source = some [] := by
    obtain ⟨a, b, rfl, ha, -⟩ := Text.slice?_eq_some_iff.1 ht
    exact Text.slice?_eq_some_iff.2 ⟨a, t ++ b, by simp, ha, by simp⟩
  cases hc : checkSlot source newline true d next s with
  | none =>
    have htext := textIn_of_checkSlot_eq_none hc
    rw [Span.textIn, ht, Option.getD_some] at htext
    rw [Option.toList_none, fixesOf_nil, List.nil_append, splice_eq_append ht hfixes, hstop, htext]
    simp [gapLeft, hc]
  | some diagnostic =>
    rw [Option.toList_some, fixesOf, List.filterMap_cons, fix_checkSlot hc]
    simp only [List.filterMap_nil, List.cons_append, List.nil_append, Fix.splice, lt_irrefl,
      if_false, hempty, gapLeft, hc, Option.isSome_some, true_and]
    cases hgap : (Gap.after source d.span.stop next).cut with
    | none => simp [ht, hstop]
    | some m =>
      obtain ⟨hx, hslice⟩ := hcut m hgap
      obtain ⟨u, hu⟩ := Option.isSome_iff_exists.1 hslice
      simp [hu, hx]

/-- Splicing from the first declaration on writes the text of every slot in its place. -/
lemma splice_checkSlots {d : Declaration} {imports : List Declaration} {s : Slot}
    {slots : List Slot} {t : Stretch} {strip : List Stretch} {behind : Text} {n : Nat}
    (h : OnStrip source n (d :: imports) (t :: strip) behind)
    (hlen : slots.length = imports.length) :
    Fix.splice source d.span.start
        (fixesOf (checkSlots source newline true (d :: imports) (s :: slots))) =
      Stretch.spell (relaid source newline [] (d :: imports) (s :: slots) (t :: strip)) ++
        behind := by
  induction imports generalizing d s slots t strip n with
  | nil =>
    obtain rfl := List.length_eq_zero_iff.1 hlen
    obtain rfl := List.length_eq_zero_iff.1 h.tail.length_eq
    have hstep := splice_checkSlot newline none s (g := []) (x := behind) h.slice_text
      (show Fix.splice source d.span.stop [] = _ by simp [Fix.splice, h.tail.rest])
      (fun m hm => by simpa using (cut_after_eq_some hm).1) (by simp)
    have hgap : gapLeft source newline d none s [] = [] := by
      simp [gapLeft]
    simpa [checkSlots, relaid, hgap] using hstep
  | cons e imports ih =>
    obtain ⟨s', slots, rfl⟩ := List.exists_cons_of_length_eq_add_one hlen
    obtain ⟨u, strip, rfl⟩ := List.exists_cons_of_length_eq_add_one h.tail.length_eq
    have hrest := ih (s := s') h.tail (by simpa using hlen)
    have hbehind : ∀ f ∈ fixesOf (checkSlots source newline true (e :: imports) (s' :: slots)),
        e.span.start ≤ f.span.start := fun f hf => start_le_of_mem_fixesOf h.tail.inSourceOrder hf
    have hde : d.span.stop ≤ e.span.start := by
      rw [h.tail.span_eq.1]
      exact Nat.le_add_right _ _
    have hstep := splice_checkSlot newline (some e.span.start) s h.slice_text
      ((splice_eq_append h.tail.slice_gap hbehind).trans (by rw [hrest]))
      (by
        intro m hm
        obtain rfl : e.span.start = m := by simpa using (cut_after_eq_some hm).1
        exact ⟨hrest, by simp [Text.slice?_eq_map_append h.slice_text hde, h.tail.slice_gap]⟩)
      (fun f hf => hde.trans (hbehind f hf))
    rw [checkSlots, fixesOf_append, List.head?_cons, Option.map_some, hstep, relaid_cons_cons,
      Stretch.spell_cons, spell_relaid_cons (gapLeft source newline d (some e.span.start) s u.gap)]
    simp only [List.nil_append, List.append_assoc]

/-! ## Withheld fixes -/

lemma fix_eq_none_of_checkSlot {source newline : Text} {d : Declaration} {next : Option Nat} {s : Slot}
    {diagnostic : Diagnostic} (h : checkSlot source newline false d next s = some diagnostic) :
    diagnostic.fix = none := by
  unfold checkSlot at h
  simp only [Bool.false_eq_true, if_false] at h
  split at h
  · simp at h
  · rw [← Option.some.inj h]

lemma fixesOf_checkFrom_false (source newline : Text) (imports : List Declaration)
    (expected : List ExpectedLine) : fixesOf (checkFrom source newline false imports expected) = [] := by
  induction imports generalizing expected with
  | nil => rfl
  | cons d imports ih =>
    rw [checkFrom]
    split
    · rfl
    · next slot left _ =>
      rw [fixesOf_append, ih, List.append_nil]
      cases hc : checkSlot source newline false d (imports.head?.map (·.span.start)) slot with
      | none => rfl
      | some diagnostic =>
        rw [Option.toList_some, fixesOf, List.filterMap_cons, fix_eq_none_of_checkSlot hc]
        rfl

/-- A comment inside any declaration withholds all fixes. -/
lemma fixesOf_check_of_hasInnerComment (c : Config) {source : Text} {imports : List Declaration}
    {d : Declaration} (hd : d ∈ imports) (hc : hasInnerComment source d.span = true) :
    fixesOf (check c source imports) = [] := by
  have hfix : (!imports.any fun d => hasInnerComment source d.span) = false := by
    rw [Bool.not_eq_false', List.any_eq_true]
    exact ⟨d, hd, hc⟩
  rw [check, hfix, fixesOf_checkFrom_false]

/-- Without fixes a text is left alone. -/
lemma applyFixes_nil (source : Text) : applyFixes source [] = source := by
  simp [applyFixes, Fix.splice]

/-- Fixing leaves the strip of the source with the texts of the slots on it. -/
theorem applyFixes_checkSlots (newline : Text) {imports : List Declaration} {slots : List Slot}
    {t : Stretch} {strip : List Stretch} {behind : Text}
    (h : OnStrip source 0 imports (t :: strip) behind)
    (hlen : slots.length = imports.length) :
    applyFixes source (fixesOf (checkSlots source newline true imports slots)) =
      Stretch.spell (relaid source newline t.gap imports slots (t :: strip)) ++ behind := by
  obtain ⟨d, imports, rfl⟩ := List.exists_cons_of_length_eq_add_one h.length_eq.symm
  obtain ⟨s, slots, rfl⟩ := List.exists_cons_of_length_eq_add_one hlen
  have hbehind : ∀ f ∈ fixesOf (checkSlots source newline true (d :: imports) (s :: slots)),
      d.span.start ≤ f.span.start := fun f hf => start_le_of_mem_fixesOf h.inSourceOrder hf
  rw [applyFixes, List.mergeSort_of_pairwise (pairwise_fixesOf_checkSlots h.inSourceOrder),
    splice_eq_append h.slice_gap hbehind, splice_checkSlots h (by simpa using hlen),
    spell_relaid_cons t.gap, List.append_assoc]

end Fixes

end ImportGrid
