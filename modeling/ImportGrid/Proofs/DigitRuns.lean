/-
Runs of digits in the order of texts.

A text can be weighed piece by piece if it is not cut inside a run of digits (`weights_append`), and a
run of digits is one weight.  Of two runs without leading zeros the longer denotes the larger number,
and of two that are equally long the first digit in which they differ decides, so runs weigh as much as
the numbers they denote (`compare_key_number`).  Texts that are the same up to a run of digits are
therefore in the order of these numbers, and if the numbers are the same, in the order of what
follows the runs (`collate_digitRun`).
-/
import Mathlib.Algebra.Group.Nat.Defs
import Mathlib.Data.List.Basic
import Mathlib.Data.List.TakeWhile
import Mathlib.Order.Compare
import Mathlib.Tactic.Common
import ImportGrid.Collation

namespace ImportGrid.Collation

/-! ## Cutting texts into runs -/

/-- A run of ASCII digits, of any length but not empty. -/
structure IsDigitRun (t : Text) : Prop where
  ne_nil : t ≠ []
  isDigit : ∀ c ∈ t, c.isDigit = true

instance (t : Text) : Decidable (IsDigitRun t) :=
  decidable_of_iff (t ≠ [] ∧ t.all Char.isDigit = true)
    ⟨fun h => ⟨h.1, List.all_eq_true.1 h.2⟩, fun h => ⟨h.ne_nil, List.all_eq_true.2 h.isDigit⟩⟩

/-- Whether a text begins with an ASCII digit. -/
def startsWithDigit (t : Text) : Bool := t.head?.any Char.isDigit

/-- Whether a text ends in an ASCII digit. -/
def endsInDigit (t : Text) : Bool := t.getLast?.any Char.isDigit

lemma IsDigitRun.endsInDigit {run : Text} (hrun : IsDigitRun run) : endsInDigit run = true := by
  obtain ⟨d, hd⟩ := Option.isSome_iff_exists.1 (List.getLast?_isSome.2 hrun.ne_nil)
  rw [Collation.endsInDigit, hd, Option.any_some]
  exact hrun.isDigit d (List.mem_of_mem_getLast? hd)

/-- A run of digits has one weight, if no digit follows it. -/
lemma weights_run_append {run t : Text} (hrun : IsDigitRun run) (ht : startsWithDigit t = false) :
    weights (run ++ t) = .number (run.dropWhile (· == '0')) :: weights t := by
  obtain ⟨c, run, rfl⟩ := List.exists_cons_of_ne_nil hrun.ne_nil
  have hdigits : ∀ d ∈ run, d.isDigit = true := fun d hd => hrun.isDigit d (by simp [hd])
  have hstop : t.takeWhile Char.isDigit = [] ∧ t.dropWhile Char.isDigit = t := by
    cases t with
    | nil => exact ⟨rfl, rfl⟩
    | cons d t =>
      have hd : ¬ d.isDigit = true := by simpa [startsWithDigit] using ht
      exact ⟨List.takeWhile_cons_of_neg hd, List.dropWhile_cons_of_neg hd⟩
  rw [List.cons_append, weights_cons_of_digit (hrun.isDigit c (by simp)),
    List.takeWhile_append_of_pos hdigits, List.dropWhile_append_of_pos hdigits, hstop.1, hstop.2,
    List.append_nil]

/-- The weights of a text are those of its two pieces, if no run of digits goes on from one to the
other. -/
theorem weights_append {s t : Text} (hcut : endsInDigit s = true → startsWithDigit t = false) :
    weights (s ++ t) = weights s ++ weights t := by
  induction s using weights.induct with
  | case1 => simp
  | case2 c s hc ih =>
    have hrun : IsDigitRun (c :: s.takeWhile Char.isDigit) := by
      refine ⟨List.cons_ne_nil _ _, fun d hd => ?_⟩
      rcases List.mem_cons.1 hd with rfl | hd
      · exact hc
      · exact List.mem_takeWhile_imp hd
    have hsplit : s = s.takeWhile Char.isDigit ++ s.dropWhile Char.isDigit :=
      List.takeWhile_append_dropWhile.symm
    have hweights := weights_cons_of_digit hc s
    cases hrest : s.dropWhile Char.isDigit with
    | nil =>
      -- the first piece is one run, which ends where the text is cut
      rw [hrest, List.append_nil] at hsplit
      rw [← hsplit] at hrun
      rw [weights_run_append hrun (hcut hrun.endsInDigit), hweights, hrest, ← hsplit, weights_nil]
      rfl
    | cons d rest =>
      -- the run ends within the first piece
      rw [hrest] at ih hsplit hweights
      have hd : d.isDigit = false := by
        have hhead := List.head?_dropWhile_not Char.isDigit s
        simpa [hrest] using hhead
      have hlast : endsInDigit (c :: s) = endsInDigit (d :: rest) := by
        rw [endsInDigit, endsInDigit, hsplit, ← List.cons_append, List.getLast?_append_cons]
      calc weights (c :: s ++ t)
          = weights ((c :: s.takeWhile Char.isDigit) ++ (d :: rest ++ t)) := by
            conv => lhs; rw [hsplit]
            simp only [List.cons_append, List.append_assoc]
        _ = .number ((c :: s.takeWhile Char.isDigit).dropWhile (· == '0')) ::
              weights (d :: rest ++ t) :=
            weights_run_append hrun (by simpa [startsWithDigit] using hd)
        _ = weights (c :: s) ++ weights t := by
            rw [ih (hlast ▸ hcut), hweights, List.cons_append]
  | case3 c s hc ih =>
    have hc : c.isDigit = false := by simpa using hc
    have hlast : endsInDigit s = true → endsInDigit (c :: s) = true := by
      intro hs
      cases s with
      | nil => simp [endsInDigit] at hs
      | cons d s => simpa only [endsInDigit, List.getLast?_cons_cons] using hs
    rw [List.cons_append, weights_cons_of_not_digit hc, weights_cons_of_not_digit hc,
      ih fun hs => hcut (hlast hs), List.cons_append]

/-! ## Runs as numbers -/

/-- The number that digits denote in decimal. -/
def decimalValue (digits : Text) : Nat := Nat.ofDigitChars 10 digits 0

/-- The number that a digit denotes. -/
def digitValue (c : Char) : Nat := c.toNat - '0'.toNat

@[simp] lemma decimalValue_nil : decimalValue [] = 0 := rfl

lemma decimalValue_cons (c : Char) (t : Text) :
    decimalValue (c :: t) = 10 ^ t.length * digitValue c + decimalValue t := by
  rw [decimalValue, Nat.ofDigitChars_cons, Nat.ofDigitChars_eq_ofDigitChars_zero]
  simp only [Nat.mul_zero, Nat.zero_add, decimalValue, digitValue]

lemma toNat_eq_digitValue {c : Char} (hc : c.isDigit = true) :
    c.toNat = 48 + digitValue c ∧ digitValue c < 10 := by
  have hzero : '0'.toNat = 48 := rfl
  have hrange : 48 ≤ c.toNat ∧ c.toNat ≤ 57 := by
    simpa [Char.isDigit, UInt32.le_iff_toNat_le] using hc
  rw [digitValue, hzero]
  omega

/-- A number has no more digits than it is written with. -/
lemma decimalValue_lt {t : Text} (ht : ∀ c ∈ t, c.isDigit = true) :
    decimalValue t < 10 ^ t.length := by
  induction t with
  | nil => simp
  | cons c t ih =>
    have hrest := ih fun d hd => ht d (by simp [hd])
    obtain ⟨-, hc⟩ := toNat_eq_digitValue (ht c (by simp))
    have hmul : 10 ^ t.length * digitValue c ≤ 10 ^ t.length * 9 := Nat.mul_le_mul_left _ (by omega)
    rw [decimalValue_cons, List.length_cons, Nat.pow_succ]
    omega

/-- Leading zeros do not count. -/
lemma decimalValue_dropWhile (t : Text) : decimalValue (t.dropWhile (· == '0')) = decimalValue t := by
  induction t with
  | nil => rfl
  | cons c t ih =>
    by_cases hc : c = '0'
    · have hzero : digitValue '0' = 0 := rfl
      rw [List.dropWhile_cons_of_pos (by simpa using hc), ih, decimalValue_cons, hc, hzero,
        Nat.mul_zero, Nat.zero_add]
    · rw [List.dropWhile_cons_of_neg (by simpa using hc)]

/-- A number that does not begin with a zero has as many digits as it is written with. -/
lemma pow_le_decimalValue {c : Char} {t : Text} (hc : c.isDigit = true) (hzero : c ≠ '0') :
    10 ^ t.length ≤ decimalValue (c :: t) := by
  have hpos : 0 < digitValue c := by
    obtain ⟨hval, -⟩ := toNat_eq_digitValue hc
    refine Nat.pos_of_ne_zero fun h => hzero (Char.toNat_inj.1 ?_)
    rw [hval, h]
    rfl
  rw [decimalValue_cons]
  exact Nat.le_add_right_of_le (Nat.le_mul_of_pos_right _ hpos)

/-- Numbers written with a leading and a smaller part compare by the leading part first. -/
lemma compare_mul_add {k a b c d : Nat} (hc : c < k) (hd : d < k) :
    compare (k * a + c) (k * b + d) = (compare a b).then (compare c d) := by
  rcases lt_trichotomy a b with hab | rfl | hab
  · have hmul : k * (a + 1) ≤ k * b := Nat.mul_le_mul_left k hab
    rw [Nat.mul_add, Nat.mul_one] at hmul
    rw [Nat.compare_eq_lt.2 hab, Nat.compare_eq_lt.2 (by omega), Ordering.lt_then]
  · rw [Nat.compare_eq_eq.2 rfl, Ordering.eq_then, Nat.compare_eq_ite_lt, Nat.compare_eq_ite_lt]
    simp only [Nat.add_lt_add_iff_left]
  · have hmul : k * (b + 1) ≤ k * a := Nat.mul_le_mul_left k hab
    rw [Nat.mul_add, Nat.mul_one] at hmul
    rw [Nat.compare_eq_gt.2 hab, Nat.compare_eq_gt.2 (by omega), Ordering.gt_then]

/-- Digits in equal number compare as the numbers they denote. -/
lemma compare_map_toNat {s t : Text} (hs : ∀ c ∈ s, c.isDigit = true) (ht : ∀ c ∈ t, c.isDigit = true)
    (hlen : s.length = t.length) :
    compare (s.map Char.toNat) (t.map Char.toNat) = compare (decimalValue s) (decimalValue t) := by
  induction s generalizing t with
  | nil =>
    obtain rfl := List.length_eq_zero_iff.1 hlen.symm
    rfl
  | cons c s ih =>
    obtain ⟨d, t, rfl⟩ := List.exists_cons_of_length_eq_add_one hlen.symm
    simp only [List.length_cons, Nat.add_right_cancel_iff] at hlen
    simp only [List.forall_mem_cons] at hs ht
    have hdigit : compare c.toNat d.toNat = compare (digitValue c) (digitValue d) := by
      rw [(toNat_eq_digitValue hs.1).1, (toNat_eq_digitValue ht.1).1, Nat.compare_eq_ite_lt,
        Nat.compare_eq_ite_lt]
      simp only [Nat.add_lt_add_iff_left]
    rw [List.map_cons, List.map_cons, List.compare_cons_cons, hdigit, ih hs.2 ht.2 hlen,
      decimalValue_cons, decimalValue_cons, hlen,
      compare_mul_add (hlen ▸ decimalValue_lt hs.2) (decimalValue_lt ht.2)]

/-- Numbers without leading zeros compare by their length first. -/
lemma compare_length_then {s t : Text} (hs : ∀ c ∈ s, c.isDigit = true) (ht : ∀ c ∈ t, c.isDigit = true)
    (hszero : s.head? ≠ some '0') (htzero : t.head? ≠ some '0') :
    (compare s.length t.length).then (compare (s.map Char.toNat) (t.map Char.toNat)) =
      compare (decimalValue s) (decimalValue t) := by
  -- a longer number is larger
  have hlt : ∀ {s t : Text}, (∀ c ∈ s, c.isDigit = true) → (∀ c ∈ t, c.isDigit = true) →
      t.head? ≠ some '0' → s.length < t.length → decimalValue s < decimalValue t := by
    intro s t hs ht hzero hlen
    obtain ⟨d, t, rfl⟩ : ∃ d u, t = d :: u := List.exists_cons_of_length_pos (by omega)
    have hpow : 10 ^ s.length ≤ 10 ^ t.length := Nat.pow_le_pow_right (by omega) (Nat.le_of_lt_succ hlen)
    calc decimalValue s < 10 ^ s.length := decimalValue_lt hs
      _ ≤ 10 ^ t.length := hpow
      _ ≤ decimalValue (d :: t) := pow_le_decimalValue (ht d (by simp)) (by simpa using hzero)
  rcases lt_trichotomy s.length t.length with hlen | hlen | hlen
  · rw [Nat.compare_eq_lt.2 hlen, Ordering.lt_then, Nat.compare_eq_lt.2 (hlt hs ht htzero hlen)]
  · rw [Nat.compare_eq_eq.2 hlen, Ordering.eq_then, compare_map_toNat hs ht hlen]
  · rw [Nat.compare_eq_gt.2 hlen, Ordering.gt_then, Nat.compare_eq_gt.2 (hlt ht hs hszero hlen)]

/-- Runs of digits weigh as much as the numbers they denote. -/
theorem compare_key_number {m n : Text} (hm : ∀ c ∈ m, c.isDigit = true)
    (hn : ∀ c ∈ n, c.isDigit = true) :
    compare (Weight.number (m.dropWhile (· == '0'))).key (Weight.number (n.dropWhile (· == '0'))).key =
      compare (decimalValue m) (decimalValue n) := by
  have hdigits : ∀ {t : Text}, (∀ c ∈ t, c.isDigit = true) →
      ∀ c ∈ t.dropWhile (· == '0'), c.isDigit = true := fun ht c hc =>
    ht c ((List.dropWhile_suffix _).mem hc)
  have hzero : ∀ t : Text, (t.dropWhile (· == '0')).head? ≠ some '0' := by
    intro t h
    have hhead := List.head?_dropWhile_not (· == '0') t
    simp [h] at hhead
  rw [← decimalValue_dropWhile m, ← decimalValue_dropWhile n,
    ← compare_length_then (hdigits hm) (hdigits hn) (hzero m) (hzero n)]
  simp only [Weight.key, List.compare_cons_cons, Std.compare_self, Ordering.eq_then]

/-! ## Texts that differ from a run on -/

/-- What two lists have in common before they differ does not count. -/
lemma compare_append_left {α : Type} [Ord α] [Std.ReflOrd α] (front s t : List α) :
    compare (front ++ s) (front ++ t) = compare s t := by
  induction front with
  | nil => rfl
  | cons k front ih =>
    rw [List.cons_append, List.cons_append, List.compare_cons_cons, Std.compare_self, Ordering.eq_then, ih]

/-- The weights of a run of digits between two other texts. -/
lemma weightKeys_run {p run a : Text} (hp : endsInDigit p = false) (hrun : IsDigitRun run)
    (ha : startsWithDigit a = false) :
    weightKeys (p ++ run ++ a) =
      weightKeys p ++ (Weight.number (run.dropWhile (· == '0'))).key :: weightKeys a := by
  have hcut : weights (p ++ (run ++ a)) = weights p ++ weights (run ++ a) :=
    weights_append fun h => absurd h (by simp [hp])
  rw [List.append_assoc, weightKeys, hcut, weights_run_append hrun ha, List.map_append, List.map_cons]
  rfl

/-- Runs of digits compare by the numbers they denote, however long they are and with whatever zeros
they begin, between any texts that do not make them longer.  If they denote the same number, what
follows them decides. -/
theorem collate_digitRun (p m n a b : Text) (hp : endsInDigit p = false) (hm : IsDigitRun m)
    (hn : IsDigitRun n) (ha : startsWithDigit a = false) (hb : startsWithDigit b = false) :
    collate (p ++ m ++ a) (p ++ n ++ b) =
      if decimalValue m = decimalValue n then collate a b
      else compare (decimalValue m) (decimalValue n) := by
  have hfirst : collate (p ++ m ++ a) (p ++ n ++ b) =
      (compare (decimalValue m) (decimalValue n)).then (collate a b) := by
    rw [collate, weightKeys_run hp hm ha, weightKeys_run hp hn hb, compare_append_left,
      List.compare_cons_cons, compare_key_number hm.isDigit hn.isDigit]
    rfl
  rw [hfirst]
  split
  · next heq => rw [heq, Std.compare_self, Ordering.eq_then]
  · next hne =>
    rcases Nat.lt_or_gt_of_ne hne with hlt | hgt
    · rw [Nat.compare_eq_lt.2 hlt, Ordering.lt_then]
    · rw [Nat.compare_eq_gt.2 hgt, Ordering.gt_then]

theorem collate_digitRun_versions :
    collate ("lib-1.".toList ++ "007".toList ++ "rc".toList) ("lib-1.".toList ++ "10".toList ++ []) = .lt ∧
      collate ("lib-1.".toList ++ "0010".toList ++ "-b".toList)
        ("lib-1.".toList ++ "10".toList ++ "-a".toList) = .gt := by
  have hp : endsInDigit "lib-1.".toList = false := by decide +kernel
  have hten : IsDigitRun "10".toList := by decide +kernel
  constructor
  · rw [collate_digitRun "lib-1.".toList "007".toList "10".toList "rc".toList [] hp (by decide +kernel)
      hten (by decide +kernel) (by decide +kernel)]
    decide +kernel
  · rw [collate_digitRun "lib-1.".toList "0010".toList "10".toList "-b".toList "-a".toList hp
      (by decide +kernel) hten (by decide +kernel) (by decide +kernel)]
    decide +kernel

end ImportGrid.Collation
