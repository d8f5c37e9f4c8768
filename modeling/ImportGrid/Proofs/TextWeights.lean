/-
What weighs as much as a text, and what weighs more.

Writing something behind a text does not make it lighter.  If no run of digits goes on, the weights of
what is written follow its own; if one does, the longer run denotes a number that is at least as large
(`isLE_collate_append`).  So a text comes before every text that goes on from it
(`compareText_append`).

Among ASCII texts, those that weigh the same are known too.  The plain form of a text has its letters in
lower case and its runs of digits as decimal numerals.  The weights spell the plain form
(`flatMap_spelled_weights`), and the plain form weighs what the text weighs (`weights_plainForm`), so two
texts tie exactly when they have one plain form (`collate_eq_iff_plainForm_eq`).
-/
import Mathlib.Data.List.DropRight
import ImportGrid.Proofs.DigitRuns

namespace ImportGrid.Collation

/-! ## Texts that go on -/

@[simp] lemma weightKeys_nil : weightKeys [] = [] := by simp [weightKeys]

/-- A list does not come after one that goes on from it. -/
lemma isLE_compare_append {α : Type} [Ord α] [Std.ReflOrd α] (l rest : List α) :
    (compare l (l ++ rest)).isLE := by
  have hrest : compare l (l ++ rest) = compare [] rest := by
    conv => lhs; arg 1; rw [← List.append_nil l]
    exact compare_append_left l [] rest
  rw [hrest]
  cases rest <;> rfl

/-- Digits that follow make a number no smaller. -/
lemma decimalValue_le_append (m n : Text) : decimalValue m ≤ decimalValue (m ++ n) := by
  have happend : decimalValue (m ++ n) = 10 ^ n.length * decimalValue m + decimalValue n := by
    rw [decimalValue, Nat.ofDigitChars_append, Nat.ofDigitChars_eq_ofDigitChars_zero]
    rfl
  rw [happend]
  exact Nat.le_add_right_of_le (Nat.le_mul_of_pos_left _ (Nat.pow_pos (by omega)))

/-- A text is a run of digits behind a text that does not end in a digit. -/
lemma exists_eq_append_digits (t : Text) :
    ∃ p run : Text, t = p ++ run ∧ endsInDigit p = false ∧ ∀ c ∈ run, c.isDigit = true := by
  refine ⟨t.rdropWhile Char.isDigit, t.rtakeWhile Char.isDigit,
    List.rdropWhile_append_rtakeWhile.symm, ?_, fun c hc => List.mem_rtakeWhile_imp hc⟩
  rw [endsInDigit]
  by_cases hnil : t.rdropWhile Char.isDigit = []
  · rw [hnil]
    rfl
  · rw [List.getLast?_eq_some_getLast hnil, Option.any_some]
    simpa using List.rdropWhile_last_not Char.isDigit t hnil

/-- What is left of a text behind its leading digits does not begin with a digit. -/
lemma startsWithDigit_dropWhile (t : Text) : startsWithDigit (t.dropWhile Char.isDigit) = false := by
  have hhead := List.head?_dropWhile_not Char.isDigit t
  rw [startsWithDigit]
  cases h : (t.dropWhile Char.isDigit).head? with
  | none => rfl
  | some c => simpa [h] using hhead

/-- A run of digits at the end of a text weighs no more if it goes on. -/
lemma isLE_collate_run {p m n rest : Text} (hp : endsInDigit p = false) (hm : IsDigitRun m)
    (hn : ∀ c ∈ n, c.isDigit = true) (hrest : startsWithDigit rest = false) :
    (collate (p ++ m) (p ++ (m ++ n) ++ rest)).isLE := by
  have hmn : IsDigitRun (m ++ n) :=
    ⟨by simp [hm.ne_nil], fun c hc => (List.mem_append.1 hc).elim (hm.isDigit c) (hn c)⟩
  have hkeys : weightKeys (p ++ m) =
      weightKeys p ++ [(Weight.number (m.dropWhile (· == '0'))).key] := by
    have hrun := weightKeys_run (a := []) hp hm rfl
    rwa [List.append_nil, weightKeys_nil] at hrun
  have hvalue := Nat.isLE_compare.2 (decimalValue_le_append m n)
  rw [collate, hkeys, weightKeys_run hp hmn hrest, compare_append_left, List.compare_cons_cons,
    compare_key_number hm.isDigit hmn.isDigit, Ordering.isLE_then_iff_and]
  exact ⟨hvalue, .inr (isLE_compare_append [] _)⟩

/-- A text weighs no more than one that goes on from it. -/
theorem isLE_collate_append (a s : Text) : (collate a (a ++ s)).isLE := by
  by_cases hcut : endsInDigit a = true → startsWithDigit s = false
  · -- no run of digits goes on
    rw [collate, weightKeys, weightKeys, weights_append hcut, List.map_append]
    exact isLE_compare_append ..
  · have ha : endsInDigit a = true := (Classical.not_imp.1 hcut).1
    obtain ⟨p, m, rfl, hp, hm⟩ := exists_eq_append_digits a
    have hne : m ≠ [] := by
      rintro rfl
      rw [List.append_nil, hp] at ha
      exact Bool.false_ne_true ha
    have hs : p ++ m ++ s = p ++ (m ++ s.takeWhile Char.isDigit) ++ s.dropWhile Char.isDigit := by
      rw [List.append_assoc, List.append_assoc, List.append_assoc, List.takeWhile_append_dropWhile]
    rw [hs]
    exact isLE_collate_run hp ⟨hne, hm⟩ (fun c hc => List.mem_takeWhile_imp hc)
      (startsWithDigit_dropWhile s)

/-- A text never comes behind one that goes on from it by weight, and always comes before it in the order
that breaks ties, also where a run of digits at its end goes on. -/
theorem compareText_append (a s : Text) (hs : s ≠ []) :
    collate a (a ++ s) ≠ .gt ∧ compareText a (a ++ s) = .lt := by
  have hle := isLE_collate_append a s
  have hlt : compare a (a ++ s) = .lt := by
    obtain ⟨c, s, rfl⟩ := List.exists_cons_of_ne_nil hs
    conv => lhs; arg 1; rw [← List.append_nil a]
    rw [compare_append_left, List.compare_nil_cons]
  rw [compareText, hlt]
  cases hc : collate a (a ++ s) with
  | lt => decide
  | eq => decide
  | gt =>
    rw [hc] at hle
    exact absurd hle (by decide)

theorem compareText_append_version :
    "2".toList ≠ [] ∧ collate "lib-0".toList ("lib-0".toList ++ "2".toList) ≠ .gt ∧
      compareText "lib-0".toList ("lib-0".toList ++ "2".toList) = .lt := by
  have hs : "2".toList ≠ [] := by decide
  exact ⟨hs, compareText_append "lib-0".toList "2".toList hs⟩

/-! ## Plain forms -/

/-- A text of ASCII characters. -/
def IsAscii (t : Text) : Prop := ∀ c ∈ t, c.toNat < 128

instance (t : Text) : Decidable (IsAscii t) :=
  decidable_of_iff ((t.all fun c => decide (c.toNat < 128)) = true) (by simp [IsAscii])

/-- The decimal numeral of the number that digits denote. -/
def numeral (digits : Text) : Text := Nat.toDigits 10 (decimalValue digits)

/-- A text with its letters in lower case and its runs of digits as decimal numerals. -/
def plainForm : Text → Text
  | [] => []
  | c :: t =>
    if c.isDigit then
      numeral (c :: t.takeWhile Char.isDigit) ++ plainForm (t.dropWhile Char.isDigit)
    else c.toLower :: plainForm t
termination_by t => t.length
decreasing_by
  · have := (List.dropWhile_suffix Char.isDigit (l := t)).length_le
    simp only [List.length_cons]; omega
  · simp

@[simp] lemma plainForm_nil : plainForm [] = [] := by simp [plainForm]

lemma plainForm_cons_of_digit {c : Char} (h : c.isDigit = true) (t : Text) :
    plainForm (c :: t) =
      numeral (c :: t.takeWhile Char.isDigit) ++ plainForm (t.dropWhile Char.isDigit) := by
  rw [plainForm, if_pos h]

lemma plainForm_cons_of_not_digit {c : Char} (h : c.isDigit = false) (t : Text) :
    plainForm (c :: t) = c.toLower :: plainForm t := by
  rw [plainForm, if_neg (by simp [h])]

/-- How a weight reads in a plain form. -/
def Weight.spelled : Weight → Text
  | .space c => [c]
  | .punctuation rank => Collation.punctuation[rank]?.toList
  | .symbol c => [c]
  | .number digits => numeral digits
  | .letter base => [base]

/-! ### ASCII characters -/

/-- What holds of the first 128 characters holds of every ASCII character. -/
lemma forall_ascii {p : Char → Prop} (h : ∀ n : Fin 128, p (Char.ofNat n)) (c : Char)
    (hc : c.toNat < 128) : p c :=
  c.ofNat_toNat ▸ h ⟨c.toNat, hc⟩

lemma isAlphabetic_of_ascii : ∀ c : Char, c.toNat < 128 → Text.isAlphabetic c = c.isAlpha :=
  forall_ascii Text.isAlphabetic_ascii

lemma lowercase_of_ascii : ∀ c : Char, c.toNat < 128 → Text.lowercase c = c.toLower :=
  forall_ascii Text.lowercase_ascii

/-- Lower case makes no digits. -/
lemma isDigit_toLower : ∀ c : Char, c.toNat < 128 → c.toLower.isDigit = c.isDigit :=
  forall_ascii (by decide +kernel)

/-- Only letters have a lower case. -/
lemma toLower_of_not_isAlpha : ∀ c : Char, c.toNat < 128 → ¬ c.isAlpha = true → c.toLower = c :=
  forall_ascii (by decide +kernel)

/-- The lower case of a letter is a letter in lower case. -/
lemma toLower_of_isAlpha : ∀ c : Char, c.toNat < 128 → c.isAlpha = true →
    c.toLower.toNat < 128 ∧ c.toLower.isAlpha = true ∧ c.toLower.toLower = c.toLower :=
  forall_ascii (by decide +kernel)

/-- Letters are neither white space nor punctuation. -/
lemma not_blank_of_isAlpha : ∀ c : Char, c.toNat < 128 → c.isAlpha = true →
    Text.isWhiteSpace c = false ∧ punctuation.idxOf? c = none :=
  forall_ascii (by decide +kernel)

/-- No ASCII character has an accent. -/
lemma baseLetter_of_ascii {c : Char} (hc : c.toNat < 128) : baseLetter c = c := by
  have haccented : ∀ group ∈ accented, ∀ d ∈ group.2, 128 ≤ d.toNat := by
    have hall : (accented.all fun group => group.2.all fun d => 128 ≤ d.toNat) = true := by
      decide +kernel
    simpa using hall
  have hnone : accented.find? (fun group => group.2.contains c) = none := by
    refine List.find?_eq_none.2 fun group hgroup hmem => ?_
    have hle := haccented group hgroup c (by simpa using hmem)
    omega
  rw [baseLetter, hnone]

/-- An ASCII letter weighs as the lower-case letter. -/
lemma characterWeight_of_isAlpha {c : Char} (hc : c.toNat < 128) (halpha : c.isAlpha = true) :
    characterWeight c = .letter c.toLower := by
  obtain ⟨hspace, hrank⟩ := not_blank_of_isAlpha c hc halpha
  have hlower := toLower_of_isAlpha c hc halpha
  rw [characterWeight, hspace, hrank, isAlphabetic_of_ascii c hc, halpha, lowercase_of_ascii c hc,
    baseLetter_of_ascii hlower.1]
  rfl

/-- The weight of an ASCII character tells which character it is, up to case. -/
lemma spelled_characterWeight {c : Char} (hc : c.toNat < 128) :
    (characterWeight c).spelled = [c.toLower] := by
  by_cases halpha : c.isAlpha = true
  · rw [characterWeight_of_isAlpha hc halpha]
    rfl
  · rw [toLower_of_not_isAlpha c hc halpha, characterWeight, isAlphabetic_of_ascii c hc, if_neg halpha]
    split
    · rfl
    · split
      · next rank hrank =>
        obtain ⟨hlt, hat, -⟩ := List.idxOf?_eq_some_iff.1 hrank
        rw [Weight.spelled, List.getElem?_eq_getElem hlt, hat]
        rfl
      · rfl

/-- Lower case weighs the same. -/
lemma characterWeight_toLower {c : Char} (hc : c.toNat < 128) :
    characterWeight c.toLower = characterWeight c := by
  by_cases halpha : c.isAlpha = true
  · obtain ⟨hlt, hletter, hlower⟩ := toLower_of_isAlpha c hc halpha
    rw [characterWeight_of_isAlpha hlt hletter, characterWeight_of_isAlpha hc halpha, hlower]
  · rw [toLower_of_not_isAlpha c hc halpha]

/-! ### Numerals -/

/-- No two weights are the same list of numbers. -/
lemma Weight.key_injective : Function.Injective Weight.key := by
  intro v w h
  have hdigits : Function.Injective (List.map Char.toNat) :=
    List.map_injective_iff.2 fun _ _ => Char.toNat_inj.1
  cases v <;> cases w <;> simp_all [Weight.key, Char.toNat_inj, hdigits.eq_iff]

lemma decimalValue_numeral (digits : Text) : decimalValue (numeral digits) = decimalValue digits :=
  Nat.ofDigitChars_ten_toDigits

lemma isDigitRun_numeral (digits : Text) : IsDigitRun (numeral digits) :=
  ⟨Nat.toDigits_ne_nil, fun _ hc => Nat.isDigit_of_mem_toDigits (by omega) (by omega) hc⟩

/-- The numeral of a run of digits is the run without its leading zeros, but for a last one. -/
lemma dropWhile_numeral {run : Text} (hrun : ∀ c ∈ run, c.isDigit = true) :
    (numeral run).dropWhile (· == '0') = run.dropWhile (· == '0') := by
  have hkey := compare_key_number (isDigitRun_numeral run).isDigit hrun
  rw [decimalValue_numeral, Std.compare_self] at hkey
  simpa using Weight.key_injective (Std.LawfulEqOrd.eq_of_compare hkey)

/-! ### Weights and plain forms determine each other -/

lemma IsAscii.dropWhile {t : Text} (ht : IsAscii t) (p : Char → Bool) : IsAscii (t.dropWhile p) :=
  fun c hc => ht c ((List.dropWhile_suffix p).mem hc)

/-- The digits that a text begins with, behind a digit. -/
lemma isDigit_of_mem_takeWhile {c : Char} (hc : c.isDigit = true) (t : Text) :
    ∀ d ∈ c :: t.takeWhile Char.isDigit, d.isDigit = true :=
  List.forall_mem_cons.2 ⟨hc, fun _ hd => List.mem_takeWhile_imp hd⟩

/-- The weights of an ASCII text spell its plain form. -/
theorem flatMap_spelled_weights {t : Text} (ht : IsAscii t) :
    (weights t).flatMap Weight.spelled = plainForm t := by
  induction t using weights.induct with
  | case1 => simp
  | case2 c t hc ih =>
    have ht' := List.forall_mem_cons.1 ht
    rw [weights_cons_of_digit hc, plainForm_cons_of_digit hc, List.flatMap_cons,
      ih (IsAscii.dropWhile ht'.2 _), Weight.spelled, numeral, decimalValue_dropWhile, ← numeral]
  | case3 c t hc ih =>
    have ht' := List.forall_mem_cons.1 ht
    have hc : c.isDigit = false := by simpa using hc
    rw [weights_cons_of_not_digit hc, plainForm_cons_of_not_digit hc, List.flatMap_cons, ih ht'.2,
      spelled_characterWeight ht'.1]
    rfl

/-- The plain form begins with a digit where the text does. -/
lemma startsWithDigit_plainForm {t : Text} (ht : IsAscii t) (hstart : startsWithDigit t = false) :
    startsWithDigit (plainForm t) = false := by
  cases t with
  | nil => rw [plainForm_nil]; rfl
  | cons c t =>
    have hc : c.isDigit = false := by simpa [startsWithDigit] using hstart
    rw [plainForm_cons_of_not_digit hc, startsWithDigit, List.head?_cons, Option.any_some,
      isDigit_toLower c (ht c (by simp)), hc]

/-- The plain form of an ASCII text weighs what the text weighs. -/
theorem weights_plainForm {t : Text} (ht : IsAscii t) : weights (plainForm t) = weights t := by
  induction t using weights.induct with
  | case1 => rw [plainForm_nil]
  | case2 c t hc ih =>
    have hrest := IsAscii.dropWhile (List.forall_mem_cons.1 ht).2 Char.isDigit
    have hstart := startsWithDigit_plainForm hrest (startsWithDigit_dropWhile t)
    rw [plainForm_cons_of_digit hc, weights_run_append (isDigitRun_numeral _) hstart, ih hrest,
      dropWhile_numeral (isDigit_of_mem_takeWhile hc t), weights_cons_of_digit hc]
  | case3 c t hc ih =>
    have ht' := List.forall_mem_cons.1 ht
    have hc : c.isDigit = false := by simpa using hc
    rw [plainForm_cons_of_not_digit hc,
      weights_cons_of_not_digit ((isDigit_toLower c ht'.1).trans hc), ih ht'.2,
      characterWeight_toLower ht'.1, weights_cons_of_not_digit hc]

/-- Two ASCII texts tie exactly when they are the same up to letter case and leading zeros: lower case
and decimal numerals make one text of both. -/
theorem collate_eq_iff_plainForm_eq {a b : Text} (ha : IsAscii a) (hb : IsAscii b) :
    collate a b = .eq ↔ plainForm a = plainForm b := by
  have hweights : collate a b = .eq ↔ weights a = weights b := by
    rw [collate, Std.LawfulEqOrd.compare_eq_iff_eq, weightKeys, weightKeys,
      (List.map_injective_iff.2 Weight.key_injective).eq_iff]
  rw [hweights]
  constructor
  · intro h
    rw [← flatMap_spelled_weights ha, ← flatMap_spelled_weights hb, h]
  · intro h
    rw [← weights_plainForm ha, ← weights_plainForm hb, h]

theorem collate_eq_iff_plainForm_eq_reactPath :
    IsAscii "React-007/B00".toList ∧ IsAscii "rEACT-7/b0".toList ∧
      plainForm "React-007/B00".toList = plainForm "rEACT-7/b0".toList ∧
      collate "React-007/B00".toList "rEACT-7/b0".toList = .eq := by
  have ha : IsAscii "React-007/B00".toList := by decide +kernel
  have hb : IsAscii "rEACT-7/b0".toList := by decide +kernel
  have hplain : plainForm "React-007/B00".toList = plainForm "rEACT-7/b0".toList := by decide +kernel
  exact ⟨ha, hb, hplain, (collate_eq_iff_plainForm_eq ha hb).2 hplain⟩

end ImportGrid.Collation
