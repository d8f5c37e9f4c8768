/-
Words and strings of an import declaration.

A string is read from left to right: the reader goes on behind a quote until the same quote or a line
end comes up that no backslash hides (`stringContent`).  So a string literal is read to its end whatever
stands behind it (`IsStringLiteral.leadingString_append`), and a string that is not closed takes in
whatever comes next on its line (`prefix_stringContent_append`).

`nextLexeme?` splits off the word, the string or the sign at the front of a text.
-/
import Mathlib.Data.List.TakeWhile
import Mathlib.Tactic.Common
import ImportGrid.Text.Basic

namespace ImportGrid

variable {q c : Char} {m n w x y z t : Text}

/-! ## Words -/

/-- A character of a word: an ASCII letter or digit, `_` or `$`, or a character beyond ASCII that is no
white space.  The byte order mark and the vowel separator count as white space here, as a parser may
pass over them. -/
def IsWordChar (c : Char) : Prop :=
  c.isAlphanum ∨ c = '_' ∨ c = '$' ∨
    (128 ≤ c.toNat ∧ Text.isWhiteSpace c = false ∧ c ≠ '\ufeff' ∧ c ≠ '\u180e')

instance : DecidablePred IsWordChar := fun _ => inferInstanceAs (Decidable (_ ∨ _))

/-- A text that can be a name.  Which words are names is up to the parser. -/
def IsWord (t : Text) : Prop := t ≠ [] ∧ ∀ c ∈ t, IsWordChar c

instance : DecidablePred IsWord := fun t =>
  decidable_of_iff (t ≠ [] ∧ t.all (fun c => IsWordChar c) = true) (by simp [IsWord])

/-! ## Strings -/

/-- A character that begins a string, and ends it. -/
def IsStringQuote (c : Char) : Prop := c = '\'' ∨ c = '"'

instance : DecidablePred IsStringQuote := fun _ => inferInstanceAs (Decidable (_ ∨ _))

/-- A text begins with a quote. -/
def BeginsQuoted : Text → Prop
  | [] => False
  | c :: _ => IsStringQuote c

instance : DecidablePred BeginsQuoted
  | [] => .isFalse fun h => h
  | c :: _ => inferInstanceAs (Decidable (IsStringQuote c))

/-- Where the reader of a string is. -/
inductive StringState where
  /-- Behind a character that hides nothing. -/
  | plain
  /-- Behind a backslash that hides the next character. -/
  | escape
  /-- Behind a hidden carriage return, which hides a line feed with it. -/
  | returned
deriving Repr, DecidableEq

/-- The state behind a character; none if the string ends before it. -/
def StringState.next? (q : Char) (s : StringState) (c : Char) : Option StringState :=
  if s = .escape then some (if c = '\r' then .returned else .plain)
  else if s = .returned ∧ c = '\n' then some .plain
  else if c = q ∨ c = '\n' ∨ c = '\r' then none
  else some (if c = '\\' then .escape else .plain)

/-- What is read of a text in a string that the character `q` ends. -/
def stringContent (q : Char) : StringState → Text → Text
  | _, [] => []
  | s, c :: t =>
    match s.next? q c with
    | some s => c :: stringContent q s t
    | none => []

/-- The string at the front of a text, with its closing quote if it is closed. -/
def leadingString : Text → Text
  | [] => []
  | q :: t =>
    let m := stringContent q .plain t
    q :: (m ++ if (t.drop m.length).head? = some q then [q] else [])

/-- A string that is closed. -/
def IsStringLiteral : Text → Prop
  | [] => False
  | q :: t => IsStringQuote q ∧ t = stringContent q .plain t ++ [q]

instance : DecidablePred IsStringLiteral
  | [] => .isFalse fun h => h
  | _ :: _ => inferInstanceAs (Decidable (_ ∧ _))

lemma IsStringQuote.not_isWordChar (hq : IsStringQuote q) : ¬ IsWordChar q := by
  rcases hq with rfl | rfl <;> decide

lemma IsWord.not_isStringQuote (hw : IsWord w) (hc : c ∈ w) : ¬ IsStringQuote c := fun hq =>
  hq.not_isWordChar (hw.2 c hc)

lemma IsWord.not_beginsQuoted (hw : IsWord w) : ¬ BeginsQuoted w := by
  cases w with
  | nil => exact id
  | cons c w => exact hw.not_isStringQuote (List.mem_cons_self ..)

lemma stringContent_prefix (q : Char) (s : StringState) (t : Text) : stringContent q s t <+: t := by
  induction t generalizing s with
  | nil => exact List.nil_prefix
  | cons c t ih =>
    rw [stringContent]
    split
    · next s' _ => exact List.cons_prefix_cons.2 ⟨rfl, ih s'⟩
    · exact List.nil_prefix

/-- What is read is read again if the same character stands behind it. -/
lemma stringContent_append {s : StringState} (h : stringContent q s (m ++ y) = m)
    (hz : z.head? = y.head?) : stringContent q s (m ++ z) = m := by
  induction m generalizing s with
  | nil =>
    cases z with
    | nil => rfl
    | cons c z =>
      obtain ⟨y, rfl⟩ := List.head?_eq_some_iff.1 hz.symm
      rw [List.nil_append, stringContent] at h ⊢
      cases hs : s.next? q c with
      | none => rfl
      | some s' => simp [hs] at h
  | cons c m ih =>
    rw [List.cons_append, stringContent] at h ⊢
    cases hs : s.next? q c with
    | none => simp [hs] at h
    | some s' =>
      simp only [hs, List.cons.injEq, true_and] at h ⊢
      exact ih h

/-- A character that a string goes on behind, in whatever state. -/
def IsPlainIn (q c : Char) : Prop := c ≠ q ∧ c ≠ '\\' ∧ c ≠ '\n' ∧ c ≠ '\r'

lemma IsPlainIn.next?_eq (hc : IsPlainIn q c) (s : StringState) : s.next? q c = some .plain := by
  obtain ⟨hq, hslash, hfeed, hreturn⟩ := hc
  cases s <;> simp [StringState.next?, hq, hslash, hfeed, hreturn]

lemma prefix_stringContent_plain (hw : ∀ c ∈ w, IsPlainIn q c) (s : StringState) :
    w <+: stringContent q s (w ++ z) := by
  induction w generalizing s with
  | nil => exact List.nil_prefix
  | cons c w ih =>
    rw [List.cons_append, stringContent, (hw c (by simp)).next?_eq s]
    exact List.cons_prefix_cons.2 ⟨rfl, ih (fun a ha => hw a (by simp [ha])) .plain⟩

/-- A string that was not closed takes in the plain characters that come behind it elsewhere. -/
lemma prefix_stringContent_append {s : StringState} (h : stringContent q s (m ++ y) = m)
    (hw : ∀ c ∈ w, IsPlainIn q c) : m ++ w <+: stringContent q s (m ++ (w ++ z)) := by
  induction m generalizing s with
  | nil => exact prefix_stringContent_plain hw s
  | cons c m ih =>
    show c :: (m ++ w) <+: stringContent q s (c :: (m ++ (w ++ z)))
    rw [List.cons_append, stringContent] at h
    rw [stringContent]
    cases hs : s.next? q c with
    | none => simp [hs] at h
    | some s' =>
      simp only [hs, List.cons.injEq, true_and] at h
      exact List.cons_prefix_cons.2 ⟨rfl, ih h⟩

lemma leadingString_prefix (t : Text) : leadingString t <+: t := by
  cases t with
  | nil => exact List.nil_prefix
  | cons q t =>
    obtain ⟨r, hr⟩ := stringContent_prefix q .plain t
    rw [leadingString, List.cons_prefix_cons]
    refine ⟨rfl, ?_⟩
    generalize stringContent q .plain t = m at hr
    subst hr
    rw [List.drop_left]
    refine List.prefix_append_right_inj m |>.2 ?_
    split
    · next hhead =>
      obtain ⟨r, rfl⟩ := List.head?_eq_some_iff.1 hhead
      exact ⟨r, rfl⟩
    · exact List.nil_prefix

/-- A string literal is read to its end, whatever stands behind it. -/
theorem IsStringLiteral.leadingString_append (h : IsStringLiteral x) (y : Text) :
    leadingString (x ++ y) = x := by
  cases x with
  | nil => exact absurd h id
  | cons q t =>
    obtain ⟨-, ht⟩ := h
    generalize hm : stringContent q .plain t = m at ht
    subst ht
    have hread : stringContent q .plain (m ++ ([q] ++ y)) = m := stringContent_append hm rfl
    rw [List.cons_append, leadingString, List.append_assoc, hread, List.drop_left]
    simp

lemma IsStringLiteral.exists_eq_cons (h : IsStringLiteral x) : ∃ q t, IsStringQuote q ∧ x = q :: t := by
  cases x with
  | nil => exact absurd h id
  | cons q t => exact ⟨q, t, h.1, rfl⟩

/-- A string is closed, or nothing in it ends it. -/
lemma isStringLiteral_or (hq : IsStringQuote q) (t : Text) :
    IsStringLiteral (leadingString (q :: t)) ∨
      ∃ m y, t = m ++ y ∧ leadingString (q :: t) = q :: m ∧ stringContent q .plain (m ++ y) = m := by
  obtain ⟨y, hy⟩ := stringContent_prefix q .plain t
  generalize hm : stringContent q .plain t = m at hy
  subst hy
  rw [leadingString, hm, List.drop_left]
  by_cases hhead : y.head? = some q
  · left
    rw [if_pos hhead]
    have hread : stringContent q .plain (m ++ [q]) = m := stringContent_append hm hhead.symm
    exact ⟨hq, by rw [hread]⟩
  · right
    rw [if_neg hhead, List.append_nil]
    exact ⟨m, y, rfl, rfl, hm⟩

/-! ## Lexemes -/

/-- A word, a string literal or another character. -/
def IsLexeme (x : Text) : Prop :=
  IsWord x ∨ IsStringLiteral x ∨ ∃ c, x = [c] ∧ ¬ IsWordChar c ∧ ¬ IsStringQuote c ∧ c ≠ ' '

/-- How many blanks a text begins with, the lexeme behind them, and what follows it. -/
def nextLexeme? (t : Text) : Option (Nat × Text × Text) :=
  match t.dropWhile (· = ' ') with
  | [] => none
  | c :: r =>
    let x := if IsWordChar c then (c :: r).takeWhile (fun a => IsWordChar a)
      else if IsStringQuote c then leadingString (c :: r) else [c]
    some ((t.takeWhile (· = ' ')).length, x, (c :: r).drop x.length)

lemma takeWhile_blanks_append (k : Nat) (h : t.head? ≠ some ' ') :
    (Text.blanks k ++ t).takeWhile (· = ' ') = Text.blanks k := by
  have hblank : ∀ c ∈ Text.blanks k, decide (c = ' ') = true := by
    intro c hc
    exact decide_eq_true (List.eq_of_mem_replicate hc)
  rw [List.takeWhile_append_of_pos hblank]
  cases t with
  | nil => simp
  | cons c t =>
    have hc : c ≠ ' ' := fun hc => h (by rw [hc]; rfl)
    simp [hc]

lemma dropWhile_blanks_append (k : Nat) (h : t.head? ≠ some ' ') :
    (Text.blanks k ++ t).dropWhile (· = ' ') = t := by
  have hblank : ∀ c ∈ Text.blanks k, decide (c = ' ') = true := by
    intro c hc
    exact decide_eq_true (List.eq_of_mem_replicate hc)
  rw [List.dropWhile_append_of_pos hblank]
  cases t with
  | nil => rfl
  | cons c t =>
    have hc : c ≠ ' ' := fun hc => h (by rw [hc]; rfl)
    simp [hc]

/-- A lexeme between blanks is the next one. -/
lemma nextLexeme?_blanks (k : Nat) (hx : IsLexeme x) (y : Text) :
    nextLexeme? (Text.blanks k ++ (x ++ ' ' :: y)) = some (k, x, ' ' :: y) := by
  have hread : ∃ c r, x = c :: r ∧ c ≠ ' ' ∧
      (if IsWordChar c then (x ++ ' ' :: y).takeWhile (fun a => IsWordChar a)
        else if IsStringQuote c then leadingString (x ++ ' ' :: y) else [c]) = x := by
    rcases hx with ⟨hne, hall⟩ | hstring | ⟨c, rfl, hword, hquote, hblank⟩
    · obtain ⟨c, r, rfl⟩ := List.exists_cons_of_ne_nil hne
      have hc := hall c (by simp)
      refine ⟨c, r, rfl, ?_, ?_⟩
      · rintro rfl
        exact absurd hc (by decide)
      · rw [if_pos hc, List.takeWhile_append_of_pos fun a ha => decide_eq_true (hall a ha),
          List.takeWhile_cons_of_neg (by decide), List.append_nil]
    · obtain ⟨q, r, hq, rfl⟩ := hstring.exists_eq_cons
      refine ⟨q, r, rfl, ?_, ?_⟩
      · rintro rfl
        exact absurd hq (by decide)
      · rw [if_neg hq.not_isWordChar, if_pos hq, hstring.leadingString_append]
    · exact ⟨c, [], rfl, hblank, by rw [if_neg hword, if_neg hquote]⟩
  obtain ⟨c, r, rfl, hblank, hx⟩ := hread
  have hhead : (c :: r ++ ' ' :: y).head? ≠ some ' ' := by simpa using hblank
  rw [nextLexeme?, takeWhile_blanks_append k hhead, dropWhile_blanks_append k hhead]
  rw [List.cons_append] at hx
  simp only [List.cons_append, hx, Text.blanks, List.length_replicate]
  simp

/-- Where a quote stands behind blanks, a string is next. -/
lemma nextLexeme?_quote (k : Nat) (hq : IsStringQuote q) (t : Text) :
    ∃ y, nextLexeme? (Text.blanks k ++ q :: t) = some (k, leadingString (q :: t), y) := by
  have hhead : (q :: t).head? ≠ some ' ' := by
    rcases hq with rfl | rfl <;> simp
  refine ⟨(q :: t).drop (leadingString (q :: t)).length, ?_⟩
  rw [nextLexeme?, takeWhile_blanks_append k hhead, dropWhile_blanks_append k hhead]
  simp only [if_neg hq.not_isWordChar, if_pos hq, Text.blanks, List.length_replicate]

end ImportGrid
