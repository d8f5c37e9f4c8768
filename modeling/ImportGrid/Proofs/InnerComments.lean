/-
Comments inside a declaration.

Code is a row of pieces: single characters and complete quoted literals.  A comment stands in a text
exactly if such a row leads up to it (`HoldsComment`).  The scan of a declaration finds just that
(`scanForComment_iff`): it goes over a literal as a whole, whatever is written in it
(`IsQuoted.scanForComment_append`), and does not go on behind a quote that is never closed.
-/
import Mathlib.Data.Bool.AllAny
import Mathlib.Data.List.Basic
import Mathlib.Tactic.Common
import ImportGrid.Gap

namespace ImportGrid

/-! ## Pieces of code -/

/-- A character that begins a literal, and ends it. -/
def IsQuote (c : Char) : Prop := c = '\'' ∨ c = '"' ∨ c = '\x60'

instance : DecidablePred IsQuote := fun _ => inferInstanceAs (Decidable (_ ∨ _))

/-- What may stand between two quotes: characters hidden behind a backslash, and any but the backslash and
the quote itself. -/
inductive IsBetweenQuotes (q : Char) : Text → Prop
  | nil : IsBetweenQuotes q []
  | escape (c : Char) {t : Text} (rest : IsBetweenQuotes q t) : IsBetweenQuotes q ('\\' :: c :: t)
  | plain {c : Char} {t : Text} (backslash : c ≠ '\\') (quote : c ≠ q) (rest : IsBetweenQuotes q t) :
    IsBetweenQuotes q (c :: t)

/-- A complete literal. -/
def IsQuoted (t : Text) : Prop :=
  ∃ q body, IsQuote q ∧ IsBetweenQuotes q body ∧ t = q :: (body ++ [q])

/-- A character outside of literals. -/
def IsSingle (t : Text) : Prop := ∃ c, ¬ IsQuote c ∧ t = [c]

/-- A piece of code: a single character or a complete literal. -/
def IsCodePiece (t : Text) : Prop := IsSingle t ∨ IsQuoted t

/-- Pieces of code lead up to the beginning of a comment. -/
def HoldsComment (t : Text) : Prop :=
  ∃ pieces comment, t = List.flatten pieces ++ comment ∧ (∀ p ∈ pieces, IsCodePiece p) ∧
    ("//".toList <+: comment ∨ "/*".toList <+: comment)

lemma startsWithComment_iff {t : Text} :
    startsWithComment t = true ↔ "//".toList <+: t ∨ "/*".toList <+: t := by
  constructor
  · intro h
    unfold startsWithComment at h
    split at h
    · next rest => exact .inl ⟨rest, rfl⟩
    · next rest => exact .inr ⟨rest, rfl⟩
    · simp at h
  · rintro (⟨rest, rfl⟩ | ⟨rest, rfl⟩)
    · rfl
    · rfl

lemma head?_of_startsWithComment {t : Text} (h : startsWithComment t = true) : t.head? = some '/' := by
  rcases startsWithComment_iff.1 h with ⟨rest, rfl⟩ | ⟨rest, rfl⟩
  · rfl
  · rfl

lemma holdsComment_of_startsWithComment {t : Text} (h : startsWithComment t = true) : HoldsComment t :=
  ⟨[], t, rfl, by simp, startsWithComment_iff.1 h⟩

/-- A comment stays one behind another piece of code. -/
lemma IsCodePiece.holdsComment_append {p t : Text} (hp : IsCodePiece p) (h : HoldsComment t) :
    HoldsComment (p ++ t) := by
  obtain ⟨pieces, comment, rfl, hpieces, hcomment⟩ := h
  refine ⟨p :: pieces, comment, ?_, List.forall_mem_cons.2 ⟨hp, hpieces⟩, hcomment⟩
  rw [List.flatten_cons, List.append_assoc]

/-! ## The scan over pieces -/

lemma scanForComment_quote {q : Char} (hq : IsQuote q) (t : Text) :
    scanForComment none (q :: t) = scanForComment (some q) t := by
  rw [scanForComment]
  exact if_pos hq

lemma scanForComment_single {c : Char} (hc : ¬ IsQuote c) (t : Text) :
    scanForComment none (c :: t) = (startsWithComment (c :: t) || scanForComment none t) := by
  rw [scanForComment]
  exact if_neg hc

lemma scanForComment_inside {c : Char} (hc : c ≠ '\\') (q : Char) (t : Text) :
    scanForComment (some q) (c :: t) = scanForComment (if c = q then none else some q) t := by
  rw [scanForComment.eq_def]
  exact if_neg hc

lemma IsQuote.ne_backslash {q : Char} (hq : IsQuote q) : q ≠ '\\' := by
  rcases hq with rfl | rfl | rfl <;> decide

/-- Inside a literal the scan goes on up to the closing quote. -/
lemma IsBetweenQuotes.scanForComment_append {q : Char} {body : Text} (hq : IsQuote q)
    (h : IsBetweenQuotes q body) (t : Text) :
    scanForComment (some q) (body ++ q :: t) = scanForComment none t := by
  induction h with
  | nil => rw [List.nil_append, scanForComment_inside hq.ne_backslash, if_pos rfl]
  | escape c _ ih =>
    rw [List.cons_append, List.cons_append, scanForComment, if_pos rfl]
    exact ih
  | plain hb hc _ ih => rw [List.cons_append, scanForComment_inside hb, if_neg hc, ih]

/-- The scan passes over a literal, whatever is written in it. -/
lemma IsQuoted.scanForComment_append {l : Text} (hl : IsQuoted l) (t : Text) :
    scanForComment none (l ++ t) = scanForComment none t := by
  obtain ⟨q, body, hq, hbody, rfl⟩ := hl
  rw [List.cons_append, scanForComment_quote hq, List.append_assoc, List.singleton_append,
    hbody.scanForComment_append hq]

/-- The scan finds what it finds behind a piece of code. -/
lemma IsCodePiece.scanForComment_append {p t : Text} (hp : IsCodePiece p)
    (h : scanForComment none t = true) : scanForComment none (p ++ t) = true := by
  rcases hp with ⟨c, hc, rfl⟩ | hl
  · rw [List.singleton_append, scanForComment_single hc, h, Bool.or_true]
  · rw [hl.scanForComment_append, h]

lemma scanForComment_of_startsWithComment {t : Text} (h : startsWithComment t = true) :
    scanForComment none t = true := by
  have hslash : ¬ IsQuote '/' := by
    rintro (h | h | h) <;> exact absurd h (by decide)
  obtain ⟨rest, rfl⟩ := List.head?_eq_some_iff.1 (head?_of_startsWithComment h)
  rw [scanForComment_single hslash, h, Bool.true_or]

/-! ## What the scan finds -/

/-- What is left of a text when the scan finds a comment in it: a comment behind code, or, in an open
literal, the end of the literal and then that. -/
def FindsComment : Option Char → Text → Prop
  | none, t => HoldsComment t
  | some q, t => ∃ body rest, t = body ++ q :: rest ∧ IsBetweenQuotes q body ∧ HoldsComment rest

/-- The scan finds nothing but comments behind code. -/
lemma findsComment_of_scanForComment {quote : Option Char} {t : Text}
    (h : scanForComment quote t = true) : FindsComment quote t := by
  fun_induction scanForComment quote t with
  | case1 => simp at h
  | case2 => simp at h
  | case3 q x rest ih =>
    -- a backslash hides the character behind it
    obtain ⟨body, behind, rfl, hbody, hrest⟩ := ih h
    exact ⟨'\\' :: x :: body, behind, rfl, .escape x hbody, hrest⟩
  | case4 q c t hc ih =>
    by_cases hq : c = q
    · subst hq
      rw [if_pos rfl] at ih h
      exact ⟨[], t, rfl, .nil, ih h⟩
    · rw [if_neg hq] at ih h
      obtain ⟨body, behind, rfl, hbody, hrest⟩ := ih h
      exact ⟨c :: body, behind, rfl, .plain hc hq hbody, hrest⟩
  | case5 c t hc ih =>
    -- the literal that the quote begins is closed somewhere
    obtain ⟨body, behind, rfl, hbody, hrest⟩ := ih h
    have hpiece : IsCodePiece (c :: (body ++ [c])) := .inr ⟨c, body, hc, hbody, rfl⟩
    have hholds := hpiece.holdsComment_append hrest
    rw [List.cons_append, List.append_assoc, List.singleton_append] at hholds
    exact hholds
  | case6 c t hc ih =>
    rcases Bool.or_eq_true_iff.1 h with h | h
    · exact holdsComment_of_startsWithComment h
    · have hpiece : IsCodePiece [c] := .inl ⟨c, hc, rfl⟩
      exact hpiece.holdsComment_append (ih h)

/-- The scan finds the comments that stand behind code. -/
theorem scanForComment_iff {t : Text} : scanForComment none t = true ↔ HoldsComment t := by
  constructor
  · exact findsComment_of_scanForComment
  · rintro ⟨pieces, comment, rfl, hpieces, hcomment⟩
    induction pieces with
    | nil => exact scanForComment_of_startsWithComment (startsWithComment_iff.2 hcomment)
    | cons p pieces ih =>
      obtain ⟨hp, hpieces⟩ := List.forall_mem_cons.1 hpieces
      rw [List.flatten_cons, List.append_assoc]
      exact hp.scanForComment_append (ih hpieces)

/-- Pieces of code without a slash outside of literals hold no comment. -/
lemma scanForComment_flatten_append {pieces : List Text} (t : Text)
    (h : ∀ p ∈ pieces, IsQuoted p ∨ (IsSingle p ∧ p ≠ ['/'])) :
    scanForComment none (pieces.flatten ++ t) = scanForComment none t := by
  induction pieces with
  | nil => rfl
  | cons p pieces ih =>
    obtain ⟨hp, hpieces⟩ := List.forall_mem_cons.1 h
    rw [List.flatten_cons, List.append_assoc]
    rcases hp with hl | ⟨⟨c, hc, rfl⟩, hslash⟩
    · rw [hl.scanForComment_append, ih hpieces]
    · have hstart : startsWithComment (c :: (pieces.flatten ++ t)) = false := by
        rw [← Bool.not_eq_true]
        intro hcomment
        obtain rfl : c = '/' := Option.some.inj (head?_of_startsWithComment hcomment)
        exact hslash rfl
      rw [List.singleton_append, scanForComment_single hc, hstart, Bool.false_or, ih hpieces]

/-- A declaration has a comment inside exactly if one begins in its text outside of literals, that is,
behind a row of characters and complete literals.  What is written in the literals makes no difference:
behind any number of them, and of characters that are no slash, the rest of the text decides. -/
theorem hasInnerComment_iff (source : Text) (span : Span) :
    (hasInnerComment source span = true ↔ HoldsComment (span.textIn source)) ∧
    ∀ pieces rest, (∀ p ∈ pieces, IsQuoted p ∨ (IsSingle p ∧ p ≠ ['/'])) →
      span.textIn source = List.flatten pieces ++ rest →
        (hasInnerComment source span = true ↔ HoldsComment rest) := by
  constructor
  · exact scanForComment_iff
  · intro pieces rest hpieces htext
    rw [hasInnerComment, htext, scanForComment_flatten_append rest hpieces, scanForComment_iff]

/-- An import with slashes behind an escaped quote in its path, and a comment behind the path. -/
def escapedText : Text := "import 'a\\'//\"' // b".toList

/-- The pieces of code of that text. -/
def escapedPieces : List Text :=
  "import ".toList.map (fun c => [c]) ++ ["'a\\'//\"'".toList, [' ']]

theorem hasInnerComment_escapedText :
    (∀ p ∈ escapedPieces, IsQuoted p ∨ (IsSingle p ∧ p ≠ ['/'])) ∧
    Span.textIn ⟨0, 20⟩ escapedText = escapedPieces.flatten ++ "// b".toList ∧
    (hasInnerComment escapedText ⟨0, 20⟩ = true ↔ HoldsComment "// b".toList) ∧
    hasInnerComment escapedText ⟨0, 20⟩ = true ∧ hasInnerComment escapedText ⟨0, 15⟩ = false := by
  have hword : ∀ c ∈ "import ".toList, ¬ IsQuote c ∧ [c] ≠ ['/'] :=
    List.all_iff_forall_prop.1 (by decide)
  have hpath : IsQuoted "'a\\'//\"'".toList :=
    ⟨'\'', "a\\'//\"".toList, by decide, .plain (by decide) (by decide)
      (.escape '\'' (.plain (by decide) (by decide) (.plain (by decide) (by decide)
        (.plain (by decide) (by decide) .nil)))), rfl⟩
  have hpieces : ∀ p ∈ escapedPieces, IsQuoted p ∨ (IsSingle p ∧ p ≠ ['/']) := by
    intro p hp
    rcases List.mem_append.1 hp with hp | hp
    · obtain ⟨c, hc, rfl⟩ := List.mem_map.1 hp
      exact .inr ⟨⟨c, (hword c hc).1, rfl⟩, (hword c hc).2⟩
    · rcases List.mem_cons.1 hp with rfl | hp
      · exact .inl hpath
      · obtain rfl := List.mem_singleton.1 hp
        exact .inr ⟨⟨' ', by decide, rfl⟩, by decide⟩
  have htext : Span.textIn ⟨0, 20⟩ escapedText = escapedPieces.flatten ++ "// b".toList := by
    decide +kernel
  exact ⟨hpieces, htext, (hasInnerComment_iff escapedText ⟨0, 20⟩).2 _ _ hpieces htext,
    by decide +kernel, by decide +kernel⟩

end ImportGrid
