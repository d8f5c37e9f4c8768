/-
Natural, case-insensitive order of module paths and binding names.

A text is read as a sequence of weights.  White space weighs least, then punctuation in
a fixed order, other symbols, numbers and letters.  A run of ASCII digits is one weight
and counts as the number it denotes; a letter counts as its lower-case base letter, so
`É`, `é`, `E` and `e` weigh the same.  Two orders come out of this:

* `collate` compares the weights alone, so texts that differ only in case, accents or
  leading zeros tie;
* `compareText` breaks these ties by code points, which makes it a linear order.

Both are lexicographic orders of lists of numbers (`weightKeys`), and inherit their laws
from there.
-/
import ImportGrid.Text.Basic
import ImportGrid.Text.Alphabetic
import ImportGrid.Text.LetterCase

namespace ImportGrid.Collation

/-- ASCII punctuation and symbols, from light to heavy. -/
def punctuation : List Char := "_-,;:!?.'\"()[]\x7b\x7d@*/\\&#%`^+<=>|~$".toList

/-- The weight of a piece of text. -/
inductive Weight where
  /-- A white-space character. -/
  | space (c : Char)
  /-- An ASCII punctuation character, by its place in `punctuation`. -/
  | punctuation (rank : Nat)
  /-- Any other character that is not a letter. -/
  | symbol (c : Char)
  /-- A run of digits without its leading zeros. -/
  | number (digits : List Char)
  /-- A letter without case and accent. -/
  | letter (base : Char)
deriving Repr, DecidableEq

/-- Weights as lists of numbers: first the class, then the place in the class.  Among
numbers the one with more digits is the larger. -/
def Weight.key : Weight → List Nat
  | .space c => [0, c.toNat]
  | .punctuation rank => [1, rank]
  | .symbol c => [2, c.toNat]
  | .number digits => 3 :: digits.length :: digits.map Char.toNat
  | .letter base => [4, base.toNat]

/-- The Latin letters with an accent, each group with its base letter. -/
def accented : List (Char × List Char) := [
  ('a', ['à', 'á', 'â', 'ã', 'ä', 'å', 'ā', 'ă', 'ą']),
  ('c', ['ç', 'ć', 'ĉ', 'ċ', 'č']),
  ('d', ['ď', 'đ']),
  ('e', ['è', 'é', 'ê', 'ë', 'ē', 'ĕ', 'ė', 'ę', 'ě']),
  ('g', ['ĝ', 'ğ', 'ġ', 'ģ']),
  ('h', ['ĥ', 'ħ']),
  ('i', ['ì', 'í', 'î', 'ï', 'ĩ', 'ī', 'ĭ', 'į', 'ı']),
  ('j', ['ĵ']),
  ('k', ['ķ']),
  ('l', ['ĺ', 'ļ', 'ľ', 'ŀ', 'ł']),
  ('n', ['ñ', 'ń', 'ņ', 'ň']),
  ('o', ['ò', 'ó', 'ô', 'õ', 'ö', 'ø', 'ō', 'ŏ', 'ő']),
  ('r', ['ŕ', 'ŗ', 'ř']),
  ('s', ['ś', 'ŝ', 'ş', 'š']),
  ('t', ['ţ', 'ť', 'ŧ']),
  ('u', ['ù', 'ú', 'û', 'ü', 'ũ', 'ū', 'ŭ', 'ů', 'ű', 'ų']),
  ('w', ['ŵ']),
  ('y', ['ý', 'ÿ', 'ŷ']),
  ('z', ['ź', 'ż', 'ž'])]

/-- A lower-case letter without its accent.  Ligatures and letters of other alphabets
stand for themselves. -/
def baseLetter (c : Char) : Char :=
  match accented.find? fun group => group.2.contains c with
  | some (base, _) => base
  | none => c

/-- The weight of a character that is not a digit. -/
def characterWeight (c : Char) : Weight :=
  if Text.isWhiteSpace c then .space c
  else match punctuation.idxOf? c with
    | some rank => .punctuation rank
    | none =>
      if Text.isAlphabetic c then .letter (baseLetter (Text.lowercase c))
      else .symbol c

/-- The weights of a text, one for every run of digits and for every other character. -/
def weights : Text → List Weight
  | [] => []
  | c :: t =>
    if c.isDigit then
      .number ((c :: t.takeWhile Char.isDigit).dropWhile (· == '0')) ::
        weights (t.dropWhile Char.isDigit)
    else characterWeight c :: weights t
termination_by t => t.length
decreasing_by
  · have := (List.dropWhile_suffix Char.isDigit (l := t)).length_le
    simp only [List.length_cons]; omega
  · simp

@[simp] theorem weights_nil : weights [] = [] := by simp [weights]

theorem weights_cons_of_digit {c : Char} (h : c.isDigit = true) (t : Text) :
    weights (c :: t) =
      .number ((c :: t.takeWhile Char.isDigit).dropWhile (· == '0')) ::
        weights (t.dropWhile Char.isDigit) := by
  rw [weights, if_pos h]

theorem weights_cons_of_not_digit {c : Char} (h : c.isDigit = false) (t : Text) :
    weights (c :: t) = characterWeight c :: weights t := by
  rw [weights, if_neg (by simp [h])]

/-- The weights of a text as lists of numbers. -/
def weightKeys (t : Text) : List (List Nat) := (weights t).map Weight.key

/-- The order by weight.  Texts that differ only in case, accents or leading zeros tie. -/
def collate (a b : Text) : Ordering := compare (weightKeys a) (weightKeys b)

/-- The order by weight, ties broken by code points. -/
def compareText (a b : Text) : Ordering := (collate a b).then (compare a b)

/-- Whether the first text does not come after the second. -/
def notAfter (a b : Text) : Bool := (compareText a b).isLE

@[simp] theorem collate_self (a : Text) : collate a a = .eq := by
  simp [collate]

@[simp] theorem compareText_self (a : Text) : compareText a a = .eq := by
  simp [compareText]

/-- Optional names in `compareText` order, a missing name first. -/
def compareName : Option Text → Option Text → Ordering
  | some a, some b => compareText a b
  | none, none => .eq
  | none, some _ => .lt
  | some _, none => .gt

end ImportGrid.Collation
