/-
Sets of characters as patterns name them.

A set is built from ranges and from the classes of digits, word characters and white
space, by union, intersection, difference and complement.  `caseless` closes a set under
change of case: it holds every character that has a variant in the set.
-/
import ImportGrid.Text.Basic
import ImportGrid.Text.Word
import ImportGrid.Text.LetterCase

namespace ImportGrid.Pattern

/-- A set of characters. -/
inductive CharSet where
  /-- No character. -/
  | none
  /-- The characters from `first` to `last`. -/
  | range (first last : Char)
  /-- Decimal digits of any script. -/
  | digit
  /-- Word characters. -/
  | word
  /-- White space. -/
  | space
  | union (s t : CharSet)
  | inter (s t : CharSet)
  | diff (s t : CharSet)
  | symmDiff (s t : CharSet)
  | complement (s : CharSet)
  /-- The characters with a case variant in the set. -/
  | caseless (s : CharSet)
deriving Repr, DecidableEq

/-- The characters that differ from a character in case only, the character included. -/
def caseVariants (c : Char) : List Char :=
  let key := Text.caseKey c
  let lowered := key :: Text.caseSiblings.filterMap fun p => if p.2 = key then some p.1 else none
  let raised := lowered.flatMap fun l => Text.lowercaseRuns.filterMap fun r =>
    let n := ((l.toNat : Int) - r.shift).toNat
    if r.contains n then some (Char.ofNat n) else none
  (c :: lowered ++ raised).filter (Text.caseKey · == key)

namespace CharSet

/-- Membership in a set. -/
def contains : CharSet → Char → Bool
  | none, _ => false
  | range first last, c => first ≤ c && c ≤ last
  | digit, c => Text.isDecimalDigit c
  | word, c => Text.isWordCharacter c
  | space, c => Text.isWhiteSpace c
  | union s t, c => s.contains c || t.contains c
  | inter s t, c => s.contains c && t.contains c
  | diff s t, c => s.contains c && !t.contains c
  | symmDiff s t, c => s.contains c != t.contains c
  | complement s, c => !s.contains c
  | caseless s, c => (caseVariants c).any s.contains

/-- The set of one character. -/
def single (c : Char) : CharSet := range c c

/-- How many ASCII characters wide a set is taken to be when patterns are weighed: a plain
range counts once, a class of a whole alphabet as the table that stands for it. -/
def weight : CharSet → Nat
  | none => 1
  | range first last => if last.toNat < 128 || first = last then 1 else 4
  | digit => 60
  | word => 400
  | space => 10
  | union s t | inter s t | diff s t | symmDiff s t => s.weight + t.weight
  | complement s => s.weight + 8
  | caseless s => 2 * s.weight

end CharSet

end ImportGrid.Pattern
