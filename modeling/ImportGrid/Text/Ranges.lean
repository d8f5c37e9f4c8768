/-
Tables of code-point ranges, and the property White_Space.

A property of characters is stored as the ascending list of its maximal ranges, first
and last code point of each.  `inRanges` searches such a list and stops as soon as it has
passed the character.
-/

namespace ImportGrid.Text

/-- Whether a code point lies in one of the ranges of an ascending list. -/
def inRanges : List (Nat × Nat) → Nat → Bool
  | [], _ => false
  | (first, last) :: rest, n =>
    if n < first then false
    else if n ≤ last then true
    else inRanges rest n

/-- The ranges of the Unicode property White_Space. -/
def whiteSpaceRanges : List (Nat × Nat) := [
  (0x9, 0xD), (0x20, 0x20), (0x85, 0x85), (0xA0, 0xA0), (0x1680, 0x1680), (0x2000, 0x200A),
  (0x2028, 0x2029), (0x202F, 0x202F), (0x205F, 0x205F), (0x3000, 0x3000)]

/-- The Unicode property White_Space. -/
def isWhiteSpace (c : Char) : Bool := inRanges whiteSpaceRanges c.toNat

end ImportGrid.Text
