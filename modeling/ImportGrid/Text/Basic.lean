/-
Texts and byte offsets.

A text is a list of characters.  Positions in a text are counted in bytes of its UTF-8
form, because that is how the spans of declarations and of fixes are given, so a position
may lie past the end of the text or inside a character.  `splitAt?` is the one place where
an offset is turned into a place in the text: it answers only when the offset falls
between two characters.  The main statements are

* `splitAt?_eq_some_iff`: a split at `n` is exactly a way to write the text as two pieces
  of which the first is `n` bytes long;
* `slice?_eq_some_iff`: a slice is exactly a middle piece between two such offsets.
-/
import ImportGrid.Text.Ranges

namespace ImportGrid

/-- A text, as the list of its characters. -/
abbrev Text := List Char

namespace Text

/-! ## Bytes -/

/-- The number of bytes of a text in UTF-8. -/
def byteLength : Text → Nat
  | [] => 0
  | c :: t => c.utf8Size + byteLength t

@[simp] theorem byteLength_nil : byteLength [] = 0 := rfl

@[simp] theorem byteLength_cons (c : Char) (t : Text) :
    byteLength (c :: t) = c.utf8Size + byteLength t := rfl

@[simp] theorem byteLength_append (s t : Text) :
    byteLength (s ++ t) = byteLength s + byteLength t := by
  induction s with
  | nil => simp
  | cons c s ih => simp [ih, Nat.add_assoc]

/-- The pieces of a text before and after a byte offset; none if the offset is past the
end or inside a character. -/
def splitAt? : Nat → Text → Option (Text × Text)
  | 0, t => some ([], t)
  | _ + 1, [] => none
  | n + 1, c :: t =>
    if c.utf8Size ≤ n + 1 then
      (splitAt? (n + 1 - c.utf8Size) t).map fun p => (c :: p.1, p.2)
    else none

@[simp] theorem splitAt?_zero (t : Text) : splitAt? 0 t = some ([], t) := by
  cases t <;> rfl

/-- A text that begins with a piece splits behind that piece. -/
@[simp] theorem splitAt?_append (s t : Text) : splitAt? (byteLength s) (s ++ t) = some (s, t) := by
  induction s with
  | nil => simp
  | cons c s ih =>
    have hc : 0 < c.utf8Size := Char.utf8Size_pos c
    obtain ⟨n, hn⟩ : ∃ n, byteLength (c :: s) = n + 1 := ⟨byteLength (c :: s) - 1, by simp; omega⟩
    have hs : n + 1 - c.utf8Size = byteLength s := by simp at hn; omega
    rw [hn, List.cons_append, splitAt?, if_pos (by simp at hn; omega), hs, ih]
    rfl

/-- The two pieces of a split put together are the text, and the first has the length
asked for. -/
theorem eq_append_of_splitAt? {n : Nat} {t a b : Text} (h : splitAt? n t = some (a, b)) :
    t = a ++ b ∧ byteLength a = n := by
  fun_induction splitAt? n t generalizing a b with
  | case1 t => simp at h; obtain ⟨rfl, rfl⟩ := h; simp
  | case2 => simp at h
  | case3 n c t hc ih =>
    simp only [Option.map_eq_some_iff, Prod.mk.injEq] at h
    obtain ⟨⟨a', b'⟩, hs, rfl, rfl⟩ := h
    obtain ⟨rfl, hl⟩ := ih hs
    exact ⟨rfl, by simp [hl]; omega⟩
  | case4 => simp at h

/-- A split at `n` is a way to write the text as two pieces, the first `n` bytes long. -/
theorem splitAt?_eq_some_iff {n : Nat} {t a b : Text} :
    splitAt? n t = some (a, b) ↔ t = a ++ b ∧ byteLength a = n := by
  constructor
  · exact eq_append_of_splitAt?
  · rintro ⟨rfl, rfl⟩
    exact splitAt?_append a b

/-! ## Slices -/

/-- The text from a byte offset on. -/
def from? (n : Nat) (t : Text) : Option Text := (splitAt? n t).map (·.2)

/-- The text before a byte offset. -/
def upTo? (n : Nat) (t : Text) : Option Text := (splitAt? n t).map (·.1)

/-- The text between two byte offsets; none if they are in the wrong order or one of them
is not a place in the text. -/
def slice? (start stop : Nat) (t : Text) : Option Text :=
  if start ≤ stop then
    match splitAt? start t with
    | some (_, rest) => upTo? (stop - start) rest
    | none => none
  else none

/-- A slice is exactly a middle piece between the two offsets. -/
theorem slice?_eq_some_iff {start stop : Nat} {t m : Text} :
    slice? start stop t = some m ↔
      ∃ a b, t = a ++ m ++ b ∧ byteLength a = start ∧ start + byteLength m = stop := by
  constructor
  · intro h
    unfold slice? at h
    split at h
    · split at h
      · next a rest hs =>
        obtain ⟨rfl, rfl⟩ := eq_append_of_splitAt? hs
        simp only [upTo?, Option.map_eq_some_iff] at h
        obtain ⟨⟨m', b⟩, hm, rfl⟩ := h
        obtain ⟨rfl, hl⟩ := eq_append_of_splitAt? hm
        exact ⟨a, b, by simp, rfl, by simp [hl]; omega⟩
      · simp at h
    · simp at h
  · rintro ⟨a, b, rfl, rfl, rfl⟩
    have h : byteLength a + byteLength m - byteLength a = byteLength m := by omega
    rw [slice?, if_pos (by omega), List.append_assoc, splitAt?_append]
    simp [upTo?, h]

/-! ## White space and lines -/

/-- A text without its leading white space. -/
def trimStart (t : Text) : Text := t.dropWhile isWhiteSpace

/-- The leading white space of a text. -/
def leadingSpace (t : Text) : Text := t.takeWhile isWhiteSpace

/-- A text without the white space at both ends. -/
def trim (t : Text) : Text := (trimStart (trimStart t).reverse).reverse

/-- `n` blanks. -/
def blanks (n : Nat) : Text := List.replicate n ' '

/-- Lines put together with a separator between each two. -/
def joinWith (separator : Text) (lines : List Text) : Text := separator.intercalate lines

@[simp] theorem joinWith_singleton (separator line : Text) : joinWith separator [line] = line := by
  simp [joinWith]

theorem joinWith_cons_cons (separator l m : Text) (lines : List Text) :
    joinWith separator (l :: m :: lines) = l ++ separator ++ joinWith separator (m :: lines) := by
  simp [joinWith, List.intercalate_cons_cons]

/-- The number of line feeds in a text. -/
def lineFeeds (t : Text) : Nat := t.count '\n'

/-! ## Searching -/

/-- The text before and after the first occurrence of a pattern. -/
def cut? (pattern : Text) : Text → Option (Text × Text)
  | [] => if pattern = [] then some ([], []) else none
  | c :: t =>
    if pattern.isPrefixOf (c :: t) then some ([], (c :: t).drop pattern.length)
    else (cut? pattern t).map fun p => (c :: p.1, p.2)

/-- Whether a pattern occurs in a text. -/
def contains (pattern t : Text) : Bool := (cut? pattern t).isSome

end Text

/-! ## Spans -/

/-- A stretch of a text, from one byte offset up to another.  Nothing is assumed of the
two: a span need not lie in the text that it is used on. -/
structure Span where
  /-- Where the stretch begins. -/
  start : Nat
  /-- Where it ends; the byte at this offset is outside. -/
  stop : Nat
deriving Repr, DecidableEq

namespace Span

/-- The text that a span covers, empty when the span is no piece of the text. -/
def textIn (s : Span) (source : Text) : Text := (Text.slice? s.start s.stop source).getD []

end Span

end ImportGrid
