/-
What follows an import declaration, and comments inside one.

Behind a declaration comes white space and then a comment, the next import or other code.
Only when white space alone separates it from the next import may the space between them
be laid out anew.
-/
import ImportGrid.Declaration

namespace ImportGrid

/-- What separates a declaration from whatever follows it. -/
structure Gap where
  /-- A blank line follows, or a comment. -/
  hasBlankLine : Bool
  /-- Where the next import begins, if white space alone lies between. -/
  cut : Option Nat
  /-- A comment follows the declaration. -/
  blockedByComment : Bool
deriving Repr, DecidableEq

/-- Whether a text begins with a comment. -/
def startsWithComment : Text → Bool
  | '/' :: '/' :: _ | '/' :: '*' :: _ => true
  | _ => false

/-- The gap behind a place in a text, when the next import begins at the given place. -/
def Gap.after (source : Text) (stop : Nat) (next : Option Nat) : Gap :=
  let rest := (Text.from? stop source).getD []
  let space := Text.leadingSpace rest
  if startsWithComment (Text.trimStart rest) then
    ⟨true, none, true⟩
  else
    let place := stop + Text.byteLength space
    ⟨1 < Text.lineFeeds space, next.filter (· == place), false⟩

/-! ## Comments inside a declaration -/

/-- Whether a comment begins in a text, quoted literals left out.  The first argument is
the quote of the literal that is open; a backslash in a literal hides the character
behind it. -/
def scanForComment : Option Char → Text → Bool
  | _, [] => false
  | some q, c :: t =>
    if c = '\\' then
      match t with
      | [] => false
      | _ :: t' => scanForComment (some q) t'
    else scanForComment (if c = q then none else some q) t
  | none, c :: t =>
    if c = '\'' ∨ c = '"' ∨ c = '\x60' then scanForComment (some c) t
    else startsWithComment (c :: t) || scanForComment none t

/-- Whether a comment stands inside the text of a declaration.  Such a declaration cannot be
laid out anew without losing the comment. -/
def hasInnerComment (source : Text) (span : Span) : Bool :=
  scanForComment none (span.textIn source)

end ImportGrid
