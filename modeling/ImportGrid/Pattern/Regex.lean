/-
Regular expressions and their search.

An expression is matched by moving a set of positions: from the positions where a match
may begin, `Regex.advance` computes those where it may end.  Which of several matches is
preferred does not matter for the question whether there is one, so greedy and lazy
repetition are the same expression.  A search starts from every position of the text.
-/
import ImportGrid.Pattern.CharSet

namespace ImportGrid.Pattern

/-- A place in a text, as the character before it and the text after it. -/
structure Position where
  before : Option Char
  after : Text
deriving Repr, DecidableEq

namespace Position

/-- The places in a text that continues after `before`, from left to right. -/
def all (before : Option Char) : Text → List Position
  | [] => [⟨before, []⟩]
  | c :: t => ⟨before, c :: t⟩ :: all (some c) t

/-- A word character stands before the place. -/
def wordBefore (p : Position) : Bool := p.before.any Text.isWordCharacter

/-- A word character stands after the place. -/
def wordAfter (p : Position) : Bool := p.after.head?.any Text.isWordCharacter

end Position

/-- A condition on a place that consumes nothing. -/
inductive Anchor where
  /-- The beginning of the text. -/
  | textStart
  /-- The end of the text. -/
  | textEnd
  /-- The beginning of a line. -/
  | lineStart
  /-- The end of a line. -/
  | lineEnd
  /-- Exactly one of the neighbours is a word character. -/
  | wordBoundary
  /-- Both neighbours are word characters, or neither. -/
  | notWordBoundary
  /-- A word begins. -/
  | wordStart
  /-- A word ends. -/
  | wordEnd
deriving Repr, DecidableEq

/-- Whether an anchor holds at a place. -/
def Anchor.holds : Anchor → Position → Bool
  | textStart, p => p.before.isNone
  | textEnd, p => p.after.isEmpty
  | lineStart, p => p.before.isNone || p.before == some '\n'
  | lineEnd, p => p.after.isEmpty || p.after.head? == some '\n'
  | wordBoundary, p => p.wordBefore != p.wordAfter
  | notWordBoundary, p => p.wordBefore == p.wordAfter
  | wordStart, p => !p.wordBefore && p.wordAfter
  | wordEnd, p => p.wordBefore && !p.wordAfter

/-- A regular expression. -/
inductive Regex where
  /-- The empty text. -/
  | empty
  /-- One character of a set. -/
  | char (set : CharSet)
  /-- The empty text, at certain places. -/
  | anchor (a : Anchor)
  /-- One expression after another. -/
  | seq (r s : Regex)
  /-- One expression or another. -/
  | alt (r s : Regex)
  /-- An expression at least `least` times, and at most `most` times if that is given. -/
  | repeated (r : Regex) (least : Nat) (most : Option Nat)
deriving Repr, DecidableEq

/-- Two lists of places put together without repetition. -/
def mergePositions (ps qs : List Position) : List Position :=
  ps ++ qs.filter fun q => !ps.contains q

/-- A step taken exactly `n` times. -/
def iterateStep (step : List Position → List Position) : Nat → List Position → List Position
  | 0, ps => ps
  | n + 1, ps => if ps.isEmpty then [] else iterateStep step n (step ps)

/-- The places reached by taking a step at most `n` times; ends early once a step adds
nothing. -/
def reachWithin (step : List Position → List Position) : Nat → List Position → List Position
  | 0, ps => ps
  | n + 1, ps =>
    let qs := mergePositions ps (step ps)
    if qs.length = ps.length then ps else reachWithin step n qs

namespace Regex

/-- The places where a match that begins at one of the given places may end. -/
def advance : Regex → List Position → List Position
  | empty, ps => ps
  | char set, ps => ps.filterMap fun p =>
    match p.after with
    | c :: t => if set.contains c then some ⟨some c, t⟩ else none
    | [] => none
  | anchor a, ps => ps.filter a.holds
  | seq r s, ps => s.advance (r.advance ps)
  | alt r s, ps => mergePositions (r.advance ps) (s.advance ps)
  | repeated r least most, ps =>
    let start := iterateStep r.advance least ps
    match most with
    | some m => reachWithin r.advance (m - least) start
    | none =>
      let longest := start.foldl (fun n p => max n p.after.length) 0
      reachWithin r.advance (longest + 1) start

/-- Whether some part of a text matches. -/
def foundIn (r : Regex) (t : Text) : Bool := !(r.advance (Position.all none t)).isEmpty

/-- The size of an expression once its counted repetitions are written out. -/
def weight : Regex → Nat
  | empty | anchor _ => 1
  | char set => set.weight
  | seq r s => r.weight + s.weight
  | alt r s => r.weight + s.weight + 1
  | repeated r least most =>
    match most with
    | some m => r.weight * max m 1 + (m - least)
    | none => r.weight * max least 1 + 1

end Regex

end ImportGrid.Pattern
