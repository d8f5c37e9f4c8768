/-
Glob patterns for paths.

A pattern is matched component by component.  In a component, a question mark stands for
one character, an asterisk for any number of them, and brackets for one of some
characters; two asterisks as a whole component stand for any number of folders.  A
component without any of these is looked up and not matched.

Matches come in the order of the names, and a folder before what it holds.
-/
import ImportGrid.Files.Disk

namespace ImportGrid.Glob

/-! ## Patterns -/

/-- The characters from one to another; a single character is a range of its own. -/
structure Range where
  low : Char
  high : Char
deriving Repr, DecidableEq

/-- A piece of the pattern for a name. -/
inductive Token where
  | character (c : Char)
  | anyCharacter
  | anySequence
  /-- One of some characters. -/
  | within (ranges : List Range)
  /-- One character that is none of some. -/
  | except (ranges : List Range)
deriving Repr, DecidableEq

/-- A component of a pattern. -/
inductive Component where
  /-- A name with no special characters. -/
  | literal (name : Text)
  /-- A pattern for a name. -/
  | tokens (ts : List Token)
  /-- Any number of folders. -/
  | folders
deriving Repr, DecidableEq

/-- The ranges between two brackets. -/
def readRanges : Text → List Range
  | a :: '-' :: b :: t => ⟨a, b⟩ :: readRanges t
  | a :: t => ⟨a, a⟩ :: readRanges t
  | [] => []

/-- What brackets stand for, read behind the opening one.  At least one character stands
between the brackets, and a closing bracket in its place is an ordinary character. -/
def readBrackets? : Text → Option (Token × Text)
  | '!' :: c :: t =>
    match t.dropWhile (· ≠ ']') with
    | [] => none
    | _ :: rest => some (.except (readRanges (c :: t.takeWhile (· ≠ ']'))), rest)
  | c :: t =>
    match t.dropWhile (· ≠ ']') with
    | [] => none
    | _ :: rest => some (.within (readRanges (c :: t.takeWhile (· ≠ ']'))), rest)
  | [] => none

theorem length_of_readBrackets? {t rest : Text} {token : Token}
    (h : readBrackets? t = some (token, rest)) : rest.length < t.length := by
  have dropped (u : Text) (x : Char) (after : Text) (hd : u.dropWhile (· ≠ ']') = x :: after) :
      after.length < u.length := by
    have := (List.dropWhile_suffix (fun y : Char => decide (y ≠ ']')) (l := u)).length_le
    rw [hd, List.length_cons] at this
    omega
  unfold readBrackets? at h
  split at h
  · split at h
    · simp at h
    · next hd =>
      simp only [Option.some.injEq, Prod.mk.injEq] at h
      have := dropped _ _ _ hd
      simp [← h.2]; omega
  · split at h
    · simp at h
    · next hd =>
      simp only [Option.some.injEq, Prod.mk.injEq] at h
      have := dropped _ _ _ hd
      simp [← h.2]; omega
  · simp at h

/-- The tokens of the pattern for a name. -/
def readTokens? : Text → Option (List Token)
  | [] => some []
  | '?' :: t => (readTokens? t).map (.anyCharacter :: ·)
  | '*' :: t => if t.head? = some '*' then none else (readTokens? t).map (.anySequence :: ·)
  | '[' :: t =>
    match _h : readBrackets? t with
    | some (token, rest) => (readTokens? rest).map (token :: ·)
    | none => none
  | c :: t => (readTokens? t).map (.character c :: ·)
termination_by t => t.length
decreasing_by
  · simp
  · simp
  · have := length_of_readBrackets? _h
    simp only [List.length_cons]; omega
  · simp

/-- The component that a piece of a pattern stands for. -/
def readComponent? (piece : Text) : Option Component :=
  if piece = "**".toList then some .folders
  else
    (readTokens? piece).map fun ts =>
      if ts.all fun t => t matches .character _ then .literal piece else .tokens ts

/-- Components with runs of `**` reduced to one. -/
def collapse : List Component → List Component
  | .folders :: .folders :: cs => collapse (.folders :: cs)
  | c :: cs => c :: collapse cs
  | [] => []

/-! ## Matching names -/

def Range.contains (r : Range) (c : Char) : Bool := r.low ≤ c && c ≤ r.high

/-- Whether a name matches tokens. -/
def matchesName : List Token → Text → Bool
  | [], name => name.isEmpty
  | .anySequence :: ts, name =>
    matchesName ts name ||
      match name with
      | [] => false
      | _ :: rest => matchesName (.anySequence :: ts) rest
  | .character x :: ts, c :: name => x == c && matchesName ts name
  | .anyCharacter :: ts, _ :: name => matchesName ts name
  | .within ranges :: ts, c :: name => ranges.any (·.contains c) && matchesName ts name
  | .except ranges :: ts, c :: name => !ranges.any (·.contains c) && matchesName ts name
  | _ :: _, [] => false

/-- Whether a name matches a component that stands for one name. -/
def Component.accepts : Component → Text → Bool
  | literal name, n => name == n
  | tokens ts, n => matchesName ts n
  | folders, _ => false

/-! ## Finding paths -/

/-- A path below another; below the current folder the name alone is the path. -/
def below (path name : Text) : Text :=
  if Path.components path = [.current] then name else Path.join path name

/-- The path that names lead to from a path. -/
def belowAll (path : Text) (names : List Text) : Text := names.foldl below path

/-- The last of some names. -/
def lastName (names : List Text) : Text := names.getLast?.getD []

/-- The names `.` and `..` where a pattern for names accepts them, which takes a leading dot. -/
def specialNames (ts : List Token) : List Text :=
  if ts.head? = some (.character '.') then
    [['.', '.'], ['.']].filter (matchesName ts)
  else []

/-- The names in the folder at a path. -/
def names (d : Disk) (path : Text) : List Text :=
  match d.get? path with
  | some (.folder entries) => entries.map (·.1)
  | _ => []

/-- Everything below the folder at a path, as names that lead there. -/
def descendants (d : Disk) (path : Text) : List (List Text × FileTree) :=
  ((d.get? path).map FileTree.descendants).getD []

/-- The paths below a path that match components. -/
def findBelow (d : Disk) : List Component → Text → List Text
  | [], path => [path]
  | .literal name :: cs, path =>
    let next := below path name
    let present := if name = ['.'] ∨ name = ['.', '.'] then d.isFolder path
      else (d.get? next).isSome
    if present then findBelow d cs next else []
  | .tokens ts :: cs, path =>
    if d.isFolder path then
      (specialNames ts).flatMap (fun n => findBelow d cs (Path.join path n)) ++
        ((names d path).filter (matchesName ts)).flatMap fun n => findBelow d cs (below path n)
    else []
  | [.folders], path =>
    ((descendants d path).filter (·.2.isFolder)).map fun p => belowAll path p.1
  | .folders :: c :: cs, path =>
    ((descendants d path).filter fun p => c.accepts (lastName p.1)).flatMap fun p =>
      findBelow d cs (belowAll path p.1)

/-- The components of a pattern, without the slash that begins it. -/
def components? (pattern : Text) : Option (List Component) :=
  let relative := pattern.dropWhile (· == '/')
  let pieces := Path.pieces relative
  let pieces := if pieces.getLast? = some [] ∧ 1 < pieces.length then pieces.dropLast else pieces
  (pieces.mapM readComponent?).map collapse

/-- The paths that match a pattern; nothing if the pattern is malformed.  A pattern that ends in
a slash matches folders alone. -/
def find? (d : Disk) (pattern : Text) : Option (List Text) :=
  (components? pattern).map fun cs =>
    let origin : Text := if pattern.head? = some '/' then ['/'] else ['.']
    let found := findBelow d cs origin
    if pattern.getLast? = some '/' then found.filter d.isFolder else found

end ImportGrid.Glob
