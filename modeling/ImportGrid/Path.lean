/-
Paths.

A path is a text whose pieces are separated by slashes.  Empty pieces and pieces `.`
inside a path mean nothing; a leading slash names the root, and a leading `.` the current
folder.  The functions here look at the text alone; `FileTree` says where a path leads.
-/
import ImportGrid.Text.Basic

namespace ImportGrid.Path

/-! ## Pieces and components -/

/-- The pieces of a text between separators. -/
def splitOn (separator : Char) : Text → List Text
  | [] => [[]]
  | c :: t =>
    if c = separator then [] :: splitOn separator t
    else
      match splitOn separator t with
      | piece :: rest => (c :: piece) :: rest
      | [] => [[c]]

/-- There is always a piece. -/
theorem splitOn_ne_nil (separator : Char) (t : Text) : splitOn separator t ≠ [] := by
  cases t with
  | nil => simp [splitOn]
  | cons c t =>
    unfold splitOn
    split
    · simp
    · split <;> simp

/-- Pieces joined by the separator are the text. -/
theorem joinWith_splitOn (separator : Char) (t : Text) :
    Text.joinWith [separator] (splitOn separator t) = t := by
  induction t with
  | nil => simp [splitOn, Text.joinWith]
  | cons c t ih =>
    obtain ⟨piece, rest, hp⟩ := List.exists_cons_of_ne_nil (splitOn_ne_nil separator t)
    rw [hp] at ih
    unfold splitOn
    split
    · next h => subst h; rw [hp]; simpa [Text.joinWith] using ih
    · rw [hp]
      cases rest with
      | nil => simpa [Text.joinWith] using ih
      | cons q rest => simpa [Text.joinWith] using ih

/-- No piece holds the separator. -/
theorem notMem_of_mem_splitOn {separator : Char} {t piece : Text}
    (h : piece ∈ splitOn separator t) : separator ∉ piece := by
  induction t generalizing piece with
  | nil =>
    obtain rfl := List.mem_singleton.1 h
    simp
  | cons c t ih =>
    unfold splitOn at h
    split at h
    · rcases List.mem_cons.1 h with rfl | h
      · simp
      · exact ih h
    · next hc =>
      split at h
      · next first rest hp =>
        rcases List.mem_cons.1 h with rfl | h
        · have hfirst : separator ∉ first := ih (by rw [hp]; exact List.mem_cons_self ..)
          simp [Ne.symm hc, hfirst]
        · exact ih (by rw [hp]; exact List.mem_cons_of_mem _ h)
      · next hp => exact absurd hp (splitOn_ne_nil separator t)

/-- A separator stands between pieces. -/
theorem splitOn_append_cons (separator : Char) (s t : Text) :
    splitOn separator (s ++ separator :: t) = splitOn separator s ++ splitOn separator t := by
  induction s with
  | nil => simp [splitOn]
  | cons c s ih =>
    rw [List.cons_append, splitOn, splitOn, ih]
    split
    · rfl
    · obtain ⟨piece, rest, hp⟩ := List.exists_cons_of_ne_nil (splitOn_ne_nil separator s)
      rw [hp]
      rfl

/-- A text without separators is one piece. -/
theorem splitOn_of_notMem {separator : Char} {piece : Text} (h : separator ∉ piece) :
    splitOn separator piece = [piece] := by
  induction piece with
  | nil => rfl
  | cons c piece ih =>
    simp only [List.mem_cons, not_or] at h
    rw [splitOn, if_neg (Ne.symm h.1), ih h.2]

/-- Pieces without separators, joined and split, are the same pieces. -/
theorem splitOn_joinWith {separator : Char} {ps : List Text} (hne : ps ≠ [])
    (h : ∀ p ∈ ps, separator ∉ p) : splitOn separator (Text.joinWith [separator] ps) = ps := by
  induction ps with
  | nil => exact absurd rfl hne
  | cons p rest ih =>
    cases rest with
    | nil => simpa using splitOn_of_notMem (h p (by simp))
    | cons q rest =>
      have hrest := ih (by simp) fun x hx => h x (List.mem_cons_of_mem _ hx)
      rw [Text.joinWith_cons_cons, List.append_assoc, List.singleton_append, splitOn_append_cons,
        splitOn_of_notMem (h p (by simp)), hrest, List.singleton_append]

/-- The pieces of a path between slashes. -/
def pieces (p : Text) : List Text := splitOn '/' p

/-- A component of a path. -/
inductive Component where
  /-- The root, at the beginning of an absolute path. -/
  | root
  /-- The current folder, at the beginning of a path. -/
  | current
  /-- The parent folder. -/
  | parent
  /-- The entry of a name. -/
  | name (n : Text)
deriving Repr, DecidableEq

/-- The component that a piece inside a path stands for, if it means anything. -/
def innerComponent (piece : Text) : Option Component :=
  if piece = [] ∨ piece = ['.'] then none
  else if piece = ['.', '.'] then some .parent
  else some (.name piece)

/-- The components of a path. -/
def components (p : Text) : List Component :=
  match p, pieces p with
  | '/' :: _, ps => .root :: ps.filterMap innerComponent
  | _, ['.'] :: ps => .current :: ps.filterMap innerComponent
  | _, ps => ps.filterMap innerComponent

/-- Components as lists of numbers: the kinds in their order, names by code points. -/
def Component.key : Component → List Nat
  | root => [0]
  | current => [1]
  | parent => [2]
  | name n => 3 :: n.map Char.toNat

/-- Whether one path does not come after another, compared component by component. -/
def notAfter (p q : Text) : Bool :=
  (compare ((components p).map Component.key) ((components q).map Component.key)).isLE

/-! ## File names and extensions -/

/-- The last component of a path, if it is a name. -/
def fileName? (p : Text) : Option Text :=
  match (components p).getLast? with
  | some (.name n) => some n
  | _ => none

/-- A file name cut at its last dot; none if it has no dot but a leading one. -/
def splitExtension? (name : Text) : Option (Text × Text) :=
  let extension := (name.reverse.takeWhile (· != '.')).reverse
  let stem := name.take (name.length - extension.length - 1)
  if extension.length = name.length ∨ stem = [] then none else some (stem, extension)

/-- What follows the last dot of the file name. -/
def extension? (p : Text) : Option Text :=
  ((fileName? p).bind splitExtension?).map (·.2)

/-- A path put below another; an absolute path stays itself. -/
def join (p q : Text) : Text :=
  if q.head? = some '/' then q
  else if p = [] then q
  else if p.getLast? = some '/' then p ++ q
  else p ++ '/' :: q

/-! ## Ancestors -/

/-- The pieces of a path, last first, without those at the end that mean nothing.  The
first piece of the path is kept: it names the root or the current folder. -/
def trimPieces : List Text → List Text
  | [] => []
  | [first] => [first]
  | piece :: rest => if piece = [] ∨ piece = ['.'] then trimPieces rest else piece :: rest

/-- A path from its pieces, last first. -/
def ofPieces : List Text → Text
  | [[]] => ['/']
  | ps => Text.joinWith ['/'] ps.reverse

/-- The parent of a path, given as pieces, last first; none of the root and the empty path. -/
def parentPieces? (absolute : Bool) (ps : List Text) : Option (List Text) :=
  match trimPieces ps with
  | [] => none
  | [first] => if absolute ∨ first = [] then none else some []
  | _ :: rest => some (trimPieces rest)

/-- Paths from a path upwards, by taking off one component after the other. -/
def ancestorsFrom (absolute : Bool) : Nat → List Text → List Text
  | 0, _ => []
  | fuel + 1, ps =>
    match parentPieces? absolute ps with
    | none => []
    | some up =>
      (if up = [] then [] else ofPieces up) :: ancestorsFrom absolute fuel up

/-- A path and everything above it, ending with the root or the empty path. -/
def ancestors (p : Text) : List Text :=
  let ps := (pieces p).reverse
  p :: ancestorsFrom (p.head? = some '/') (ps.length + 1) ps

end ImportGrid.Path
