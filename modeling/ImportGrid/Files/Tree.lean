/-
File trees.

A file tree is a file or a folder of named trees, in the order of the names.  Trees have
no links, so a place in a tree is the list of the names that lead there from the top.
-/
import ImportGrid.Text.Basic

namespace ImportGrid

/-- What a file holds. -/
inductive Content where
  /-- A text in UTF-8. -/
  | text (t : Text)
  /-- Bytes that are no text in UTF-8. -/
  | binary (bytes : List UInt8)
deriving Repr, DecidableEq

/-- The text that a file holds, if it is one. -/
def Content.text? : Content → Option Text
  | text t => some t
  | binary _ => none

/-- A file, or a folder of named trees. -/
inductive FileTree where
  | file (content : Content)
  | folder (entries : List (Text × FileTree))

namespace FileTree

/-- A folder without entries. -/
def empty : FileTree := .folder []

def isFile : FileTree → Bool
  | file _ => true
  | folder _ => false

def isFolder : FileTree → Bool
  | file _ => false
  | folder _ => true

/-! ## Looking things up -/

/-- The entry of a name. -/
def entry? (name : Text) : FileTree → Option FileTree
  | file _ => none
  | folder entries => entries.lookup name

/-- The tree at a place. -/
def get? : List Text → FileTree → Option FileTree
  | [], t => some t
  | name :: place, t => (t.entry? name).bind (get? place)

@[simp] theorem get?_nil (t : FileTree) : t.get? [] = some t := rfl

theorem get?_append (p q : List Text) (t : FileTree) :
    t.get? (p ++ q) = (t.get? p).bind (get? q) := by
  induction p generalizing t with
  | nil => rfl
  | cons name p ih => cases h : t.entry? name <;> simp [get?, h, ih]

/-! ## Changing things -/

/-- Entries with one more, put in the order of the names; an entry of the same name is
replaced. -/
def insertEntry (name : Text) (t : FileTree) :
    List (Text × FileTree) → List (Text × FileTree)
  | [] => [(name, t)]
  | e :: rest =>
    match compare name e.1 with
    | .lt => (name, t) :: e :: rest
    | .eq => (name, t) :: rest
    | .gt => e :: insertEntry name t rest

/-- The tree with a file at a place; nothing if a folder stands there, or if the place is not
in a folder of the tree. -/
def put? (content : Content) : List Text → FileTree → Option FileTree
  | [], file _ => some (.file content)
  | [], folder _ => none
  | _ :: _, file _ => none
  | name :: place, folder entries =>
    match entries.lookup name with
    | some t => (put? content place t).map fun u => .folder (insertEntry name u entries)
    | none =>
      if place = [] then some (.folder (insertEntry name (.file content) entries)) else none

/-- The tree with another tree at a place; folders that are missing on the way are made, and a
file in the way gives way. -/
def graft (new : FileTree) : List Text → FileTree → FileTree
  | [], _ => new
  | name :: place, t =>
    let entries := match t with
      | folder entries => entries
      | file _ => []
    .folder (insertEntry name (graft new place ((entries.lookup name).getD empty)) entries)

theorem lookup_insertEntry_self (name : Text) (t : FileTree) (entries : List (Text × FileTree)) :
    (insertEntry name t entries).lookup name = some t := by
  induction entries with
  | nil => simp [insertEntry]
  | cons e rest ih =>
    unfold insertEntry
    split
    · simp
    · simp
    · next h =>
      have hne : name ≠ e.1 := by
        intro he
        simp [he] at h
      rw [List.lookup_cons, beq_false_of_ne hne]
      exact ih

theorem lookup_insertEntry_of_ne {name other : Text} (h : other ≠ name) (t : FileTree)
    (entries : List (Text × FileTree)) :
    (insertEntry name t entries).lookup other = entries.lookup other := by
  have hb : (other == name) = false := beq_false_of_ne h
  induction entries with
  | nil => simp [insertEntry, List.lookup_cons, hb]
  | cons e rest ih =>
    obtain ⟨n, u⟩ := e
    unfold insertEntry
    split
    · simp [List.lookup_cons, hb]
    · next he =>
      obtain rfl : name = n := Std.LawfulEqCmp.eq_of_compare he
      simp [List.lookup_cons, hb]
    · simp only [List.lookup_cons, ih]

/-! ## Listing -/

mutual

/-- Everything below a tree with the names that lead there, each folder before what it
holds. -/
def descendants : FileTree → List (List Text × FileTree)
  | file _ => []
  | folder entries => entryDescendants entries

/-- Everything at and below the entries of a folder. -/
def entryDescendants : List (Text × FileTree) → List (List Text × FileTree)
  | [] => []
  | (name, t) :: rest =>
    ([name], t) :: t.descendants.map (fun p => (name :: p.1, p.2)) ++ entryDescendants rest

end

/-- The files of a tree with the names that lead there. -/
def files (t : FileTree) : List (List Text × Content) :=
  t.descendants.filterMap fun p =>
    match p.2 with
    | file c => some (p.1, c)
    | folder _ => none

end FileTree

end ImportGrid
