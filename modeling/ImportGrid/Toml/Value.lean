/-
TOML values and the tables that a document builds up.

A table remembers how it came about, because that decides whether it may be extended: a
header may complete a table that so far is only implied by longer headers, and dotted keys
may extend only what dotted keys created.  Entries keep the order of the document.
-/
import ImportGrid.Text.Basic

namespace ImportGrid.Toml

/-- How a table of a document came about. -/
inductive TableForm where
  /-- Written in braces; complete. -/
  | inline
  /-- Named by a header of its own. -/
  | header
  /-- Named only as a parent in headers. -/
  | implied
  /-- Created by dotted keys. -/
  | dotted
deriving Repr, DecidableEq

/-- A value of a document.  Floats and dates keep their text. -/
inductive Value where
  | string (t : Text)
  | integer (n : Int)
  | float (t : Text)
  | boolean (b : Bool)
  | dateTime (t : Text)
  | array (items : List Value)
  | table (form : TableForm) (entries : List (Text × Value))
  /-- The tables under one repeated `[[header]]`. -/
  | tables (items : List (List (Text × Value)))
deriving Repr

/-- Entries of a table in the order of the document. -/
abbrev Entries := List (Text × Value)

namespace Entries

/-- The value of a key. -/
def get? (key : Text) (es : Entries) : Option Value := List.lookup key es

/-- The entries with one value replaced, at its place. -/
def replace (key : Text) (v : Value) (es : Entries) : Entries :=
  es.map fun e => if e.1 = key then (key, v) else e

/-- The entries without a key. -/
def remove (key : Text) (es : Entries) : Entries := es.filter (·.1 ≠ key)

/-- The entries with a value set: in place if the key is there, else at the end. -/
def put (key : Text) (v : Value) (es : Entries) : Entries :=
  if (get? key es).isSome then replace key v es else es ++ [(key, v)]

/-- Changes the table that a path of keys leads to, creating tables of the given form where
the path leads nowhere yet.  `enter` says into which existing tables the path may go; of
repeated tables it goes into the last. -/
def update (form : TableForm) (enter : TableForm → Bool)
    (change : TableForm → Entries → Option Entries) :
    List Text → TableForm → Entries → Option Entries
  | [], here, es => change here es
  | key :: path, _, es =>
    match get? key es with
    | none => (update form enter change path form []).map fun inner =>
        es ++ [(key, .table form inner)]
    | some (.table f inner) =>
      if f ≠ .inline ∧ enter f then
        (update form enter change path f inner).map fun inner' => replace key (.table f inner') es
      else none
    | some (.tables items) =>
      match items.getLast? with
      | some last => (update form enter change path .header last).map fun last' =>
          replace key (.tables (items.dropLast ++ [last'])) es
      | none => none
    | some _ => none

/-- Adds a new key to a table. -/
def add (key : Text) (v : Value) (es : Entries) : Option Entries :=
  if (get? key es).isSome then none else some (es ++ [(key, v)])

/-- Adds the value of a dotted key below a table.  Tables on the way must not have headers
of their own, and the last must have come about by dotted keys. -/
def addDotted (path : List Text) (key : Text) (v : Value) (form : TableForm) (es : Entries) :
    Option Entries :=
  update .dotted (fun f => f = .implied ∨ f = .dotted)
    (fun here inner =>
      if path ≠ [] ∧ here ≠ .dotted then none else add key v inner)
    path form es

/-- Opens the table of a header.  The table may exist only as implied by other headers, and
moves to the end of its parent. -/
def openTable (path : List Text) (key : Text) (root : Entries) : Option Entries :=
  update .implied (fun _ => true)
    (fun _ es =>
      match get? key es with
      | none => some (es ++ [(key, .table .header [])])
      | some (.table .implied inner) => some (remove key es ++ [(key, .table .header inner)])
      | some _ => none)
    path .header root

/-- Opens one more of the repeated tables of a header. -/
def openRepeated (path : List Text) (key : Text) (root : Entries) : Option Entries :=
  update .implied (fun _ => true)
    (fun _ es =>
      match get? key es with
      | none => some (es ++ [(key, .tables [[]])])
      | some (.tables items) => some (replace key (.tables (items ++ [[]])) es)
      | some _ => none)
    path .header root

/-- Adds a possibly dotted key to the table that the last header opened. -/
def addUnder (current : List Text) (path : List Text) (key : Text) (v : Value) (root : Entries) :
    Option Entries :=
  update .implied (fun _ => true) (addDotted path key v) current .header root

end Entries

end ImportGrid.Toml
