/-
Reading TOML documents.

A document is a sequence of lines, each a key with a value, a table header, a comment or
blank; arrays may span lines.  The reader answers with the entries of the root table, or
with nothing when the text is malformed or defines a key or table twice.
-/
import ImportGrid.Toml.Scalar

namespace ImportGrid.Toml

/-! ## Blanks, comments, keys -/

/-- The text after blanks and tabs. -/
def skipBlanks (t : Text) : Text := t.dropWhile fun c => c == ' ' || c == '\t'

/-- The text after the characters of a comment, up to its line end. -/
def skipComment : Text → Option Text
  | [] => some []
  | '\n' :: t => some ('\n' :: t)
  | '\r' :: '\n' :: t => some ('\r' :: '\n' :: t)
  | c :: t => if isPlain c then skipComment t else none

/-- The text after the end of a line: blanks, an optional comment, and a line end unless the
document ends. -/
def endLine? (t : Text) : Option Text :=
  let rest : Option Text := match skipBlanks t with
    | '#' :: r => skipComment r
    | r => some r
  match rest with
  | some [] => some []
  | some ('\n' :: r) => some r
  | some ('\r' :: '\n' :: r) => some r
  | _ => none

/-- The text after white space, line ends and comments, as they may stand in an array. -/
def skipLines? : Nat → Text → Option Text
  | 0, _ => none
  | fuel + 1, t =>
    match skipBlanks t with
    | '\n' :: r => skipLines? fuel r
    | '\r' :: '\n' :: r => skipLines? fuel r
    | '#' :: r => (skipComment r).bind (skipLines? fuel)
    | r => some r

/-- A character of a bare key. -/
def isBareKey (c : Char) : Bool := c.isAlphanum || c == '_' || c == '-'

/-- One part of a key: bare, or a string on one line. -/
def readKeyPart? : Text → Option (Text × Text)
  | '"' :: r => readBasic? r
  | '\'' :: r => readLiteral? r
  | t =>
    let name := t.takeWhile isBareKey
    if name.isEmpty then none else some (name, t.drop name.length)

/-- A dotted key: the parts before the last, and the last. -/
def readKey? : Nat → Text → Option ((List Text × Text) × Text)
  | 0, _ => none
  | fuel + 1, t =>
    match readKeyPart? (skipBlanks t) with
    | none => none
    | some (part, rest) =>
      match skipBlanks rest with
      | '.' :: r => (readKey? fuel r).map fun k => ((part :: k.1.1, k.1.2), k.2)
      | r => some (([], part), r)

/-! ## Values -/

mutual

/-- A value: a string, an array, an inline table or a scalar. -/
def readValue? : Nat → Text → Option (Value × Text)
  | 0, _ => none
  | fuel + 1, t =>
    match t with
    | '"' :: _ | '\'' :: _ => (readString? t).map fun s => (.string s.1, s.2)
    | '[' :: r => (readArray? fuel r).map fun a => (.array a.1, a.2)
    | '\x7b' :: r =>
      match skipBlanks r with
      | '\x7d' :: r' => some (.table .inline [], r')
      | r' => (readInline? fuel [] r').map fun es => (.table .inline es.1, es.2)
    | _ => readScalar? t

/-- The items of an array, after the opening bracket or a comma. -/
def readArray? : Nat → Text → Option (List Value × Text)
  | 0, _ => none
  | fuel + 1, t =>
    match skipLines? (t.length + 1) t with
    | none => none
    | some (']' :: r) => some ([], r)
    | some r =>
      match readValue? fuel r with
      | none => none
      | some (v, rest) =>
        match skipLines? (rest.length + 1) rest with
        | some (']' :: r') => some ([v], r')
        | some (',' :: r') => (readArray? fuel r').map fun a => (v :: a.1, a.2)
        | _ => none

/-- The entries of an inline table, after the opening brace or a comma. -/
def readInline? : Nat → Entries → Text → Option (Entries × Text)
  | 0, _, _ => none
  | fuel + 1, es, t =>
    match readKey? (t.length + 1) t with
    | some ((path, key), '=' :: r) =>
      match readValue? fuel (skipBlanks r) with
      | none => none
      | some (v, rest) =>
        match Entries.addDotted path key v .inline es with
        | none => none
        | some es' =>
          match skipBlanks rest with
          | '\x7d' :: r' => some (es', r')
          | ',' :: r' => readInline? fuel es' r'
          | _ => none
    | _ => none

end

/-! ## Documents -/

/-- A document after part of it: the root table so far and the path of the last header. -/
structure Document where
  root : Entries
  current : List Text

/-- A header after its opening bracket, and the text after its line. -/
def readHeader? (d : Document) (t : Text) : Option (Document × Text) :=
  match t with
  | '[' :: r =>
    match readKey? (r.length + 1) r with
    | some ((path, key), ']' :: ']' :: rest) => do
      let root ← Entries.openRepeated path key d.root
      return (⟨root, path ++ [key]⟩, ← endLine? rest)
    | _ => none
  | _ =>
    match readKey? (t.length + 1) t with
    | some ((path, key), ']' :: rest) => do
      let root ← Entries.openTable path key d.root
      return (⟨root, path ++ [key]⟩, ← endLine? rest)
    | _ => none

/-- A key with its value, and the text after its line. -/
def readMember? (d : Document) (t : Text) : Option (Document × Text) :=
  match readKey? (t.length + 1) t with
  | some ((path, key), '=' :: r) => do
    let (v, rest) ← readValue? (r.length + 1) (skipBlanks r)
    let root ← Entries.addUnder d.current path key v d.root
    return ({ d with root := root }, ← endLine? rest)
  | _ => none

/-- The lines of a document. -/
def readLines? : Nat → Document → Text → Option Entries
  | 0, _, _ => none
  | fuel + 1, d, t =>
    match skipBlanks t with
    | [] => some d.root
    | '[' :: r => (readHeader? d r).bind fun p => readLines? fuel p.1 p.2
    | r =>
      if r.head? = some '#' ∨ r.head? = some '\n' ∨ r.head? = some '\r' then
        (endLine? r).bind (readLines? fuel d)
      else (readMember? d r).bind fun p => readLines? fuel p.1 p.2

/-- The root table of a document.  A byte order mark at the beginning is skipped. -/
def readDocument? (t : Text) : Option Entries :=
  let t := if t.head? = some '\ufeff' then t.drop 1 else t
  readLines? (t.length + 1) ⟨[], []⟩ t

end ImportGrid.Toml
