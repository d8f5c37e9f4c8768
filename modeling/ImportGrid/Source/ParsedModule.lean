/-
What a parser tells of a source text.

A parser answers with the import declarations of a module as nodes: what each of them binds, and
where its parts stand.  Positions are counted from the beginning of all texts that the parser has
read, so a module comes with the position of its own text.  The text of a path, of an exported name in
quotes and of attributes is not in the nodes; it is cut out of the source text.

Nothing is assumed of a parser here.  `sourceParser` is one that reads texts; what is proved of
parsed texts holds for every parser that does what a statement asks of it.
-/
import ImportGrid.Declaration
import ImportGrid.Source.Dialect

namespace ImportGrid

/-! ## Nodes -/

/-- An exported name in a specifier. -/
inductive ExportName where
  /-- A name. -/
  | name (t : Text)
  /-- A string, which stands at a span. -/
  | string (span : Span)
deriving Repr, DecidableEq

/-- A specifier of an import node. -/
inductive SpecifierNode where
  /-- `a` -/
  | defaultImport (name : Text)
  /-- `* as a` -/
  | namespaceImport (name : Text)
  /-- `a`, or `x as a` with the exported name given, between braces; `typeOnly` says that the word
  `type` stands before it. -/
  | namedImport (imported : Option ExportName) (name : Text) (typeOnly : Bool)
deriving Repr, DecidableEq

/-- An import declaration as a node. -/
structure ImportNode where
  /-- The whole statement, a terminating semicolon included. -/
  span : Span
  /-- The word `type` stands before the clause. -/
  typeOnly : Bool
  /-- The specifiers, in the order written. -/
  specifiers : List SpecifierNode
  /-- The string of the module path. -/
  path : Span
  /-- Where the attributes end, if there are any. -/
  attributesStop : Option Nat
deriving Repr, DecidableEq

/-- What is read of a module. -/
structure ParsedModule where
  /-- The position of the beginning of the text. -/
  start : Nat
  /-- The import declarations, wherever they stand in the module, in source order. -/
  imports : List ImportNode
deriving Repr, DecidableEq

/-- A parser of modules.  It gives nothing for a text that is no module. -/
structure Parser where
  parse? : Dialect → Text → Option ParsedModule

/-! ## Declarations of nodes -/

/-- A span as byte offsets of the text that begins at a position. -/
def Span.from (start : Nat) (s : Span) : Span := ⟨s.start - start, s.stop - start⟩

/-- A quoted text without its quotes. -/
def unquote (t : Text) : Text :=
  match t with
  | q :: rest =>
    if (q = '\'' ∨ q = '"') ∧ rest.getLast? = some q then rest.dropLast else t
  | [] => t

/-- The text of an exported name.  A string is cut out of the source text, quotes included. -/
def ExportName.text (source : Text) (start : Nat) : ExportName → Text
  | name t => t
  | string span => (span.from start).textIn source

/-- The specifier of a node. -/
def SpecifierNode.specifier (source : Text) (start : Nat) : SpecifierNode → Specifier
  | defaultImport name => ⟨.defaultImport, name, false⟩
  | namespaceImport name => ⟨.namespaceImport, name, false⟩
  | namedImport imported name typeOnly =>
    ⟨.namedImport (imported.map (·.text source start)), name, typeOnly⟩

/-- The declaration of a node. -/
def ImportNode.declaration (source : Text) (start : Nat) (n : ImportNode) : Declaration :=
  let path := n.path.from start
  let quoted := path.textIn source
  { span := n.span.from start
    source := unquote quoted
    quotedSource := quoted
    typeOnly := n.typeOnly
    specifiers := n.specifiers.map (·.specifier source start)
    attributes := n.attributesStop.map fun stop =>
      Text.trim (Span.textIn ⟨path.stop, stop - start⟩ source) }

/-- The declarations of a module. -/
def ParsedModule.declarations (source : Text) (m : ParsedModule) : List Declaration :=
  m.imports.map (·.declaration source m.start)

/-- The import declarations of a source text, in source order. -/
def Parser.imports? (p : Parser) (d : Dialect) (source : Text) : Option (List Declaration) :=
  (p.parse? d source).map (·.declarations source)

/-- A text without a byte order mark at its beginning.  Parsers read such a text without the mark,
and their positions are those of the shorter text. -/
def withoutMark : Text → Text
  | '\ufeff' :: t => t
  | t => t

end ImportGrid
