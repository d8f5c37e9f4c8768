/-
A parser of source texts.

Imports stand at the top level, and where there are types also in the bodies of
`declare module 'm' { … }`, `namespace a.b { … }` and `declare global { … }`.  An import anywhere else
is a fault, and so is one that does not follow the grammar.  `import(…)`, `import.meta` and import
aliases are code like any other.

The parser reads the programs that the tool is run on.  Other code is passed over token by token, so it
takes some texts for modules that are none.
-/
import ImportGrid.Source.Code
import ImportGrid.Source.Import

namespace ImportGrid

namespace SourceModule

/-! ## Statements -/

/-- What the word `import` begins. -/
inductive ImportRole where
  /-- An import declaration. -/
  | declaration
  /-- Code: a dynamic import, `import.meta`, an alias, or a property of that name. -/
  | code
  /-- Nothing that is allowed here. -/
  | fault
deriving Repr, DecidableEq

/-- Whether a token may follow `import` only in a declaration. -/
def beginsClause (t : Token) : Bool :=
  t.kind = .word || t.kind = .string || t.isOpening '\x7b' || t.isOperator "*"

/-- The role of the word `import` with the tokens before and behind it.  `inBody` says that
declarations may stand at its depth. -/
def importRole (d : Dialect) (inBody : Bool) (last : Option Token) (t : Token)
    (rest : List Token) : ImportRole :=
  if last.any fun l => l.isOperator "." || l.isOperator "?." then .code
  else if rest.head?.any fun n => n.isOpening '(' || n.isOperator "." then .code
  else if inBody then
    let isAlias := d.types && ImportNode.isAlias rest
    if last.any (·.isWord "export") then (if isAlias then .code else .fault)
    else if Code.beginsStatement last t then (if isAlias then .code else .declaration)
    else .fault
  else if rest.head?.any beginsClause then .fault
  else .code

/-! ## Bodies -/

/-- The tokens behind further names, each with a dot before it. -/
def skipDotted : List Token → List Token
  | dot :: name :: rest =>
    if dot.isOperator "." && name.isPublicWord then skipDotted rest else dot :: name :: rest
  | ts => ts

theorem suffix_skipDotted (ts : List Token) : skipDotted ts <:+ ts := by
  fun_induction skipDotted ts with
  | case1 dot name rest _ ih => exact ih.trans ⟨[dot, name], rfl⟩
  | case2 => exact List.suffix_rfl
  | case3 => exact List.suffix_rfl

/-- The opening brace at the front of tokens, and what follows it. -/
def openBrace? : List Token → Option (Token × List Token)
  | brace :: rest => if brace.isOpening '\x7b' then some (brace, rest) else none
  | [] => none

theorem suffix_of_openBrace? {ts rest : List Token} {t : Token}
    (h : openBrace? ts = some (t, rest)) : rest <:+ ts := by
  unfold openBrace? at h
  split at h
  · split at h
    · simp only [Option.some.injEq, Prod.mk.injEq] at h
      exact h.2 ▸ List.suffix_cons ..
    · simp at h
  · simp at h

/-- The opening brace of a body that a word begins, and what follows it.  The body has a name, a string
or names with dots, unless the word is `global`. -/
def moduleBody? (keyword : Token) (rest : List Token) : Option (Token × List Token) :=
  if keyword.isWord "global" then openBrace? rest
  else if keyword.isWord "module" || keyword.isWord "namespace" then
    match rest with
    | name :: rest =>
      if name.startsLine then none
      else if name.kind = .string then openBrace? rest
      else if name.isPublicWord then openBrace? (skipDotted rest)
      else none
    | [] => none
  else none

theorem suffix_of_moduleBody? {keyword t : Token} {ts rest : List Token}
    (h : moduleBody? keyword ts = some (t, rest)) : rest <:+ ts := by
  unfold moduleBody? at h
  split at h
  · exact suffix_of_openBrace? h
  · split at h
    · split at h
      · next name ts =>
        split at h
        · simp at h
        · split at h
          · exact (suffix_of_openBrace? h).trans (List.suffix_cons ..)
          · split at h
            · exact (suffix_of_openBrace? h).trans
                ((suffix_skipDotted ts).trans (List.suffix_cons ..))
            · simp at h
      · simp at h
    · simp at h

/-- The body that begins with a token, if one does. -/
def openBody? (d : Dialect) (inBody : Bool) (last : Option Token) (t : Token) (rest : List Token) :
    Option (Token × List Token) :=
  if d.types && inBody && (Code.beginsStatement last t ||
      last.any fun l => l.isWord "export" || l.isWord "declare") then
    moduleBody? t rest
  else none

theorem suffix_of_openBody? {d : Dialect} {b : Bool} {last : Option Token} {t u : Token}
    {rest after : List Token} (h : openBody? d b last t rest = some (u, after)) :
    after <:+ rest := by
  unfold openBody? at h
  split at h
  · exact suffix_of_moduleBody? h
  · simp at h

/-- Whether a token may stand where it does. -/
def isInPlace (d : Dialect) (last : Option Token) (t : Token) (rest : List Token) : Bool :=
  (match last with
    | some l => Code.mayFollow d l t
    | none => Code.mayOpen t) &&
    (t.depth ≠ 0 || !Code.beginsStatement last t || Code.mayBegin d t rest)

/-! ## Declarations -/

/-- The declarations among tokens.  `bodies` holds the depths of the enclosing bodies in which
declarations may stand, innermost first, and `last` is the token before, unless a
statement begins here in any case. -/
def declarations? (d : Dialect) (bodies : List Nat) (last : Option Token) (tokens : List Token) :
    Option (List ImportNode) :=
  match tokens with
  | [] => if last.all Code.mayEnd then some [] else none
  | t :: rest =>
    let inBody := bodies.head? == some t.depth
    if !isInPlace d last t rest then none
    else if t.isWord "import" then
      match importRole d inBody last t rest with
      | .fault => none
      | .code => declarations? d bodies (some t) rest
      | .declaration =>
        match _h : ImportNode.read? d.types t rest with
        | some (n, after) => (declarations? d bodies none after).map (n :: ·)
        | none => none
    else
      match _h : openBody? d inBody last t rest with
      | some (brace, after) => declarations? d ((brace.depth + 1) :: bodies) none after
      | none =>
        let bodies := if t.isClosing '\x7d' && bodies.head? == some (t.depth + 1) then bodies.tail
          else bodies
        declarations? d bodies (some t) rest
termination_by tokens.length
decreasing_by
  · simp
  · have := (ImportNode.suffix_of_read? _h).length_le
    simp; omega
  · have := (suffix_of_openBody? _h).length_le
    simp; omega
  · simp

end SourceModule

/-- The parser that source texts are read with.  It counts positions from one. -/
def sourceParser : Parser where
  parse? d source := do
    let tokens ← readTokens? d 1 (withoutMark source)
    return ⟨1, ← SourceModule.declarations? d [0] none tokens⟩

/-- The import declarations of a source text, in source order; nothing if the text is no module
of the dialect. -/
def readImports? (d : Dialect) (source : Text) : Option (List Declaration) :=
  sourceParser.imports? d source

end ImportGrid
