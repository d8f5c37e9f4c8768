/-
The grammar of import declarations.

A declaration is `import`, a clause, `from` and the module path, or `import` and the path
alone; attributes may follow, and a semicolon, a line end or the end of the enclosing block
ends it.  The words `type`, `as`, `from`, `defer` and `source` are names as well, and a
clause is read so that each of them is a name wherever it has to be one.

Readers take tokens from the front and answer with the tokens left over, which are always a
suffix of what they were given.
-/
import ImportGrid.Source.Lexer
import ImportGrid.Source.ParsedModule

namespace ImportGrid

/-- The clause of an import declaration. -/
structure ImportClause where
  /-- The word `type` stands before the clause. -/
  typeOnly : Bool
  bindings : List SpecifierNode
deriving Repr, DecidableEq

namespace ImportNode

/-! ## Names in braces -/

/-- The exported name that a token gives, if it can give one. -/
def importedName? (t : Token) : Option ExportName :=
  match t.kind with
  | .word => some (.name t.text)
  | .string => some (.string t.span)
  | _ => none

/-- The binding that the tokens between two commas stand for. -/
def readNamed? (types : Bool) : List Token → Option SpecifierNode
  | [name] => if name.isName then some (.namedImport none name.text false) else none
  | [marker, name] =>
    if types && marker.isWord "type" && name.isName then some (.namedImport none name.text true)
    else none
  | [imported, as, name] =>
    if as.isWord "as" && name.isNameBehindAs types then
      (importedName? imported).map fun i => .namedImport (some i) name.text false
    else none
  | [marker, imported, as, name] =>
    if types && marker.isWord "type" && imported.kind = .word && as.isWord "as" &&
        name.isNameBehindAs types then
      some (.namedImport (some (.name imported.text)) name.text true)
    else none
  | _ => none

/-- Tokens between commas; a comma may also stand behind the last. -/
def splitAtCommas : List Token → List (List Token)
  | [] => []
  | t :: ts =>
    if t.isOperator "," then [] :: splitAtCommas ts
    else
      match splitAtCommas ts with
      | [] => [[t]]
      | piece :: rest => (t :: piece) :: rest

/-- The names between braces, behind the opening one. -/
def readBraces? (types : Bool) (ts : List Token) : Option (List SpecifierNode × List Token) :=
  match ts.dropWhile (!·.isClosing '\x7d') with
  | [] => none
  | _ :: rest =>
    ((splitAtCommas (ts.takeWhile (!·.isClosing '\x7d'))).mapM (readNamed? types)).map (·, rest)

theorem suffix_of_readBraces? {types : Bool} {ts rest : List Token} {bs : List SpecifierNode}
    (h : readBraces? types ts = some (bs, rest)) : rest <:+ ts := by
  unfold readBraces? at h
  split at h
  · simp at h
  · next t after hd =>
    simp only [Option.map_eq_some_iff, Prod.mk.injEq] at h
    obtain ⟨_, _, _, rfl⟩ := h
    have := List.dropWhile_suffix (!·.isClosing '\x7d') (l := ts)
    rw [hd] at this
    exact (List.suffix_cons t after).trans this

/-! ## Clauses -/

/-- A namespace binding or names in braces. -/
def readBindings? (types : Bool) : List Token → Option (List SpecifierNode × List Token)
  | t :: rest =>
    if t.isOpening '\x7b' then readBraces? types rest
    else if t.isOperator "*" then
      match rest with
      | as :: name :: rest =>
        if as.isWord "as" && name.isNameBehindAs types then
          some ([.namespaceImport name.text], rest)
        else none
      | _ => none
    else none
  | [] => none

theorem suffix_of_readBindings? {types : Bool} {ts rest : List Token} {bs : List SpecifierNode}
    (h : readBindings? types ts = some (bs, rest)) : rest <:+ ts := by
  unfold readBindings? at h
  split at h
  · next t after =>
    split at h
    · exact (suffix_of_readBraces? h).trans (List.suffix_cons ..)
    · split at h
      · split at h
        · split at h
          · simp only [Option.some.injEq, Prod.mk.injEq] at h
            obtain ⟨_, rfl⟩ := h
            exact ⟨[_, _, _], rfl⟩
          · simp at h
        · simp at h
      · simp at h
  · simp at h

/-- What follows a default binding: nothing, or a comma and further bindings, which may be left
out. -/
def readAfterDefault? (types : Bool) (first : Token) :
    List Token → Option (List SpecifierNode × List Token)
  | t :: rest =>
    if t.isWord "from" then some ([.defaultImport first.text], t :: rest)
    else if t.isOperator "," then
      match rest with
      | u :: _ =>
        if u.isWord "from" then some ([.defaultImport first.text], rest)
        else (readBindings? types rest).map fun p => (.defaultImport first.text :: p.1, p.2)
      | [] => none
    else none
  | [] => none

theorem suffix_of_readAfterDefault? {types : Bool} {first : Token} {ts rest : List Token}
    {bs : List SpecifierNode} (h : readAfterDefault? types first ts = some (bs, rest)) :
    rest <:+ ts := by
  unfold readAfterDefault? at h
  split at h
  · split at h
    · simp only [Option.some.injEq, Prod.mk.injEq] at h
      exact h.2 ▸ List.suffix_rfl
    · split at h
      · split at h
        · split at h
          · simp only [Option.some.injEq, Prod.mk.injEq] at h
            exact h.2 ▸ List.suffix_cons ..
          · simp only [Option.map_eq_some_iff, Prod.mk.injEq] at h
            obtain ⟨⟨_, _⟩, hb, _, rfl⟩ := h
            exact (suffix_of_readBindings? hb).trans (List.suffix_cons ..)
        · simp at h
      · simp at h
  · simp at h

/-- Whether tokens begin with a word. -/
def startsWith (w : String) (ts : List Token) : Bool := ts.head?.any (·.isWord w)

/-- Whether a word that may stand before a clause does so, judged by what follows it: then
comes a name, which is `from` only if another `from` follows. -/
def isBeforeName : List Token → Bool
  | t :: rest => t.isName && (!t.isWord "from" || startsWith "from" rest)
  | [] => false

/-- A clause that may begin with a default binding.  The words `defer` and `source` may stand
before a name, and `defer` before a namespace binding; they leave no trace. -/
def readUnmarked? (types : Bool) : List Token → Option (List SpecifierNode × List Token)
  | t :: rest =>
    if (t.isWord "defer" || t.isWord "source") && isBeforeName rest then
      match rest with
      | name :: rest => readAfterDefault? types name rest
      | [] => none
    else if t.isWord "defer" && rest.head?.any (·.isOperator "*") then readBindings? types rest
    else if t.isName then readAfterDefault? types t rest
    else readBindings? types (t :: rest)
  | [] => none

theorem suffix_of_readUnmarked? {types : Bool} {ts rest : List Token} {bs : List SpecifierNode}
    (h : readUnmarked? types ts = some (bs, rest)) : rest <:+ ts := by
  unfold readUnmarked? at h
  split at h
  · split at h
    · split at h
      · exact (suffix_of_readAfterDefault? h).trans ⟨[_, _], rfl⟩
      · simp at h
    · split at h
      · exact (suffix_of_readBindings? h).trans (List.suffix_cons ..)
      · split at h
        · exact (suffix_of_readAfterDefault? h).trans (List.suffix_cons ..)
        · exact suffix_of_readBindings? h
  · simp at h

/-- Whether the word `type` before these tokens marks the clause. -/
def isMarked : List Token → Bool
  | t :: rest => t.isOpening '\x7b' || t.isOperator "*" || isBeforeName (t :: rest)
  | [] => false

/-- A clause behind the marker `type`. -/
def readMarked? (types : Bool) (ts : List Token) : Option (List SpecifierNode × List Token) :=
  if isBeforeName ts then
    match ts with
    | name :: rest => readAfterDefault? types name rest
    | [] => none
  else readBindings? types ts

theorem suffix_of_readMarked? {types : Bool} {ts rest : List Token} {bs : List SpecifierNode}
    (h : readMarked? types ts = some (bs, rest)) : rest <:+ ts := by
  unfold readMarked? at h
  split at h
  · split at h
    · exact (suffix_of_readAfterDefault? h).trans (List.suffix_cons ..)
    · simp at h
  · exact suffix_of_readBindings? h

/-- The clause of a declaration, up to the word `from`. -/
def readClause? (types : Bool) : List Token → Option (ImportClause × List Token)
  | t :: rest =>
    if types && t.isWord "type" && isMarked rest then
      (readMarked? types rest).map fun p => (⟨true, p.1⟩, p.2)
    else (readUnmarked? types (t :: rest)).map fun p => (⟨false, p.1⟩, p.2)
  | [] => none

theorem suffix_of_readClause? {types : Bool} {ts rest : List Token} {c : ImportClause}
    (h : readClause? types ts = some (c, rest)) : rest <:+ ts := by
  unfold readClause? at h
  split at h
  · split at h
    · simp only [Option.map_eq_some_iff, Prod.mk.injEq] at h
      obtain ⟨⟨_, _⟩, hb, _, rfl⟩ := h
      exact (suffix_of_readMarked? hb).trans (List.suffix_cons ..)
    · simp only [Option.map_eq_some_iff, Prod.mk.injEq] at h
      obtain ⟨⟨_, _⟩, hb, _, rfl⟩ := h
      exact suffix_of_readUnmarked? hb
  · simp at h

/-! ## Ends -/

/-- The end of a statement: a semicolon, which belongs to the statement, the end of a line or of
the enclosing block.  The position behind the semicolon is given, if there is one. -/
def readEnd? : List Token → Option (Option Nat × List Token)
  | [] => some (none, [])
  | t :: rest =>
    if t.isOperator ";" then some (some t.span.stop, rest)
    else if t.startsLine || t.isClosing '\x7d' then some (none, t :: rest)
    else none

theorem suffix_of_readEnd? {ts rest : List Token} {stop : Option Nat}
    (h : readEnd? ts = some (stop, rest)) : rest <:+ ts := by
  unfold readEnd? at h
  split at h
  · simp only [Option.some.injEq, Prod.mk.injEq] at h
    exact h.2 ▸ List.suffix_rfl
  · split at h
    · simp only [Option.some.injEq, Prod.mk.injEq] at h
      exact h.2 ▸ List.suffix_cons ..
    · split at h
      · simp only [Option.some.injEq, Prod.mk.injEq] at h
        exact h.2 ▸ List.suffix_rfl
      · simp at h

/-- The position behind the closing brace at a depth, and the tokens there. -/
def skipBraces? (depth : Nat) : List Token → Option (Nat × List Token)
  | [] => none
  | t :: rest =>
    if t.isClosing '\x7d' && t.depth = depth then some (t.span.stop, rest)
    else skipBraces? depth rest

theorem suffix_of_skipBraces? {depth stop : Nat} {ts rest : List Token}
    (h : skipBraces? depth ts = some (stop, rest)) : rest <:+ ts := by
  induction ts with
  | nil => simp [skipBraces?] at h
  | cons t ts ih =>
    unfold skipBraces? at h
    split at h
    · simp only [Option.some.injEq, Prod.mk.injEq] at h
      exact h.2 ▸ List.suffix_cons ..
    · exact (ih h).trans (List.suffix_cons ..)

/-- The position behind the attributes of a declaration, if there are any.  The word before them
stands on the line of the module path. -/
def readAttributes? : List Token → Option (Option Nat × List Token)
  | t :: rest =>
    if (t.isWord "with" || t.isWord "assert") && !t.startsLine then
      match rest with
      | brace :: inside =>
        if brace.isOpening '\x7b' then
          (skipBraces? brace.depth inside).map fun p => (some p.1, p.2)
        else none
      | [] => none
    else some (none, t :: rest)
  | [] => some (none, [])

theorem suffix_of_readAttributes? {ts rest : List Token} {stop : Option Nat}
    (h : readAttributes? ts = some (stop, rest)) : rest <:+ ts := by
  unfold readAttributes? at h
  split at h
  · split at h
    · split at h
      · split at h
        · simp only [Option.map_eq_some_iff, Prod.mk.injEq] at h
          obtain ⟨⟨_, _⟩, hb, _, rfl⟩ := h
          exact (suffix_of_skipBraces? hb).trans ⟨[_, _], rfl⟩
        · simp at h
      · simp at h
    · simp only [Option.some.injEq, Prod.mk.injEq] at h
      exact h.2 ▸ List.suffix_rfl
  · simp only [Option.some.injEq, Prod.mk.injEq] at h
    exact h.2 ▸ List.suffix_rfl

/-! ## Declarations -/

/-- The clause and the module path of a declaration, behind the word `import`. -/
def readHead? (types : Bool) : List Token → Option (ImportClause × Span × List Token)
  | [] => none
  | t :: rest =>
    if t.kind = .string then some (⟨false, []⟩, t.span, rest)
    else
      match readClause? types (t :: rest) with
      | some (clause, fromWord :: path :: rest) =>
        if fromWord.isWord "from" && path.kind = .string then some (clause, path.span, rest)
        else none
      | _ => none

theorem suffix_of_readHead? {types : Bool} {ts rest : List Token} {c : ImportClause} {p : Span}
    (h : readHead? types ts = some (c, p, rest)) : rest <:+ ts := by
  unfold readHead? at h
  split at h
  · simp at h
  · split at h
    · simp only [Option.some.injEq, Prod.mk.injEq] at h
      exact h.2.2 ▸ List.suffix_cons ..
    · split at h
      · next hc =>
        split at h
        · simp only [Option.some.injEq, Prod.mk.injEq] at h
          exact h.2.2 ▸ (List.suffix_append [_, _] _).trans (suffix_of_readClause? hc)
        · simp at h
      · simp at h

/-- A declaration, given the word `import` and the tokens behind it. -/
def read? (types : Bool) (keyword : Token) (ts : List Token) :
    Option (ImportNode × List Token) :=
  match readHead? types ts with
  | none => none
  | some (clause, path, rest) =>
    match readAttributes? rest with
    | none => none
    | some (attributes, last) =>
      (readEnd? last).map fun p =>
        ({ span := ⟨keyword.start, (p.1.or attributes).getD path.stop⟩
           typeOnly := clause.typeOnly
           specifiers := clause.bindings
           path := path
           attributesStop := attributes }, p.2)

/-- A declaration leaves a suffix of the tokens. -/
theorem suffix_of_read? {types : Bool} {keyword : Token} {ts rest : List Token}
    {n : ImportNode} (h : read? types keyword ts = some (n, rest)) : rest <:+ ts := by
  unfold read? at h
  split at h
  · simp at h
  · next hh =>
    split at h
    · simp at h
    · next ha =>
      simp only [Option.map_eq_some_iff, Prod.mk.injEq] at h
      obtain ⟨⟨_, _⟩, he, _, rfl⟩ := h
      exact (suffix_of_readEnd? he).trans
        ((suffix_of_readAttributes? ha).trans (suffix_of_readHead? hh))

/-- Whether the tokens behind the word `import` are those of an alias, `x =` or `type x =`.  An
alias is no import declaration. -/
def isAlias : List Token → Bool
  | [] => false
  | t :: rest =>
    t.isName &&
      (rest.head?.any (·.isOperator "=") ||
        (t.isWord "type" && rest.head?.any (·.isName) && rest.tail.head?.any (·.isOperator "=")))

end ImportNode

end ImportGrid
