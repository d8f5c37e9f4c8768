/-
Reading tokens.

The reader goes through a source text once and keeps a stack of the brackets that are open.
Each scanner answers with the number of characters that belong to what it reads; the text
is then cut there, so nothing can be lost.
-/
import ImportGrid.Source.Dialect
import ImportGrid.Source.Markup

namespace ImportGrid

namespace Lexer

/-! ## Blanks and comments -/

/-- Where a reader of blanks stands. -/
inductive GapPlace where
  | blank
  | lineComment
  /-- Behind the slash that opens a comment. -/
  | commentStart
  | blockComment
  /-- Before the slash that closes a comment. -/
  | commentEnd
deriving Repr, DecidableEq

/-- The number of characters before the next token.  A comment that is not closed goes on to
the end of the text. -/
def gapLength : GapPlace → Text → Nat
  | _, [] => 0
  | .blank, c :: t =>
    if c = '/' ∧ t.head? = some '/' then gapLength .lineComment t + 1
    else if c = '/' ∧ t.head? = some '*' then gapLength .commentStart t + 1
    else if isBlank c then gapLength .blank t + 1
    else 0
  | .lineComment, c :: t => gapLength (if isLineBreak c then .blank else .lineComment) t + 1
  | .commentStart, _ :: t => gapLength .blockComment t + 1
  | .blockComment, c :: t =>
    gapLength (if c = '*' ∧ t.head? = some '/' then .commentEnd else .blockComment) t + 1
  | .commentEnd, _ :: t => gapLength .blank t + 1

/-- Where the gap at the beginning of a text starts: a first line that begins with `#!` is a
comment. -/
def firstPlace : Text → GapPlace
  | '#' :: '!' :: _ => .lineComment
  | _ => .blank

/-! ## Literals -/

/-- A hexadecimal digit. -/
def isHexDigit (c : Char) : Bool :=
  c.isDigit || (c.toLower.toNat ≥ 'a'.toNat && c.toLower.toNat ≤ 'f'.toNat)

/-- Whether a text begins with a number of hexadecimal digits. -/
def startsWithHex (count : Nat) (t : Text) : Bool :=
  (t.take count).length = count && (t.take count).all isHexDigit

/-- The number that hexadecimal digits stand for. -/
def hexValue (digits : Text) : Nat :=
  digits.foldl (fun n c =>
    16 * n + (if c.isDigit then c.toNat - '0'.toNat else c.toLower.toNat - 'a'.toNat + 10)) 0

/-- The length of a hexadecimal number in braces, behind the opening one.  The number is that of a
character. -/
def bracedHexLength? (t : Text) : Option Nat :=
  let digits := t.takeWhile isHexDigit
  if digits ≠ [] ∧ hexValue digits ≤ 0x10ffff ∧ (t.dropWhile isHexDigit).head? = some '\x7d' then
    some (digits.length + 1)
  else none

/-- The length of an escape behind its backslash.  The letters `x` and `u` need hexadecimal digits
behind them, and a line ending of two characters is one escape. -/
def escapeLength? : Text → Option Nat
  | [] => none
  | c :: t =>
    if c = 'x' then (if startsWithHex 2 t then some 3 else none)
    else if c = 'u' ∧ t.head? = some '\x7b' then (bracedHexLength? t.tail).map (· + 2)
    else if c = 'u' then (if startsWithHex 4 t then some 5 else none)
    else if c = '\r' ∧ t.head? = some '\n' then some 2
    else some 1

/-- The length of a string behind its opening quote, and whether it is closed.  One that is not
ends before the end of its line.  The number says how many characters belong to an escape. -/
def stringLength? (quote : Char) : Nat → Text → Option (Nat × Bool)
  | _, [] => some (0, false)
  | escaped + 1, _ :: t => (stringLength? quote escaped t).map fun p => (p.1 + 1, p.2)
  | 0, c :: t =>
    if c = quote then some (1, true)
    else if c = '\\' then
      (escapeLength? t).bind fun n => (stringLength? quote n t).map fun p => (p.1 + 1, p.2)
    else if c = '\n' ∨ c = '\r' then some (0, false)
    else (stringLength? quote 0 t).map fun p => (p.1 + 1, p.2)

/-- The length of a piece of a template behind its first character, and whether a hole begins
at its end.  The first argument says whether a backslash hides the next character. -/
def templateLength? : Bool → Text → Option (Nat × Bool)
  | _, [] => none
  | true, _ :: t => (templateLength? false t).map fun p => (p.1 + 1, p.2)
  | false, c :: t =>
    if c = '\x60' then some (1, false)
    else if c = '$' ∧ t.head? = some '\x7b' then some (2, true)
    else (templateLength? (c = '\\') t).map fun p => (p.1 + 1, p.2)

/-- The length of a regular expression behind its opening slash, flags included.  The arguments
say whether a character class is open, where a slash does not close, and whether a backslash
hides the next character. -/
def regexLength? : Bool → Bool → Text → Option Nat
  | _, _, [] => none
  | inClass, hidden, c :: t =>
    if isLineBreak c then none
    else if hidden then (regexLength? inClass false t).map (· + 1)
    else if c = '\\' then (regexLength? inClass true t).map (· + 1)
    else if c = '/' ∧ inClass = false then some (1 + (t.takeWhile Text.isIdentifierPart).length)
    else (regexLength? (c = '[' ∨ (inClass ∧ c ≠ ']')) false t).map (· + 1)

/-- The length of the rest of a number behind a character of it: digits and letters, dots, and
a sign behind the letter of an exponent. -/
def numberLength : Char → Text → Nat
  | _, [] => 0
  | before, c :: t =>
    if Text.isIdentifierPart c ∨ c = '.' ∨
        ((c = '+' ∨ c = '-') ∧ (before = 'e' ∨ before = 'E')) then
      numberLength c t + 1
    else 0

/-! ## Brackets -/

/-- A bracket that is open. -/
inductive Frame where
  /-- `(`, which may enclose the head of a statement, as behind `if`. -/
  | paren (head : Bool)
  /-- `[` -/
  | square
  /-- `{` with what may follow its end. -/
  | brace (after : Follow)
  /-- A hole of a template. -/
  | hole
  /-- A hole of a markup element, with the state to go on with. -/
  | markup (m : Markup)
deriving Repr, DecidableEq

/-- What the reader remembers between two tokens. -/
structure State where
  /-- The open brackets, innermost first. -/
  frames : List Frame
  /-- What may come next. -/
  follow : Follow
  /-- The text of the last token; nothing where a statement begins. -/
  last : Text
  /-- Where the gap before the next token begins. -/
  place : GapPlace
  /-- The last token is part of the name of a decorator, the character before it included. -/
  inDecorator : Bool
deriving Repr, DecidableEq

/-- The state where a statement begins inside some brackets. -/
def State.statement (frames : List Frame) : State := ⟨frames, .statement, [], .blank, false⟩

/-- The state at the beginning of a text. -/
def State.start (source : Text) : State := { State.statement [] with place := firstPlace source }

/-- A token that was recognised. -/
structure Scan where
  kind : TokenKind
  /-- The number of its characters behind the first. -/
  more : Nat
  /-- How many brackets are open around it. -/
  depth : Nat
  /-- The open brackets behind it. -/
  frames : List Frame
  /-- What may come behind it. -/
  follow : Follow
deriving Repr, DecidableEq

/-- Whether a text is one of some words. -/
def isOneOf (words : List String) (t : Text) : Bool := words.any fun w => w.toList == t

/-- A token that leaves the brackets as they are. -/
def State.plain (s : State) (kind : TokenKind) (more : Nat) (follow : Follow) : Scan :=
  ⟨kind, more, s.frames.length, s.frames, follow⟩

/-! ## Scanners -/

/-- Opens a bracket. -/
def State.openFrame (s : State) (f : Frame) (follow : Follow) : Scan :=
  ⟨.opening, 0, s.frames.length, f :: s.frames, follow⟩

/-- Opens a brace.  It holds statements at the beginning of a statement, behind an operand, an
arrow, the head of a statement or a word such as `else`; the one behind the word `with` holds
attributes, which end a declaration; elsewhere it is an operand. -/
def State.openBrace (s : State) : Scan :=
  if s.last = "=>".toList then s.openFrame (.brace .operator) .statement
  else if s.last = "do".toList then s.openFrame (.brace .operator) .statement
  else if s.last = "export".toList then s.openFrame (.brace .operator) .operand
  else if s.follow ≠ .operand ∨ s.last = [')'] ∨ isOneOf ["else", "try", "finally", "with"] s.last then
    s.openFrame (.brace .statement) .statement
  else s.openFrame (.brace .operator) .operand

/-- Goes on with a template behind its opening quote or behind a hole. -/
def templatePiece? (frames : List Frame) (t : Text) : Option Scan :=
  (templateLength? false t).map fun p =>
    if p.2 then ⟨.template, p.1, frames.length, .hole :: frames, .operand⟩
    else ⟨.template, p.1, frames.length, frames, .operator⟩

/-- Goes on with a markup element behind its opening character or behind a hole. -/
def markupPiece? (frames : List Frame) (m : Markup) (t : Text) : Option Scan :=
  (m.piece? t).map fun p =>
    match p.2 with
    | some next => ⟨.markup, p.1, frames.length, .markup next :: frames, .operand⟩
    | none => ⟨.markup, p.1, frames.length, frames, .operator⟩

/-- Closes the innermost bracket, if it is of the right kind. -/
def State.close? (s : State) (c : Char) (t : Text) : Option Scan :=
  let closing (frames : List Frame) (follow : Follow) : Scan :=
    ⟨.closing, 0, frames.length, frames, follow⟩
  match s.frames with
  | .paren head :: rest =>
    if c = ')' then some (closing rest (if head then .operand else .operator)) else none
  | .square :: rest => if c = ']' then some (closing rest .operator) else none
  | .brace after :: rest => if c = '\x7d' then some (closing rest after) else none
  | .hole :: rest => if c = '\x7d' then templatePiece? rest t else none
  | .markup m :: rest => if c = '\x7d' then markupPiece? rest m t else none
  | [] => none

/-- Whether a word that comes next is part of the name of a decorator. -/
def State.namesDecorator (s : State) : Bool := s.inDecorator && isOneOf ["@", "."] s.last

/-- What may follow a word.  A `while` behind a brace on its line ends a `do`, and its condition
is no head of a statement.  Behind the name of a decorator begins what it decorates. -/
def State.followWord (s : State) (startsLine : Bool) (w : Text) : Follow :=
  if s.namesDecorator then .statement
  else if isOneOf [".", "?."] s.last then .operator
  else if w = "while".toList ∧ s.last = ['\x7d'] ∧ s.follow = .operator ∧ startsLine = false then
    .operator
  else if Token.reservedWords.contains w && !Token.completeWords.contains w then .operand
  else .operator

/-- Whether a text begins with what may follow the first type parameter. -/
def continuesTypeParameters (t : Text) : Bool :=
  t.head? == some ',' || t.takeWhile Text.isIdentifierPart == "extends".toList

/-- Whether a `<` where an operand is missing begins a list of type parameters: a name, and
behind it a comma or `extends`. -/
def startsTypeParameters (t : Text) : Bool :=
  let name := (t.dropWhile isBlank).takeWhile Text.isIdentifierPart
  let rest := (t.dropWhile isBlank).dropWhile Text.isIdentifierPart
  !name.isEmpty && continuesTypeParameters (rest.dropWhile isBlank)

/-- Whether a `<` begins a markup element. -/
def State.startsMarkup (s : State) (d : Dialect) (t : Text) : Bool :=
  d.markup && s.follow ≠ .operator && !(d.types && startsTypeParameters t) &&
    t.head?.any fun c => c == '>' || isBlank c || Text.isIdentifierStart c

/-- An operator, given what the text from its first character on is.  `startsLine` says whether
a line ends before it. -/
def State.operator (s : State) (startsLine : Bool) (t : Text) : Scan :=
  let twofold := ["=>", "==", "!=", "<=", ">=", "/=", "<<"].any fun o => o.toList.isPrefixOf t
  let step := ["++", "--"].any fun o => o.toList.isPrefixOf t
  if "...".toList.isPrefixOf t then s.plain .operator 2 .operand
  else if twofold then s.plain .operator 1 .operand
  else if step then
    s.plain .operator 1 (if s.follow = .operator ∧ startsLine = false then .operator else .operand)
  else if "?.".toList.isPrefixOf t && !(t.drop 2).head?.any Char.isDigit then
    s.plain .operator 1 .operand
  else if t.head? = some ';' then s.plain .operator 0 .statement
  else if t.head? = some '!' ∧ s.follow = .operator ∧ startsLine = false then
    s.plain .operator 0 .operator
  else s.plain .operator 0 .operand

/-- Characters of operators and separators. -/
def operatorCharacters : Text := "!%&*+,-./:;<=>?@^|~".toList

/-- Recognises the token that begins with a character.  `startsLine` says whether a line ends
before it. -/
def State.scan? (s : State) (d : Dialect) (startsLine : Bool) (c : Char) (t : Text) :
    Option Scan :=
  if c = '"' ∨ c = '\'' then
    let follow : Follow := if isOneOf ["from", "import"] s.last then .statement else .operator
    (stringLength? c 0 t).map fun p => s.plain .string p.1 follow
  else if c = '\x60' then templatePiece? s.frames t
  else if c = '(' then
    let head := s.follow = .operand && isOneOf ["if", "while", "for", "with"] s.last
    some (s.openFrame (.paren head) .operand)
  else if c = '[' then some (s.openFrame .square .operand)
  else if c = '\x7b' then some s.openBrace
  else if c = ')' ∨ c = ']' ∨ c = '\x7d' then s.close? c t
  else if c.isDigit ∨ (c = '.' ∧ t.head?.any Char.isDigit) then
    some (s.plain .number (numberLength c t) .operator)
  else if Text.isIdentifierStart c ∨ (c = '#' ∧ t.head?.any Text.isIdentifierStart) then
    let more := (t.takeWhile Text.isIdentifierPart).length
    some (s.plain .word more (s.followWord startsLine (c :: t.take more)))
  else if c = '/' ∧ s.follow ≠ .operator then
    (regexLength? false false t).map fun n => s.plain .regex n .operator
  else if c = '<' && s.startsMarkup d t then markupPiece? s.frames .start t
  else if c ∈ operatorCharacters then some (s.operator startsLine (c :: t))
  else none

/-! ## Reading -/

/-- The token that was recognised, with the gap before it, its text and its position. -/
def Scan.token (scan : Scan) (gap text : Text) (start : Nat) : Token where
  kind := scan.kind
  gap := gap
  text := text
  start := start
  depth := scan.depth
  follow := scan.follow

/-- The state behind a token. -/
def Scan.state (scan : Scan) (before : State) (text : Text) : State where
  frames := scan.frames
  follow := scan.follow
  last := if scan.follow = .statement then [] else text
  place := .blank
  inDecorator := text == ['@'] || before.namesDecorator || (before.inDecorator && text == ['.'])

/-- The tokens of a text that begins at a position; nothing if something is not closed or is no
token. -/
def tokens? (d : Dialect) (s : State) (position : Nat) (text : Text) : Option (List Token) :=
  let gap := text.take (gapLength s.place text)
  match _h : text.drop (gapLength s.place text) with
  | [] => if s.frames = [] then some [] else none
  | c :: t =>
    match s.scan? d (gap.any isLineBreak) c t with
    | none => none
    | some scan =>
      let text := c :: t.take scan.more
      let start := position + Text.byteLength gap
      (tokens? d (scan.state s text) (start + Text.byteLength text) (t.drop scan.more)).map
        (scan.token gap text start :: ·)
termination_by text.length
decreasing_by
  have := congrArg List.length _h
  simp only [List.length_drop, List.length_cons] at this ⊢
  omega

end Lexer

/-- The tokens of a source text that begins at a position. -/
def readTokens? (d : Dialect) (position : Nat) (source : Text) : Option (List Token) :=
  Lexer.tokens? d (.start source) position source

end ImportGrid
