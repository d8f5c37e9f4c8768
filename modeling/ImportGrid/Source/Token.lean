/-
Tokens of source texts.

A token keeps the blanks and comments before it, and it knows where it stands.  It also says what
may come behind it: that decides whether a slash divides or begins a regular expression, and whether
a statement can begin.
-/
import ImportGrid.Text.Basic
import ImportGrid.Text.Word

namespace ImportGrid

/-! ## Characters between tokens -/

/-- A character that ends a line. -/
def isLineBreak (c : Char) : Bool :=
  c == '\n' || c == '\r' || c == '\u2028' || c == '\u2029'

/-- A character that may stand between tokens. -/
def isBlank (c : Char) : Bool :=
  isLineBreak c || c == ' ' || c == '\t' || c == '\x0b' || c == '\x0c' || c == '\u00a0' ||
    c == '\ufeff' || c == '\u1680' || c == '\u202f' || c == '\u205f' || c == '\u3000' ||
    (0x2000 ≤ c.toNat && c.toNat ≤ 0x200A)

/-! ## Tokens -/

/-- Kinds of tokens. -/
inductive TokenKind where
  /-- A name or a keyword. -/
  | word
  /-- A string in single or double quotes. -/
  | string
  /-- A number. -/
  | number
  /-- A regular expression. -/
  | regex
  /-- A piece of a template string, up to the next hole or its end. -/
  | template
  /-- A piece of a markup element, up to the next hole or its end. -/
  | markup
  /-- An opening bracket. -/
  | opening
  /-- A closing bracket. -/
  | closing
  /-- An operator or a separator. -/
  | operator
deriving Repr, DecidableEq

/-- What may come behind a token. -/
inductive Follow where
  /-- The token ends an operand. -/
  | operator
  /-- A statement begins. -/
  | statement
  /-- An operand is missing. -/
  | operand
deriving Repr, DecidableEq

/-- A token of a source text. -/
structure Token where
  kind : TokenKind
  /-- The blanks and comments before it. -/
  gap : Text
  text : Text
  /-- The position of its text. -/
  start : Nat
  /-- How many brackets are open around it; a bracket does not count itself. -/
  depth : Nat
  /-- What may come behind it. -/
  follow : Follow
deriving Repr, DecidableEq

namespace Token

/-- A line ends before the token. -/
def startsLine (t : Token) : Bool := t.gap.any isLineBreak

/-- The span of the text of a token. -/
def span (t : Token) : Span := ⟨t.start, t.start + t.text.byteLength⟩

/-- Whether a token is the given word. -/
def isWord (t : Token) (w : String) : Bool := t.kind = .word && t.text = w.toList

/-- Whether a token is the given operator. -/
def isOperator (t : Token) (o : String) : Bool := t.kind = .operator && t.text = o.toList

/-- Whether a token is the given opening bracket. -/
def isOpening (t : Token) (c : Char) : Bool := t.kind = .opening && t.text = [c]

/-- Whether a token is the given closing bracket. -/
def isClosing (t : Token) (c : Char) : Bool := t.kind = .closing && t.text = [c]

/-! ## Reserved words -/

/-- Words that name no binding. -/
def reservedWords : List Text :=
  ["await", "break", "case", "catch", "class", "const", "continue", "debugger", "default",
    "delete", "do", "else", "enum", "export", "extends", "false", "finally", "for", "function",
    "if", "implements", "import", "in", "instanceof", "interface", "let", "new", "null",
    "package", "private", "protected", "public", "return", "super", "switch", "this", "throw",
    "true", "try", "typeof", "var", "void", "while", "with", "yield"].map String.toList

/-- Reserved words that are operands or statements on their own. -/
def completeWords : List Text :=
  ["break", "continue", "debugger", "false", "null", "super", "this", "true"].map String.toList

/-- Words that name a binding behind the word `as` only. -/
def lenientWords : List Text :=
  ["enum", "implements", "interface", "let", "package", "private", "protected", "public", "static",
    "yield"].map String.toList

/-- Whether a token is a word that names no private member. -/
def isPublicWord (t : Token) : Bool := t.kind = .word && t.text.head? ≠ some '#'

/-- Whether a token is a word that can name a binding. -/
def isName (t : Token) : Bool :=
  t.isPublicWord && !reservedWords.contains t.text && !lenientWords.contains t.text

/-- Whether a token is a word that can name a binding behind the word `as`.  Where there are types
`this` is one of them. -/
def isNameBehindAs (types : Bool) (t : Token) : Bool :=
  t.isName || (t.isPublicWord && lenientWords.contains t.text) || (types && t.isWord "this")

end Token

end ImportGrid
