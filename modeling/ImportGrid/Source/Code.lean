/-
Code other than import declarations.

Between its imports a source text holds code that is passed over token by token.  It is not
parsed; a few conditions on neighbouring tokens keep out what cannot be code at all.
-/
import ImportGrid.Source.Lexer

namespace ImportGrid.Code

/-! ## Two operands side by side -/

/-- Words that may stand before another word in every dialect. -/
def leadingWords : List String :=
  ["accessor", "as", "async", "break", "continue", "from", "get", "of", "set", "static",
    "using"]

/-- Words that may stand before another word where there are types. -/
def leadingTypeWords : List String :=
  ["abstract", "asserts", "declare", "global", "infer", "is", "keyof", "module", "namespace", "out",
    "override", "readonly", "satisfies", "type", "unique"]

/-- Words that may stand behind an operand. -/
def joiningWords : List String := ["extends", "from", "in", "instanceof", "of"]

/-- Words that may stand behind an operand where there are types. -/
def joiningTypeWords : List String := ["as", "implements", "is", "satisfies"]

/-- A word or a literal. -/
def isAtom (t : Token) : Bool := t.kind = .word || t.kind = .string || t.kind = .number

/-- Whether a token is a word that may stand before another. -/
def leads (d : Dialect) (t : Token) : Bool :=
  t.kind = .word &&
    (Lexer.isOneOf leadingWords t.text || (d.types && Lexer.isOneOf leadingTypeWords t.text))

/-- Whether a token is a word that may stand behind an operand.  Without types most of them do
so only between braces. -/
def joins (d : Dialect) (t : Token) : Bool :=
  t.kind = .word &&
    (Lexer.isOneOf joiningWords t.text ||
      ((d.types || t.depth ≠ 0) && Lexer.isOneOf joiningTypeWords t.text))

/-- Whether two tokens are operands on one line with nothing between to join them. -/
def isUnjoined (d : Dialect) (last t : Token) : Bool :=
  isAtom last && last.follow = .operator && !leads d last && isAtom t && !t.startsLine &&
    !joins d t

/-- Whether a word or a literal stands behind a closed parenthesis on its line at the top level,
where nothing but a keyword or a joining word may. -/
def isTrailing (d : Dialect) (last t : Token) : Bool :=
  last.isClosing ')' && last.follow = .operator && t.depth = 0 && isAtom t && !t.startsLine &&
    !(t.kind = .word && Token.reservedWords.contains t.text) &&
    (t.isWord "from" || (!leads d t && !joins d t))

/-! ## Operators without operands -/

/-- Whether a token cannot begin an operand. -/
def endsOperand (t : Token) : Bool :=
  t.kind = .closing ||
    (t.kind = .operator &&
      Lexer.isOneOf [";", ",", ".", "?", ":", "=", "=>", "==", "!=", ">", ">=", "<=", "/", "/="] t.text)

/-- Whether an operator lacks its right operand. -/
def lacksOperand (last t : Token) : Bool :=
  (last.isOperator "=" || last.isOperator "/") && endsOperand t

/-- Whether two tokens are the beginning of a markup element, which the dialect does not have. -/
def isStrayMarkup (last t : Token) : Bool :=
  last.isOperator "<" && (t.isOperator ">" || (t.kind = .regex && t.gap = []))

/-- Whether a token may stand behind another. -/
def mayFollow (d : Dialect) (last t : Token) : Bool :=
  !isUnjoined d last t && !isTrailing d last t && !lacksOperand last t && !isStrayMarkup last t

/-- Whether a token may stand at the end of a text. -/
def mayEnd (t : Token) : Bool := !(t.kind = .operator && t.follow = .operand && !t.isOperator ">")

/-! ## Beginnings of statements -/

/-- Whether a token may stand behind a keyword that begins a statement. -/
def mayFollowKeyword (keyword t : Token) : Bool :=
  if Lexer.isOneOf ["const", "var"] keyword.text then
    t.kind = .word || t.isOpening '[' || t.isOpening '\x7b'
  else if keyword.isWord "class" then t.kind = .word
  else if keyword.isWord "function" then t.kind = .word || t.isOperator "*"
  else if Lexer.isOneOf ["if", "switch", "while", "with"] keyword.text then t.isOpening '('
  else if keyword.isWord "for" then t.isOpening '(' || t.isWord "await"
  else if keyword.isWord "try" then t.isOpening '\x7b'
  else true

/-- Keywords that need more behind them. -/
def openKeywords : List String :=
  ["class", "const", "for", "function", "if", "switch", "try", "var", "while", "with"]

/-- Whether these tokens begin a declaration that only a dialect with types has: of a type, or
of a variable with its type. -/
def beginsTyped (t : Token) (rest : List Token) : Bool :=
  Lexer.isOneOf ["enum", "interface"] t.text ||
    (Lexer.isOneOf ["const", "let", "var"] t.text && rest.tail.head?.any (·.isOperator ":"))

/-- Whether a word is followed by a brace on its line, which it may not be at the beginning of
a statement unless it is a keyword. -/
def isStrayBrace (t : Token) (rest : List Token) : Bool :=
  t.isName && !t.isWord "global" &&
    rest.head?.any fun n => n.isOpening '\x7b' && !n.startsLine

/-- Whether a statement may begin with a token and those behind it. -/
def mayBegin (d : Dialect) (t : Token) (rest : List Token) : Bool :=
  t.kind ≠ .word ||
    ((d.types || !beginsTyped t rest) && !isStrayBrace t rest &&
      match rest with
      | next :: _ => mayFollowKeyword t next
      | [] => !Lexer.isOneOf openKeywords t.text)

/-- Whether a text, or what is behind an import declaration, may begin with a token.  Here an
operator cannot continue an earlier line. -/
def mayOpen (t : Token) : Bool :=
  t.kind ≠ .operator || Lexer.isOneOf ["+", "-", "!", "~", "++", "--", ";", "<", "@"] t.text

/-- Words that need no operand behind them when the line ends there. -/
def lastWords : List String := ["const", "return", "void"]

/-- Whether a statement may end behind a token when the line ends there. -/
def mayEndLine (t : Token) : Bool :=
  t.follow = .operator || t.isOperator ">" || (t.kind = .word && Lexer.isOneOf lastWords t.text)

/-- Whether a statement may begin with a token, given the last token before it; there is none
at the beginning of a text and behind an import declaration. -/
def beginsStatement (last : Option Token) (t : Token) : Bool :=
  match last with
  | none => true
  | some l =>
    if l.kind = .string then t.startsLine && l.follow ≠ .operand
    else l.follow = .statement || (t.startsLine && mayEndLine l)

end ImportGrid.Code
