/-
TOML scalars: numbers, booleans, dates and strings.

A scalar that is not a string is the longest run of characters up to a delimiter; what it
denotes is decided from its whole text.  Strings have four forms, quoted once or three
times, with or without escapes.
-/
import ImportGrid.Toml.Value

namespace ImportGrid.Toml

/-! ## Numbers -/

/-- A run of digits, with single underscores between digits only. -/
def isDigits (digit : Char → Bool) : Text → Bool
  | [] => false
  | [c] => digit c
  | c :: '_' :: t => digit c && isDigits digit t
  | c :: t => digit c && isDigits digit t

/-- The number that digits denote, underscores skipped. -/
def digitsValue (base : Nat) (t : Text) : Nat :=
  (t.filter (· != '_')).foldl (fun n c =>
    base * n + (if c.isDigit then c.toNat - '0'.toNat else c.toLower.toNat - 'a'.toNat + 10)) 0

/-- A hexadecimal digit. -/
def isHexDigit (c : Char) : Bool := c.isDigit || ('a' ≤ c && c ≤ 'f') || ('A' ≤ c && c ≤ 'F')

/-- The text without a leading sign. -/
def dropSign : Text → Text
  | '+' :: t | '-' :: t => t
  | t => t

/-- A decimal number without needless leading zeros. -/
def isDecimal (t : Text) : Bool :=
  isDigits Char.isDigit t && (t.length == 1 || t.head? != some '0')

/-- Whether an integer fits 64 bits. -/
def fits64 (n : Int) : Bool := -9223372036854775808 ≤ n && n ≤ 9223372036854775807

/-- An integer, decimal or with a base. -/
def integer? (t : Text) : Option Int :=
  let n? : Option Int := match t with
    | '0' :: 'x' :: ds => if isDigits isHexDigit ds then some (digitsValue 16 ds : Int) else none
    | '0' :: 'o' :: ds =>
      if isDigits (fun c => '0' ≤ c && c ≤ '7') ds then some (digitsValue 8 ds : Int) else none
    | '0' :: 'b' :: ds =>
      if isDigits (fun c => c == '0' || c == '1') ds then some (digitsValue 2 ds : Int) else none
    | '-' :: ds => if isDecimal ds then some (-(digitsValue 10 ds : Int)) else none
    | _ => if isDecimal (dropSign t) then some (digitsValue 10 (dropSign t) : Int) else none
  n?.filter fits64

/-- An exponent: digits with an optional sign. -/
def isExponent (t : Text) : Bool := isDigits Char.isDigit (dropSign t)

/-- A float: a decimal with a fraction, an exponent or both, or an infinity or NaN. -/
def isFloat (t : Text) : Bool :=
  let t := dropSign t
  if t == "inf".toList || t == "nan".toList then true
  else
    let whole := t.takeWhile fun c => c.isDigit || c == '_'
    isDecimal whole &&
      match t.drop whole.length with
      | '.' :: r =>
        let fraction := r.takeWhile fun c => c.isDigit || c == '_'
        isDigits Char.isDigit fraction &&
          match r.drop fraction.length with
          | [] => true
          | e :: x => (e == 'e' || e == 'E') && isExponent x
      | e :: x => (e == 'e' || e == 'E') && isExponent x
      | [] => false

/-! ## Dates -/

/-- Two digits as a number within bounds. -/
def twoDigits? (least most : Nat) (a b : Char) : Option Nat :=
  if a.isDigit && b.isDigit then
    let n := digitsValue 10 [a, b]
    if least ≤ n ∧ n ≤ most then some n else none
  else none

/-- The number of days of a month. -/
def daysInMonth (year month : Nat) : Nat :=
  if month = 2 then
    if year % 4 = 0 ∧ (year % 100 ≠ 0 ∨ year % 400 = 0) then 29 else 28
  else if month = 4 ∨ month = 6 ∨ month = 9 ∨ month = 11 then 30
  else 31

/-- The text after a date `YYYY-MM-DD`. -/
def afterDate? : Text → Option Text
  | y₁ :: y₂ :: y₃ :: y₄ :: '-' :: m₁ :: m₂ :: '-' :: d₁ :: d₂ :: t => do
    guard ([y₁, y₂, y₃, y₄].all Char.isDigit)
    let month ← twoDigits? 1 12 m₁ m₂
    let _ ← twoDigits? 1 (daysInMonth (digitsValue 10 [y₁, y₂, y₃, y₄]) month) d₁ d₂
    return t
  | _ => none

/-- The text after a time `HH:MM:SS`, with an optional fraction of a second. -/
def afterTime? : Text → Option Text
  | h₁ :: h₂ :: ':' :: m₁ :: m₂ :: ':' :: s₁ :: s₂ :: t => do
    let _ ← twoDigits? 0 23 h₁ h₂
    let _ ← twoDigits? 0 59 m₁ m₂
    let _ ← twoDigits? 0 60 s₁ s₂
    match t with
    | '.' :: r => if (r.takeWhile Char.isDigit).isEmpty then none else some (r.dropWhile Char.isDigit)
    | _ => some t
  | _ => none

/-- A zone: `Z`, or hours and minutes with a sign. -/
def isZone : Text → Bool
  | ['Z'] | ['z'] => true
  | [sign, h₁, h₂, ':', m₁, m₂] =>
    (sign == '+' || sign == '-') && (twoDigits? 0 23 h₁ h₂).isSome && (twoDigits? 0 59 m₁ m₂).isSome
  | _ => false

/-- A date, a time, or both with an optional zone. -/
def isDateTime (t : Text) : Bool :=
  match afterDate? t with
  | some [] => true
  | some (sep :: r) =>
    (sep == 'T' || sep == 't' || sep == ' ') &&
      match afterTime? r with
      | some [] => true
      | some zone => isZone zone
      | none => false
  | none => afterTime? t == some []

/-! ## Scalars -/

/-- The value that a run of characters denotes. -/
def scalar? (t : Text) : Option Value :=
  if t = "true".toList then some (.boolean true)
  else if t = "false".toList then some (.boolean false)
  else if isDateTime t then some (.dateTime t)
  else if isFloat t then some (.float t)
  else (integer? t).map .integer

/-- Characters that end a scalar. -/
def isDelimiter (c : Char) : Bool :=
  c == ' ' || c == '\t' || c == '\n' || c == '\r' || c == ',' || c == ']' || c == '\x7d' || c == '#'

/-- A scalar and the text after it.  A date and a time may have a blank between them. -/
def readScalar? (t : Text) : Option (Value × Text) :=
  let word := t.takeWhile (!isDelimiter ·)
  let rest := t.drop word.length
  match afterDate? word, rest with
  | some [], ' ' :: r =>
    let time := r.takeWhile (!isDelimiter ·)
    if (time.head?.any Char.isDigit) then
      (scalar? (word ++ ' ' :: time)).map (·, r.drop time.length)
    else (scalar? word).map (·, rest)
  | _, _ => (scalar? word).map (·, rest)

/-! ## Strings -/

/-- Characters that may stand in a text: no control characters other than the tab. -/
def isPlain (c : Char) : Bool := c == '\t' || (0x20 ≤ c.toNat && c.toNat != 0x7F)

/-- The character that hexadecimal digits denote. -/
def unicodeEscape? (digits : Text) : Option Char :=
  if digits.all isHexDigit then
    let n := digitsValue 16 digits
    if n.isValidChar then some (Char.ofNat n) else none
  else none

/-- The character that a one-letter escape denotes. -/
def letterEscape? : Char → Option Char
  | 'b' => some '\x08'
  | 't' => some '\t'
  | 'n' => some '\n'
  | 'f' => some '\x0c'
  | 'r' => some '\r'
  | '"' => some '"'
  | '\\' => some '\\'
  | _ => none

/-- Puts a character in front of what was read. -/
def consRead (c : Char) (p : Text × Text) : Text × Text := (c :: p.1, p.2)

/-- The rest of a string in double quotes. -/
def readBasic? : Text → Option (Text × Text)
  | [] => none
  | '"' :: r => some ([], r)
  | '\\' :: 'u' :: a :: b :: c :: d :: r =>
    (unicodeEscape? [a, b, c, d]).bind fun x => (readBasic? r).map (consRead x)
  | '\\' :: 'U' :: a :: b :: c :: d :: e :: f :: g :: h :: r =>
    (unicodeEscape? [a, b, c, d, e, f, g, h]).bind fun x => (readBasic? r).map (consRead x)
  | '\\' :: e :: r => (letterEscape? e).bind fun x => (readBasic? r).map (consRead x)
  | c :: r => if isPlain c && c != '\\' then (readBasic? r).map (consRead c) else none

/-- The rest of a string in single quotes. -/
def readLiteral? : Text → Option (Text × Text)
  | [] => none
  | '\'' :: r => some ([], r)
  | c :: r => if isPlain c then (readLiteral? r).map (consRead c) else none

/-- What closing quotes beyond the third add to a string, and the text after them. -/
def closeTriple (quote : Char) : Text → Text × Text
  | a :: b :: r =>
    if a = quote ∧ b = quote then ([a, b], r)
    else if a = quote then ([a], b :: r)
    else ([], a :: b :: r)
  | [a] => if a = quote then ([a], []) else ([], [a])
  | [] => ([], [])

/-- Where a multi-line string in double quotes is being read. -/
inductive Trim where
  /-- Ordinary text. -/
  | off
  /-- Behind a backslash: blanks up to the end of the line are skipped. -/
  | line
  /-- Behind such a line end: all white space is skipped. -/
  | all

/-- The rest of a multi-line string in double quotes.  A backslash at the end of a line
skips all white space up to the next text. -/
def readMultiBasic? : Trim → Text → Option (Text × Text)
  | _, [] => none
  | .line, c :: r =>
    if c = ' ' ∨ c = '\t' then readMultiBasic? .line r
    else if c = '\n' then readMultiBasic? .all r
    else if c = '\r' then
      match r with
      | '\n' :: r' => readMultiBasic? .all r'
      | _ => none
    else none
  | _, '"' :: '"' :: '"' :: r => some (closeTriple '"' r)
  | _, '\\' :: 'u' :: a :: b :: c :: d :: r =>
    (unicodeEscape? [a, b, c, d]).bind fun x => (readMultiBasic? .off r).map (consRead x)
  | _, '\\' :: 'U' :: a :: b :: c :: d :: e :: f :: g :: h :: r =>
    (unicodeEscape? [a, b, c, d, e, f, g, h]).bind fun x =>
      (readMultiBasic? .off r).map (consRead x)
  | _, '\\' :: e :: r =>
    if e = ' ' ∨ e = '\t' then readMultiBasic? .line r
    else if e = '\n' then readMultiBasic? .all r
    else if e = '\r' then
      match r with
      | '\n' :: r' => readMultiBasic? .all r'
      | _ => none
    else (letterEscape? e).bind fun x => (readMultiBasic? .off r).map (consRead x)
  | trim, '\r' :: '\n' :: r =>
    match trim with
    | .all => readMultiBasic? .all r
    | _ => (readMultiBasic? .off r).map (consRead '\n')
  | trim, c :: r =>
    match trim with
    | .all =>
      if c = ' ' ∨ c = '\t' ∨ c = '\n' then readMultiBasic? .all r
      else if isPlain c && c != '\\' then (readMultiBasic? .off r).map (consRead c)
      else none
    | _ =>
      if (isPlain c && c != '\\') || c == '\n' then (readMultiBasic? .off r).map (consRead c)
      else none

/-- The rest of a multi-line string in single quotes. -/
def readMultiLiteral? : Text → Option (Text × Text)
  | [] => none
  | '\'' :: '\'' :: '\'' :: r => some (closeTriple '\'' r)
  | '\r' :: '\n' :: r => (readMultiLiteral? r).map (consRead '\n')
  | c :: r =>
    if isPlain c || c == '\n' then (readMultiLiteral? r).map (consRead c) else none

/-- The text without a line end right at its beginning. -/
def dropLineEnd : Text → Text
  | '\n' :: t => t
  | '\r' :: '\n' :: t => t
  | t => t

/-- A string in any of its four forms. -/
def readString? : Text → Option (Text × Text)
  | '"' :: '"' :: '"' :: r => readMultiBasic? .off (dropLineEnd r)
  | '\'' :: '\'' :: '\'' :: r => readMultiLiteral? (dropLineEnd r)
  | '"' :: r => readBasic? r
  | '\'' :: r => readLiteral? r
  | _ => none

end ImportGrid.Toml
