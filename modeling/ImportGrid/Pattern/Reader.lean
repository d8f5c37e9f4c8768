/-
Reading regular expressions.

The reader is a recursive descent over the characters of the expression, with a bound on
its depth that the length of the text supplies.  It answers with nothing when the text is
no expression: an unclosed group or class, a repetition of nothing, a reversed range or
count, an unknown escape, look-around or a back-reference, or an expression that is too
large once its counted repetitions are written out.
-/
import ImportGrid.Pattern.Regex

namespace ImportGrid.Pattern

/-- The modes that flags such as `(?i)` switch. -/
structure Flags where
  /-- `i`: letters match in either case. -/
  caseless : Bool
  /-- `m`: `^` and `$` hold at every line. -/
  multiLine : Bool
  /-- `s`: `.` also matches a line feed. -/
  dotAll : Bool
  /-- `x`: white space and comments in the expression are skipped. -/
  verbose : Bool
deriving Repr, DecidableEq

/-- All modes off. -/
def Flags.default : Flags := ⟨false, false, false, false⟩

/-! ## Small pieces -/

/-- Largest number that a repetition count may be. -/
def maxCount : Nat := 4294967295

/-- Largest weight of an expression. -/
def maxWeight : Nat := 327680

/-- Deepest nesting of groups and classes. -/
def maxDepth : Nat := 250

/-- Characters that stand for themselves when escaped: the operators, and all ASCII
characters other than letters, digits and angle brackets. -/
def isEscapable (c : Char) : Bool :=
  c.toNat < 128 && !c.isAlphanum && c != '<' && c != '>'

/-- The character that a one-letter escape denotes. -/
def controlEscape? : Char → Option Char
  | 'a' => some '\x07'
  | 'f' => some '\x0c'
  | 't' => some '\t'
  | 'n' => some '\n'
  | 'r' => some '\r'
  | 'v' => some '\x0b'
  | _ => none

/-- The class that a one-letter escape denotes. -/
def classEscape? : Char → Option CharSet
  | 'd' => some .digit
  | 'w' => some .word
  | 's' => some .space
  | 'D' => some (.complement .digit)
  | 'W' => some (.complement .word)
  | 'S' => some (.complement .space)
  | _ => none

/-- The place that a one-letter escape denotes. -/
def anchorEscape? : Char → Option Anchor
  | 'A' => some .textStart
  | 'z' => some .textEnd
  | 'b' => some .wordBoundary
  | 'B' => some .notWordBoundary
  | '<' => some .wordStart
  | '>' => some .wordEnd
  | _ => none

/-- The value of a hexadecimal digit. -/
def hexDigit? (c : Char) : Option Nat :=
  if c.isDigit then some (c.toNat - '0'.toNat)
  else if 'a' ≤ c ∧ c ≤ 'f' then some (c.toNat - 'a'.toNat + 10)
  else if 'A' ≤ c ∧ c ≤ 'F' then some (c.toNat - 'A'.toNat + 10)
  else none

/-- The number that hexadecimal digits denote. -/
def hexNumber? (digits : Text) : Option Nat :=
  digits.foldlM (fun n c => (hexDigit? c).map (16 * n + ·)) 0

/-- The character with a code point, if there is one. -/
def charOf? (n : Nat) : Option Char := if n.isValidChar then some (Char.ofNat n) else none

/-- A hexadecimal escape after its letter: that many digits, or any number in braces. -/
def hexEscape? (width : Nat) : Text → Option (Char × Text)
  | '\x7b' :: t =>
    let digits := t.takeWhile (· != '\x7d')
    match t.drop digits.length with
    | _ :: rest =>
      if digits.isEmpty then none
      else ((hexNumber? digits).bind charOf?).map (·, rest)
    | [] => none
  | t =>
    if t.length < width then none
    else ((hexNumber? (t.take width)).bind charOf?).map (·, t.drop width)

/-- An escape that denotes one character, after the backslash. -/
def literalEscape? : Text → Option (Char × Text)
  | 'x' :: t => hexEscape? 2 t
  | 'u' :: t => hexEscape? 4 t
  | 'U' :: t => hexEscape? 8 t
  | c :: t =>
    if isEscapable c then some (c, t) else (controlEscape? c).map (·, t)
  | [] => none

/-- In verbose mode, the text after white space and `#` comments. -/
def skipVerbose (flags : Flags) (t : Text) : Text :=
  if flags.verbose then go false t else t
where
  go : Bool → Text → Text
    | _, [] => []
    | true, c :: t => go (c != '\n') t
    | false, c :: t =>
      if Text.isWhiteSpace c then go false t
      else if c = '#' then go true t
      else c :: t

/-- The set of one character under the flags. -/
def literalSet (flags : Flags) (c : Char) : CharSet :=
  if flags.caseless then .caseless (.single c) else .single c

/-! ## Bracketed classes -/

/-- The classes that are named between `[:` and `:]`. -/
def namedClass? (name : Text) : Option CharSet :=
  let ofRanges (ranges : List (Char × Char)) : Option CharSet :=
    some (ranges.foldr (fun r s => .union (.range r.1 r.2) s) .none)
  match String.ofList name with
  | "alnum" => ofRanges [('0', '9'), ('A', 'Z'), ('a', 'z')]
  | "alpha" => ofRanges [('A', 'Z'), ('a', 'z')]
  | "ascii" => ofRanges [('\x00', '\x7f')]
  | "blank" => ofRanges [('\t', '\t'), (' ', ' ')]
  | "cntrl" => ofRanges [('\x00', '\x1f'), ('\x7f', '\x7f')]
  | "digit" => ofRanges [('0', '9')]
  | "graph" => ofRanges [('!', '~')]
  | "lower" => ofRanges [('a', 'z')]
  | "print" => ofRanges [(' ', '~')]
  | "punct" => ofRanges [('!', '/'), (':', '@'), ('[', '\x60'), ('\x7b', '~')]
  | "space" => ofRanges [('\t', '\r'), (' ', ' ')]
  | "upper" => ofRanges [('A', 'Z')]
  | "word" => ofRanges [('0', '9'), ('A', 'Z'), ('_', '_'), ('a', 'z')]
  | "xdigit" => ofRanges [('0', '9'), ('A', 'F'), ('a', 'f')]
  | _ => none

/-- A named class such as `[:alpha:]`, after its opening bracket; not one if the name is
unknown or the end is missing. -/
def readNamedClass? (t : Text) : Option (CharSet × Text) :=
  match t with
  | ':' :: r =>
    let (negated, r) := match r with
      | '^' :: r' => (true, r')
      | _ => (false, r)
    let name := r.takeWhile (· != ':')
    match r.drop name.length with
    | ':' :: ']' :: rest =>
      (namedClass? name).map fun s => (if negated then .complement s else s, rest)
    | _ => none
  | _ => none

/-- An operator between two classes. -/
inductive SetOperator where
  | inter
  | diff
  | symmDiff

/-- The set that an operator makes of two. -/
def SetOperator.apply : SetOperator → CharSet → CharSet → CharSet
  | inter, s, t => .inter s t
  | diff, s, t => .diff s t
  | symmDiff, s, t => .symmDiff s t

/-- An element of a class that can begin or end a range, or a whole set. -/
def readClassElement? (t : Text) : Option ((Char ⊕ CharSet) × Text) :=
  match t with
  | '\\' :: c :: r =>
    match classEscape? c with
    | some s => some (.inr s, r)
    | none => (literalEscape? (c :: r)).map fun p => (.inl p.1, p.2)
  | '\\' :: [] => none
  | c :: r => some (.inl c, r)
  | [] => none

/-- The set of a class so far, closed under case if the flags say so. -/
def closeCase (flags : Flags) (s : CharSet) : CharSet :=
  if flags.caseless then .caseless s else s

mutual

/-- A class after its opening bracket: an optional `^`, then items up to the bracket that
closes it.  A closing bracket and hyphens right at the beginning are literal. -/
def readClass? (flags : Flags) : Nat → Text → Option (CharSet × Text)
  | 0, _ => none
  | fuel + 1, t =>
    let t := skipVerbose flags t
    let (negated, t) := match t with
      | '^' :: r => (true, skipVerbose flags r)
      | _ => (false, t)
    let hyphens := t.takeWhile (· == '-')
    let t := skipVerbose flags (t.drop hyphens.length)
    let start : CharSet := if hyphens.isEmpty then .none else .single '-'
    let (start, t) := match hyphens, t with
      | [], ']' :: r => (.single ']', r)
      | _, _ => (start, t)
    match readItems? flags fuel none start t with
    | some (s, rest) => some (if negated then .complement s else s, rest)
    | none => none

/-- The items of a class.  `pending` is the left side of a set operator, `s` what has been
read of the current side. -/
def readItems? (flags : Flags) :
    Nat → Option (CharSet × SetOperator) → CharSet → Text → Option (CharSet × Text)
  | 0, _, _, _ => none
  | fuel + 1, pending, s, t =>
    let side : CharSet := match pending with
      | some (l, op) => op.apply (closeCase flags l) (closeCase flags s)
      | none => s
    match skipVerbose flags t with
    | [] => none
    | ']' :: r => some (closeCase flags side, r)
    | '&' :: '&' :: r => readItems? flags fuel (some (side, .inter)) .none r
    | '-' :: '-' :: r => readItems? flags fuel (some (side, .diff)) .none r
    | '~' :: '~' :: r => readItems? flags fuel (some (side, .symmDiff)) .none r
    | '[' :: r =>
      match readNamedClass? r with
      | some (named, rest) => readItems? flags fuel pending (.union s named) rest
      | none =>
        match readClass? flags fuel r with
        | some (inner, rest) => readItems? flags fuel pending (.union s inner) rest
        | none => none
    | t' =>
      match readClassElement? t' with
      | none => none
      | some (.inr set, rest) =>
        match skipVerbose flags rest with
        | '-' :: r =>
          match skipVerbose flags r with
          | ']' :: _ => readItems? flags fuel pending (.union s set) ('-' :: r)
          | '-' :: _ => readItems? flags fuel pending (.union s set) ('-' :: r)
          | _ => none
        | _ => readItems? flags fuel pending (.union s set) rest
      | some (.inl first, rest) =>
        match skipVerbose flags rest with
        | '-' :: r =>
          match skipVerbose flags r with
          | ']' :: _ => readItems? flags fuel pending (.union s (.single first)) ('-' :: r)
          | '-' :: _ => readItems? flags fuel pending (.union s (.single first)) ('-' :: r)
          | r' =>
            match readClassElement? r' with
            | some (.inl last, rest') =>
              if first ≤ last then
                readItems? flags fuel pending (.union s (.range first last)) rest'
              else none
            | _ => none
        | _ => readItems? flags fuel pending (.union s (.single first)) rest

end

/-! ## Repetition counts -/

/-- The text after white space. -/
def skipSpace (t : Text) : Text := t.dropWhile Text.isWhiteSpace

/-- A decimal number between optional white space. -/
def readCount? (t : Text) : Option (Nat × Text) :=
  let t := skipSpace t
  let digits := t.takeWhile Char.isDigit
  let n := digits.foldl (fun n c => 10 * n + (c.toNat - '0'.toNat)) 0
  if digits.isEmpty || n > maxCount then none
  else some (n, skipSpace (t.drop digits.length))

/-- The counts of `{n}`, `{n,}` or `{n,m}`, after the opening brace. -/
def readCounts? (t : Text) : Option ((Nat × Option Nat) × Text) :=
  match readCount? t with
  | some (n, '\x7d' :: r) => some ((n, some n), r)
  | some (n, ',' :: r) =>
    match skipSpace r with
    | '\x7d' :: r' => some ((n, none), r')
    | r' =>
      match readCount? r' with
      | some (m, '\x7d' :: r'') => if n ≤ m then some ((n, some m), r'') else none
      | _ => none
  | _ => none

/-- The text after an optional `?`, which makes a repetition lazy. -/
def dropLazy : Text → Text
  | '?' :: t => t
  | t => t

/-! ## Flags and groups -/

/-- The letters of a flag group up to `)` or `:`, applied to the flags.  A letter may not be
repeated, and a minus sign must be followed by a letter. -/
def readFlags? : Text → Flags → (negated : Bool) → (seen : List Char) → (dangling : Bool) →
    Option (Flags × Char × Text)
  | [], _, _, _, _ => none
  | c :: t, flags, negated, seen, dangling =>
    if c = ')' ∨ c = ':' then
      if dangling ∨ (seen.isEmpty ∧ c = ')') then none else some (flags, c, t)
    else if seen.contains c then none
    else
      let on := !negated
      let next (f : Flags) := readFlags? t f negated (c :: seen) false
      match c with
      | '-' => readFlags? t flags true (c :: seen) true
      | 'i' => next { flags with caseless := on }
      | 'm' => next { flags with multiLine := on }
      | 's' => next { flags with dotAll := on }
      | 'x' => next { flags with verbose := on }
      | 'U' | 'R' | 'u' => next flags
      | _ => none

/-- Whether a group may have a name: a letter or `_`, then letters, digits, `_`, `.` and
brackets. -/
def isGroupName : Text → Bool
  | [] => false
  | c :: t =>
    (c == '_' || Text.isAlphabetic c) &&
      t.all fun x => x == '_' || x == '.' || x == '[' || x == ']' ||
        Text.isAlphabetic x || Text.isDecimalDigit x

/-- What an opening parenthesis begins. -/
inductive GroupStart where
  /-- A group that matches under the given flags. -/
  | group (flags : Flags)
  /-- Flags for the rest of the enclosing group. -/
  | flags (flags : Flags)

/-- A named group after the `<`: the name up to the `>`. -/
def readGroupName? (names : List Text) (t : Text) : Option (Text × Text) :=
  let name := t.takeWhile (· != '>')
  match t.drop name.length with
  | _ :: rest => if isGroupName name && !names.contains name then some (name, rest) else none
  | [] => none

/-- The beginning of a group, after its parenthesis.  `names` are the group names used so
far. -/
def readGroupStart? (flags : Flags) (names : List Text) (t : Text) :
    Option (GroupStart × List Text × Text) :=
  match t with
  | '?' :: '=' :: _ | '?' :: '!' :: _ | '?' :: '<' :: '=' :: _ | '?' :: '<' :: '!' :: _ => none
  | '?' :: 'P' :: '<' :: r | '?' :: '<' :: r =>
    (readGroupName? names r).map fun p => (.group flags, p.1 :: names, p.2)
  | '?' :: r =>
    match readFlags? r flags false [] false with
    | some (f, ':', rest) => some (.group f, names, rest)
    | some (f, _, rest) => some (.flags f, names, rest)
    | none => none
  | _ => some (.group flags, names, t)

/-! ## Expressions -/

/-- The state between two items of an expression. -/
structure ReadState where
  /-- The flags in force. -/
  flags : Flags
  /-- The group names used so far. -/
  names : List Text
  /-- The alternatives that are complete. -/
  alternatives : Option Regex
  /-- The items of the current alternative, but the last. -/
  done : Regex
  /-- The last item, to which a repetition would apply. -/
  last : Option Regex

/-- The state at the beginning of a group. -/
def ReadState.start (flags : Flags) (names : List Text) : ReadState :=
  ⟨flags, names, none, .empty, none⟩

/-- The current alternative as an expression. -/
def ReadState.current (s : ReadState) : Regex :=
  match s.last with
  | some r => .seq s.done r
  | none => s.done

/-- The state after one more item. -/
def ReadState.push (s : ReadState) (r : Regex) : ReadState :=
  { s with done := s.current, last := some r }

/-- All alternatives, the current one included. -/
def ReadState.result (s : ReadState) : Regex :=
  match s.alternatives with
  | some a => .alt a s.current
  | none => s.current

/-- The state after a `|`. -/
def ReadState.close (s : ReadState) : ReadState :=
  { s with alternatives := some s.result, done := .empty, last := none }

/-- The state with a repetition applied to its last item; none if there is nothing to
repeat. -/
def ReadState.repeatLast? (s : ReadState) (least : Nat) (most : Option Nat) : Option ReadState :=
  s.last.map fun r => { s with last := some (.repeated r least most) }

/-- An escape outside a class, after the backslash. -/
def readEscape? (flags : Flags) (t : Text) : Option (Regex × Text) :=
  match t with
  | [] => none
  | c :: r =>
    match classEscape? c, anchorEscape? c with
    | some s, _ => some (.char s, r)
    | none, some a => some (.anchor a, r)
    | none, none => (literalEscape? (c :: r)).map fun p => (.char (literalSet flags p.1), p.2)

/-- The items of an expression up to the end of the text, or up to the parenthesis that
closes the group when `depth` is positive.  Each step reads one item; a group is read by
the same function with the remaining bound. -/
def readExpression? : Nat → (depth : Nat) → ReadState → Text → Option (Regex × List Text × Text)
  | 0, _, _, _ => none
  | fuel + 1, depth, s, t =>
    match skipVerbose s.flags t with
    | [] => if depth = 0 then some (s.result, s.names, []) else none
    | ')' :: r => if depth = 0 then none else some (s.result, s.names, r)
    | '|' :: r => readExpression? fuel depth s.close r
    | '(' :: r =>
      if maxDepth ≤ depth then none
      else
        match readGroupStart? s.flags s.names r with
        | none => none
        | some (.flags f, names, rest) =>
          readExpression? fuel depth
            { s with flags := f, names := names, done := s.current, last := none } rest
        | some (.group f, names, rest) =>
          match readExpression? fuel (depth + 1) (.start f names) rest with
          | none => none
          | some (inner, names', rest') =>
            readExpression? fuel depth { s.push inner with names := names' } rest'
    | '*' :: r => (s.repeatLast? 0 none).bind fun s' =>
      readExpression? fuel depth s' (dropLazy r)
    | '+' :: r => (s.repeatLast? 1 none).bind fun s' =>
      readExpression? fuel depth s' (dropLazy r)
    | '?' :: r => (s.repeatLast? 0 (some 1)).bind fun s' =>
      readExpression? fuel depth s' (dropLazy r)
    | '\x7b' :: r =>
      match readCounts? r with
      | some ((least, most), rest) =>
        (s.repeatLast? least most).bind fun s' =>
          readExpression? fuel depth s' (dropLazy rest)
      | none => none
    | '[' :: r =>
      match readClass? s.flags (r.length + 1) r with
      | some (set, rest) => readExpression? fuel depth (s.push (.char set)) rest
      | none => none
    | '.' :: r =>
      let set : CharSet := if s.flags.dotAll then .complement .none else .complement (.single '\n')
      readExpression? fuel depth (s.push (.char set)) r
    | '^' :: r =>
      readExpression? fuel depth
        (s.push (.anchor (if s.flags.multiLine then .lineStart else .textStart))) r
    | '$' :: r =>
      readExpression? fuel depth
        (s.push (.anchor (if s.flags.multiLine then .lineEnd else .textEnd))) r
    | '\\' :: r =>
      match readEscape? s.flags r with
      | some (item, rest) => readExpression? fuel depth (s.push item) rest
      | none => none
    | c :: r => readExpression? fuel depth (s.push (.char (literalSet s.flags c))) r

/-- The regular expression that a text denotes, if it denotes one of bearable size. -/
def readRegex? (t : Text) : Option Regex :=
  match readExpression? (t.length + 1) 0 (.start .default []) t with
  | some (r, _, _) => if r.weight ≤ maxWeight then some r else none
  | none => none

end ImportGrid.Pattern
