/-
Markup elements.

An element is read as pieces of text between holes `{ … }` that hold code.  `Markup` is what
must be remembered from one piece to the next: the elements that are open, and where
inside them the reader stands.  Every closing tag must name the innermost open element.
-/
import ImportGrid.Source.Token

namespace ImportGrid

/-- Where a reader of markup stands. -/
inductive Markup.Place where
  /-- Behind the `<` of a tag. -/
  | tag
  /-- In the name of an opening tag; the characters so far, last first. -/
  | name (reversed : Text)
  /-- Between the attributes of an opening tag. -/
  | attributes
  /-- Behind the `=` of an attribute. -/
  | value
  /-- In a quoted attribute value. -/
  | quoted (quote : Char)
  /-- Behind the slash of a tag without content. -/
  | selfClosing
  /-- In the content of an element. -/
  | content
  /-- In the name of a closing tag; the characters so far, last first. -/
  | closing (reversed : Text)
deriving Repr, DecidableEq

/-- The state of a reader of markup. -/
structure Markup where
  /-- The names of the open elements, innermost first. -/
  names : List Text
  place : Markup.Place
deriving Repr, DecidableEq

namespace Markup

/-- A character of a tag name. -/
def isNamePart (c : Char) : Bool :=
  Text.isIdentifierPart c || c == '-' || c == '.' || c == ':'

/-- What a character does to a reader of markup. -/
inductive Step where
  /-- The element goes on. -/
  | more (m : Markup)
  /-- A hole begins, behind which the element goes on. -/
  | hole (m : Markup)
  /-- The outermost element ends. -/
  | finished
  /-- The element is malformed. -/
  | fault
deriving Repr, DecidableEq

/-- An element ended, and these are still open. -/
def afterElement : List Text → Step
  | [] => .finished
  | names => .more ⟨names, .content⟩

/-- What follows the name of an opening tag. -/
def afterName (names : List Text) (c : Char) : Step :=
  if c = '>' then .more ⟨names, .content⟩
  else if c = '/' then .more ⟨names, .selfClosing⟩
  else if c = '\x7b' then .hole ⟨names, .attributes⟩
  else if isBlank c then .more ⟨names, .attributes⟩
  else .fault

/-- What follows the name of a closing tag. -/
def afterClosingName (names : List Text) (reversed : Text) (c : Char) : Step :=
  if isBlank c then .more ⟨names, .closing reversed⟩
  else if c = '>' then
    match names with
    | name :: rest => if name = reversed.reverse then afterElement rest else .fault
    | [] => .fault
  else .fault

/-- Reads one character. -/
def step (m : Markup) (c : Char) : Step :=
  match m.place with
  | .tag =>
    if isBlank c then .more m
    else if c = '/' then .more ⟨m.names, .closing []⟩
    else if c = '>' then .more ⟨[] :: m.names, .content⟩
    else if Text.isIdentifierStart c then .more ⟨m.names, .name [c]⟩
    else .fault
  | .name reversed =>
    if isNamePart c then .more ⟨m.names, .name (c :: reversed)⟩
    else afterName (reversed.reverse :: m.names) c
  | .attributes =>
    if c = '=' then .more ⟨m.names, .value⟩
    else if isNamePart c then .more m
    else afterName m.names c
  | .value =>
    if isBlank c then .more m
    else if c = '"' ∨ c = '\'' then .more ⟨m.names, .quoted c⟩
    else if c = '\x7b' then .hole ⟨m.names, .attributes⟩
    else .fault
  | .quoted quote => if c = quote then .more ⟨m.names, .attributes⟩ else .more m
  | .selfClosing =>
    if isBlank c then .more m
    else if c = '>' then afterElement m.names.tail
    else .fault
  | .content =>
    if c = '<' then .more ⟨m.names, .tag⟩
    else if c = '\x7b' then .hole m
    else .more m
  | .closing reversed =>
    if isNamePart c then .more ⟨m.names, .closing (c :: reversed)⟩
    else afterClosingName m.names reversed c

/-- The length of a piece of markup and, if it ends in a hole, what to go on with behind the
hole; nothing if the element is malformed or not finished. -/
def piece? (m : Markup) : Text → Option (Nat × Option Markup)
  | [] => none
  | c :: t =>
    match m.step c with
    | .more next => (piece? next t).map fun p => (p.1 + 1, p.2)
    | .hole next => some (1, some next)
    | .finished => some (1, none)
    | .fault => none

/-- The state behind the `<` of an outermost element. -/
def start : Markup := ⟨[], .tag⟩

end Markup

end ImportGrid
