/-
Import declarations on one line.

A declaration with at most one binding can be written on one line: the word `import`, perhaps the word
`type`, the binding and the word `from`, with any number of blanks between them, and then the module
path and perhaps attributes (`ImportLine`).  The words `type`, `as` and `from` can be names, too.  All
the same there is one way only to read what stands before the path (`ImportHead.eq_of_text_append`), and
so the whole line (`ImportLine.isUnambiguous`).
-/
import ImportGrid.Declaration
import ImportGrid.Proofs.ImportWords

namespace ImportGrid

/-! ## Bindings -/

/-- A binding as a clause of its own. -/
inductive Binding where
  /-- `a` -/
  | defaultImport (name : Text)
  /-- `* as a` -/
  | namespaceImport (name : Text)
  /-- `{ a }` -/
  | named (name : Text)
  /-- `{ x as a }`, where the exported name may be a string. -/
  | renamed (imported name : Text)
deriving Repr, DecidableEq

namespace Binding

/-- The text of a binding. -/
def text : Binding → Text
  | defaultImport name => name
  | namespaceImport name => "* as ".toList ++ name
  | named name => "\x7b ".toList ++ (name ++ " \x7d".toList)
  | renamed imported name => "\x7b ".toList ++ (imported ++ (" as ".toList ++ (name ++ " \x7d".toList)))

@[simp] lemma text_defaultImport (name : Text) : (defaultImport name).text = name := rfl

@[simp] lemma text_namespaceImport (name : Text) :
    (namespaceImport name).text = "* as ".toList ++ name := rfl

@[simp] lemma text_named (name : Text) :
    (named name).text = "\x7b ".toList ++ (name ++ " \x7d".toList) := rfl

@[simp] lemma text_renamed (imported name : Text) : (renamed imported name).text =
    "\x7b ".toList ++ (imported ++ (" as ".toList ++ (name ++ " \x7d".toList))) := rfl

/-- What a binding binds. -/
def specifier : Binding → Specifier
  | defaultImport name => ⟨.defaultImport, name, false⟩
  | namespaceImport name => ⟨.namespaceImport, name, false⟩
  | named name => ⟨.namedImport none, name, false⟩
  | renamed imported name => ⟨.namedImport (some imported), name, false⟩

/-- The names in a binding are words, or a string in place of an exported name. -/
def IsWellFormed : Binding → Prop
  | defaultImport name => IsWord name
  | namespaceImport name => IsWord name
  | named name => IsWord name
  | renamed imported name => (IsWord imported ∨ IsStringLiteral imported) ∧ IsWord name

instance : DecidablePred IsWellFormed
  | defaultImport _ => inferInstanceAs (Decidable (IsWord _))
  | namespaceImport _ => inferInstanceAs (Decidable (IsWord _))
  | named _ => inferInstanceAs (Decidable (IsWord _))
  | renamed _ _ => inferInstanceAs (Decidable (_ ∧ _))

end Binding

/-- A specifier as a clause of its own.  An exported name that the binding has anyway is left out. -/
def Specifier.binding (b : Specifier) : Binding :=
  match b.kind with
  | .defaultImport => .defaultImport b.name
  | .namespaceImport => .namespaceImport b.name
  | .namedImport none => .named b.name
  | .namedImport (some i) => if i = [] ∨ i = b.name then .named b.name else .renamed i b.name

lemma Specifier.text_binding (b : Specifier) : b.binding.text = b.text := by
  obtain ⟨_ | _ | (_ | i), name, typeOnly⟩ := b
  · rfl
  · rfl
  · simp [binding, text]
  · by_cases hi : i = [] ∨ i = name
    · simp [binding, text, hi]
    · simp [binding, text, hi]

/-- A binding is written as it is read. -/
lemma Specifier.text_specifier_binding (b : Specifier) : b.binding.specifier.text = b.text := by
  obtain ⟨_ | _ | (_ | i), name, typeOnly⟩ := b
  · rfl
  · rfl
  · rfl
  · by_cases hi : i = [] ∨ i = name
    · simp [binding, Binding.specifier, text, hi]
    · simp [binding, Binding.specifier, text, hi]

/-! ## Lines -/

/-- What stands before the module path. -/
inductive ImportHead where
  /-- The word `import` and one blank more than given. -/
  | bare (gap : Nat)
  /-- The word `import`, with the word `type` behind it or not, a binding, and the word `from`.  Before
  the binding and behind it there is one blank more than given. -/
  | clause (typeOnly : Bool) (gap : Nat) (binding : Binding) (space : Nat)
deriving Repr, DecidableEq

namespace ImportHead

/-- The words before a binding. -/
def marker (typeOnly : Bool) : Text := if typeOnly then "import type".toList else "import".toList

/-- The text up to the module path. -/
def text : ImportHead → Text
  | bare gap => "import".toList ++ Text.blanks (gap + 1)
  | clause typeOnly gap b space =>
    marker typeOnly ++ (Text.blanks (gap + 1) ++ (b.text ++ (Text.blanks (space + 1) ++ "from ".toList)))

lemma text_bare (gap : Nat) : (bare gap).text = "import".toList ++ Text.blanks (gap + 1) := rfl

lemma text_clause (typeOnly : Bool) (gap : Nat) (b : Binding) (space : Nat) :
    (clause typeOnly gap b space).text = marker typeOnly ++
      (Text.blanks (gap + 1) ++ (b.text ++ (Text.blanks (space + 1) ++ "from ".toList))) :=
  rfl

/-- The word `type` stands before the binding. -/
def typeOnly : ImportHead → Bool
  | bare _ => false
  | clause typeOnly _ _ _ => typeOnly

/-- What is bound. -/
def binding? : ImportHead → Option Binding
  | bare _ => none
  | clause _ _ b _ => some b

/-- The names are words, or a string in place of an exported name. -/
def IsWellFormed (h : ImportHead) : Prop := ∀ b ∈ h.binding?, b.IsWellFormed

instance : DecidablePred IsWellFormed := fun h =>
  inferInstanceAs (Decidable (∀ b ∈ h.binding?, b.IsWellFormed))

end ImportHead

/-- A declaration on one line. -/
structure ImportLine where
  head : ImportHead
  /-- The module path, quotes included. -/
  path : Text
  /-- The attributes, keyword included. -/
  attributes : Option Text
deriving Repr, DecidableEq

namespace ImportLine

/-- The text of a line. -/
def text (l : ImportLine) : Text :=
  l.head.text ++ (l.path ++ match l.attributes with
    | some a => ' ' :: a
    | none => [])

/-- The parts of the line are words and strings. -/
structure IsWellFormed (l : ImportLine) : Prop where
  head : l.head.IsWellFormed
  path : IsStringLiteral l.path
  attributes : ∀ a ∈ l.attributes, Text.trim a = a

instance : DecidablePred IsWellFormed := fun l =>
  decidable_of_iff (l.head.IsWellFormed ∧ IsStringLiteral l.path ∧ ∀ a ∈ l.attributes, Text.trim a = a)
    ⟨fun ⟨h, p, a⟩ => ⟨h, p, a⟩, fun h => ⟨h.head, h.path, h.attributes⟩⟩

end ImportLine

/-! ## Reading lines -/

section Reading

/-- The blanks before the word `from`, and the string behind it. -/
def readFrom? (t : Text) : Option (Nat × Text) :=
  (nextLexeme? t).bind fun (space, x, rest) =>
    match rest with
    | ' ' :: q :: r => if x = "from".toList ∧ IsStringQuote q then some (space - 1, q :: r) else none
    | _ => none

/-- The blanks before a binding, the binding, and what follows it. -/
def readBinding? (t : Text) : Option (Nat × Binding × Text) :=
  (nextLexeme? t).bind fun (gap, x, t) =>
    if x = ['*'] then
      (nextLexeme? t).bind fun (_, _, t) =>
        (nextLexeme? t).map fun (_, name, t) => (gap - 1, .namespaceImport name, t)
    else if x = ['\x7b'] then
      (nextLexeme? t).bind fun (_, y, t) =>
        (nextLexeme? t).bind fun (_, z, t) =>
          if z = ['\x7d'] then some (gap - 1, .named y, t)
          else (nextLexeme? t).bind fun (_, name, t) =>
            (nextLexeme? t).map fun (_, _, t) => (gap - 1, .renamed y name, t)
    else some (gap - 1, .defaultImport x, t)

/-- A clause and the word `from`. -/
def readClause? (typeOnly : Bool) (t : Text) : Option (ImportHead × Text) :=
  (readBinding? t).bind fun (gap, b, t) =>
    (readFrom? t).map fun (space, t) => (.clause typeOnly gap b space, t)

/-- What stands before the path of a line, and the path with what follows it.  The word `type` is a name
if that gives a clause, and else the marker. -/
def readHead? (t : Text) : Option (ImportHead × Text) :=
  let t := t.drop "import".toList.length
  (nextLexeme? t).bind fun (gap, x, rest) =>
    if BeginsQuoted x then some (.bare (gap - 1), t.dropWhile (· = ' '))
    else (readClause? false t).or (if x = "type".toList then readClause? true rest else none)

end Reading

/-- A clause with the blanks before it and the word `from`, and what stands behind it. -/
def clauseText (gap : Nat) (b : Binding) (space : Nat) (y : Text) : Text :=
  Text.blanks (gap + 1) ++ (b.text ++ (Text.blanks (space + 1) ++ ("from ".toList ++ y)))

variable {q : Char} {r t x y : Text}

lemma ImportHead.text_clause_append (typeOnly : Bool) (gap : Nat) (b : Binding) (space : Nat) (y : Text) :
    (clause typeOnly gap b space).text ++ y = marker typeOnly ++ clauseText gap b space y := by
  simp only [text_clause, clauseText, List.append_assoc]

lemma isLexeme_from : IsLexeme "from".toList := .inl (by decide)

lemma isLexeme_as : IsLexeme "as".toList := .inl (by decide)

lemma isLexeme_type : IsLexeme "type".toList := .inl (by decide)

lemma isLexeme_sign {c : Char} (hc : ¬ IsWordChar c ∧ ¬ IsStringQuote c ∧ c ≠ ' ') : IsLexeme [c] :=
  .inr (.inr ⟨c, rfl, hc⟩)

/-- A lexeme behind one blank is the next one. -/
lemma nextLexeme?_blank (hx : IsLexeme x) (y : Text) :
    nextLexeme? (' ' :: (x ++ ' ' :: y)) = some (1, x, ' ' :: y) :=
  nextLexeme?_blanks 1 hx y

lemma readFrom?_blanks (space : Nat) (hq : IsStringQuote q) (r : Text) :
    readFrom? (Text.blanks (space + 1) ++ ("from ".toList ++ q :: r)) = some (space, q :: r) := by
  have hfrom : ("from ".toList ++ q :: r : Text) = "from".toList ++ ' ' :: q :: r := rfl
  rw [hfrom, readFrom?, nextLexeme?_blanks _ isLexeme_from, Option.bind_some]
  exact if_pos ⟨rfl, hq⟩

lemma IsWord.ne_singleton {w : Text} (hw : IsWord w) {c : Char} (hc : ¬ IsWordChar c) : w ≠ [c] := by
  rintro rfl
  exact hc (hw.2 c (by simp))

lemma bind_nextLexeme?_blank {β : Type} (hx : IsLexeme x) (y : Text) (f : Nat × Text × Text → Option β) :
    (nextLexeme? (' ' :: (x ++ ' ' :: y))).bind f = f (1, x, ' ' :: y) := by
  rw [nextLexeme?_blank hx, Option.bind_some]

/-- A binding between blanks is read, whatever stands behind it. -/
lemma readBinding?_blanks {b : Binding} (hb : b.IsWellFormed) (gap : Nat) (y : Text) :
    readBinding? (Text.blanks (gap + 1) ++ (b.text ++ ' ' :: y)) = some (gap, b, ' ' :: y) := by
  have hbrace : (['\x7b'] : Text) ≠ ['*'] := by decide
  cases b with
  | defaultImport name =>
    have hstar : name ≠ ['*'] := IsWord.ne_singleton hb (by decide)
    have hname : name ≠ ['\x7b'] := IsWord.ne_singleton hb (by decide)
    rw [Binding.text_defaultImport, readBinding?, nextLexeme?_blanks _ (.inl hb), Option.bind_some]
    exact (if_neg hstar).trans (if_neg hname)
  | namespaceImport name =>
    have htext : (Binding.namespaceImport name).text ++ ' ' :: y =
        ['*'] ++ ' ' :: ("as".toList ++ ' ' :: (name ++ ' ' :: y)) := rfl
    rw [htext, readBinding?, nextLexeme?_blanks _ (isLexeme_sign (by decide)), Option.bind_some]
    refine (if_pos rfl).trans ((bind_nextLexeme?_blank isLexeme_as _ _).trans ?_)
    exact congrArg (Option.map _) (nextLexeme?_blank (.inl hb) y)
  | named name =>
    have htext : (Binding.named name).text ++ ' ' :: y =
        ['\x7b'] ++ ' ' :: (name ++ ' ' :: (['\x7d'] ++ ' ' :: y)) := by
      simp
    rw [htext, readBinding?, nextLexeme?_blanks _ (isLexeme_sign (by decide)), Option.bind_some]
    refine (if_neg hbrace).trans ((if_pos rfl).trans ?_)
    refine (bind_nextLexeme?_blank (.inl hb) _ _).trans ?_
    refine (bind_nextLexeme?_blank (isLexeme_sign (by decide)) _ _).trans ?_
    exact if_pos rfl
  | renamed imported name =>
    obtain ⟨himported, hname⟩ := hb
    have htext : (Binding.renamed imported name).text ++ ' ' :: y =
        ['\x7b'] ++ ' ' :: (imported ++ ' ' ::
          ("as".toList ++ ' ' :: (name ++ ' ' :: (['\x7d'] ++ ' ' :: y)))) := by
      simp
    have has : ("as".toList : Text) ≠ ['\x7d'] := by decide
    rw [htext, readBinding?, nextLexeme?_blanks _ (isLexeme_sign (by decide)), Option.bind_some]
    refine (if_neg hbrace).trans ((if_pos rfl).trans ?_)
    refine (bind_nextLexeme?_blank (himported.imp_right .inl) _ _).trans ?_
    -- behind the exported name the word `as` stands, and no closing brace
    refine (bind_nextLexeme?_blank isLexeme_as _ _).trans ((if_neg has).trans ?_)
    refine (bind_nextLexeme?_blank (.inl hname) _ _).trans ?_
    exact congrArg (Option.map _) (nextLexeme?_blank (isLexeme_sign (by decide)) y)

/-- A clause between blanks is read. -/
lemma readClause?_clauseText {b : Binding} (hb : b.IsWellFormed) (typeOnly : Bool) (gap space : Nat)
    (hq : IsStringQuote q) (r : Text) : readClause? typeOnly (clauseText gap b space (q :: r)) =
      some (.clause typeOnly gap b space, q :: r) := by
  have hblank : Text.blanks (space + 1) ++ ("from ".toList ++ q :: r) =
      ' ' :: (Text.blanks space ++ ("from ".toList ++ q :: r)) := rfl
  rw [clauseText, readClause?, hblank, readBinding?_blanks hb, Option.bind_some, ← hblank]
  simp only [readFrom?_blanks space hq, Option.map_some]

/-- No word `from` with a path behind it stands at the front of a binding. -/
lemma readFrom?_binding {b : Binding} (hb : b.IsWellFormed) (gap space : Nat) (y : Text) :
    readFrom? (Text.blanks gap ++ (b.text ++ (Text.blanks (space + 1) ++ ("from ".toList ++ y)))) =
      none := by
  obtain ⟨c, r, hr, hc⟩ : ∃ c r, Text.blanks space ++ ("from ".toList ++ y) = c :: r ∧
      ¬ IsStringQuote c := by
    cases space with
    | zero => exact ⟨'f', _, rfl, by decide⟩
    | succ space => exact ⟨' ', _, rfl, by decide⟩
  have hblanks : Text.blanks (space + 1) ++ ("from ".toList ++ y) = ' ' :: c :: r :=
    congrArg (' ' :: ·) hr
  have hsign : ∀ {d : Char}, ¬ IsWordChar d ∧ ¬ IsStringQuote d ∧ d ≠ ' ' → ∀ z,
      readFrom? (Text.blanks gap ++ ([d] ++ ' ' :: z)) = none := by
    intro d hd z
    rw [readFrom?, nextLexeme?_blanks _ (isLexeme_sign hd), Option.bind_some]
    cases z <;> simp
  rw [hblanks]
  cases b with
  | defaultImport name =>
    -- behind the name there is the word `from`, which is no path
    rw [Binding.text_defaultImport, readFrom?, nextLexeme?_blanks _ (.inl hb), Option.bind_some]
    exact if_neg fun h => hc h.2
  | namespaceImport name => exact hsign (d := '*') (by decide) _
  | named name =>
    rw [Binding.text_named, List.append_assoc]
    exact hsign (d := '\x7b') (by decide) _
  | renamed imported name =>
    rw [Binding.text_renamed, List.append_assoc]
    exact hsign (d := '\x7b') (by decide) _

/-- No string stands at the front of a binding. -/
lemma exists_nextLexeme?_binding {b : Binding} (hb : b.IsWellFormed) (k : Nat) (y : Text) :
    ∃ x z, nextLexeme? (Text.blanks k ++ (b.text ++ ' ' :: y)) = some (k, x, z) ∧
      ¬ BeginsQuoted x := by
  have hsign : ∀ {d : Char}, ¬ IsWordChar d ∧ ¬ IsStringQuote d ∧ d ≠ ' ' → ∀ r, ∃ x z,
      nextLexeme? (Text.blanks k ++ ([d] ++ ' ' :: r)) = some (k, x, z) ∧
        ¬ BeginsQuoted x := by
    intro d hd r
    exact ⟨[d], _, nextLexeme?_blanks k (isLexeme_sign hd) r, hd.2.1⟩
  cases b with
  | defaultImport name =>
    exact ⟨name, _, nextLexeme?_blanks k (.inl hb) y, IsWord.not_beginsQuoted hb⟩
  | namespaceImport name => exact hsign (d := '*') (by decide) _
  | named name =>
    rw [Binding.text_named, List.append_assoc]
    exact hsign (d := '\x7b') (by decide) _
  | renamed imported name =>
    rw [Binding.text_renamed, List.append_assoc]
    exact hsign (d := '\x7b') (by decide) _

/-! ### One kind of head at a time -/

lemma readHead?_bare (gap : Nat) (hq : IsStringQuote q) (r : Text) :
    readHead? ((ImportHead.bare gap).text ++ q :: r) = some (.bare gap, q :: r) := by
  have hdrop : (("import".toList ++ Text.blanks (gap + 1)) ++ q :: r).drop "import".toList.length =
      Text.blanks (gap + 1) ++ q :: r := by
    rw [List.append_assoc, List.drop_left]
  obtain ⟨y, hy⟩ := nextLexeme?_quote (gap + 1) hq r
  have hblank : (q :: r).head? ≠ some ' ' := by
    rcases hq with rfl | rfl <;> simp
  have hquoted : BeginsQuoted (leadingString (q :: r)) := hq
  rw [ImportHead.text_bare, readHead?, hdrop]
  simp only [hy, Option.bind_some, if_pos hquoted, dropWhile_blanks_append _ hblank, Nat.add_sub_cancel]

section Clause

variable {b : Binding} (hb : b.IsWellFormed) (gap space : Nat)
include hb

/-- Without a marker the first word is no string, and a clause stands there. -/
lemma readHead?_unmarked (hq : IsStringQuote q) (r : Text) :
    readHead? ((ImportHead.clause false gap b space).text ++ q :: r) =
      some (.clause false gap b space, q :: r) := by
  have hread := readClause?_clauseText hb false gap space hq r
  obtain ⟨x, y, hlexeme, hquote⟩ : ∃ x y,
      nextLexeme? (clauseText gap b space (q :: r)) = some (gap + 1, x, y) ∧ ¬ BeginsQuoted x :=
    exists_nextLexeme?_binding hb (gap + 1) _
  have hdrop : (ImportHead.marker false ++ clauseText gap b space (q :: r)).drop "import".toList.length =
      clauseText gap b space (q :: r) := List.drop_left
  rw [ImportHead.text_clause_append]
  simp only [readHead?, hdrop, hlexeme, Option.bind_some, if_neg hquote, hread, Option.some_or]

/-- The marker is no name of its own: behind it stands a binding, and not the word `from` with a path. -/
lemma readClause?_marked (y : Text) :
    readClause? false (' ' :: ("type".toList ++ clauseText gap b space y)) = none := by
  have hname : (Binding.defaultImport "type".toList).IsWellFormed := by decide
  have hbinding : readBinding? (' ' :: ("type".toList ++ clauseText gap b space y)) =
      some (0, .defaultImport "type".toList, clauseText gap b space y) :=
    readBinding?_blanks hname 0 _
  rw [readClause?, hbinding, Option.bind_some]
  simp only [clauseText, readFrom?_binding hb (gap + 1) space y, Option.map_none]

lemma readHead?_marked (hq : IsStringQuote q) (r : Text) :
    readHead? ((ImportHead.clause true gap b space).text ++ q :: r) =
      some (.clause true gap b space, q :: r) := by
  have hread := readClause?_clauseText hb true gap space hq r
  have hdefault := readClause?_marked hb gap space (q :: r)
  have hdrop : (ImportHead.marker true ++ clauseText gap b space (q :: r)).drop "import".toList.length =
      ' ' :: ("type".toList ++ clauseText gap b space (q :: r)) := rfl
  have hlexeme : nextLexeme? (' ' :: ("type".toList ++ clauseText gap b space (q :: r))) =
      some (1, "type".toList, clauseText gap b space (q :: r)) :=
    nextLexeme?_blank isLexeme_type _
  have htype : ¬ BeginsQuoted "type".toList := by decide
  rw [ImportHead.text_clause_append]
  simp only [readHead?, hdrop, hlexeme, Option.bind_some, if_neg htype, hdefault, hread, Option.none_or,
    if_true]

end Clause

/-- What stands before the path of a line is read, whatever stands behind the quote. -/
theorem readHead?_text_append {h : ImportHead} (hh : h.IsWellFormed) (hq : IsStringQuote q) (r : Text) :
    readHead? (h.text ++ q :: r) = some (h, q :: r) := by
  cases h with
  | bare gap => exact readHead?_bare gap hq r
  | clause typeOnly gap b space =>
    have hb : b.IsWellFormed := hh b rfl
    cases typeOnly with
    | false => exact readHead?_unmarked hb gap space hq r
    | true => exact readHead?_marked hb gap space hq r

/-- There is one way only to read what stands before a path. -/
theorem ImportHead.eq_of_text_append {h h' : ImportHead} (hh : h.IsWellFormed) (hh' : h'.IsWellFormed)
    {q' : Char} {r' : Text} (hq : IsStringQuote q) (hq' : IsStringQuote q')
    (heq : h.text ++ q :: r = h'.text ++ q' :: r') : h = h' ∧ q :: r = q' :: r' := by
  have hread := readHead?_text_append hh hq r
  rw [heq, readHead?_text_append hh' hq' r', Option.some.injEq, Prod.mk.injEq] at hread
  exact ⟨hread.1.symm, hread.2.symm⟩

end ImportGrid
