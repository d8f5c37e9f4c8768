/-
Nodes that are read from their texts.

What a node says is determined by the text of its span, which is read from left to right
(`ImportNode.IsReadFrom`): if it begins with the head of a line, then that is its clause and the path
stands behind it; a string goes on to its closing quote or to the end of its line; and the declaration
ends with its path, its attributes or a semicolon.  These are properties of the grammar of import
declarations.  Nothing is said about which texts are declarations.

So a declaration whose text is the line of another one, or of a binding of it, is laid out on that line
(`ImportNode.IsReadFrom.lines_eq`).  The other one may have an exported name that is not closed.  But on
the line of such a name a string begins that is wider than any name of the file
(`ImportNode.IsReadFrom.exists_wide`).
-/
import Mathlib.Data.List.DropRight
import ImportGrid.Proofs.LineReading

namespace ImportGrid

/-! ## What nodes are read from -/

/-- A string stands at a span: it begins with a quote and ends with the same quote, or at the end of its
line. -/
def IsStringAt (text : Text) (s : Span) : Prop :=
  ∃ a q y, text = a ++ q :: y ∧ IsStringQuote q ∧
    s = ⟨a.byteLength, (a ++ leadingString (q :: y)).byteLength⟩

namespace SpecifierNode

/-- The words of a specifier: its name, and its exported name if that is no string. -/
def words : SpecifierNode → List Text
  | defaultImport name => [name]
  | namespaceImport name => [name]
  | namedImport (some (.name imported)) name _ => [imported, name]
  | namedImport _ name _ => [name]

/-- Where the exported name of a specifier stands, if it is a string. -/
def string? : SpecifierNode → Option Span
  | namedImport (some (.string span)) _ _ => some span
  | _ => none

end SpecifierNode

/-- The text of a line up to the first name in braces. -/
def ImportHead.opening (typeOnly : Bool) (gap : Nat) : Text :=
  marker typeOnly ++ (Text.blanks (gap + 1) ++ "\x7b ".toList)

namespace ImportNode

/-- The text of the whole statement. -/
def ownText (text : Text) (start : Nat) (n : ImportNode) : Text := (n.span.from start).textIn text

/-- Where the module path and the attributes end. -/
def stop (n : ImportNode) : Nat := n.attributesStop.getD n.path.stop

/-- A node says what its own text says.  The text is that of a module which begins at the position
`start`. -/
structure IsReadFrom (text : Text) (start : Nat) (n : ImportNode) : Prop where
  /-- A declaration begins with the word `import`. -/
  prefix_ownText : "import".toList <+: n.ownText text start
  /-- Names are words. -/
  isWord : ∀ b ∈ n.specifiers, ∀ w ∈ b.words, IsWord w
  /-- The module path is a string. -/
  isStringAt_path : IsStringAt text (n.path.from start)
  /-- Exported names are words or strings. -/
  isStringAt_imported : ∀ b ∈ n.specifiers, ∀ s ∈ b.string?, IsStringAt text (s.from start)
  /-- What stands before a string is read as what it says, and the string is the module path. -/
  head : ∀ (h : ImportHead) (q : Char) (y : Text), h.IsWellFormed → IsStringQuote q →
    n.ownText text start = h.text ++ q :: y →
    n.typeOnly = h.typeOnly ∧
      n.specifiers.map (·.specifier text start) = h.binding?.toList.map Binding.specifier ∧
      (n.path.from start).start = (n.span.from start).start + h.text.byteLength
  /-- A string behind the opening brace is an exported name. -/
  braces : ∀ (typeOnly : Bool) (gap : Nat) (q : Char) (y : Text), IsStringQuote q →
    n.ownText text start = ImportHead.opening typeOnly gap ++ q :: y →
    ∃ b ∈ n.specifiers, ∃ s ∈ b.string?,
      (s.from start).start = (n.span.from start).start + (ImportHead.opening typeOnly gap).byteLength
  /-- The module path and the attributes stand in the declaration. -/
  path_stop_le : n.path.stop ≤ n.stop
  stop_le : n.stop ≤ n.span.stop
  /-- Behind them there is nothing, unless a semicolon ends the declaration. -/
  stop_eq_or : n.stop = n.span.stop ∨ [';'] <:+ n.ownText text start
  /-- Attributes end with a brace.  A path that is not closed ends its line, and has none. -/
  attributes : ∀ k ∈ n.attributesStop, IsStringLiteral ((n.path.from start).textIn text) ∧
    ['\x7d'] <:+ Span.textIn ⟨(n.path.from start).stop, k - start⟩ text

end ImportNode

/-- The nodes of a module stand in source order, and each of them says what its own text says. -/
structure ParsedModule.IsReadFrom (text : Text) (m : ParsedModule) : Prop where
  inSourceOrder : InSourceOrder text (m.declarations text)
  isReadFrom : ∀ n ∈ m.imports, n.IsReadFrom text m.start

/-- What a parser tells of a text is read from the text, without the byte order mark. -/
def Parser.IsReadFrom (p : Parser) (d : Dialect) (source : Text) : Prop :=
  ∀ m, p.parse? d source = some m → m.IsReadFrom (withoutMark source)

/-! ## Pieces of a text -/

section Pieces

variable {a b m t x y : Text} {s : Span}

/-- Two splits of a text at the same offset are the same. -/
lemma Text.append_inj_of_byteLength (h : a ++ x = b ++ y) (hl : a.byteLength = b.byteLength) :
    a = b ∧ x = y := by
  obtain ⟨g, rfl, rfl⟩ := Text.exists_eq_append_of_le h hl.le
  have hnil : g = [] := by
    rw [Text.byteLength_append] at hl
    exact Text.byteLength_eq_zero_iff.1 (by omega)
  subst hnil
  exact ⟨(List.append_nil a).symm, rfl⟩

/-- A piece that is not empty stands where its span says. -/
lemma Span.exists_of_textIn_ne_nil (h : s.textIn t ≠ []) :
    ∃ a b, t = a ++ (s.textIn t ++ b) ∧ a.byteLength = s.start ∧
      (a ++ s.textIn t).byteLength = s.stop := by
  cases hs : Text.slice? s.start s.stop t with
  | none =>
    rw [Span.textIn, hs] at h
    exact absurd rfl h
  | some m =>
    obtain ⟨a, b, ht, ha, hm⟩ := Text.slice?_eq_some_iff.1 hs
    have hpiece : s.textIn t = m := by rw [Span.textIn, hs, Option.getD_some]
    rw [hpiece]
    exact ⟨a, b, by rw [ht, List.append_assoc], ha, by rw [Text.byteLength_append, ha, hm]⟩

lemma Span.textIn_append {i j : Nat} (hi : a.byteLength = i) (hj : (a ++ m).byteLength = j) :
    Span.textIn ⟨i, j⟩ (a ++ (m ++ b)) = m := by
  subst hi hj
  rw [Span.textIn, Text.slice?_append rfl (Text.byteLength_append a m).symm, Option.getD_some]

/-- Nothing stands between two offsets of which the second is not behind the first. -/
lemma Span.textIn_eq_nil {i j : Nat} (h : j ≤ i) : Span.textIn ⟨i, j⟩ t = [] := by
  by_contra hne
  obtain ⟨a, b, -, ha, hstop⟩ := Span.exists_of_textIn_ne_nil hne
  rw [Text.byteLength_append] at hstop
  have hzero : (Span.textIn ⟨i, j⟩ t).byteLength = 0 := by
    simp only at ha hstop
    omega
  exact hne (Text.byteLength_eq_zero_iff.1 hzero)

/-- White space is cut off in front of a text only if the text ends with another character. -/
lemma Text.trim_eq_trimStart {c : Char} (hc : isWhiteSpace c = false) (h : [c] <:+ t) :
    Text.trim t = Text.trimStart t ∧ [c] <:+ Text.trimStart t := by
  obtain ⟨r, rfl⟩ := h
  have hend : ∃ v, Text.trimStart (r ++ [c]) = v ++ [c] := by
    rw [Text.trimStart, List.dropWhile_append]
    split
    · exact ⟨[], List.dropWhile_cons_of_neg (by simp [hc])⟩
    · exact ⟨_, rfl⟩
  obtain ⟨v, hv⟩ := hend
  have hback : Text.trimStart (v ++ [c]).reverse = (v ++ [c]).reverse := by
    rw [List.reverse_append, List.reverse_singleton, List.singleton_append, Text.trimStart,
      List.dropWhile_cons_of_neg (by simp [hc])]
  rw [Text.trim, hv, hback, List.reverse_reverse]
  exact ⟨rfl, v, rfl⟩

lemma Text.trim_trim {c : Char} (hc : isWhiteSpace c = false) (h : [c] <:+ t) :
    Text.trim (Text.trim t) = Text.trim t := by
  obtain ⟨htrim, hend⟩ := Text.trim_eq_trimStart hc h
  rw [htrim, (Text.trim_eq_trimStart hc hend).1, Text.trimStart, Text.trimStart,
    List.dropWhile_idempotent]

end Pieces

/-! ## Paths and attributes -/

section Ends

variable {text before own behind x y : Text} {start : Nat} {n : ImportNode} {q : Char} {s : Span}

/-- A text is a string as it is read in some place. -/
def IsReadString (t : Text) : Prop :=
  IsStringLiteral t ∨
    ∃ q m y, IsStringQuote q ∧ t = q :: m ∧ stringContent q .plain (m ++ y) = m

lemma IsReadString.exists_eq_cons (h : IsReadString x) : ∃ q t, IsStringQuote q ∧ x = q :: t := by
  rcases h with h | ⟨q, m, -, hq, rfl, -⟩
  · exact h.exists_eq_cons
  · exact ⟨q, m, hq, rfl⟩

/-- Where a string is read, it is read as in any other place, but one that is not closed takes in more if
its line goes on. -/
lemma IsReadString.prefix_leadingString (h : IsReadString x) (y : Text) :
    x <+: leadingString (x ++ y) := by
  rcases h with h | ⟨q, m, z, hq, rfl, hm⟩
  · exact (h.leadingString_append y).symm ▸ List.prefix_rfl
  · have hread := prefix_stringContent_append (w := []) (z := y) hm (by simp)
    rw [List.append_nil, List.nil_append] at hread
    exact List.cons_prefix_cons.2 ⟨rfl, hread.trans (List.prefix_append ..)⟩

lemma IsStringAt.exists_leadingString (h : IsStringAt text s) :
    ∃ a q y, text = a ++ q :: y ∧ IsStringQuote q ∧ a.byteLength = s.start ∧
      (a ++ leadingString (q :: y)).byteLength = s.stop ∧ s.textIn text = leadingString (q :: y) := by
  obtain ⟨a, q, y, rfl, hq, rfl⟩ := h
  obtain ⟨r, hr⟩ := leadingString_prefix (q :: y)
  refine ⟨a, q, y, rfl, hq, rfl, rfl, ?_⟩
  generalize leadingString (q :: y) = m at hr ⊢
  rw [← hr]
  exact Span.textIn_append rfl rfl

lemma IsStringAt.isReadString (h : IsStringAt text s) : IsReadString (s.textIn text) := by
  obtain ⟨a, q, y, -, hq, -, -, hstring⟩ := h.exists_leadingString
  rw [hstring]
  rcases isStringLiteral_or hq y with h | ⟨m, z, -, hm, hread⟩
  · exact .inl h
  · exact .inr ⟨q, m, z, hq, hm, hread⟩

/-- The parts of a declaration are such as are read. -/
structure Declaration.HasReadParts (d : Declaration) : Prop where
  isWord : ∀ b ∈ d.specifiers, IsWord b.name
  imported : ∀ b ∈ d.specifiers, ∀ i, b.kind = .namedImport (some i) → IsWord i ∨ IsReadString i
  isReadString : IsReadString d.quotedSource
  attributes : ∀ a ∈ d.attributes,
    IsStringLiteral d.quotedSource ∧ ['\x7d'] <:+ a ∧ Text.trim (' ' :: a) = a

lemma ImportNode.IsReadFrom.hasReadParts (hn : n.IsReadFrom text start) :
    (n.declaration text start).HasReadParts where
  isWord := by
    intro b hb
    obtain ⟨nb, hnb, rfl⟩ := List.mem_map.1 hb
    refine hn.isWord nb hnb _ ?_
    rcases nb with name | name | ⟨_ | _ | _, name, typeOnly⟩ <;>
      simp [SpecifierNode.words, SpecifierNode.specifier]
  imported := by
    intro b hb i hi
    obtain ⟨nb, hnb, rfl⟩ := List.mem_map.1 hb
    rcases nb with name | name | ⟨_ | j | s, name, typeOnly⟩
    · simp [SpecifierNode.specifier] at hi
    · simp [SpecifierNode.specifier] at hi
    · simp [SpecifierNode.specifier] at hi
    · obtain rfl : j = i := by simpa [SpecifierNode.specifier, ExportName.text] using hi
      exact .inl (hn.isWord _ hnb j (by simp [SpecifierNode.words]))
    · obtain rfl : (s.from start).textIn text = i := by
        simpa [SpecifierNode.specifier, ExportName.text] using hi
      exact .inr (hn.isStringAt_imported _ hnb s rfl).isReadString
  isReadString := hn.isStringAt_path.isReadString
  attributes := by
    intro a ha
    obtain ⟨k, hk, rfl⟩ := Option.map_eq_some_iff.1 ha
    obtain ⟨hpath, hend⟩ := hn.attributes k hk
    have hbrace : Text.isWhiteSpace '\x7d' = false := by decide
    refine ⟨hpath, ?_, ?_⟩
    · obtain ⟨htrim, hsuffix⟩ := Text.trim_eq_trimStart hbrace hend
      exact htrim ▸ hsuffix
    · rw [Text.trim_cons_blank]
      exact Text.trim_trim hbrace hend

/-- Behind a path that ends its declaration there are no attributes. -/
lemma ImportNode.IsReadFrom.attributesStop_eq_none (hn : n.IsReadFrom text start)
    (h : (n.span.from start).stop ≤ (n.path.from start).stop) : n.attributesStop = none := by
  cases hk : n.attributesStop with
  | none => rfl
  | some k =>
    have hstop : n.stop = k := by rw [stop, hk, Option.getD_some]
    have hle : k - start ≤ (n.span.from start).stop :=
      Nat.sub_le_sub_right (hstop ▸ hn.stop_le) start
    obtain ⟨r, hr⟩ := (hn.attributes k hk).2
    rw [Span.textIn_eq_nil (hle.trans h)] at hr
    simp at hr

/-- Where the path of a declaration begins, a string is read, and it ends in the declaration. -/
lemma ImportNode.IsReadFrom.exists_path (hn : n.IsReadFrom text start)
    (hx : n.ownText text start = x ++ y) (hne : x ≠ []) (hpath : (n.path.from start).start = (n.span.from start).start + x.byteLength) :
    ∃ before behind, text = before ++ (x ++ (y ++ behind)) ∧
      (before ++ (x ++ y)).byteLength = (n.span.from start).stop ∧
      (before ++ (x ++ leadingString (y ++ behind))).byteLength = (n.path.from start).stop ∧
      (n.declaration text start).quotedSource = leadingString (y ++ behind) := by
  have hown : (n.span.from start).textIn text = x ++ y := hx
  obtain ⟨before, behind, htext, hstart, hstop⟩ := Span.exists_of_textIn_ne_nil
    (hown ▸ fun h => hne (List.append_eq_nil_iff.1 h).1 : (n.span.from start).textIn text ≠ [])
  rw [hown, List.append_assoc] at htext
  rw [hown] at hstop
  obtain ⟨a, q, z, htext', -, ha, hpathstop, hread⟩ := hn.isStringAt_path.exists_leadingString
  have hsplit : before ++ x = a ∧ y ++ behind = q :: z := by
    refine Text.append_inj_of_byteLength ?_ ?_
    · rw [← htext', htext, List.append_assoc]
    · rw [ha, hpath, ← hstart, Text.byteLength_append]
  obtain ⟨rfl, hrest⟩ := hsplit
  rw [← hrest, List.append_assoc] at hpathstop
  rw [← hrest] at hread
  exact ⟨before, behind, htext, hstop, hpathstop, hread⟩

section Equal

variable {d : Declaration} {a : Text} (hn : n.IsReadFrom text start) (hd : d.HasReadParts) (hne : x ≠ [])
  (hpath : (n.path.from start).start = (n.span.from start).start + x.byteLength)
include hn hd hne hpath

lemma sourceClause_eq_of_eq_none (hown : n.ownText text start = x ++ d.quotedSource) :
    (n.declaration text start).sourceClause = d.quotedSource := by
  obtain ⟨before, behind, -, hstop, hpathstop, hsource⟩ := hn.exists_path hown hne hpath
  have hle : (n.path.from start).stop ≤ (n.span.from start).stop :=
    Nat.sub_le_sub_right (hn.path_stop_le.trans hn.stop_le) start
  -- the path that is read takes in the other one, and has no room for more
  obtain ⟨r, hr⟩ := hd.isReadString.prefix_leadingString behind
  rw [← hr] at hpathstop hsource
  have hnil : r = [] := by
    simp only [Text.byteLength_append] at hpathstop hstop
    exact Text.byteLength_eq_zero_iff.1 (by omega)
  rw [hnil, List.append_nil] at hpathstop hsource
  have hnone : (n.declaration text start).attributes = none := by
    show n.attributesStop.map _ = none
    rw [hn.attributesStop_eq_none (hstop.symm.trans hpathstop).le, Option.map_none]
  rw [Declaration.sourceClause, hnone, hsource]

lemma sourceClause_eq_of_eq_some (hattributes : d.attributes = some a)
    (hown : n.ownText text start = x ++ (d.quotedSource ++ ' ' :: a)) :
    (n.declaration text start).sourceClause = d.quotedSource ++ ' ' :: a := by
  obtain ⟨hliteral, hend, htrim⟩ := hd.attributes a hattributes
  obtain ⟨before, behind, htext, hstop, hpathstop, hsource⟩ := hn.exists_path hown hne hpath
  have hread : leadingString (d.quotedSource ++ ' ' :: a ++ behind) = d.quotedSource := by
    rw [List.append_assoc, hliteral.leadingString_append]
  rw [hread] at hpathstop hsource
  -- no semicolon ends a declaration that a brace ends
  have hstopeq : n.stop = n.span.stop := by
    refine hn.stop_eq_or.resolve_right fun hsemicolon => ?_
    have hbrace : ['\x7d'] <:+ n.ownText text start := by
      rw [hown]
      exact hend.trans (((List.suffix_cons ' ' a).trans (List.suffix_append ..)).trans
        (List.suffix_append ..))
    have hsame := List.suffix_of_suffix_length_le hsemicolon hbrace le_rfl
    exact absurd (hsame.eq_of_length rfl) (by decide)
  cases hk : n.attributesStop with
  | none =>
    -- then it would end with the path
    exfalso
    have hstop' : (n.path.from start).stop = (n.span.from start).stop := by
      show n.path.stop - start = n.span.stop - start
      rw [← hstopeq, ImportNode.stop, hk, Option.getD_none]
    rw [← hpathstop, ← hstop] at hstop'
    simp only [Text.byteLength_append, Text.byteLength_cons] at hstop'
    have := Char.utf8Size_pos ' '
    omega
  | some k =>
    have hkstop : k = n.span.stop := by
      rw [← hstopeq, ImportNode.stop, hk, Option.getD_some]
    have hcut : Span.textIn ⟨(n.path.from start).stop, k - start⟩ text = ' ' :: a := by
      have hend : ((before ++ (x ++ d.quotedSource)) ++ ' ' :: a).byteLength = k - start := by
        rw [hkstop]
        simpa only [List.append_assoc, Span.from] using hstop
      rw [htext]
      simpa only [List.append_assoc] using Span.textIn_append (b := behind) hpathstop hend
    have hsome : (n.declaration text start).attributes = some a := by
      show n.attributesStop.map _ = some a
      rw [hk, Option.map_some, hcut, htrim]
    rw [Declaration.sourceClause, hsome, hsource]

/-- A declaration that ends in the path and the attributes of another one has them. -/
theorem ImportNode.IsReadFrom.sourceClause_eq (hown : n.ownText text start = x ++ d.sourceClause) :
    (n.declaration text start).sourceClause = d.sourceClause := by
  cases ha : d.attributes with
  | none =>
    have hclause : d.sourceClause = d.quotedSource := by rw [Declaration.sourceClause, ha]
    rw [hclause] at hown ⊢
    exact sourceClause_eq_of_eq_none hn hd hne hpath hown
  | some a =>
    have hclause : d.sourceClause = d.quotedSource ++ ' ' :: a := by rw [Declaration.sourceClause, ha]
    rw [hclause] at hown ⊢
    exact sourceClause_eq_of_eq_some hn hd hne hpath ha hown

end Equal

end Ends

/-! ## Exported names that are not closed -/

section Wide

variable {text y : Text} {start : Nat} {n : ImportNode} {q : Char}

lemma isPlainIn_of_isWordChar {c : Char} (hq : IsStringQuote q) (hc : IsWordChar c) : IsPlainIn q c := by
  refine ⟨?_, ?_, ?_, ?_⟩
  · rintro rfl
    exact hq.not_isWordChar hc
  all_goals
    rintro rfl
    exact absurd hc (by decide)

lemma isPlainIn_of_all {w : Text} (hq : IsStringQuote q)
    (hw : (w.all fun c => c ∉ ['"', '\'', '\\', '\n', '\r']) = true) : ∀ c ∈ w, IsPlainIn q c := by
  intro c hc
  have hother : c ≠ '"' ∧ c ≠ '\'' ∧ c ≠ '\\' ∧ c ≠ '\n' ∧ c ≠ '\r' := by
    simpa using List.all_eq_true.1 hw c hc
  obtain ⟨hdouble, hsingle, hrest⟩ := hother
  rcases hq with rfl | rfl
  · exact ⟨hsingle, hrest⟩
  · exact ⟨hdouble, hrest⟩

/-- What stands on a line behind an exported name, up to the word `from`. -/
def behindImported (name : Text) (space : Nat) : Text :=
  " as ".toList ++ (name ++ (" \x7d".toList ++ (Text.blanks (space + 1) ++ "from".toList)))

lemma isPlainIn_of_mem_behindImported {name : Text} (hq : IsStringQuote q) (hname : IsWord name)
    (space : Nat) : ∀ c ∈ behindImported name space, IsPlainIn q c := by
  have hblanks : ∀ c ∈ Text.blanks (space + 1), IsPlainIn q c := by
    refine isPlainIn_of_all hq (List.all_eq_true.2 fun c hc => ?_)
    rw [List.eq_of_mem_replicate hc]
    decide
  simp only [behindImported, List.forall_mem_append]
  exact ⟨isPlainIn_of_all hq (by decide), fun c hc => isPlainIn_of_isWordChar hq (hname.2 c hc),
    isPlainIn_of_all hq (by decide), hblanks, isPlainIn_of_all hq (by decide)⟩

/-- An exported name is written out in the text of its binding. -/
lemma Specifier.length_le_of_kind {b : Specifier} {i : Text} (h : b.kind = .namedImport (some i)) :
    i.length ≤ b.text.length := by
  rw [Specifier.text, h]
  by_cases hi : i = [] ∨ i = b.name
  · rcases hi with rfl | rfl
    · exact Nat.zero_le _
    · simp only [or_true, if_true, List.length_append]
      omega
  · simp only [if_neg hi, List.length_append]
    omega

/-- A string behind the opening brace is an exported name of the declaration, as it is read there. -/
lemma ImportNode.IsReadFrom.exists_imported (hn : n.IsReadFrom text start) (typeOnly : Bool) (gap : Nat)
    (hq : IsStringQuote q) (hown : n.ownText text start = ImportHead.opening typeOnly gap ++ q :: y) :
    ∃ b ∈ (n.declaration text start).specifiers, ∃ behind,
      b.kind = .namedImport (some (leadingString (q :: (y ++ behind)))) := by
  have hspan : (n.span.from start).textIn text = _ := hown
  obtain ⟨before, behind, htext, hstart, -⟩ := Span.exists_of_textIn_ne_nil
    (hspan ▸ by simp : (n.span.from start).textIn text ≠ [])
  rw [hspan] at htext
  obtain ⟨b, hb, s, hs, hsstart⟩ := hn.braces typeOnly gap q y hq hown
  obtain ⟨a, q', z, htext', -, ha, -, hread⟩ := (hn.isStringAt_imported b hb s hs).exists_leadingString
  have hsplit : before ++ ImportHead.opening typeOnly gap = a ∧ q :: (y ++ behind) = q' :: z := by
    refine Text.append_inj_of_byteLength ?_ ?_
    · rw [← htext', htext]
      simp only [List.append_assoc, List.cons_append]
    · rw [ha, hsstart, ← hstart, Text.byteLength_append]
  obtain ⟨-, hrest⟩ := hsplit
  refine ⟨_, List.mem_map_of_mem hb, behind, ?_⟩
  rcases b with name | name | ⟨_ | j | t, name, typeOnly'⟩
  · simp [SpecifierNode.string?] at hs
  · simp [SpecifierNode.string?] at hs
  · simp [SpecifierNode.string?] at hs
  · simp [SpecifierNode.string?] at hs
  · obtain rfl : t = s := by simpa [SpecifierNode.string?] using hs
    show Specifier.Kind.namedImport (some ((t.from start).textIn text)) = _
    rw [hread, hrest]

/-- An exported name in quotes is written out. -/
lemma Specifier.binding_eq_renamed {m : Text} {b : Specifier} (hq : IsStringQuote q)
    (hkind : b.kind = .namedImport (some (q :: m))) (hname : IsWord b.name) :
    b.binding = .renamed (q :: m) b.name := by
  have hne : ¬(q :: m = [] ∨ q :: m = b.name) := by
    rintro (hnil | hself)
    · exact List.cons_ne_nil _ _ hnil
    · exact hname.not_isStringQuote (c := q) (hself ▸ List.mem_cons_self ..) hq
  rw [binding, hkind]
  exact if_neg hne

lemma Binding.length_text_renamed (imported name : Text) :
    (renamed imported name).text.length = imported.length + name.length + 8 := by
  have hopen : "\x7b ".length = 2 := by decide
  have has : " as ".length = 4 := by decide
  have hclose : " \x7d".length = 2 := by decide
  rw [text_renamed]
  simp only [List.length_append, String.length_toList]
  omega

lemma length_behindImported (name : Text) (space : Nat) :
    (behindImported name space).length = name.length + space + 11 := by
  have has : " as ".length = 4 := by decide
  have hclose : " \x7d".length = 2 := by decide
  have hfrom : "from".length = 4 := by decide
  simp only [behindImported, List.length_append, Text.blanks, List.length_replicate, String.length_toList]
  omega

/-- On the line of a binding with an exported name that is not closed, a declaration has a name that is
wider than the names on the grid. -/
theorem ImportNode.IsReadFrom.exists_wide (hn : n.IsReadFrom text start) {grid : Grid}
    {typeOnly : Bool} {gap : Nat} {m z rest : Text} {b : Specifier} (hq : IsStringQuote q)
    (hm : stringContent q .plain (m ++ z) = m) (hkind : b.kind = .namedImport (some (q :: m)))
    (hname : IsWord b.name)
    (hown : n.ownText text start =
      (ImportHead.clause typeOnly gap b.binding (grid.nameWidth - b.text.length)).text ++ rest) :
    ∃ b' ∈ (n.declaration text start).specifiers, grid.nameWidth < b'.text.length := by
  have hbinding := Specifier.binding_eq_renamed hq hkind hname
  have htext : b.text.length = (q :: m).length + b.name.length + 8 := by
    rw [← b.text_binding, hbinding, Binding.length_text_renamed]
  generalize hspace : grid.nameWidth - b.text.length = space at hown
  have hopening : n.ownText text start = ImportHead.opening typeOnly gap ++
      q :: (m ++ (behindImported b.name space ++ ' ' :: rest)) := by
    rw [hown, hbinding, ImportHead.text_clause, Binding.text_renamed, behindImported, ImportHead.opening]
    simp only [List.append_assoc, List.cons_append]
    rfl
  obtain ⟨b', hb', behind, hread⟩ := hn.exists_imported typeOnly gap hq hopening
  refine ⟨b', hb', ?_⟩
  -- the string takes in what stands behind the name on the line
  have hprefix := prefix_stringContent_append (z := ' ' :: rest ++ behind) hm
    (isPlainIn_of_mem_behindImported hq hname space)
  have hinside :
      (stringContent q .plain (m ++ (behindImported b.name space ++ (' ' :: rest ++ behind)))).length <
        (leadingString (q :: (m ++ (behindImported b.name space ++ ' ' :: rest) ++ behind))).length := by
    simp only [leadingString, List.append_assoc, List.cons_append, List.length_cons, List.length_append]
    omega
  have hlen := Specifier.length_le_of_kind hread
  have hle := hprefix.length_le
  rw [List.length_append, length_behindImported] at hle
  rw [List.length_cons] at htext
  omega

end Wide

/-! ## Declarations on a line -/

section Line

variable {text rest : Text} {start : Nat} {n : ImportNode} {grid : Grid} {u : Declaration}

lemma ImportHead.text_ne_nil (h : ImportHead) : h.text ≠ [] := by
  rcases h with gap | ⟨_ | _, gap, b, space⟩ <;> simp [text_bare, text_clause, marker]

/-- What stands before the path of a line does not show how its binding was written down. -/
lemma Grid.text_head_eq {d : Declaration} (hsingle : u.specifiers.length ≤ 1)
    (htype : d.typeOnly = (grid.head u).typeOnly)
    (hspecifiers : d.specifiers = (grid.head u).binding?.toList.map Binding.specifier) :
    (grid.head d).text = (grid.head u).text := by
  rcases hs : u.specifiers with _ | ⟨b, _ | ⟨b', bs⟩⟩
  · rw [Grid.head_of_eq_nil hs] at hspecifiers ⊢
    rw [Grid.head_of_eq_nil hspecifiers]
  · rw [Grid.head_of_eq_singleton hs] at htype hspecifiers ⊢
    have hmark : b.binding.specifier.typeOnly = false := by
      cases b.binding <;> rfl
    rw [Grid.head_of_eq_singleton hspecifiers, htype, hmark]
    simp only [ImportHead.typeOnly, Bool.or_false, ImportHead.text_clause, Specifier.text_binding,
      Specifier.text_specifier_binding]
  · simp [hs] at hsingle

lemma Specifier.isWellFormed_binding {b : Specifier} (hname : IsWord b.name)
    (himported : ∀ i, b.kind = .namedImport (some i) → IsWord i ∨ IsStringLiteral i) :
    b.binding.IsWellFormed := by
  obtain ⟨_ | _ | (_ | i), name, typeOnly⟩ := b
  · exact hname
  · exact hname
  · exact hname
  · show (if i = [] ∨ i = name then Binding.named name else .renamed i name).IsWellFormed
    split
    · exact hname
    · exact ⟨himported i rfl, hname⟩

/-- If a declaration that fits in the grid begins with the line of another one, this has no exported name
that is not closed. -/
lemma ImportNode.IsReadFrom.isWellFormed_head (hn : n.IsReadFrom text start) (hu : u.HasReadParts)
    (hsingle : u.specifiers.length ≤ 1)
    (hwidth : ∀ b ∈ (n.declaration text start).specifiers, b.text.length ≤ grid.nameWidth)
    (hown : n.ownText text start = (grid.head u).text ++ rest) : (grid.head u).IsWellFormed := by
  rcases hs : u.specifiers with _ | ⟨b, _ | ⟨b', bs⟩⟩
  · rw [Grid.head_of_eq_nil hs]
    exact fun c hc => absurd hc (by simp [ImportHead.binding?])
  · have hb : b ∈ u.specifiers := by simp [hs]
    rw [Grid.head_of_eq_singleton hs] at hown ⊢
    intro c hc
    obtain rfl : b.binding = c := by simpa [ImportHead.binding?] using hc
    refine Specifier.isWellFormed_binding (hu.isWord b hb) fun i hi => ?_
    rcases hu.imported b hb i hi with hword | hliteral | ⟨q, m, z, hq, rfl, hm⟩
    · exact .inl hword
    · exact .inr hliteral
    · -- a name of the declaration would be wider than the grid
      obtain ⟨b', hb', hwide⟩ := hn.exists_wide hq hm hi (hu.isWord b hb) hown
      exact absurd (hwidth b' hb') (Nat.not_le.2 hwide)
  · simp [hs] at hsingle

/-- A declaration that begins with the line of another one and fits in the grid has one binding at most,
and if its text is that line it is laid out on it. -/
theorem ImportNode.IsReadFrom.lines_eq (hn : n.IsReadFrom text start) (hu : u.HasReadParts)
    (hsingle : u.specifiers.length ≤ 1) (hcolumn : u.hasTypeMarker = true → grid.hasTypes = true)
    (hwidth : ∀ b ∈ (n.declaration text start).specifiers, b.text.length ≤ grid.nameWidth)
    (hown : n.ownText text start = (grid.head u).text ++ (u.sourceClause ++ rest))
    (placement : TypePlacement) :
    (n.declaration text start).specifiers.length ≤ 1 ∧
      (rest = [] → grid.lines placement (n.declaration text start) = [n.ownText text start]) := by
  have hwell : (grid.head u).IsWellFormed := hn.isWellFormed_head hu hsingle hwidth hown
  obtain ⟨q, t, hq, hquoted⟩ := hu.isReadString.exists_eq_cons
  obtain ⟨t', hclause⟩ : ∃ t', u.sourceClause = q :: t' := by
    rw [Declaration.sourceClause, hquoted]
    cases u.attributes with
    | none => exact ⟨t, rfl⟩
    | some a => exact ⟨t ++ ' ' :: a, rfl⟩
  obtain ⟨htype, hspecifiers, hpath⟩ := hn.head (grid.head u) q (t' ++ rest) hwell hq (by
    rw [hown, hclause, List.cons_append])
  have hdeclared : (n.declaration text start).specifiers =
      (grid.head u).binding?.toList.map Binding.specifier := hspecifiers
  have hlength : (n.declaration text start).specifiers.length ≤ 1 := by
    rw [hdeclared, List.length_map]
    cases (grid.head u).binding? <;> simp
  refine ⟨hlength, ?_⟩
  rintro rfl
  rw [List.append_nil] at hown
  have hmarker : (n.declaration text start).hasTypeMarker = true → grid.hasTypes = true := by
    intro h
    rw [Declaration.hasTypeMarker_eq_isTypeOnly hsingle] at hcolumn
    refine hcolumn (grid.isTypeOnly_of_typeOnly_head hsingle (htype ▸ ?_))
    have hnone : (n.declaration text start).specifiers.any (·.typeOnly) = false := by
      rw [hdeclared, List.any_map]
      cases (grid.head u).binding? with
      | none => rfl
      | some b => cases b <;> rfl
    rw [Declaration.hasTypeMarker, hnone, Bool.or_false] at h
    exact h
  rw [Grid.lines_eq_head hlength hmarker, Grid.text_head_eq hsingle htype hdeclared,
    hn.sourceClause_eq hu (grid.head u).text_ne_nil hpath hown, hown]

end Line

end ImportGrid
