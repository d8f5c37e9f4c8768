/-
Matchers as a map that keeps the order of insertion.

Inserting a matcher changes what one name stands for, and nothing else: a name that is there keeps its
place, a new one goes to the end.  After any insertions the names are therefore those of before and then
the new ones in the order in which each was first inserted, a name has the predicate that was inserted
for it last, and the category of a path is the first name whose predicate accepts it
(`holdsInsertions_insertAll`).

A configuration file inserts the entries of its table of matchers into the default ones, in the order of
the file, if every entry is a string that can be read as a regular expression, and is refused otherwise
(`insertMatchers_eq_ok_iff`).  This is so with any readers of documents and of regular expressions, if no
key stands at the root of a document twice (`ConfigReaders.HasDistinctKeys`): then there is one such
table, and what the file leaves out stays as it is by default.
-/
import Mathlib.Data.List.Find
import Mathlib.Data.List.Forall2
import Mathlib.Data.List.Induction
import Mathlib.Data.List.Nodup
import Mathlib.Tactic.Common
import ImportGrid.ConfigFile
import ImportGrid.Proofs.DocumentKeys

namespace ImportGrid

/-! ## Insertions -/

/-- What a name stands for: the predicate of the first matcher of that name. -/
def predicateOf? (n : Text) (ms : List Matcher) : Option Predicate :=
  (ms.find? (·.name == n)).map (·.predicate)

namespace Config

/-- The matchers after a sequence of insertions. -/
def insertAll (ms inserted : List Matcher) : List Matcher :=
  inserted.foldl (fun ms m => insertMatcher m ms) ms

/-- The names after insertions: those of before, then the new ones in the order of their first insertion. -/
def namesAfter (original inserted : List Matcher) : List Text :=
  original.map (·.name) ++
    ((inserted.map (·.name)).filter fun n => !(original.map (·.name)).contains n).eraseDups

/-- What a name stands for after insertions: the predicate inserted last, or else that of before. -/
def predicateAfter? (original inserted : List Matcher) (n : Text) : Option Predicate :=
  (predicateOf? n inserted.reverse).or (predicateOf? n original)

/-- Matchers that hold what was inserted into the original ones, as a map that keeps its order. -/
structure HoldsInsertions (original inserted ms : List Matcher) : Prop where
  /-- There is one matcher of a name. -/
  nodup : (ms.map (·.name)).Nodup
  /-- New names stand behind those of before, in the order of their first insertion. -/
  names_eq : ms.map (·.name) = namesAfter original inserted
  /-- A name stands for what was inserted last. -/
  predicateOf?_eq : ∀ n, predicateOf? n ms = predicateAfter? original inserted n
  /-- The category of a path is the first name that stands for a predicate that accepts it. -/
  categorize_eq : ∀ path, categorize ms path =
    ((namesAfter original inserted).find? fun n =>
      (predicateAfter? original inserted n).any (·.accepts path)).getD unqualified

/-- No name comes twice by an insertion. -/
lemma nodup_names_insertMatcher {ms : List Matcher} (m : Matcher) (hn : (ms.map (·.name)).Nodup) :
    ((insertMatcher m ms).map (·.name)).Nodup := by
  rw [names_insertMatcher]
  split
  · exact hn
  · next hm =>
    have hconcat := List.Nodup.concat hm hn
    rwa [List.concat_eq_append] at hconcat

lemma predicateOf?_cons (m : Matcher) (ms : List Matcher) (n : Text) :
    predicateOf? n (m :: ms) = if m.name = n then some m.predicate else predicateOf? n ms := by
  by_cases hm : m.name = n
  · simp [predicateOf?, hm]
  · simp [predicateOf?, hm]

/-- An insertion changes what its own name stands for. -/
lemma predicateOf?_insertMatcher (m : Matcher) (ms : List Matcher) (n : Text) :
    predicateOf? n (insertMatcher m ms) =
      if m.name = n then some m.predicate else predicateOf? n ms := by
  induction ms with
  | nil => rw [insertMatcher, predicateOf?_cons]
  | cons k ms ih =>
    rw [insertMatcher]
    split
    · next hk =>
      -- the new matcher hides the old one of its name
      rw [predicateOf?_cons, predicateOf?_cons, hk]
      split <;> rfl
    · next hk =>
      rw [predicateOf?_cons, predicateOf?_cons, ih]
      by_cases hkn : k.name = n
      · rw [if_pos hkn, if_pos hkn, if_neg fun hm => hk (hkn.trans hm.symm)]
      · rw [if_neg hkn, if_neg hkn]

/-- A repeated element is dropped where it stands behind the first. -/
lemma eraseDups_append_singleton {α : Type} [BEq α] [LawfulBEq α] (l : List α) (a : α) :
    (l ++ [a]).eraseDups = if a ∈ l then l.eraseDups else l.eraseDups ++ [a] := by
  rw [List.eraseDups_append]
  by_cases ha : a ∈ l
  · simp [List.removeAll, ha]
  · simp [List.removeAll, List.eraseDups_cons, ha]

lemma namesAfter_append_singleton (original inserted : List Matcher) (m : Matcher) :
    namesAfter original (inserted ++ [m]) =
      if m.name ∈ namesAfter original inserted then namesAfter original inserted
      else namesAfter original inserted ++ [m.name] := by
  by_cases ho : m.name ∈ original.map (·.name)
  · have hdrop : [m.name].filter (fun n => !(original.map (·.name)).contains n) = [] := by
      simpa using ho
    have hmem : m.name ∈ namesAfter original inserted := List.mem_append_left _ ho
    rw [if_pos hmem, namesAfter, List.map_append, List.filter_append, List.map_singleton, hdrop,
      List.append_nil]
    rfl
  · have hkeep : [m.name].filter (fun n => !(original.map (·.name)).contains n) = [m.name] := by
      simpa using ho
    have hmem : m.name ∈ namesAfter original inserted ↔
        m.name ∈ (inserted.map (·.name)).filter fun n => !(original.map (·.name)).contains n := by
      rw [namesAfter, List.mem_append, List.mem_eraseDups]
      exact or_iff_right ho
    rw [namesAfter, List.map_append, List.filter_append, List.map_singleton, hkeep,
      eraseDups_append_singleton]
    simp only [hmem]
    split
    · rfl
    · rw [namesAfter, List.append_assoc]

lemma insertAll_append_singleton (original inserted : List Matcher) (m : Matcher) :
    insertAll original (inserted ++ [m]) = insertMatcher m (insertAll original inserted) := by
  rw [insertAll, List.foldl_append]
  rfl

/-- The names that a sequence of insertions leaves. -/
lemma names_insertAll (original inserted : List Matcher) :
    (insertAll original inserted).map (·.name) = namesAfter original inserted := by
  induction inserted using List.reverseRecOn with
  | nil => simp [insertAll, namesAfter]
  | append_singleton inserted m ih =>
    rw [insertAll_append_singleton, names_insertMatcher, namesAfter_append_singleton, ih]

lemma nodup_names_insertAll {original : List Matcher} (hn : (original.map (·.name)).Nodup)
    (inserted : List Matcher) : ((insertAll original inserted).map (·.name)).Nodup := by
  induction inserted using List.reverseRecOn with
  | nil => exact hn
  | append_singleton inserted m ih =>
    rw [insertAll_append_singleton]
    exact nodup_names_insertMatcher m ih

/-- What names stand for after a sequence of insertions. -/
lemma predicateOf?_insertAll (original inserted : List Matcher) (n : Text) :
    predicateOf? n (insertAll original inserted) = predicateAfter? original inserted n := by
  induction inserted using List.reverseRecOn with
  | nil => rfl
  | append_singleton inserted m ih =>
    rw [insertAll_append_singleton, predicateOf?_insertMatcher, ih, predicateAfter?, predicateAfter?,
      List.reverse_concat, predicateOf?_cons]
    split <;> rfl

/-- If no name occurs twice, each matcher is what its name stands for. -/
lemma predicateOf?_of_mem {ms : List Matcher} (hn : (ms.map (·.name)).Nodup) {m : Matcher}
    (hm : m ∈ ms) : predicateOf? m.name ms = some m.predicate := by
  obtain ⟨k, hk⟩ := Option.isSome_iff_exists.1
    (List.find?_isSome.2 ⟨m, hm, beq_self_eq_true m.name⟩ : (ms.find? (·.name == m.name)).isSome = true)
  have hname : k.name = m.name := by simpa using List.find?_some hk
  obtain rfl := List.inj_on_of_nodup_map hn (List.mem_of_find?_eq_some hk) hm hname
  rw [predicateOf?, hk, Option.map_some]

/-- The category of a path is the first name whose predicate accepts it. -/
lemma categorize_eq_find? {ms : List Matcher} (hn : (ms.map (·.name)).Nodup) (path : Text) :
    categorize ms path =
      ((ms.map (·.name)).find? fun n => (predicateOf? n ms).any (·.accepts path)).getD unqualified := by
  have hfind : ms.find? (·.accepts path) =
      ms.find? fun m => (predicateOf? m.name ms).any (·.accepts path) := by
    refine List.find?_congr fun m hm => ?_
    rw [predicateOf?_of_mem hn hm]
    rfl
  rw [List.find?_map, categorize, hfind, Function.comp_def]
  cases ms.find? fun m => (predicateOf? m.name ms).any (·.accepts path) <;> rfl

/-- After insertions, matchers with distinct names hold what was inserted. -/
theorem holdsInsertions_insertAll {original : List Matcher} (hn : (original.map (·.name)).Nodup)
    (inserted : List Matcher) : HoldsInsertions original inserted (insertAll original inserted) where
  nodup := nodup_names_insertAll hn inserted
  names_eq := names_insertAll original inserted
  predicateOf?_eq := predicateOf?_insertAll original inserted
  categorize_eq path := by
    rw [categorize_eq_find? (nodup_names_insertAll hn inserted), names_insertAll]
    simp only [predicateOf?_insertAll]

/-- Adding matchers to a configuration inserts them. -/
lemma matchers_foldl_withMatcher (c : Config) (inserted : List Matcher) :
    (inserted.foldl withMatcher c).matchers = insertAll c.matchers inserted := by
  induction inserted generalizing c with
  | nil => rfl
  | cons m inserted ih => exact ih (c.withMatcher m)

end Config

/-! ## Configuration files -/

namespace ConfigReaders

open Config

variable {r : ConfigReaders}

/-- A matcher that an entry of a file gives: its name with its value read as a regular expression. -/
def IsMatcherOf (r : ConfigReaders) (entry : Text × Toml.Value) (m : Matcher) : Prop :=
  ∃ pattern p, entry.2 = .string pattern ∧ r.pattern? pattern = some p ∧ m = ⟨entry.1, .pattern p⟩

/-- The first entry is inserted before the others. -/
lemma insertMatchers_cons_eq_ok_iff {entry : Text × Toml.Value} {rest : Toml.Entries}
    {ms ms' : List Matcher} :
    r.insertMatchers (entry :: rest) ms = .ok ms' ↔
      ∃ m, r.IsMatcherOf entry m ∧ r.insertMatchers rest (insertMatcher m ms) = .ok ms' := by
  obtain ⟨name, value⟩ := entry
  cases value with
  | string pattern =>
    rw [insertMatchers, matcher]
    cases hp : r.pattern? pattern with
    | none => simp [IsMatcherOf, hp]
    | some p => simp [IsMatcherOf, hp]
  | _ => simp [insertMatchers, IsMatcherOf]

/-- The entries of a file are inserted in order, if each of them gives a matcher. -/
theorem insertMatchers_eq_ok_iff {entries : Toml.Entries} {ms ms' : List Matcher} :
    r.insertMatchers entries ms = .ok ms' ↔
      ∃ inserted, List.Forall₂ r.IsMatcherOf entries inserted ∧ ms' = insertAll ms inserted := by
  induction entries generalizing ms with
  | nil =>
    rw [insertMatchers]
    constructor
    · rintro ⟨⟩
      exact ⟨[], .nil, rfl⟩
    · rintro ⟨_, ⟨⟩, rfl⟩
      rfl
  | cons entry rest ih =>
    rw [insertMatchers_cons_eq_ok_iff]
    constructor
    · rintro ⟨m, hm, h⟩
      obtain ⟨inserted, hrest, rfl⟩ := ih.1 h
      exact ⟨m :: inserted, .cons hm hrest, rfl⟩
    · rintro ⟨_, h, rfl⟩
      obtain ⟨m, inserted, hm, hrest, rfl⟩ := List.forall₂_cons_left_iff.1 h
      exact ⟨m, hm, ih.2 ⟨inserted, hrest, rfl⟩⟩

end ConfigReaders

namespace ConfigFile

open Toml.Entries

/-- What a key of the root table does: it sets one part of the file. -/
lemma ofEntries_cons_eq_ok {f g : ConfigFile} {key : Text} {value : Toml.Value} {rest : Toml.Entries}
    (h : ofEntries f ((key, value) :: rest) = .ok g) :
    (key = "order".toList ∧ ∃ order, ofEntries { f with order := some order } rest = .ok g) ∨
    (key = "type-imports-first".toList ∧
      ∃ p, ofEntries { f with typeImports := some p } rest = .ok g) ∨
    (key = "matchers".toList ∧ ∃ form entries, value = .table form entries ∧
      ofEntries { f with matchers := entries } rest = .ok g) := by
  unfold ofEntries at h
  split at h
  · next hkey =>
    split at h
    · split at h
      · exact .inl ⟨hkey, _, h⟩
      · cases h
    · cases h
  · split at h
    · next hkey =>
      split at h
      · exact .inr (.inl ⟨hkey, _, h⟩)
      · cases h
    · split at h
      · next hkey =>
        split at h
        · exact .inr (.inr ⟨hkey, _, _, rfl, h⟩)
        · cases h
      · cases h

/-- What a document leaves out stays as it was. -/
lemma eq_of_notMem_keys {f g : ConfigFile} {es : Toml.Entries} (h : ofEntries f es = .ok g) :
    ("order".toList ∉ keys es → g.order = f.order) ∧
    ("type-imports-first".toList ∉ keys es → g.typeImports = f.typeImports) ∧
    ("matchers".toList ∉ keys es → g.matchers = f.matchers) := by
  induction es generalizing f with
  | nil =>
    rw [ofEntries] at h
    cases h
    exact ⟨fun _ => rfl, fun _ => rfl, fun _ => rfl⟩
  | cons entry rest ih =>
    obtain ⟨key, value⟩ := entry
    have hrest : ∀ k, k ∉ keys ((key, value) :: rest) → k ≠ key ∧ k ∉ keys rest := by
      intro k hk
      simpa [keys] using hk
    rcases ofEntries_cons_eq_ok h with ⟨rfl, order, h'⟩ | ⟨rfl, p, h'⟩ | ⟨rfl, form, entries, -, h'⟩
    all_goals
      obtain ⟨horder, htypes, hmatchers⟩ := ih h'
      refine ⟨fun hk => ?_, fun hk => ?_, fun hk => ?_⟩
    · exact absurd rfl (hrest _ hk).1
    · exact htypes (hrest _ hk).2
    · exact hmatchers (hrest _ hk).2
    · exact horder (hrest _ hk).2
    · exact absurd rfl (hrest _ hk).1
    · exact hmatchers (hrest _ hk).2
    · exact horder (hrest _ hk).2
    · exact htypes (hrest _ hk).2
    · exact absurd rfl (hrest _ hk).1

/-- The matchers of a file are the entries of its table of matchers. -/
lemma matchers_eq_below {f g : ConfigFile} {es : Toml.Entries} (hn : (keys es).Nodup)
    (hf : f.matchers = []) (h : ofEntries f es = .ok g) : g.matchers = below "matchers".toList es := by
  induction es generalizing f with
  | nil =>
    rw [ofEntries] at h
    cases h
    exact hf
  | cons entry rest ih =>
    obtain ⟨key, value⟩ := entry
    obtain ⟨hkey, hrest⟩ := List.nodup_cons.1 hn
    have hbelow : key ≠ "matchers".toList →
        below "matchers".toList ((key, value) :: rest) = below "matchers".toList rest := by
      intro hne
      rw [below, get?, List.lookup_cons, beq_eq_false_iff_ne.2 (Ne.symm hne)]
      rfl
    rcases ofEntries_cons_eq_ok h with ⟨rfl, order, h'⟩ | ⟨rfl, p, h'⟩ | ⟨rfl, form, entries, rfl, h'⟩
    · rw [hbelow (by decide)]
      refine ih hrest ?_ h'
      exact hf
    · rw [hbelow (by decide)]
      refine ih hrest ?_ h'
      exact hf
    · rw [(eq_of_notMem_keys h').2.2 hkey, below, get?, List.lookup_cons_self]

end ConfigFile

/-- Each entry gives a matcher if all of them do, one for one. -/
lemma exists_forall₂_iff {α β : Type} {R : α → β → Prop} {l : List α} :
    (∃ l', List.Forall₂ R l l') ↔ ∀ a ∈ l, ∃ b, R a b := by
  induction l with
  | nil => exact iff_of_true ⟨[], .nil⟩ (by simp)
  | cons a l ih =>
    rw [List.forall_mem_cons, ← ih]
    constructor
    · rintro ⟨_, h⟩
      obtain ⟨b, l', hb, hl, -⟩ := List.forall₂_cons_left_iff.1 h
      exact ⟨⟨b, hb⟩, l', hl⟩
    · rintro ⟨⟨b, hb⟩, l', hl⟩
      exact ⟨b :: l', .cons hb hl⟩

namespace ConfigReaders

open Config Toml.Entries

variable {r : ConfigReaders}

/-- No key stands at the root of a document twice. -/
def HasDistinctKeys (r : ConfigReaders) : Prop :=
  ∀ t document, r.document? t = some document → (keys document).Nodup

lemma hasDistinctKeys_standard : standard.HasDistinctKeys := fun _ _ h =>
  Toml.nodup_keys_of_readDocument? h

/-- What is merged into a configuration: the matchers are inserted, and a part that the file leaves out is
kept. -/
lemma merge_eq_ok_iff {f : ConfigFile} {c d : Config} :
    r.merge f c = .ok d ↔
      ∃ inserted, List.Forall₂ r.IsMatcherOf f.matchers inserted ∧
        d = { matchers := insertAll c.matchers inserted
              order := f.order.getD c.order
              typeImports := f.typeImports.getD c.typeImports } := by
  have hms : r.merge f c = .ok d ↔ ∃ ms, r.insertMatchers f.matchers c.matchers = .ok ms ∧
      d = { matchers := ms
            order := f.order.getD c.order
            typeImports := f.typeImports.getD c.typeImports } := by
    rw [merge]
    cases r.insertMatchers f.matchers c.matchers with
    | ok ms => simp [eq_comm]
    | error e => simp
  rw [hms]
  constructor
  · rintro ⟨ms, h, rfl⟩
    obtain ⟨inserted, hinserted, rfl⟩ := insertMatchers_eq_ok_iff.1 h
    exact ⟨inserted, hinserted, rfl⟩
  · rintro ⟨inserted, hinserted, rfl⟩
    exact ⟨_, insertMatchers_eq_ok_iff.2 ⟨inserted, hinserted, rfl⟩, rfl⟩

lemma config_eq_ok_iff {t : Text} {c : Config} :
    r.config t = .ok c ↔ ∃ f, r.file t = .ok f ∧ r.merge f .default = .ok c := by
  rw [config]
  cases r.file t <;> simp

/-- What a document says. -/
lemma exists_document_of_file (hr : r.HasDistinctKeys) {t : Text} {f : ConfigFile}
    (h : r.file t = .ok f) :
    ∃ document, r.document? t = some document ∧
      ("order".toList ∉ keys document → f.order = none) ∧
      ("type-imports-first".toList ∉ keys document → f.typeImports = none) ∧
      f.matchers = below "matchers".toList document := by
  rw [file] at h
  cases hdocument : r.document? t with
  | none => simp [hdocument] at h
  | some document =>
    rw [hdocument] at h
    obtain ⟨horder, htypes, -⟩ := ConfigFile.eq_of_notMem_keys h
    exact ⟨document, rfl, horder, htypes,
      ConfigFile.matchers_eq_below (hr t document hdocument) rfl h⟩

end ConfigReaders

open Config Toml.Entries

/-- Matchers are a map that keeps the order of insertion.  Whatever is added to a configuration whose
matchers have distinct names, the new names stand behind those of before in the order of their first
insertion, and each name stands for what was inserted last.  A configuration file adds the entries of its
table of matchers to the default ones, in the order of the file, and keeps the default where it is silent.
If its keys are known and their values have the right types, it is accepted exactly when every such entry
is a string that reads as a regular expression. -/
theorem holdsInsertions_withMatcher_and_config (r : ConfigReaders) (hr : r.HasDistinctKeys) :
    (∀ (c : Config) (inserted : List Matcher), (c.matchers.map (·.name)).Nodup →
      HoldsInsertions c.matchers inserted (inserted.foldl withMatcher c).matchers) ∧
    (∀ (t : Text) (c : Config), r.config t = .ok c →
      ∃ document inserted, r.document? t = some document ∧
        List.Forall₂ r.IsMatcherOf (below "matchers".toList document) inserted ∧
        HoldsInsertions defaultMatchers inserted c.matchers ∧
        ("order".toList ∉ keys document → c.order = Config.default.order) ∧
        ("type-imports-first".toList ∉ keys document →
          c.typeImports = Config.default.typeImports)) ∧
    ∀ (t : Text) (f : ConfigFile), r.file t = .ok f →
      ∃ document, r.document? t = some document ∧
        ((∃ c, r.config t = .ok c) ↔
          ∀ entry ∈ below "matchers".toList document, ∃ m, r.IsMatcherOf entry m) := by
  refine ⟨?_, ?_, ?_⟩
  · intro c inserted hn
    rw [matchers_foldl_withMatcher]
    exact holdsInsertions_insertAll hn inserted
  · intro t c h
    obtain ⟨f, hf, hc⟩ := ConfigReaders.config_eq_ok_iff.1 h
    obtain ⟨inserted, hinserted, rfl⟩ := ConfigReaders.merge_eq_ok_iff.1 hc
    obtain ⟨document, hdocument, horder, htypes, hmatchers⟩ :=
      ConfigReaders.exists_document_of_file hr hf
    refine ⟨document, inserted, hdocument, hmatchers ▸ hinserted,
      holdsInsertions_insertAll (by decide) inserted, fun hk => ?_, fun hk => ?_⟩
    · simp only [horder hk, Option.getD_none]
    · simp only [htypes hk, Option.getD_none]
  · intro t f hf
    obtain ⟨document, hdocument, -, -, hmatchers⟩ := ConfigReaders.exists_document_of_file hr hf
    refine ⟨document, hdocument, ?_⟩
    rw [← hmatchers, ← exists_forall₂_iff]
    constructor
    · rintro ⟨c, h⟩
      obtain ⟨g, hg, hc⟩ := ConfigReaders.config_eq_ok_iff.1 h
      obtain ⟨inserted, hinserted, -⟩ := ConfigReaders.merge_eq_ok_iff.1 hc
      obtain rfl : f = g := Except.ok.inj (hf.symm.trans hg)
      exact ⟨inserted, hinserted⟩
    · rintro ⟨inserted, hinserted⟩
      exact ⟨_, ConfigReaders.config_eq_ok_iff.2
        ⟨f, hf, ConfigReaders.merge_eq_ok_iff.2 ⟨inserted, hinserted, rfl⟩⟩⟩

/-- A file with one more matcher and another pattern for one of the default matchers. -/
def internalFile : Text :=
  "[matchers]\ninternal = '^@app/'\nnode = '^deno:'\n".toList

theorem holdsInsertions_withMatcher_and_config_internalFile :
    ConfigReaders.standard.HasDistinctKeys ∧
    (Config.default.matchers.map (·.name)).Nodup ∧
    HoldsInsertions defaultMatchers [⟨"local".toList, .relative⟩, ⟨"relative".toList, .node⟩]
      ([⟨"local".toList, .relative⟩, ⟨"relative".toList, .node⟩].foldl withMatcher .default).matchers ∧
    ∃ c document inserted, ConfigReaders.standard.config internalFile = .ok c ∧
      ConfigReaders.standard.document? internalFile = some document ∧
      keys document = ["matchers".toList] ∧
      (∀ entry ∈ below "matchers".toList document,
        ∃ m, ConfigReaders.standard.IsMatcherOf entry m) ∧
      List.Forall₂ ConfigReaders.standard.IsMatcherOf (below "matchers".toList document) inserted ∧
      HoldsInsertions defaultMatchers inserted c.matchers ∧
      c.order = Config.default.order ∧ c.typeImports = Config.default.typeImports := by
  have hn : (Config.default.matchers.map (·.name)).Nodup := by decide
  have haccepted : (ConfigReaders.standard.config internalFile).isOk = true := by decide +kernel
  have hkeys : (ConfigReaders.standard.document? internalFile).map keys =
      some ["matchers".toList] := by decide +kernel
  obtain ⟨hadd, hread, haccept⟩ := holdsInsertions_withMatcher_and_config ConfigReaders.standard
    ConfigReaders.hasDistinctKeys_standard
  obtain ⟨c, hc⟩ : ∃ c, ConfigReaders.standard.config internalFile = .ok c := by
    cases h : ConfigReaders.standard.config internalFile with
    | ok c => exact ⟨c, rfl⟩
    | error e => simp [h, Except.isOk, Except.toBool] at haccepted
  obtain ⟨f, hf, -⟩ := ConfigReaders.config_eq_ok_iff.1 hc
  obtain ⟨document, inserted, hdocument, hinserted, hholds, horder, htypes⟩ := hread _ c hc
  obtain ⟨document', hdocument', hiff⟩ := haccept _ f hf
  obtain rfl : document = document' := Option.some.inj (hdocument.symm.trans hdocument')
  rw [hdocument, Option.map_some, Option.some.injEq] at hkeys
  exact ⟨ConfigReaders.hasDistinctKeys_standard, hn, hadd .default _ hn, c, document, inserted, hc,
    hdocument, hkeys, hiff.1 ⟨c, hc⟩, hinserted, hholds, horder (hkeys ▸ by decide),
    htypes (hkeys ▸ by decide)⟩

end ImportGrid
