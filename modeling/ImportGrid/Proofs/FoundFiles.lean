/-
The source files of a folder.

A file below a folder is found if its name has the extension of a source file and no folder on the way
to it is passed over; neither the name of the folder itself nor a leading dot of the file's name matters.
The search answers with paths: those of the files in the listing of the tree that stand at places where
files are found (`FileTree.sourceFiles_eq`).  The listing has every file once (`FileTree.mem_files_iff`,
`FileTree.nodup_files`), and names put behind the path of a folder lead where they lead in its tree
(`Disk.place?_joinAll`), so different files have different paths and every file is found once
(`Disk.sourceFiles?_folder`).

Entries of a folder have different names, and names that can be pieces of a path (`FileTree.IsProper`).
Nothing is assumed of their order.
-/
import ImportGrid.Proofs.DiskView
import Mathlib.Data.List.Nodup
import Mathlib.Data.List.TakeWhile

namespace ImportGrid

/-! ## Names and paths -/

/-- A name that an entry of a folder can have. -/
structure IsFileName (name : Text) : Prop where
  ne_nil : name ≠ []
  ne_dot : name ≠ ['.']
  ne_dots : name ≠ ['.', '.']
  notMem_slash : '/' ∉ name

instance (name : Text) : Decidable (IsFileName name) :=
  decidable_of_iff (name ≠ [] ∧ name ≠ ['.'] ∧ name ≠ ['.', '.'] ∧ '/' ∉ name)
    ⟨fun h => ⟨h.1, h.2.1, h.2.2.1, h.2.2.2⟩, fun h => ⟨h.1, h.2, h.3, h.4⟩⟩

namespace Path

/-- A path with names put behind it. -/
def joinAll (path : Text) (names : List Text) : Text := names.foldl join path

section Join

variable {path name : Text}

/-- A name is put behind a path with a slash between them, unless there is one. -/
lemma exists_join_eq (hpath : path ≠ []) (hname : '/' ∉ name) :
    ∃ front, join path name = front ++ '/' :: name ∧ (path = front ∨ path = front ++ ['/']) := by
  have hhead : ¬ name.head? = some '/' := fun h => hname (List.mem_of_head? h)
  unfold join
  rw [if_neg hhead, if_neg hpath]
  split
  · next hlast =>
    obtain ⟨front, rfl⟩ := List.getLast?_eq_some_iff.1 hlast
    exact ⟨front, by simp, .inr rfl⟩
  · exact ⟨path, rfl, .inl rfl⟩

/-- A name put behind a path is its last piece, and stands in the place of an empty one. -/
lemma exists_pieces_join (hpath : path ≠ []) (hname : '/' ∉ name) :
    ∃ before, pieces (join path name) = before ++ [name] ∧
      (pieces path = before ∨ pieces path = before ++ [[]]) := by
  obtain ⟨front, hjoin, hfront⟩ := exists_join_eq hpath hname
  refine ⟨pieces front, ?_, ?_⟩
  · rw [hjoin, pieces, splitOn_append_cons, splitOn_of_notMem hname, pieces]
  · rcases hfront with rfl | rfl
    · exact .inl rfl
    · exact .inr (splitOn_append_cons '/' front [])

lemma head?_join (hpath : path ≠ []) (hname : '/' ∉ name) : (join path name).head? = path.head? := by
  obtain ⟨front, hjoin, rfl | rfl⟩ := exists_join_eq hpath hname
  · rw [hjoin, List.head?_append_of_ne_nil _ hpath]
  · rw [hjoin]
    cases front <;> rfl

lemma join_ne_nil (hpath : path ≠ []) (hname : '/' ∉ name) : join path name ≠ [] := by
  obtain ⟨front, hjoin, -⟩ := exists_join_eq hpath hname
  simp [hjoin]

end Join

/-- A name is cut at its last dot, and not if this begins the name. -/
lemma splitExtension?_eq_some_iff {name stem extension : Text} :
    splitExtension? name = some (stem, extension) ↔
      stem ≠ [] ∧ '.' ∉ extension ∧ name = stem ++ '.' :: extension := by
  constructor
  · intro h
    by_cases hdot : '.' ∈ name.reverse
    · obtain ⟨rest, front, hname, hrest⟩ := List.eq_append_cons_of_mem hdot
      obtain rfl : name = front.reverse ++ '.' :: rest.reverse := by
        rw [← List.reverse_reverse name, hname]
        simp
      have hext : '.' ∉ rest.reverse := by simpa using hrest
      rw [splitExtension?_append hext, Option.ite_none_left_eq_some, Option.some.injEq,
        Prod.mk.injEq] at h
      obtain ⟨hstem, rfl, rfl⟩ := h
      exact ⟨hstem, hext, rfl⟩
    · have hall : name.reverse.takeWhile (· != '.') = name.reverse :=
        List.takeWhile_eq_self_iff.2 fun c hc => bne_iff_ne.2 fun he => hdot (he ▸ hc)
      simp [splitExtension?, hall] at h
  · rintro ⟨hstem, hext, rfl⟩
    rw [splitExtension?_append hext, if_neg hstem]

end Path

/-! ## Names of source files -/

/-- The extension of a source file stands behind a dot of the name that does not begin it. -/
def HasSourceExtension (name : Text) : Prop :=
  ∃ stem, stem ≠ [] ∧ ∃ extension ∈ sourceExtensions, name = stem ++ '.' :: extension

lemma notMem_dot_of_mem_sourceExtensions {extension : Text} (h : extension ∈ sourceExtensions) :
    '.' ∉ extension := by
  have hall : ∀ e ∈ sourceExtensions, '.' ∉ e := by decide
  exact hall extension h

lemma isSourcePlace_append_singleton (folders : List Text) (name : Text) :
    isSourcePlace (folders ++ [name]) = true ↔ HasSourceExtension name := by
  rw [isSourcePlace, List.getLast?_concat, Option.any_some, Option.any_eq_true]
  constructor
  · rintro ⟨⟨stem, extension⟩, hsplit, hmem⟩
    obtain ⟨hstem, -, hname⟩ := Path.splitExtension?_eq_some_iff.1 hsplit
    exact ⟨stem, hstem, extension, List.contains_iff_mem.1 hmem, hname⟩
  · rintro ⟨stem, hstem, extension, hmem, hname⟩
    exact ⟨(stem, extension),
      Path.splitExtension?_eq_some_iff.2 ⟨hstem, notMem_dot_of_mem_sourceExtensions hmem, hname⟩,
      List.contains_iff_mem.2 hmem⟩

/-- Whether a path has the extension of a source file is told by the name put last. -/
lemma isSourcePath_join {path name : Text} (hpath : path ≠ []) (hname : IsFileName name) :
    isSourcePath (Path.join path name) = isSourcePlace [name] := by
  obtain ⟨before, hp, -⟩ := Path.exists_pieces_join hpath hname.notMem_slash
  exact isSourcePath_eq hp hname.ne_nil hname.ne_dot hname.ne_dots []

namespace FileTree

/-! ## Trees -/

/-- In every folder of a tree the entries have different names, and names that entries can have. -/
inductive IsProper : FileTree → Prop
  | file (content : Content) : IsProper (file content)
  | folder {entries : List (Text × FileTree)} (nodup : (entries.map (·.1)).Nodup)
      (names : ∀ e ∈ entries, IsFileName e.1) (trees : ∀ e ∈ entries, IsProper e.2) :
      IsProper (folder entries)

lemma isProper_folder_iff {entries : List (Text × FileTree)} :
    (folder entries).IsProper ↔ (entries.map (·.1)).Nodup ∧ (∀ e ∈ entries, IsFileName e.1) ∧
      ∀ e ∈ entries, e.2.IsProper :=
  ⟨fun | .folder nodup names trees => ⟨nodup, names, trees⟩, fun ⟨nodup, names, trees⟩ =>
    .folder nodup names trees⟩

mutual

/-- Whether a tree is proper is decided folder by folder. -/
def decideIsProper : (t : FileTree) → Decidable t.IsProper
  | file c => isTrue (.file c)
  | folder entries =>
    have := decideAllProper entries
    decidable_of_iff _ isProper_folder_iff.symm

def decideAllProper : (entries : List (Text × FileTree)) → Decidable (∀ e ∈ entries, e.2.IsProper)
  | [] => isTrue fun _ he => absurd he List.not_mem_nil
  | (_, t) :: rest =>
    have := decideIsProper t
    have := decideAllProper rest
    decidable_of_iff _ List.forall_mem_cons.symm

end

instance (t : FileTree) : Decidable t.IsProper := decideIsProper t

variable {entries : List (Text × FileTree)} {t u : FileTree} {name : Text} {place : List Text}

/-- Where names do not repeat, every entry is found by its name. -/
lemma lookup_eq_some_iff_mem (h : (entries.map (·.1)).Nodup) :
    entries.lookup name = some t ↔ (name, t) ∈ entries := by
  induction entries with
  | nil => simp
  | cons e rest ih =>
    obtain ⟨n, u⟩ := e
    rw [List.map_cons, List.nodup_cons] at h
    rw [List.lookup_cons, List.mem_cons, Prod.mk.injEq]
    by_cases hn : name = n
    · subst hn
      have hnot : (name, t) ∉ rest := fun hmem => h.1 (List.mem_map.2 ⟨_, hmem, rfl⟩)
      simp [hnot, eq_comm]
    · rw [beq_false_of_ne hn]
      simp [hn, ih h.2]

/-- What stands below a folder stands at or below one of its entries. -/
lemma get?_folder_cons (h : (entries.map (·.1)).Nodup) :
    (folder entries).get? (name :: place) = some u ↔
      ∃ t, (name, t) ∈ entries ∧ t.get? place = some u := by
  rw [get?, entry?, Option.bind_eq_some_iff]
  simp only [lookup_eq_some_iff_mem h]

/-! ## The listing of a tree -/

/-- The files at and below an entry of a folder. -/
def filesUnder (name : Text) : FileTree → List (List Text × Content)
  | file c => [([name], c)]
  | folder entries => (folder entries).files.map fun p => (name :: p.1, p.2)

lemma entryDescendants_eq (entries : List (Text × FileTree)) :
    entryDescendants entries = entries.flatMap fun e =>
      ([e.1], e.2) :: e.2.descendants.map fun p => (e.1 :: p.1, p.2) := by
  induction entries with
  | nil => simp [entryDescendants]
  | cons e rest ih => simp [entryDescendants, ih]

/-- A folder has the files of its entries. -/
lemma files_folder (entries : List (Text × FileTree)) :
    (folder entries).files = entries.flatMap fun e => e.2.filesUnder e.1 := by
  rw [files, descendants, entryDescendants_eq, List.filterMap_flatMap]
  refine List.flatMap_congr fun e _ => ?_
  obtain ⟨name, c | inner⟩ := e
  · rfl
  · rw [filesUnder, files, List.map_filterMap, List.filterMap_cons_none rfl, List.filterMap_map]
    refine List.filterMap_congr fun p _ => ?_
    obtain ⟨q, c | _⟩ := p <;> rfl

lemma mem_filesUnder_iff {c : Content}
    (h : ∀ q, (q, c) ∈ t.files ↔ q ≠ [] ∧ t.get? q = some (.file c)) :
    (place, c) ∈ t.filesUnder name ↔ ∃ q, place = name :: q ∧ t.get? q = some (.file c) := by
  cases t with
  | file b =>
    rw [filesUnder, List.mem_singleton, Prod.mk.injEq]
    constructor
    · rintro ⟨rfl, rfl⟩
      exact ⟨[], rfl, rfl⟩
    · rintro ⟨_ | ⟨first, q⟩, rfl, hq⟩
      · obtain rfl : b = c := by simpa using hq
        exact ⟨rfl, rfl⟩
      · simp [get?, entry?] at hq
  | folder entries =>
    rw [filesUnder, List.mem_map]
    constructor
    · rintro ⟨⟨q, b⟩, hq, heq⟩
      obtain ⟨rfl, rfl⟩ := Prod.mk.inj heq
      exact ⟨q, rfl, ((h q).1 hq).2⟩
    · rintro ⟨q, rfl, hq⟩
      refine ⟨(q, c), (h q).2 ⟨?_, hq⟩, rfl⟩
      rintro rfl
      simp at hq

/-- The listing of a tree has the files below its top. -/
lemma mem_files_iff (ht : t.IsProper) {c : Content} :
    (place, c) ∈ t.files ↔ place ≠ [] ∧ t.get? place = some (.file c) := by
  induction ht generalizing place c with
  | file b => cases place <;> simp [files, descendants, get?, entry?]
  | folder nodup _ _ ih =>
    rw [files_folder, List.mem_flatMap]
    cases place with
    | nil =>
      simp only [ne_eq, not_true_eq_false, false_and, iff_false]
      rintro ⟨e, he, hmem⟩
      obtain ⟨q, hq, -⟩ := (mem_filesUnder_iff fun _ => ih e he).1 hmem
      simp at hq
    | cons name place =>
      rw [get?_folder_cons nodup]
      simp only [ne_eq, reduceCtorEq, not_false_eq_true, true_and]
      constructor
      · rintro ⟨e, he, hmem⟩
        obtain ⟨q, hq, hget⟩ := (mem_filesUnder_iff fun _ => ih e he).1 hmem
        obtain ⟨rfl, rfl⟩ := List.cons.inj hq
        exact ⟨e.2, he, hget⟩
      · rintro ⟨t, he, hget⟩
        exact ⟨(name, t), he, (mem_filesUnder_iff fun _ => ih _ he).2 ⟨place, rfl, hget⟩⟩

lemma exists_of_mem_filesUnder {p : List Text × Content} (h : p ∈ t.filesUnder name) :
    ∃ q, p.1 = name :: q := by
  cases t with
  | file c => exact ⟨[], by rw [List.mem_singleton.1 h]⟩
  | folder entries =>
    obtain ⟨q, -, rfl⟩ := List.mem_map.1 h
    exact ⟨q.1, rfl⟩

lemma nodup_filesUnder (h : (t.files.map (·.1)).Nodup) (name : Text) :
    ((t.filesUnder name).map (·.1)).Nodup := by
  cases t with
  | file c => simp [filesUnder]
  | folder entries =>
    have hmap : ((folder entries).filesUnder name).map (·.1) =
        ((folder entries).files.map (·.1)).map (name :: ·) := by simp [filesUnder]
    rw [hmap]
    exact h.map List.cons_injective

/-- The listing of a tree has every file once. -/
lemma nodup_files (ht : t.IsProper) : (t.files.map (·.1)).Nodup := by
  induction ht with
  | file b => simp [files, descendants]
  | folder nodup _ _ ih =>
    rw [files_folder, List.map_flatMap, List.nodup_flatMap]
    refine ⟨fun e he => nodup_filesUnder (ih e he) e.1, ?_⟩
    -- files of different entries differ in the first name
    refine (List.pairwise_map.1 nodup).imp fun {d e} hne place hd he => hne ?_
    obtain ⟨p, hp, rfl⟩ := List.mem_map.1 hd
    obtain ⟨q, hq, heq⟩ := List.mem_map.1 he
    obtain ⟨a, ha⟩ := exists_of_mem_filesUnder hp
    obtain ⟨b, hb⟩ := exists_of_mem_filesUnder hq
    rw [ha, hb] at heq
    exact (List.cons.inj heq).1.symm

end FileTree

/-! ## Places of files that are found -/

/-- A source file is found at a place where no folder on the way is passed over. -/
def isFoundPlace (place : List Text) : Bool :=
  place.dropLast.all (!isPassedOver ·) && isSourcePlace place

lemma isFoundPlace_singleton (name : Text) : isFoundPlace [name] = isSourcePlace [name] := by
  simp [isFoundPlace]

lemma isFoundPlace_cons {name : Text} {place : List Text} (h : place ≠ []) :
    isFoundPlace (name :: place) = (!isPassedOver name && isFoundPlace place) := by
  have hlast : (name :: place).getLast? = place.getLast? := by
    obtain ⟨first, rest, rfl⟩ := List.exists_cons_of_ne_nil h
    exact List.getLast?_cons_cons
  rw [isFoundPlace, isFoundPlace, isSourcePlace, isSourcePlace, hlast, List.dropLast_cons_of_ne_nil h,
    List.all_cons, Bool.and_assoc]

lemma isFoundPlace_append_singleton (folders : List Text) (name : Text) :
    isFoundPlace (folders ++ [name]) = true ↔
      (∀ n ∈ folders, n ≠ "node_modules".toList ∧ n.head? ≠ some '.') ∧ HasSourceExtension name := by
  rw [isFoundPlace, Bool.and_eq_true, isSourcePlace_append_singleton, List.dropLast_concat]
  simp [isPassedOver]

namespace FileTree

lemma sourceFilesIn_eq (path : Text) (entries : List (Text × FileTree)) :
    sourceFilesIn path entries = entries.flatMap fun e =>
      if e.2.isFolder && isPassedOver e.1 then [] else e.2.sourceFiles (Path.join path e.1) := by
  induction entries with
  | nil => rfl
  | cons e rest ih => rw [sourceFilesIn, ih, List.flatMap_cons]

/-- What is found at and below an entry of a folder. -/
lemma sourceFiles_join {t : FileTree} {path name : Text} (hpath : path ≠ []) (hname : IsFileName name)
    (ht : t.IsProper)
    (h : t.isFolder = true → t.sourceFiles (Path.join path name) =
      (t.files.filter fun p => isFoundPlace p.1).map fun p =>
        Path.joinAll (Path.join path name) p.1) :
    (if t.isFolder && isPassedOver name then [] else t.sourceFiles (Path.join path name)) =
      ((t.filesUnder name).filter fun p => isFoundPlace p.1).map fun p => Path.joinAll path p.1 := by
  cases t with
  | file c =>
    have hfile : (file c).sourceFiles (Path.join path name) =
        if isSourcePlace [name] = true then [Path.join path name] else [] := by
      rw [sourceFiles, isSourcePath_join hpath hname]
    rw [isFolder, Bool.false_and, if_neg Bool.false_ne_true, hfile, filesUnder, List.filter_singleton,
      isFoundPlace_singleton]
    cases isSourcePlace [name] <;> rfl
  | folder entries =>
    have hfound : ∀ p ∈ (folder entries).files,
        isFoundPlace (name :: p.1) = (!isPassedOver name && isFoundPlace p.1) :=
      fun p hp => isFoundPlace_cons ((mem_files_iff ht).1 hp).1
    rw [isFolder, Bool.true_and, filesUnder, List.filter_map, List.map_map]
    split
    · next hpassed =>
      rw [List.filter_eq_nil_iff.2, List.map_nil]
      intro p hp
      simp [hfound p hp, hpassed]
    · next hpassed =>
      rw [h rfl]
      congr 1
      refine List.filter_congr fun p hp => ?_
      simp [hfound p hp, hpassed]

/-- The files that are found below a folder are those of its listing that stand at places where files are
found. -/
theorem sourceFiles_eq {t : FileTree} (ht : t.IsProper) (hfolder : t.isFolder = true) {path : Text}
    (hpath : path ≠ []) :
    t.sourceFiles path =
      (t.files.filter fun p => isFoundPlace p.1).map fun p => Path.joinAll path p.1 := by
  induction ht generalizing path with
  | file c => simp [isFolder] at hfolder
  | folder _ names trees ih =>
    rw [sourceFiles, sourceFilesIn_eq, files_folder, List.filter_flatMap, List.map_flatMap]
    refine List.flatMap_congr fun e he => ?_
    have hjoin := Path.join_ne_nil hpath (names e he).notMem_slash
    exact sourceFiles_join hpath (names e he) (trees e he) fun h => ih e he h hjoin

end FileTree

/-! ## Paths into a folder -/

namespace Disk

variable {d : Disk} {path name : Text} {top place : List Text} {t u : FileTree}

/-- The name of an entry put behind the path of a folder leads to the entry. -/
lemma place?_join (hplace : d.place? path = some top) (hfolder : d.look top = some .folder)
    (hname : IsFileName name) (hentry : (d.look (top ++ [name])).isSome) :
    d.place? (Path.join path name) = some (top ++ [name]) := by
  have hpath : path ≠ [] := by
    rintro rfl
    simp [place?] at hplace
  obtain ⟨before, hp, hbefore⟩ := Path.exists_pieces_join hpath hname.notMem_slash
  have hfront : before.foldlM d.follow? (d.origin path) = some top := by
    rw [place?, if_neg hpath] at hplace
    rcases hbefore with hb | hb
    · rwa [hb] at hplace
    · -- an empty piece stays in the folder
      rw [hb, List.foldlM_append] at hplace
      obtain ⟨mid, hmid, hlast⟩ := Option.bind_eq_some_iff.1 hplace
      obtain ⟨-, rfl⟩ : d.look mid = some .folder ∧ mid = top := by simpa [follow?_eq] using hlast
      exact hmid
  have horigin : d.origin (Path.join path name) = d.origin path := by
    rw [origin, origin, Path.head?_join hpath hname.notMem_slash]
  rw [place?, if_neg (Path.join_ne_nil hpath hname.notMem_slash), hp, horigin, List.foldlM_append,
    hfront]
  simp [follow?_eq, hfolder, hname.ne_nil, hname.ne_dot, hname.ne_dots, hentry]

/-- Names put behind the path of a folder lead where they lead in its tree. -/
theorem place?_joinAll (hplace : d.place? path = some top) (htop : d.tree.get? top = some t)
    (ht : t.IsProper) (h : t.get? place = some u) :
    d.place? (Path.joinAll path place) = some (top ++ place) := by
  induction place generalizing path top t with
  | nil => simpa [Path.joinAll] using hplace
  | cons name place ih =>
    cases ht with
    | file c => simp [FileTree.get?, FileTree.entry?] at h
    | folder nodup names trees =>
      obtain ⟨v, hv, hget⟩ := (FileTree.get?_folder_cons nodup).1 h
      have hentry : d.tree.get? (top ++ [name]) = some v := by
        rw [FileTree.get?_append, htop, Option.bind_some, FileTree.get?_folder_cons nodup]
        exact ⟨v, hv, FileTree.get?_nil v⟩
      have hnext := place?_join (d := d) hplace (by simp [look, FileTree.look, htop, FileTree.top])
        (names _ hv) (by simp [look, FileTree.look, hentry])
      have hall := ih hnext hentry (trees _ hv) hget
      rwa [List.append_assoc, List.singleton_append] at hall

end Disk

/-! ## Finding source files -/

/-- A source file stands at a place of a tree, and no folder on the way is one of installed packages or a
hidden one. -/
def FileTree.HoldsSource (t : FileTree) (place : List Text) : Prop :=
  ∃ folders name c, place = folders ++ [name] ∧ t.get? place = some (.file c) ∧
    (∀ n ∈ folders, n ≠ "node_modules".toList ∧ n.head? ≠ some '.') ∧ HasSourceExtension name

lemma FileTree.holdsSource_iff {t : FileTree} (ht : t.IsProper) {place : List Text} :
    t.HoldsSource place ↔ ∃ c, (place, c) ∈ t.files ∧ isFoundPlace place = true := by
  simp only [mem_files_iff ht]
  constructor
  · rintro ⟨folders, name, c, rfl, hget, hfolders, hname⟩
    exact ⟨c, ⟨by simp, hget⟩, (isFoundPlace_append_singleton folders name).2 ⟨hfolders, hname⟩⟩
  · rintro ⟨c, ⟨hne, hget⟩, hfound⟩
    obtain ⟨folders, name, rfl⟩ := (List.eq_nil_or_concat' place).resolve_left hne
    obtain ⟨hfolders, hname⟩ := (isFoundPlace_append_singleton folders name).1 hfound
    exact ⟨folders, name, c, rfl, hget, hfolders, hname⟩

/-- Below a folder exactly the source files are found on whose way no folder is passed over.  Each is
found once, by the names on the way put behind the path of the folder, and this path leads to it. -/
theorem Disk.sourceFiles?_folder {d : Disk} {path : Text} {top : List Text} {t : FileTree}
    (hplace : d.place? path = some top) (htop : d.tree.get? top = some t) (hfolder : t.isFolder = true)
    (ht : t.IsProper) :
    ∃ places : List (List Text),
      d.sourceFiles? [path] = some (places.map (Path.joinAll path)) ∧
      (places.map (Path.joinAll path)).Nodup ∧
      (∀ place, place ∈ places ↔ t.HoldsSource place) ∧
      ∀ place ∈ places, d.place? (Path.joinAll path place) = some (top ++ place) := by
  have hpath : path ≠ [] := by
    rintro rfl
    simp [place?] at hplace
  have hsearch : d.sourceFiles? [path] = some (t.sourceFiles path) := by
    simp [sourceFiles?, sourceFilesAt?, get?, hplace, htop]
  let places := (t.files.filter fun p => isFoundPlace p.1).map (·.1)
  have hmem : ∀ place, place ∈ places ↔ t.HoldsSource place := by
    intro place
    rw [FileTree.holdsSource_iff ht, List.mem_map]
    constructor
    · rintro ⟨⟨q, c⟩, hq, rfl⟩
      exact ⟨c, List.mem_filter.1 hq⟩
    · rintro ⟨c, hc⟩
      exact ⟨(place, c), List.mem_filter.2 hc, rfl⟩
  have hleads : ∀ place ∈ places, d.place? (Path.joinAll path place) = some (top ++ place) := by
    intro place hp
    obtain ⟨_, _, _, _, hget, _, _⟩ := (hmem place).1 hp
    exact place?_joinAll hplace htop ht hget
  have hnodup : places.Nodup := (FileTree.nodup_files ht).sublist (List.filter_sublist.map _)
  refine ⟨places, ?_, ?_, hmem, hleads⟩
  · rw [hsearch, FileTree.sourceFiles_eq ht hfolder hpath, List.map_map]
    rfl
  · -- a path tells the place that it leads to
    refine hnodup.map_on fun p hp q hq heq => ?_
    have hsame := (hleads p hp).symm.trans ((congrArg d.place? heq).trans (hleads q hq))
    exact List.append_cancel_left (Option.some.inj hsame)

/-- A hidden folder with folders that are passed over at several depths, and with names that are hidden,
or that only look like those of source files. -/
def hiddenFolder : FileTree :=
  let source : FileTree := .file (.text [])
  .folder [(".git".toList, .folder [("hook.ts".toList, source)]), (".rc.js".toList, source),
    (".ts".toList, source), ("a.d.ts".toList, source), ("b.TS".toList, source),
    ("node_modules".toList, .folder [("left".toList, .folder [("pad.js".toList, source)])]),
    ("src".toList, .folder [("node_modules".toList, .folder [("c.ts".toList, source)]),
      ("main.cts".toList, source), ("node_modules.ts".toList, source)])]

/-- A disk with that folder in the current folder. -/
def hiddenDisk : Disk where
  tree := .folder [("work".toList, .folder [(".app".toList, hiddenFolder)])]
  here := ["work".toList]

theorem Disk.sourceFiles?_folder_hiddenFolder :
    hiddenDisk.place? "./.app/".toList = some ["work".toList, ".app".toList] ∧
    hiddenDisk.tree.get? ["work".toList, ".app".toList] = some hiddenFolder ∧
    hiddenFolder.isFolder = true ∧ hiddenFolder.IsProper ∧
    hiddenDisk.sourceFiles? ["./.app/".toList] = some (["./.app/.rc.js", "./.app/a.d.ts",
      "./.app/src/main.cts", "./.app/src/node_modules.ts"].map String.toList) ∧
    ∃ places : List (List Text),
      hiddenDisk.sourceFiles? ["./.app/".toList] = some (places.map (Path.joinAll "./.app/".toList)) ∧
      (places.map (Path.joinAll "./.app/".toList)).Nodup ∧
      (∀ place, place ∈ places ↔ hiddenFolder.HoldsSource place) ∧
      ∀ place ∈ places, hiddenDisk.place? (Path.joinAll "./.app/".toList place) =
        some (["work".toList, ".app".toList] ++ place) := by
  have hplace : hiddenDisk.place? "./.app/".toList = some ["work".toList, ".app".toList] := by
    decide +kernel
  have htop : hiddenDisk.tree.get? ["work".toList, ".app".toList] = some hiddenFolder := rfl
  have hproper : hiddenFolder.IsProper := by decide +kernel
  exact ⟨hplace, htop, rfl, hproper, by decide +kernel,
    Disk.sourceFiles?_folder hplace htop rfl hproper⟩

end ImportGrid
