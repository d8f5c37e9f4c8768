/-
What stands at the places of a disk.

A disk is looked at place by place (`Disk.look`).  Writing a file is a change at one place
(`Disk.look_put?`), and it keeps what stands elsewhere, so paths lead where they led
(`Disk.Keeps.target?`).  A source file and the copy that is made of it stand at two places that no other
source file has (`Disk.target?_backupPath`, `isSourcePlace_backupPlace`, `backupPlace_inj`).
-/
import ImportGrid.Files.SourceFiles
import Mathlib.Data.List.Basic
import Mathlib.Tactic.Common

namespace ImportGrid

/-! ## Trees -/

/-- What stands at a place. -/
inductive Node where
  | folder
  | file (content : Content)
deriving DecidableEq

namespace FileTree

/-- The top of a tree. -/
def top : FileTree → Node
  | file c => .file c
  | folder _ => .folder

/-- What stands at a place of a tree. -/
def look (t : FileTree) (place : List Text) : Option Node := (t.get? place).map top

@[simp] lemma look_nil (t : FileTree) : t.look [] = some t.top := rfl

@[simp] lemma look_file_cons (c : Content) (name : Text) (place : List Text) :
    (file c).look (name :: place) = none := rfl

lemma look_folder_cons (entries : List (Text × FileTree)) (name : Text) (place : List Text) :
    (folder entries).look (name :: place) = (entries.lookup name).bind fun t => t.look place := by
  cases h : entries.lookup name <;> simp [look, get?, entry?, h]

/-- Everything but the top stands in a folder. -/
lemma look_of_look_append {t : FileTree} {place : List Text} {name : Text}
    (h : (t.look (place ++ [name])).isSome) : t.look place = some .folder := by
  induction place generalizing t with
  | nil =>
    cases t with
    | file c => simp at h
    | folder entries => rfl
  | cons first place ih =>
    cases t with
    | file c => simp at h
    | folder entries =>
      rw [List.cons_append, look_folder_cons] at h
      rw [look_folder_cons]
      cases ht : entries.lookup first with
      | none => simp [ht] at h
      | some t => exact ih (by simpa [ht] using h)

/-- Writing a file changes what stands at its place, and nothing else. -/
theorem look_put? {c : Content} {place : List Text} {t u : FileTree} (h : t.put? c place = some u)
    (q : List Text) : u.look q = if q = place then some (.file c) else t.look q := by
  induction place generalizing t u q with
  | nil =>
    cases t with
    | folder entries => simp [put?] at h
    | file b =>
      obtain rfl : file c = u := by simpa [put?] using h
      cases q <;> simp [top]
  | cons name place ih =>
    cases t with
    | file b => simp [put?] at h
    | folder entries =>
      -- the entry that is written stands under its name, and the others stay
      have key : ∀ v : FileTree, u = .folder (insertEntry name v entries) →
          (∀ r, v.look r = if r = place then some (.file c) else
            (entries.lookup name).bind fun t => t.look r) →
          u.look q = if q = name :: place then some (.file c) else (folder entries).look q := by
        rintro v rfl hv
        cases q with
        | nil => simp [top]
        | cons n q =>
          rw [look_folder_cons, look_folder_cons]
          by_cases hn : n = name
          · subst hn
            simp [lookup_insertEntry_self, hv q]
          · simp [lookup_insertEntry_of_ne hn, hn]
      unfold put? at h
      cases ht : entries.lookup name with
      | some t =>
        simp only [ht, Option.map_eq_some_iff] at h
        obtain ⟨v, hv, rfl⟩ := h
        exact key v rfl fun r => by rw [ih hv, ht]; rfl
      | none =>
        simp only [ht] at h
        split at h
        · next hp =>
          subst hp
          refine key (.file c) (Option.some.inj h).symm fun r => ?_
          cases r <;> simp [ht, top]
        · simp at h

/-- In a folder every place can be written that is no folder itself. -/
lemma exists_put? {place : List Text} {name : Text} {t : FileTree} (c : Content)
    (hfolder : t.look place = some .folder) (h : t.look (place ++ [name]) ≠ some .folder) :
    ∃ u, t.put? c (place ++ [name]) = some u := by
  induction place generalizing t with
  | nil =>
    cases t with
    | file b => simp [top] at hfolder
    | folder entries =>
      rw [List.nil_append, look_folder_cons] at h
      simp only [List.nil_append, put?]
      cases ht : entries.lookup name with
      | none => exact ⟨_, rfl⟩
      | some t =>
        cases t with
        | file b => exact ⟨_, rfl⟩
        | folder inner => simp [ht, top] at h
  | cons first place ih =>
    cases t with
    | file b => simp at hfolder
    | folder entries =>
      rw [look_folder_cons] at hfolder
      rw [List.cons_append, look_folder_cons] at h
      simp only [List.cons_append, put?]
      cases ht : entries.lookup first with
      | none => simp [ht] at hfolder
      | some t =>
        obtain ⟨u, hu⟩ := ih (t := t) (by simpa [ht] using hfolder) (by simpa [ht] using h)
        exact ⟨_, congrArg (Option.map _) hu⟩

/-- No file takes the place of a folder. -/
lemma put?_of_folder {place : List Text} {t : FileTree} (c : Content)
    (h : t.look place = some .folder) : t.put? c place = none := by
  induction place generalizing t with
  | nil =>
    cases t with
    | file b => simp [top] at h
    | folder entries => rfl
  | cons name place ih =>
    cases t with
    | file b => rfl
    | folder entries =>
      rw [look_folder_cons] at h
      simp only [put?]
      cases ht : entries.lookup name with
      | none => simp [ht] at h
      | some t => exact congrArg (Option.map _) (ih (by simpa [ht] using h))

end FileTree

/-! ## Paths -/

namespace Disk

variable {d e : Disk} {path : Text} {place : List Text}

/-- What stands at a place of a disk. -/
def look (d : Disk) (place : List Text) : Option Node := d.tree.look place

/-- Where a piece of a path leads, by what stands on the disk. -/
lemma follow?_eq (d : Disk) (place : List Text) (piece : Text) :
    d.follow? place piece =
      if d.look place = some .folder then
        if piece = [] ∨ piece = ['.'] then some place
        else if piece = ['.', '.'] then some place.dropLast
        else if (d.look (place ++ [piece])).isSome then some (place ++ [piece])
        else none
      else none := by
  unfold follow? look FileTree.look
  rw [FileTree.get?_append]
  cases d.tree.get? place with
  | none => simp
  | some t =>
    cases t with
    | file c => simp [FileTree.top]
    | folder entries =>
      cases h : entries.lookup piece <;>
        simp [FileTree.top, FileTree.get?, FileTree.entry?, h]

/-- What stands on a disk stands on another, too, folders as folders. -/
structure Keeps (d e : Disk) : Prop where
  here_eq : e.here = d.here
  isSome_look : ∀ q, (d.look q).isSome → (e.look q).isSome
  look_folder : ∀ q, d.look q = some .folder → e.look q = some .folder

lemma Keeps.refl (d : Disk) : d.Keeps d := ⟨rfl, fun _ h => h, fun _ h => h⟩

lemma Keeps.trans {f : Disk} (h : d.Keeps e) (h' : e.Keeps f) : d.Keeps f where
  here_eq := h'.here_eq.trans h.here_eq
  isSome_look q hq := h'.isSome_look q (h.isSome_look q hq)
  look_folder q hq := h'.look_folder q (h.look_folder q hq)

/-- A path that leads somewhere leads there on every disk that keeps what is on the way. -/
lemma Keeps.foldlM_follow? (h : d.Keeps e) {pieces : List Text} {start stop : List Text}
    (hd : pieces.foldlM d.follow? start = some stop) : pieces.foldlM e.follow? start = some stop := by
  induction pieces generalizing start with
  | nil => exact hd
  | cons piece pieces ih =>
    rw [List.foldlM_cons] at hd ⊢
    obtain ⟨next, hnext, hstop⟩ := Option.bind_eq_some_iff.1 hd
    refine Option.bind_eq_some_iff.2 ⟨next, ?_, ih hstop⟩
    rw [follow?_eq] at hnext ⊢
    split at hnext
    · next hfolder =>
      rw [if_pos (h.look_folder _ hfolder)]
      split at hnext
      · next ht => rw [if_pos ht, hnext]
      · next ht =>
        rw [if_neg ht]
        split at hnext
        · next hp => rw [if_pos hp, hnext]
        · next hp =>
          rw [if_neg hp]
          split at hnext
          · next hs => rw [if_pos (h.isSome_look _ hs), hnext]
          · simp at hnext
    · simp at hnext

/-- A file has its place under its name in a folder. -/
lemma target?_eq_some_iff : d.target? path = some place ↔
    ∃ before name folder, Path.pieces path = before ++ [name] ∧
      name ≠ [] ∧ name ≠ ['.'] ∧ name ≠ ['.', '.'] ∧
      before.foldlM d.follow? (d.origin path) = some folder ∧ place = folder ++ [name] := by
  unfold target?
  constructor
  · intro h
    split at h
    · simp at h
    · next name before hp =>
      split at h
      · simp at h
      · next hn =>
        simp only [not_or] at hn
        obtain ⟨folder, hf, rfl⟩ := Option.map_eq_some_iff.1 h
        refine ⟨before.reverse, name, folder, ?_, hn.1, hn.2.1, hn.2.2, hf, rfl⟩
        rw [← List.reverse_cons, ← hp, List.reverse_reverse]
  · rintro ⟨before, name, folder, hp, hn, hdot, hdots, hf, rfl⟩
    simp [hp, hn, hdot, hdots, hf]

/-- The place of a file stays its place. -/
lemma Keeps.target? (h : d.Keeps e) (ht : d.target? path = some place) :
    e.target? path = some place := by
  obtain ⟨before, name, folder, hp, hn, hdot, hdots, hf, hplace⟩ := target?_eq_some_iff.1 ht
  have horigin : e.origin path = d.origin path := by
    unfold origin
    rw [h.here_eq]
  exact target?_eq_some_iff.2 ⟨before, name, folder, hp, hn, hdot, hdots,
    horigin ▸ h.foldlM_follow? hf, hplace⟩

/-- What a file holds stands at its place. -/
lemma content?_eq_some_iff (ht : d.target? path = some place) {c : Content} :
    d.content? path = some c ↔ d.look place = some (.file c) := by
  obtain ⟨before, name, folder, hp, hn, hdot, hdots, hf, rfl⟩ := target?_eq_some_iff.1 ht
  have hpath : path ≠ [] := by
    rintro rfl
    have hpieces : [[]] = before ++ [name] := hp
    rw [List.singleton_eq_append_iff] at hpieces
    simp_all
  have hplace : d.place? path = d.follow? folder name := by
    rw [place?, if_neg hpath, hp, List.foldlM_append, hf]
    simp
  rw [content?, get?, hplace, follow?_eq]
  simp only [hn, hdot, hdots, or_self, if_false]
  by_cases hs : (d.look (folder ++ [name])).isSome
  · have hfolder : d.look folder = some .folder := FileTree.look_of_look_append hs
    rw [if_pos hfolder, if_pos hs, Option.bind_some]
    unfold look FileTree.look
    cases d.tree.get? (folder ++ [name]) with
    | none => simp
    | some t => cases t <;> simp [FileTree.top]
  · have hnone : d.look (folder ++ [name]) = none := Option.not_isSome_iff_eq_none.1 hs
    simp [hnone]

/-- What a path to a file leads to depends on what stands at its place. -/
lemma content?_congr (hd : d.target? path = some place) (he : e.target? path = some place)
    (h : e.look place = d.look place) : e.content? path = d.content? path := by
  ext c
  rw [content?_eq_some_iff hd, content?_eq_some_iff he, h]

lemma read_congr (h : e.content? path = d.content? path) : e.read path = d.read path := by
  rw [read, read, h]

lemma read_eq_ok_iff {t : Text} : d.read path = .ok t ↔ d.content? path = some (.text t) := by
  unfold read
  cases h : d.content? path with
  | none => simp
  | some c => cases c <;> simp [Content.text?]

/-! ## Writing -/

/-- Writing a file changes what stands at its place, and nothing else. -/
theorem look_put? {c : Content} (ht : d.target? path = some place) (h : d.put? path c = some e)
    (q : List Text) : e.look q = if q = place then some (.file c) else d.look q := by
  unfold put? at h
  rw [ht, Option.bind_some] at h
  obtain ⟨t, hput, rfl⟩ := Option.map_eq_some_iff.1 h
  exact FileTree.look_put? hput q

/-- Where no folder stands in the way, a file can be written into a folder that is there. -/
lemma exists_put? {folder : List Text} {name : Text} (c : Content)
    (ht : d.target? path = some (folder ++ [name])) (hfolder : d.look folder = some .folder)
    (h : d.look (folder ++ [name]) ≠ some .folder) : ∃ e, d.put? path c = some e := by
  obtain ⟨t, hput⟩ := FileTree.exists_put? c hfolder h
  exact ⟨{ d with tree := t }, by rw [put?, ht, Option.bind_some, hput, Option.map_some]⟩

/-- Writing a file keeps what stands on the disk. -/
lemma keeps_of_put? {c : Content} (ht : d.target? path = some place) (h : d.put? path c = some e) :
    d.Keeps e := by
  have hlook := look_put? ht h
  unfold put? at h
  rw [ht, Option.bind_some] at h
  obtain ⟨t, hput, rfl⟩ := Option.map_eq_some_iff.1 h
  refine ⟨rfl, fun q hq => ?_, fun q hq => ?_⟩
  · rw [hlook]
    split
    · rfl
    · exact hq
  · rw [hlook, if_neg ?_]
    · exact hq
    · rintro rfl
      rw [FileTree.put?_of_folder c hq] at hput
      simp at hput

end Disk

/-! ## Copies -/

/-- The place of the copy that is made of a file. -/
def backupPlace (place : List Text) : List Text :=
  place.dropLast ++ [place.getLast?.getD [] ++ ".bak".toList]

@[simp] lemma backupPlace_append (folder : List Text) (name : Text) :
    backupPlace (folder ++ [name]) = folder ++ [name ++ ".bak".toList] := by
  simp [backupPlace]

/-- Whether the name of a place has the extension of a source file. -/
def isSourcePlace (place : List Text) : Bool :=
  place.getLast?.any fun name => (Path.splitExtension? name).any (sourceExtensions.contains ·.2)

/-- Different places have different copies. -/
lemma backupPlace_inj {place other : List Text} (hplace : place ≠ []) (hother : other ≠ [])
    (h : backupPlace place = backupPlace other) : place = other := by
  obtain ⟨folder, name, rfl⟩ := (List.eq_nil_or_concat' place).resolve_left hplace
  obtain ⟨folder', name', rfl⟩ := (List.eq_nil_or_concat' other).resolve_left hother
  rw [backupPlace_append, backupPlace_append] at h
  obtain ⟨rfl, hname⟩ := List.append_inj' h rfl
  rw [List.cons.injEq, List.append_left_inj] at hname
  rw [hname.1]

/-- What follows the last dot of a name is its extension, unless this dot begins the name. -/
lemma splitExtension?_append {stem extension : Text} (h : '.' ∉ extension) :
    Path.splitExtension? (stem ++ '.' :: extension) =
      if stem = [] then none else some (stem, extension) := by
  have hpass : ∀ c ∈ extension.reverse, (c != '.') = true := by
    intro c hc
    exact bne_iff_ne.2 fun he => h (he ▸ List.mem_reverse.1 hc)
  have hext : ((stem ++ '.' :: extension).reverse.takeWhile (· != '.')).reverse = extension := by
    rw [List.reverse_append, List.reverse_cons, List.append_assoc, List.takeWhile_append_of_pos hpass]
    simp
  have hlen : (stem ++ '.' :: extension).length - extension.length - 1 = stem.length := by
    simp only [List.length_append, List.length_cons]
    omega
  have hshort : ¬ extension.length = (stem ++ '.' :: extension).length := by
    simp only [List.length_append, List.length_cons]
    omega
  unfold Path.splitExtension?
  simp only [hext, hlen, List.take_left, hshort, false_or]

lemma splitExtension?_append_bak {name : Text} (hname : name ≠ []) :
    Path.splitExtension? (name ++ ".bak".toList) = some (name, "bak".toList) := by
  have hbak : ".bak".toList = '.' :: "bak".toList := by decide
  rw [hbak, splitExtension?_append (by decide), if_neg hname]

/-- A copy is no source file. -/
lemma isSourcePlace_backupPlace (place : List Text) : isSourcePlace (backupPlace place) = false := by
  rw [backupPlace, isSourcePlace, List.getLast?_concat, Option.any_some]
  by_cases hname : place.getLast?.getD [] = []
  · rw [hname]
    decide
  · have hbak : sourceExtensions.contains "bak".toList = false := by decide
    rw [splitExtension?_append_bak hname, Option.any_some, hbak]

section Copies

variable {d : Disk} {path name : Text} {before place : List Text}

/-- The last piece of a path is the name of a file, if it is a name. -/
lemma fileName?_eq (hp : Path.pieces path = before ++ [name]) (hn : name ≠ []) (hdot : name ≠ ['.'])
    (hdots : name ≠ ['.', '.']) : Path.fileName? path = some name := by
  have hinner : Path.innerComponent name = some (.name name) := by
    simp [Path.innerComponent, hn, hdot, hdots]
  have hlast : ∀ ps : List Text,
      ((ps ++ [name]).filterMap Path.innerComponent).getLast? = some (.name name) := by
    intro ps
    rw [List.filterMap_append, List.filterMap_cons_some hinner, List.filterMap_nil,
      List.getLast?_append, List.getLast?_singleton, Option.some_or]
  have hcomponents : (Path.components path).getLast? = some (.name name) := by
    unfold Path.components
    split
    · rw [List.getLast?_cons, hp, hlast]
      rfl
    · next ps hps =>
      cases before with
      | nil =>
        rw [hp, List.nil_append, List.cons.injEq] at hps
        exact absurd hps.1 hdot
      | cons first before =>
        rw [hp, List.cons_append, List.cons.injEq] at hps
        rw [List.getLast?_cons, ← hps.2, hlast]
        rfl
    · rw [hp, hlast]
  rw [Path.fileName?, hcomponents]

/-- The path of the copy of a file with an extension. -/
lemma backupPath_eq (hp : Path.pieces path = before ++ [name])
    (hname : Path.fileName? path = some name) (hext : (Path.splitExtension? name).isSome) :
    Disk.backupPath path = Text.joinWith ['/'] (before ++ [name ++ ".bak".toList]) := by
  obtain ⟨parts, hparts⟩ := Option.isSome_iff_exists.1 hext
  simp [Disk.backupPath, hname, hp, hparts]

/-- Where a path begins is told by what stands before its first slash. -/
lemma head?_joinWith {before : List Text} {name other : Text} (h : name.head? = other.head?) :
    (Text.joinWith ['/'] (before ++ [name])).head? = (Text.joinWith ['/'] (before ++ [other])).head? := by
  cases before with
  | nil => simpa using h
  | cons first before =>
    have hcons : ∀ x : Text, ∃ t, Text.joinWith ['/'] (first :: before ++ [x]) = first ++ '/' :: t := by
      intro x
      obtain ⟨m, rest, hm⟩ : ∃ m rest, before ++ [x] = m :: rest :=
        List.exists_cons_of_ne_nil (by simp)
      refine ⟨Text.joinWith ['/'] (m :: rest), ?_⟩
      rw [List.cons_append, hm, Text.joinWith_cons_cons, List.append_assoc, List.singleton_append]
    obtain ⟨t, ht⟩ := hcons name
    obtain ⟨u, hu⟩ := hcons other
    rw [ht, hu]
    cases first <;> rfl

/-- Whether a path is that of a source file is told by the name at its end, wherever this stands. -/
lemma isSourcePath_eq (hp : Path.pieces path = before ++ [name]) (hn : name ≠ []) (hdot : name ≠ ['.'])
    (hdots : name ≠ ['.', '.']) (folder : List Text) :
    isSourcePath path = isSourcePlace (folder ++ [name]) := by
  rw [isSourcePath, Path.extension?, fileName?_eq hp hn hdot hdots, Option.bind_some, isSourcePlace,
    List.getLast?_concat, Option.any_map]
  rfl

/-- The name of a source file is the name of its place. -/
lemma isSourcePlace_of_target? (ht : d.target? path = some place) (hs : isSourcePath path = true) :
    isSourcePlace place = true := by
  obtain ⟨before, name, folder, hp, hn, hdot, hdots, -, rfl⟩ := Disk.target?_eq_some_iff.1 ht
  rwa [← isSourcePath_eq hp hn hdot hdots]

/-- The copy of a source file stands beside it. -/
theorem Disk.target?_backupPath (ht : d.target? path = some place) (hs : isSourcePath path = true) :
    d.target? (backupPath path) = some (backupPlace place) := by
  have hsource := isSourcePlace_of_target? ht hs
  obtain ⟨before, name, folder, hp, hn, hdot, hdots, hf, rfl⟩ := target?_eq_some_iff.1 ht
  have hslash : ∀ piece ∈ before ++ [name], '/' ∉ piece := fun piece hpiece =>
    Path.notMem_of_mem_splitOn (hp.symm ▸ hpiece : piece ∈ Path.pieces path)
  have hext : (Path.splitExtension? name).isSome := by
    rw [isSourcePlace, List.getLast?_concat] at hsource
    cases h : Path.splitExtension? name with
    | none => simp [h] at hsource
    | some parts => rfl
  have hbackup := backupPath_eq hp (fileName?_eq hp hn hdot hdots) hext
  have hpieces : Path.pieces (backupPath path) = before ++ [name ++ ".bak".toList] := by
    rw [hbackup, Path.pieces, Path.splitOn_joinWith (by simp)]
    intro piece hpiece
    rcases List.mem_append.1 hpiece with hpiece | hpiece
    · exact hslash piece (List.mem_append_left _ hpiece)
    · obtain rfl := List.mem_singleton.1 hpiece
      have hname := hslash name (by simp)
      simp [hname]
  have horigin : d.origin (backupPath path) = d.origin path := by
    have hpath : path = Text.joinWith ['/'] (before ++ [name]) := by
      rw [← hp, Path.pieces, Path.joinWith_splitOn]
    have hhead : (backupPath path).head? = path.head? := by
      rw [hbackup]
      conv => rhs; rw [hpath]
      refine head?_joinWith ?_
      cases name with
      | nil => exact absurd rfl hn
      | cons c name => rfl
    rw [origin, origin, hhead]
  refine target?_eq_some_iff.2 ⟨before, _, folder, hpieces, ?_, ?_, ?_, horigin ▸ hf, ?_⟩
  · simp [hn]
  · intro h
    have := congrArg List.length h
    simp at this
  · intro h
    have := congrArg List.length h
    simp at this
  · exact backupPlace_append folder name

namespace Disk

variable {c : Content}

/-- A file that is there can be written. -/
lemma exists_put?_of_file (ht : d.target? path = some place) {b : Content}
    (hb : d.look place = some (.file b)) (c : Content) :
    ∃ e, d.put? path c = some e ∧ d.Keeps e ∧
      ∀ q, e.look q = if q = place then some (.file c) else d.look q := by
  obtain ⟨before, name, folder, -, -, -, -, -, rfl⟩ := target?_eq_some_iff.1 ht
  have hfolder : d.look folder = some .folder :=
    FileTree.look_of_look_append (by rw [look] at hb; rw [hb]; rfl)
  obtain ⟨e, he⟩ := exists_put? c ht hfolder (by simp [hb])
  exact ⟨e, he, keeps_of_put? ht he, look_put? ht he⟩

/-- A source file that is there can be copied, if no folder has the place of the copy. -/
lemma exists_backUp (ht : d.target? path = some place) (hs : isSourcePath path = true)
    (hc : d.look place = some (.file c)) (hfree : d.look (backupPlace place) ≠ some .folder) :
    ∃ e, d.backUp path = .ok e ∧ d.Keeps e ∧
      ∀ q, e.look q = if q = backupPlace place then some (.file c) else d.look q := by
  have hbackup := target?_backupPath ht hs
  obtain ⟨before, name, folder, -, -, -, -, -, rfl⟩ := target?_eq_some_iff.1 ht
  have hfolder : d.look folder = some .folder :=
    FileTree.look_of_look_append (by rw [look] at hc; rw [hc]; rfl)
  rw [backupPlace_append] at hbackup hfree
  obtain ⟨e, he⟩ := exists_put? c hbackup hfolder hfree
  refine ⟨e, ?_, keeps_of_put? hbackup he, ?_⟩
  · rw [backUp, (content?_eq_some_iff ht).2 hc, Option.bind_some, he]
  · rw [backupPlace_append]
    exact look_put? hbackup he

/-- Writing is copying, if copies are made, and then writing the file. -/
lemma exists_of_write {e : Disk} {backup : Bool} {t : Text} (h : d.write backup path t = .ok e) :
    ∃ f, (if backup then d.backUp path else .ok d) = .ok f ∧ f.put? path (.text t) = some e := by
  unfold write at h
  dsimp only at h
  split at h
  · simp at h
  · next f hf =>
    split at h
    · next e' hput =>
      obtain rfl : e' = e := by simpa using h
      exact ⟨f, hf, hput⟩
    · simp at h

/-- A source file that is there can be written, if no folder has the place of the copy. -/
lemma exists_write (ht : d.target? path = some place) (hs : isSourcePath path = true)
    (hc : d.look place = some (.file c)) {backup : Bool}
    (hfree : backup = true → d.look (backupPlace place) ≠ some .folder) (t : Text) :
    ∃ e, d.write backup path t = .ok e := by
  unfold write
  cases backup with
  | false =>
    obtain ⟨e, he, -, -⟩ := exists_put?_of_file ht hc (.text t)
    exact ⟨e, by simp [he]⟩
  | true =>
    obtain ⟨f, hf, hkeeps, hlook⟩ := exists_backUp ht hs hc (hfree rfl)
    have hplace : f.look place = some (.file c) := by
      rw [hlook]
      split
      · rfl
      · exact hc
    obtain ⟨e, he, -, -⟩ := exists_put?_of_file (hkeeps.target? ht) hplace (.text t)
    exact ⟨e, by simp [hf, he]⟩

/-- Where a source file was written with a copy, no folder has the place of the copy. -/
lemma look_backupPlace_of_write {e : Disk} {t : Text} (ht : d.target? path = some place)
    (hs : isSourcePath path = true) (h : d.write true path t = .ok e) :
    d.look (backupPlace place) ≠ some .folder := by
  intro hfolder
  have hput : ∀ c, d.put? (backupPath path) c = none := by
    intro c
    rw [put?, target?_backupPath ht hs, Option.bind_some, FileTree.put?_of_folder c hfolder,
      Option.map_none]
  have hnone : (d.content? path).bind (d.put? (backupPath path)) = none := by
    cases d.content? path with
    | none => rfl
    | some c => exact hput c
  simp [write, backUp, hnone] at h

end Disk

end Copies

end ImportGrid
