/-
Files are treated apart.

A run treats one listed file after the other.  Here the treatment of a file is cut into turns
(`Stage.next`): it is read and laid out, then copied, then written.  The files may take these turns in
any order (`takeTurns`), as if they were treated at the same time.  What stands at the two places of a
file is at every time what its own stage says (`Workers.AreApart`), because no other file has these
places.  So nothing depends on the order of the turns, and every file is left as if it had been treated
alone.
-/
import ImportGrid.Command.Run
import ImportGrid.Proofs.DiskView
import Mathlib.Data.List.Pairwise
import Mathlib.Logic.Function.Basic

namespace ImportGrid

/-! ## Files of a run -/

/-- Paths of source files, each with a place of its own. -/
structure Disk.AreSourceFiles (d : Disk) (paths : List Text) : Prop where
  /-- They have the extension of a source file. -/
  isSourcePath : ∀ p ∈ paths, isSourcePath p = true
  /-- They name something in a folder. -/
  isSome_target? : ∀ p ∈ paths, (d.target? p).isSome
  /-- No two of them name the same. -/
  target?_ne : paths.Pairwise fun p q => d.target? p ≠ d.target? q

/-! ## Answers -/

lemma map_eq_ok_iff {ε α β : Type} {x : Except ε α} {f : α → β} {b : β} :
    x.map f = .ok b ↔ ∃ a, x = .ok a ∧ f a = b := by
  cases x <;> simp [Except.map]

lemma mapError_eq_ok_iff {ε ε' α : Type} {x : Except ε α} {f : ε → ε'} {a : α} :
    x.mapError f = .ok a ↔ x = .ok a := by
  cases x <;> simp [Except.mapError]

section Treatment

variable {α : Type} (layout : Text → Text → Except SourceFault (α × Option Text)) (backup : Bool)

/-- What laying out a file leads to, by what it holds: the answer, and the new text if there is one to
write. -/
def Disk.laidOut (d : Disk) (path : Text) : Except LayoutFault (α × Option Text) :=
  match d.read path with
  | .error f => .error (.file f)
  | .ok source => (layout path source).mapError .source

/-- The treatment of one file by itself. -/
def layOutAlone (d : Disk) (path : Text) : Except LayoutFault α × Disk :=
  layOutFile d backup path (layout path)

/-! ## Turns -/

/-- How far the treatment of a file has come. -/
inductive Stage (α : Type) where
  /-- Nothing has been done. -/
  | waiting
  /-- There is a new text; the file is to be copied. -/
  | copying (answer : α) (new : Text)
  /-- The file is to be overwritten. -/
  | writing (answer : α) (new : Text)
  /-- There is an answer. -/
  | done (answer : Except LayoutFault α)

/-- One turn of a file. -/
def Stage.next (d : Disk) (path : Text) : Stage α → Stage α × Disk
  | waiting =>
    match d.laidOut layout path with
    | .error f => (done (.error f), d)
    | .ok (answer, none) => (done (.ok answer), d)
    | .ok (answer, some new) => (copying answer new, d)
  | copying answer new =>
    match if backup then d.backUp path else .ok d with
    | .error f => (done (.error (.file f)), d)
    | .ok d => (writing answer new, d)
  | writing answer new =>
    match d.put? path (.text new) with
    | some d => (done (.ok answer), d)
    | none => (done (.error (.file (.unwritable path))), d)
  | done answer => (done answer, d)

/-- How many turns are missing at most. -/
def Stage.turnsLeft : Stage α → Nat
  | waiting => 3
  | copying .. => 2
  | writing .. => 1
  | done _ => 0

/-- Files that are treated at the same time, and the disk that they share. -/
structure Workers (α : Type) where
  stages : Text → Stage α
  disk : Disk

/-- The file at a path takes a turn. -/
def Workers.turn (w : Workers α) (path : Text) : Workers α :=
  let r := (w.stages path).next layout backup w.disk path
  ⟨Function.update w.stages path r.1, r.2⟩

/-- Files take turns as they are listed. -/
def takeTurns (d : Disk) (schedule : List Text) : Workers α :=
  schedule.foldl (Workers.turn layout backup) ⟨fun _ => .waiting, d⟩

/-! ## One file -/

variable {layout backup} {d₀ d : Disk} {path : Text} {place : List Text}

/-- A file and the place of its copy are as they were. -/
def Untouched (d₀ d : Disk) (place : List Text) : Prop :=
  d.look place = d₀.look place ∧ d.look (backupPlace place) = d₀.look (backupPlace place)

/-- The copy of a file is made, if copies are made. -/
def Copied (backup : Bool) (d₀ d : Disk) (place : List Text) : Prop :=
  d.look (backupPlace place) = if backup then d₀.look place else d₀.look (backupPlace place)

variable (layout backup) in
/-- A file and its copy are as its treatment leaves them. -/
def Treated (d₀ d : Disk) (path : Text) (place : List Text) : Prop :=
  match d₀.laidOut layout path with
  | .ok (_, some new) => d.look place = some (.file (.text new)) ∧ Copied backup d₀ d place
  | _ => Untouched d₀ d place

variable (layout backup) in
/-- A file and its copy are as the stage of the file says, which was on another disk when its treatment
began. -/
def Stage.Fits (d₀ d : Disk) (path : Text) (place : List Text) : Stage α → Prop
  | waiting => Untouched d₀ d place
  | copying answer new => d₀.laidOut layout path = .ok (answer, some new) ∧ Untouched d₀ d place
  | writing answer new => d₀.laidOut layout path = .ok (answer, some new) ∧
      d.look place = d₀.look place ∧ Copied backup d₀ d place
  | done answer => answer = (d₀.laidOut layout path).map Prod.fst ∧ Treated layout backup d₀ d path place

/-- What laying out leads to depends on what the file holds. -/
lemma laidOut_congr (h : d.content? path = d₀.content? path) :
    d.laidOut layout path = d₀.laidOut layout path := by
  rw [Disk.laidOut, Disk.laidOut, Disk.read_congr h]

/-- A file is laid out if it can be read and its text is laid out. -/
lemma laidOut_eq_ok_iff {r : α × Option Text} :
    d.laidOut layout path = .ok r ↔ ∃ source, d.read path = .ok source ∧ layout path source = .ok r := by
  unfold Disk.laidOut
  cases d.read path with
  | error f => simp
  | ok source =>
    simp only [Except.ok.injEq, exists_eq_left']
    exact mapError_eq_ok_iff

/-- Only a text is laid out. -/
lemma exists_text_of_laidOut {r : α × Option Text} (ht : d.target? path = some place)
    (h : d.laidOut layout path = .ok r) :
    ∃ source, d.read path = .ok source ∧ d.look place = some (.file (.text source)) := by
  obtain ⟨source, hread, -⟩ := laidOut_eq_ok_iff.1 h
  exact ⟨source, hread, (Disk.content?_eq_some_iff ht).1 (Disk.read_eq_ok_iff.1 hread)⟩

variable (layout backup) in
/-- What a turn of a file makes of its stage and of the disk: they fit again, and nothing has changed but
the file and its copy. -/
structure Stage.Advances (d₀ d : Disk) (path : Text) (place : List Text) (stage next : Stage α)
    (e : Disk) : Prop where
  fits : next.Fits layout backup d₀ e path place
  keeps : d₀.Keeps e
  look_eq : ∀ q, q ≠ place → q ≠ backupPlace place → e.look q = d.look q
  turnsLeft_le : next.turnsLeft ≤ stage.turnsLeft - 1

/-- The copy of a source file has another place than the file. -/
lemma ne_backupPlace (ht : d.target? path = some place) (hs : isSourcePath path = true) :
    place ≠ backupPlace place := by
  intro hp
  have hsource := isSourcePlace_of_target? ht hs
  rw [hp, isSourcePlace_backupPlace] at hsource
  simp at hsource

/-- The first turn of a file changes nothing on the disk. -/
lemma Stage.advances_waiting (ht : d₀.target? path = some place) (hkeeps : d₀.Keeps d)
    (h : Untouched d₀ d place) :
    Stage.Advances layout backup d₀ d path place .waiting
      (Stage.next layout backup d path .waiting).1 (Stage.next layout backup d path .waiting).2 := by
  have hlaid : d.laidOut layout path = d₀.laidOut layout path :=
    laidOut_congr (Disk.content?_congr ht (hkeeps.target? ht) h.1)
  -- without a new text the file has its answer, and it stays as it is
  have hdone : ∀ answer, answer = (d₀.laidOut layout path).map Prod.fst →
      Treated layout backup d₀ d path place →
      Stage.Advances layout backup d₀ d path place .waiting (.done answer) d :=
    fun answer hanswer htreated => ⟨⟨hanswer, htreated⟩, hkeeps, fun _ _ _ => rfl, Nat.zero_le _⟩
  unfold Stage.next
  simp only [hlaid]
  rcases hl : d₀.laidOut layout path with f | ⟨answer, _ | new⟩
  · refine hdone _ (by rw [hl]; rfl) ?_
    rw [Treated, hl]
    exact h
  · refine hdone _ (by rw [hl]; rfl) ?_
    rw [Treated, hl]
    exact h
  · exact ⟨⟨hl, h⟩, hkeeps, fun _ _ _ => rfl, Nat.le_refl _⟩

/-- The second turn copies the file, if copies are made. -/
lemma Stage.advances_copying {answer : α} {new : Text} (ht : d₀.target? path = some place)
    (hs : isSourcePath path = true)
    (hfree : backup = true → ∀ s, d₀.read path = .ok s → d₀.look (backupPlace place) ≠ some .folder)
    (hkeeps : d₀.Keeps d) (h : (Stage.copying answer new).Fits layout backup d₀ d path place) :
    Stage.Advances layout backup d₀ d path place (.copying answer new)
      (Stage.next layout backup d path (.copying answer new)).1
      (Stage.next layout backup d path (.copying answer new)).2 := by
  obtain ⟨hl, hplace, hcopy⟩ := h
  obtain ⟨source, hread, hlook⟩ := exists_text_of_laidOut ht hl
  cases backup with
  | false => exact ⟨⟨hl, hplace, hcopy⟩, hkeeps, fun _ _ _ => rfl, Nat.le_refl _⟩
  | true =>
    obtain ⟨e, he, hde, helook⟩ := Disk.exists_backUp (hkeeps.target? ht) hs (hplace.trans hlook)
      (by rw [hcopy]; exact hfree rfl source hread)
    simp only [Stage.next, if_true, he]
    refine ⟨⟨hl, ?_, ?_⟩, hkeeps.trans hde, ?_, Nat.le_refl _⟩
    · rw [helook, if_neg (ne_backupPlace ht hs), hplace]
    · rw [Copied, helook, if_pos rfl, if_pos rfl, hlook]
    · intro q _ hq
      rw [helook, if_neg hq]

/-- The third turn overwrites the file. -/
lemma Stage.advances_writing {answer : α} {new : Text} (ht : d₀.target? path = some place)
    (hs : isSourcePath path = true) (hkeeps : d₀.Keeps d)
    (h : (Stage.writing answer new).Fits layout backup d₀ d path place) :
    Stage.Advances layout backup d₀ d path place (.writing answer new)
      (Stage.next layout backup d path (.writing answer new)).1
      (Stage.next layout backup d path (.writing answer new)).2 := by
  obtain ⟨hl, hplace, hcopied⟩ := h
  obtain ⟨source, -, hlook⟩ := exists_text_of_laidOut ht hl
  obtain ⟨e, he, hde, helook⟩ := Disk.exists_put?_of_file (hkeeps.target? ht)
    (hplace.trans hlook) (.text new)
  simp only [Stage.next, he]
  refine ⟨⟨by rw [hl]; rfl, ?_⟩, hkeeps.trans hde, ?_, Nat.le_refl _⟩
  · rw [Treated, hl]
    constructor
    · rw [helook, if_pos rfl]
    · rw [Copied, helook, if_neg (ne_backupPlace ht hs).symm]
      exact hcopied
  · intro q hq _
    rw [helook, if_neg hq]

/-- Every turn of a file leads to the next stage. -/
theorem Stage.advances_next {stage : Stage α} (ht : d₀.target? path = some place)
    (hs : isSourcePath path = true)
    (hfree : backup = true → ∀ s, d₀.read path = .ok s → d₀.look (backupPlace place) ≠ some .folder)
    (hkeeps : d₀.Keeps d) (h : stage.Fits layout backup d₀ d path place) :
    Stage.Advances layout backup d₀ d path place stage (stage.next layout backup d path).1
      (stage.next layout backup d path).2 := by
  cases stage with
  | waiting => exact advances_waiting ht hkeeps h
  | copying answer new => exact advances_copying ht hs hfree hkeeps h
  | writing answer new => exact advances_writing ht hs hkeeps h
  | done answer => exact ⟨h, hkeeps, fun _ _ _ => rfl, Nat.le_refl _⟩

/-! ## All files -/

variable {paths : List Text}

/-- No two places of source files and of their copies are the same. -/
lemma Disk.AreSourceFiles.places_ne (h : d₀.AreSourceFiles paths) {p q : Text} (hp : p ∈ paths)
    (hq : q ∈ paths) (hne : p ≠ q) {a b : List Text} (ha : d₀.target? p = some a)
    (hb : d₀.target? q = some b) :
    a ≠ b ∧ a ≠ backupPlace b ∧ backupPlace a ≠ b ∧ backupPlace a ≠ backupPlace b := by
  have hsource : ∀ {r : Text} {c : List Text}, r ∈ paths → d₀.target? r = some c →
      isSourcePlace c = true := fun hr hc => isSourcePlace_of_target? hc (h.isSourcePath _ hr)
  have hnil : ∀ {c : List Text}, isSourcePlace c = true → c ≠ [] := by
    rintro c hc rfl
    simp [isSourcePlace] at hc
  have hab : a ≠ b := by
    have : Std.Symm fun p q => d₀.target? p ≠ d₀.target? q := ⟨fun _ _ => Ne.symm⟩
    have htarget := h.target?_ne.forall hp hq hne
    rw [ha, hb] at htarget
    exact fun hab => htarget (congrArg some hab)
  refine ⟨hab, ?_, ?_, ?_⟩
  · rintro rfl
    have := hsource hp ha
    rw [isSourcePlace_backupPlace] at this
    simp at this
  · rintro rfl
    have := hsource hq hb
    rw [isSourcePlace_backupPlace] at this
    simp at this
  · exact fun hcopy => hab (backupPlace_inj (hnil (hsource hp ha)) (hnil (hsource hq hb)) hcopy)

variable (layout backup) in
/-- Every file is as its own stage says, and nothing else has changed. -/
structure Workers.AreApart (d₀ : Disk) (paths : List Text) (w : Workers α) : Prop where
  keeps : d₀.Keeps w.disk
  fits : ∀ p ∈ paths, ∀ place, d₀.target? p = some place →
    (w.stages p).Fits layout backup d₀ w.disk p place
  others : ∀ q, (∀ p ∈ paths, ∀ place, d₀.target? p = some place →
    q ≠ place ∧ q ≠ backupPlace place) → w.disk.look q = d₀.look q

/-- A stage looks at the places of its own file. -/
lemma Stage.Fits.congr {stage : Stage α} {e : Disk} (h : stage.Fits layout backup d₀ d path place)
    (hplace : e.look place = d.look place)
    (hcopy : e.look (backupPlace place) = d.look (backupPlace place)) :
    stage.Fits layout backup d₀ e path place := by
  cases stage <;> simp only [Fits, Treated, Untouched, Copied, hplace, hcopy] at h ⊢ <;> exact h

variable {w : Workers α}

/-- A turn of one file keeps all files apart. -/
theorem Workers.AreApart.turn (hinv : w.AreApart layout backup d₀ paths)
    (h : d₀.AreSourceFiles paths)
    (hw : ∀ p ∈ paths, ∀ s t, d₀.read p = .ok s → ∃ e, d₀.write backup p t = .ok e)
    (hp : path ∈ paths) :
    (w.turn layout backup path).AreApart layout backup d₀ paths ∧
      ((w.turn layout backup path).stages path).turnsLeft ≤ (w.stages path).turnsLeft - 1 := by
  obtain ⟨place, ht⟩ := Option.isSome_iff_exists.1 (h.isSome_target? path hp)
  have hfree : backup = true → ∀ s, d₀.read path = .ok s →
      d₀.look (backupPlace place) ≠ some .folder := by
    rintro rfl s hs
    obtain ⟨e, he⟩ := hw path hp s s hs
    exact Disk.look_backupPlace_of_write ht (h.isSourcePath path hp) he
  obtain ⟨hfits, hkeeps, hlook, hleft⟩ := Stage.advances_next ht (h.isSourcePath path hp) hfree
    hinv.keeps (hinv.fits path hp place ht)
  refine ⟨⟨hkeeps, ?_, ?_⟩, ?_⟩
  · intro p hpp b hb
    simp only [Workers.turn]
    by_cases hpath : p = path
    · subst hpath
      obtain rfl : place = b := by simpa [ht] using hb
      rw [Function.update_self]
      exact hfits
    · rw [Function.update_of_ne hpath]
      obtain ⟨h1, h2, h3, h4⟩ := h.places_ne hpp hp hpath hb ht
      exact (hinv.fits p hpp b hb).congr (hlook b h1 h2) (hlook _ h3 h4)
  · intro q hq
    obtain ⟨hplace, hcopy⟩ := hq path hp place ht
    exact (hlook q hplace hcopy).trans (hinv.others q hq)
  · simp only [Workers.turn, Function.update_self]
    exact hleft

/-- Turns in any order keep all files apart, and each brings its file forward. -/
theorem Workers.AreApart.foldl_turn (hinv : w.AreApart layout backup d₀ paths)
    (h : d₀.AreSourceFiles paths)
    (hw : ∀ p ∈ paths, ∀ s t, d₀.read p = .ok s → ∃ e, d₀.write backup p t = .ok e)
    {schedule : List Text} (hs : ∀ p ∈ schedule, p ∈ paths) :
    (schedule.foldl (Workers.turn layout backup) w).AreApart layout backup d₀ paths ∧
      ∀ p, ((schedule.foldl (Workers.turn layout backup) w).stages p).turnsLeft ≤
        (w.stages p).turnsLeft - schedule.count p := by
  induction schedule generalizing w with
  | nil => exact ⟨hinv, fun p => Nat.le_refl _⟩
  | cons path schedule ih =>
    obtain ⟨hturn, hleft⟩ := hinv.turn h hw (hs path (by simp))
    obtain ⟨hrest, hcount⟩ := ih hturn fun p hp => hs p (by simp [hp])
    refine ⟨hrest, fun p => Nat.le_trans (hcount p) ?_⟩
    by_cases hp : p = path
    · subst hp
      rw [List.count_cons_self]
      omega
    · rw [List.count_cons_of_ne (Ne.symm hp)]
      simp only [Workers.turn, Function.update_of_ne hp]
      exact Nat.le_refl _

/-- Before the first turn nothing has changed. -/
lemma areApart_start (layout : Text → Text → Except SourceFault (α × Option Text)) (backup : Bool)
    (d₀ : Disk) (paths : List Text) :
    Workers.AreApart layout backup d₀ paths ⟨fun _ => .waiting, d₀⟩ :=
  ⟨.refl d₀, fun _ _ _ _ => ⟨rfl, rfl⟩, fun _ _ => rfl⟩

/-- A file without turns to come has its answer. -/
lemma Workers.AreApart.stages_eq (hinv : w.AreApart layout backup d₀ paths)
    (h : d₀.AreSourceFiles paths) (hp : path ∈ paths) (hleft : (w.stages path).turnsLeft = 0) :
    w.stages path = .done ((d₀.laidOut layout path).map Prod.fst) := by
  obtain ⟨place, ht⟩ := Option.isSome_iff_exists.1 (h.isSome_target? path hp)
  have hfits := hinv.fits path hp place ht
  cases hstage : w.stages path with
  | waiting => simp [hstage, Stage.turnsLeft] at hleft
  | copying answer new => simp [hstage, Stage.turnsLeft] at hleft
  | writing answer new => simp [hstage, Stage.turnsLeft] at hleft
  | done answer =>
    rw [hstage] at hfits
    rw [hfits.1]

/-- A file with an answer is as its treatment leaves it. -/
lemma Workers.AreApart.treated (hinv : w.AreApart layout backup d₀ paths) (hp : path ∈ paths)
    (ht : d₀.target? path = some place) {answer : Except LayoutFault α}
    (hdone : w.stages path = .done answer) : Treated layout backup d₀ w.disk path place := by
  have hfits := hinv.fits path hp place ht
  rw [hdone] at hfits
  exact hfits.2

/-- A treatment leaves a file and its copy in one way. -/
lemma Treated.look_eq {e : Disk} (hd : Treated layout backup d₀ d path place)
    (he : Treated layout backup d₀ e path place) :
    d.look place = e.look place ∧ d.look (backupPlace place) = e.look (backupPlace place) := by
  unfold Treated at hd he
  rcases hl : d₀.laidOut layout path with f | ⟨answer, _ | new⟩
  · rw [hl] at hd he
    exact ⟨hd.1.trans he.1.symm, hd.2.trans he.2.symm⟩
  · rw [hl] at hd he
    exact ⟨hd.1.trans he.1.symm, hd.2.trans he.2.symm⟩
  · rw [hl] at hd he
    exact ⟨hd.1.trans he.1.symm, hd.2.trans he.2.symm⟩

/-- When all files have their answers, the disk does not depend on the turns that led there. -/
theorem Workers.AreApart.look_eq {v : Workers α} (hv : v.AreApart layout backup d₀ paths)
    (hinv : w.AreApart layout backup d₀ paths) (h : d₀.AreSourceFiles paths)
    (hvdone : ∀ p ∈ paths, (v.stages p).turnsLeft = 0)
    (hdone : ∀ p ∈ paths, (w.stages p).turnsLeft = 0) : v.disk.look = w.disk.look := by
  funext q
  by_cases hq : ∀ p ∈ paths, ∀ place, d₀.target? p = some place → q ≠ place ∧ q ≠ backupPlace place
  · rw [hv.others q hq, hinv.others q hq]
  · simp only [not_forall] at hq
    obtain ⟨p, hp, place, ht, hq⟩ := hq
    have htv := hv.treated hp ht (hv.stages_eq h hp (hvdone p hp))
    have htw := hinv.treated hp ht (hinv.stages_eq h hp (hdone p hp))
    have hboth := htv.look_eq htw
    by_cases hplace : q = place
    · rw [hplace, hboth.1]
    · have hcopy : q = backupPlace place := by
        by_contra hne
        exact hq ⟨hplace, hne⟩
      rw [hcopy, hboth.2]

/-! ## One file after the other -/

/-- The treatment of a file by what laying it out leads to. -/
lemma layOutAlone_eq (d : Disk) (path : Text) :
    layOutAlone layout backup d path =
      match d.laidOut layout path with
      | .error f => (.error f, d)
      | .ok (answer, none) => (.ok answer, d)
      | .ok (answer, some new) =>
        match d.write backup path new with
        | .error f => (.error (.file f), d)
        | .ok e => (.ok answer, e) := by
  unfold layOutAlone layOutFile Disk.laidOut
  cases d.read path with
  | error f => rfl
  | ok source =>
    rcases hl : layout path source with f | ⟨answer, _ | new⟩
    · simp [hl, Except.mapError]
    · simp [hl, Except.mapError]
    · cases hw : d.write backup path new <;> simp [hl, hw, Except.mapError]

/-- The answer of a file that can be written. -/
lemma fst_layOutAlone (hw : ∀ answer new, d.laidOut layout path = .ok (answer, some new) →
      ∃ e, d.write backup path new = .ok e) :
    (layOutAlone layout backup d path).1 = (d.laidOut layout path).map Prod.fst := by
  rw [layOutAlone_eq]
  rcases hl : d.laidOut layout path with f | ⟨answer, _ | new⟩
  · rfl
  · rfl
  · obtain ⟨e, he⟩ := hw answer new hl
    simp only [he]
    rfl

/-- Whether laying out a file leads to a new text. -/
def Disk.isRewritten (layout : Text → Text → Except SourceFault (α × Option Text)) (d : Disk)
    (path : Text) : Bool :=
  match d.laidOut layout path with
  | .ok (_, some _) => true
  | _ => false

/-- Without a new text nothing is written. -/
lemma snd_layOutAlone (h : d.isRewritten layout path = false) :
    (layOutAlone layout backup d path).2 = d := by
  rw [layOutAlone_eq]
  unfold Disk.isRewritten at h
  rcases hl : d.laidOut layout path with f | ⟨answer, _ | new⟩
  · rfl
  · rfl
  · simp [hl] at h

/-- A file that has not had a turn can be written, if it could be at the beginning. -/
lemma Workers.AreApart.exists_write (hinv : w.AreApart layout backup d₀ paths)
    (h : d₀.AreSourceFiles paths)
    (hw : ∀ p ∈ paths, ∀ s t, d₀.read p = .ok s → ∃ e, d₀.write backup p t = .ok e)
    (hp : path ∈ paths) (hwait : w.stages path = .waiting) {answer : α} {new : Text}
    (hl : d₀.laidOut layout path = .ok (answer, some new)) :
    ∃ e, w.disk.write backup path new = .ok e := by
  obtain ⟨place, ht⟩ := Option.isSome_iff_exists.1 (h.isSome_target? path hp)
  have hsource := h.isSourcePath path hp
  have hfits := hinv.fits path hp place ht
  rw [hwait] at hfits
  obtain ⟨source, hread, hlook⟩ := exists_text_of_laidOut ht hl
  refine Disk.exists_write (hinv.keeps.target? ht) hsource (hfits.1.trans hlook) ?_ new
  rintro rfl
  obtain ⟨e, he⟩ := hw path hp source new hread
  rw [hfits.2]
  exact Disk.look_backupPlace_of_write ht hsource he

/-- Three turns of a file on end are its treatment. -/
lemma foldl_turn_alone (hwait : w.stages path = .waiting)
    (hw : ∀ answer new, w.disk.laidOut layout path = .ok (answer, some new) →
      ∃ e, w.disk.write backup path new = .ok e) :
    [path, path, path].foldl (Workers.turn layout backup) w =
      ⟨Function.update w.stages path (.done (layOutAlone layout backup w.disk path).1),
        (layOutAlone layout backup w.disk path).2⟩ := by
  rw [layOutAlone_eq]
  rcases hl : w.disk.laidOut layout path with f | ⟨answer, _ | new⟩
  · simp [Workers.turn, hwait, Stage.next, hl]
  · simp [Workers.turn, hwait, Stage.next, hl]
  · obtain ⟨e, he⟩ := hw answer new hl
    obtain ⟨f, hf, hput⟩ := Disk.exists_of_write he
    simp [Workers.turn, hwait, Stage.next, hl, he, hf, hput]

/-- Treating files one after the other is an order of turns.  Every answer is that of the file alone, and
files without a new text need not be listed at all. -/
theorem Workers.AreApart.eachFile_eq (hinv : w.AreApart layout backup d₀ paths)
    (h : d₀.AreSourceFiles paths)
    (hw : ∀ p ∈ paths, ∀ s t, d₀.read p = .ok s → ∃ e, d₀.write backup p t = .ok e)
    {todo : List Text} (htodo : ∀ p ∈ todo, p ∈ paths) (hnodup : todo.Nodup)
    (hwait : ∀ p ∈ todo, w.stages p = .waiting) :
    (eachFile (layOutAlone layout backup) w.disk todo).2 =
        ((todo.flatMap fun p => [p, p, p]).foldl (Workers.turn layout backup) w).disk ∧
      (eachFile (layOutAlone layout backup) w.disk (todo.filter (d₀.isRewritten layout))).2 =
        ((todo.flatMap fun p => [p, p, p]).foldl (Workers.turn layout backup) w).disk ∧
      (eachFile (layOutAlone layout backup) w.disk todo).1 =
        todo.map fun p => (p, (d₀.laidOut layout p).map Prod.fst) := by
  induction todo generalizing w with
  | nil => exact ⟨rfl, rfl, rfl⟩
  | cons path todo ih =>
    rw [List.nodup_cons] at hnodup
    have hp : path ∈ paths := htodo path (by simp)
    have hstage : w.stages path = .waiting := hwait path (by simp)
    obtain ⟨place, ht⟩ := Option.isSome_iff_exists.1 (h.isSome_target? path hp)
    have hlaid : w.disk.laidOut layout path = d₀.laidOut layout path := by
      have hfits := hinv.fits path hp place ht
      rw [hstage] at hfits
      exact laidOut_congr (Disk.content?_congr ht (hinv.keeps.target? ht) hfits.1)
    have hwrite : ∀ answer new, w.disk.laidOut layout path = .ok (answer, some new) →
        ∃ e, w.disk.write backup path new = .ok e :=
      fun answer new hl => hinv.exists_write h hw hp hstage (hlaid ▸ hl)
    have hturns := foldl_turn_alone hstage hwrite
    -- behind the three turns of the first file the others go on waiting
    have hmem : ∀ p ∈ [path, path, path], p ∈ paths := by simpa using hp
    have hnext := (hinv.foldl_turn h hw hmem).1
    rw [hturns] at hnext
    obtain ⟨hdisk, hfilter, hanswers⟩ := ih hnext (fun p hp => htodo p (by simp [hp])) hnodup.2 (by
      intro p hptodo
      have hne : p ≠ path := by
        rintro rfl
        exact hnodup.1 hptodo
      simp only [Function.update_of_ne hne]
      exact hwait p (by simp [hptodo]))
    rw [List.flatMap_cons, List.foldl_append, hturns]
    refine ⟨hdisk, ?_, ?_⟩
    · cases hrewritten : d₀.isRewritten layout path with
      | true =>
        rw [List.filter_cons_of_pos hrewritten]
        exact hfilter
      | false =>
        have hsame : (layOutAlone layout backup w.disk path).2 = w.disk :=
          snd_layOutAlone (by rw [Disk.isRewritten, hlaid]; exact hrewritten)
        rw [List.filter_cons_of_neg (by simp [hrewritten])]
        simp only [hsame] at hfilter ⊢
        exact hfilter
    · rw [List.map_cons, ← hlaid, ← fst_layOutAlone hwrite, ← hanswers]
      rfl

end Treatment

end ImportGrid
