/-
What a run leaves behind.

A run of `format` or of `lint --fix` leaves every listed file with its own result (`LeavesResults`): the
text that the file held is laid out, and if this fails or changes nothing then the file is not written.
The treatments of the files do not meet (`TreatsApart`): the answers are those of the files alone, and
the disk is the same in whichever order the files are treated, or all at the same time.
-/
import ImportGrid.Proofs.SeparateFiles

namespace ImportGrid

section Results

variable {α : Type} {layout : Text → Text → Except SourceFault (α × Option Text)}
  {result : Text → Text → Except SourceFault Text} {backup : Bool} {d₀ d : Disk} {path : Text}
  {paths : List Text} {w : Workers α}

/-! ## Results -/

/-- What a run leaves on a disk `e` that was `d` before: every file has its own result, which depends on
what this file held and on nothing else. -/
structure LeavesResults (result : Text → Text → Except SourceFault Text) (backup : Bool)
    (paths : List Text) (d e : Disk) : Prop where
  /-- A file that cannot be read, that has no result, or that holds its result is left alone, and it is
  not copied. -/
  kept : ∀ p ∈ paths, (∀ s t, d.read p = .ok s → result p s = .ok t → t = s) →
    e.content? p = d.content? p ∧
      e.content? (Disk.backupPath p) = d.content? (Disk.backupPath p)
  /-- Every other file holds its result, and its copy, if copies are made, holds what it held. -/
  replaced : ∀ p ∈ paths, ∀ s t, d.read p = .ok s → result p s = .ok t → t ≠ s →
    e.content? p = some (.text t) ∧
      e.content? (Disk.backupPath p) =
        if backup then some (.text s) else d.content? (Disk.backupPath p)
  /-- Nothing else has changed. -/
  others : ∀ q, (∀ p ∈ paths, d.target? p ≠ some q ∧ d.target? (Disk.backupPath p) ≠ some q) →
    e.look q = d.look q

/-- A layout writes the result of a file, if the file does not hold it. -/
def WritesResults (layout : Text → Text → Except SourceFault (α × Option Text))
    (result : Text → Text → Except SourceFault Text) : Prop :=
  ∀ p s, (layout p s).map Prod.snd = (result p s).map fun t => if t = s then none else some t

/-- The text that is written is the result of the file. -/
lemma WritesResults.exists_laidOut_iff (hlayout : WritesResults layout result) {new : Text} :
    (∃ answer, d.laidOut layout path = .ok (answer, some new)) ↔
      ∃ s, d.read path = .ok s ∧ result path s = .ok new ∧ new ≠ s := by
  have hwritten : ∀ s, (∃ answer, layout path s = .ok (answer, some new)) ↔
      result path s = .ok new ∧ new ≠ s := by
    intro s
    have hsnd : (∃ answer, layout path s = .ok (answer, some new)) ↔
        (layout path s).map Prod.snd = .ok (some new) := by
      simp [map_eq_ok_iff]
    rw [hsnd, hlayout, map_eq_ok_iff]
    constructor
    · rintro ⟨t, ht, hnew⟩
      split at hnew
      · simp at hnew
      · next hne =>
        obtain rfl := Option.some.inj hnew
        exact ⟨ht, hne⟩
    · rintro ⟨ht, hne⟩
      exact ⟨new, ht, if_neg hne⟩
  simp only [laidOut_eq_ok_iff]
  constructor
  · rintro ⟨answer, s, hs, hl⟩
    exact ⟨s, hs, (hwritten s).1 ⟨answer, hl⟩⟩
  · rintro ⟨s, hs, hr⟩
    obtain ⟨answer, hl⟩ := (hwritten s).2 hr
    exact ⟨answer, s, hs, hl⟩

/-- When all files have their answers, they hold their results. -/
theorem Workers.AreApart.leavesResults (hinv : w.AreApart layout backup d₀ paths)
    (h : d₀.AreSourceFiles paths) (hdone : ∀ p ∈ paths, (w.stages p).turnsLeft = 0)
    (hlayout : WritesResults layout result) :
    LeavesResults result backup paths d₀ w.disk := by
  have hplaces : ∀ p ∈ paths, ∃ place, d₀.target? p = some place ∧
      d₀.target? (Disk.backupPath p) = some (backupPlace place) ∧
      Treated layout backup d₀ w.disk p place := by
    intro p hp
    obtain ⟨place, ht⟩ := Option.isSome_iff_exists.1 (h.isSome_target? p hp)
    exact ⟨place, ht, Disk.target?_backupPath ht (h.isSourcePath p hp),
      hinv.treated hp ht (hinv.stages_eq h hp (hdone p hp))⟩
  refine ⟨?_, ?_, ?_⟩
  · intro p hp hsame
    obtain ⟨place, ht, hbackup, htreated⟩ := hplaces p hp
    have huntouched : Untouched d₀ w.disk place := by
      unfold Treated at htreated
      split at htreated
      · next answer new hl =>
        obtain ⟨s, hs, hr, hne⟩ := hlayout.exists_laidOut_iff.1 ⟨answer, hl⟩
        exact absurd (hsame s new hs hr) hne
      · exact htreated
    exact ⟨Disk.content?_congr ht (hinv.keeps.target? ht) huntouched.1,
      Disk.content?_congr hbackup (hinv.keeps.target? hbackup) huntouched.2⟩
  · intro p hp s t hs hr hne
    obtain ⟨place, ht, hbackup, htreated⟩ := hplaces p hp
    obtain ⟨answer, hl⟩ := hlayout.exists_laidOut_iff.2 ⟨s, hs, hr, hne⟩
    simp only [Treated, hl] at htreated
    refine ⟨(Disk.content?_eq_some_iff (hinv.keeps.target? ht)).2 htreated.1, ?_⟩
    have hcopied := htreated.2
    unfold Copied at hcopied
    cases backup with
    | false => exact Disk.content?_congr hbackup (hinv.keeps.target? hbackup) hcopied
    | true =>
      refine (Disk.content?_eq_some_iff (hinv.keeps.target? hbackup)).2 (hcopied.trans ?_)
      exact (Disk.content?_eq_some_iff ht).1 (Disk.read_eq_ok_iff.1 hs)
  · intro q hq
    refine hinv.others q fun p hp place ht => ?_
    have hbackup := Disk.target?_backupPath ht (h.isSourcePath p hp)
    obtain ⟨hplace, hcopy⟩ := hq p hp
    rw [ht] at hplace
    rw [hbackup] at hcopy
    exact ⟨fun heq => hplace (congrArg some heq.symm), fun heq => hcopy (congrArg some heq.symm)⟩

/-! ## Independence -/

/-- A run treats its files apart. -/
structure TreatsApart (run : List Text → Outcome) (treat : Disk → Text → Except LayoutFault α × Disk)
    (layout : Text → Text → Except SourceFault (α × Option Text)) (backup : Bool) (d : Disk)
    (paths : List Text) : Prop where
  /-- The answers are those of the files alone. -/
  answers : ∀ others, others.Perm paths →
    (eachFile treat d others).1 = others.map fun p => (p, (treat d p).1)
  /-- Files without a new text are not written: they could as well be left out. -/
  unwritten : (run paths).disk = (run (paths.filter (d.isRewritten layout))).disk
  /-- The order of the files does not matter. -/
  perm : ∀ others, others.Perm paths → (run others).disk.look = (run paths).disk.look
  /-- The files may be treated at the same time: every order of turns will do in which each file has its
  three. -/
  interleaved : ∀ schedule, (∀ p ∈ schedule, p ∈ paths) → (∀ p ∈ paths, 3 ≤ schedule.count p) →
    (∀ p ∈ paths, (takeTurns layout backup d schedule).stages p = .done (treat d p).1) ∧
      (takeTurns layout backup d schedule).disk.look = (run paths).disk.look

/-- The order in which files are listed does not matter. -/
lemma Disk.AreSourceFiles.perm {others : List Text} (h : d.AreSourceFiles paths)
    (hperm : others.Perm paths) : d.AreSourceFiles others where
  isSourcePath p hp := h.isSourcePath p (hperm.mem_iff.1 hp)
  isSome_target? p hp := h.isSome_target? p (hperm.mem_iff.1 hp)
  target?_ne := (hperm.pairwise_iff Ne.symm).2 h.target?_ne

/-- No file is listed twice. -/
lemma Disk.AreSourceFiles.nodup (h : d.AreSourceFiles paths) : paths.Nodup :=
  h.target?_ne.imp fun hne heq => hne (congrArg d.target? heq)

section Turns

variable (layout) (h : d.AreSourceFiles paths)
  (hw : ∀ p ∈ paths, ∀ s t, d.read p = .ok s → ∃ e, d.write backup p t = .ok e)
include h hw

/-- Turns keep the files apart, and after three turns a file has its answer. -/
lemma areApart_takeTurns {schedule : List Text} (hs : ∀ p ∈ schedule, p ∈ paths)
    (hcount : ∀ p ∈ paths, 3 ≤ schedule.count p) :
    (takeTurns layout backup d schedule).AreApart layout backup d paths ∧
      ∀ p ∈ paths, ((takeTurns layout backup d schedule).stages p).turnsLeft = 0 := by
  obtain ⟨hinv, hleft⟩ := (areApart_start layout backup d paths).foldl_turn h hw hs
  refine ⟨hinv, fun p hp => ?_⟩
  have hthree : ((takeTurns layout backup d schedule).stages p).turnsLeft ≤ 3 - schedule.count p :=
    hleft p
  have := hcount p hp
  omega

/-- Treating files one after the other is an order of turns, in which each file has three. -/
lemma exists_takeTurns_eachFile {others : List Text} (hperm : others.Perm paths) :
    ∃ schedule, (∀ p ∈ schedule, p ∈ paths) ∧ (∀ p ∈ paths, 3 ≤ schedule.count p) ∧
      (eachFile (layOutAlone layout backup) d others).2 = (takeTurns layout backup d schedule).disk ∧
      (eachFile (layOutAlone layout backup) d (others.filter (d.isRewritten layout))).2 =
        (takeTurns layout backup d schedule).disk ∧
      (eachFile (layOutAlone layout backup) d others).1 =
        others.map fun p => (p, (d.laidOut layout p).map Prod.fst) := by
  refine ⟨others.flatMap fun p => [p, p, p], ?_, ?_,
    (areApart_start layout backup d paths).eachFile_eq h hw (fun p => hperm.mem_iff.1)
      (h.perm hperm).nodup fun _ _ => rfl⟩
  · intro p hp
    obtain ⟨q, hq, hpq⟩ := List.mem_flatMap.1 hp
    obtain rfl : p = q := by simpa using hpq
    exact hperm.mem_iff.1 hq
  · intro p hp
    obtain ⟨before, behind, rfl⟩ := List.append_of_mem (hperm.mem_iff.2 hp)
    simp only [List.flatMap_append, List.flatMap_cons, List.count_append, List.count_cons_self,
      List.count_nil]
    omega

/-- The answer for a file alone. -/
lemma fst_layOutAlone_of_mem (hp : path ∈ paths) :
    (layOutAlone layout backup d path).1 = (d.laidOut layout path).map Prod.fst := by
  refine fst_layOutAlone fun answer new hl => ?_
  obtain ⟨place, ht⟩ := Option.isSome_iff_exists.1 (h.isSome_target? path hp)
  obtain ⟨s, hs, -⟩ := exists_text_of_laidOut ht hl
  exact hw path hp s new hs

/-- The files of a run are treated apart. -/
theorem treatsApart {run : List Text → Outcome}
    (hrun : ∀ ps, (run ps).disk = (eachFile (layOutAlone layout backup) d ps).2) :
    TreatsApart run (layOutAlone layout backup) layout backup d paths := by
  obtain ⟨turns, hturns, hcount, hdisk, hfilter, -⟩ :=
    exists_takeTurns_eachFile layout h hw (.refl paths)
  obtain ⟨hinv, hdone⟩ := areApart_takeTurns layout h hw hturns hcount
  refine ⟨?_, ?_, ?_, ?_⟩
  · intro others hperm
    obtain ⟨-, -, -, -, -, hanswers⟩ := exists_takeTurns_eachFile layout h hw hperm
    rw [hanswers]
    refine List.map_congr_left fun p hp => ?_
    rw [fst_layOutAlone_of_mem layout h hw (hperm.mem_iff.1 hp)]
  · rw [hrun, hrun, hdisk, hfilter]
  · intro others hperm
    obtain ⟨otherTurns, hother, hothercount, hotherdisk, -, -⟩ :=
      exists_takeTurns_eachFile layout h hw hperm
    obtain ⟨hotherinv, hotherdone⟩ := areApart_takeTurns layout h hw hother hothercount
    -- both runs are orders of turns, and the files kept apart leave no choice for the disk
    rw [hrun, hrun, hotherdisk, hdisk]
    exact hotherinv.look_eq hinv h hotherdone hdone
  · intro schedule hs hthree
    obtain ⟨hsinv, hsdone⟩ := areApart_takeTurns layout h hw hs hthree
    constructor
    · intro p hp
      rw [hsinv.stages_eq h hp (hsdone p hp), fst_layOutAlone_of_mem layout h hw hp]
    · rw [hrun, hdisk]
      exact hsinv.look_eq hinv h hsdone hdone

/-- The files of a run are left with their results. -/
theorem leavesResults_eachFile (hlayout : WritesResults layout result) :
    LeavesResults result backup paths d (eachFile (layOutAlone layout backup) d paths).2 := by
  obtain ⟨turns, hturns, hcount, hdisk, -, -⟩ :=
    exists_takeTurns_eachFile layout h hw (.refl paths)
  obtain ⟨hinv, hdone⟩ := areApart_takeTurns layout h hw hturns hcount
  rw [hdisk]
  exact hinv.leavesResults h hdone hlayout

/-- The answers of a run are those of laying out what the files held. -/
lemma forall_mem_eachFile {P : Except LayoutFault α → Prop} :
    (∀ r ∈ (eachFile (layOutAlone layout backup) d paths).1, P r.2) ↔
      ∀ p ∈ paths, P ((d.laidOut layout p).map Prod.fst) := by
  obtain ⟨-, -, -, -, -, hanswers⟩ := exists_takeTurns_eachFile layout h hw (.refl paths)
  rw [hanswers, List.forall_mem_map]

end Turns

end Results

/-! ## Commands -/

variable {parser : Parser} {c : Config} {backup : Bool} {d : Disk} {path : Text} {paths : List Text}

/-- What formatting does with the text of a file that is written. -/
def formatLayout (parser : Parser) (c : Config) (path source : Text) :
    Except SourceFault (Option Text × Option Text) :=
  (formatSource parser c path source).map fun formatted =>
    if source = formatted then (none, none) else (some formatted, some formatted)

/-- What fixing does with the text of a file. -/
def fixLayout (parser : Parser) (c : Config) (path source : Text) :
    Except SourceFault (LintReport × Option Text) :=
  (fixSource parser c path source).map fun o =>
    if o.output = source then (⟨o.remaining, false⟩, none) else (⟨o.remaining, true⟩, some o.output)

lemma layOutAlone_formatLayout :
    layOutAlone (formatLayout parser c) backup = formatFile parser c true backup := rfl

lemma layOutAlone_fixLayout :
    layOutAlone (fixLayout parser c) backup = lintFile parser c true backup := rfl

lemma writesResults_formatLayout :
    WritesResults (formatLayout parser c) (formatSource parser c) := by
  intro p s
  unfold formatLayout
  cases formatSource parser c p s with
  | error f => rfl
  | ok t =>
    by_cases ht : s = t
    · simp [Except.map, ht]
    · simp [Except.map, ht, Ne.symm ht]

lemma writesResults_fixLayout : WritesResults (fixLayout parser c) (organizeSource parser c) := by
  intro p s
  unfold fixLayout organizeSource
  cases fixSource parser c p s with
  | error f => rfl
  | ok o =>
    by_cases ho : o.output = s
    · simp [Except.map, ho]
    · simp [Except.map, ho]

/-- A file is formatted if it can be read and parsed. -/
lemma exists_laidOut_formatLayout :
    (∃ answer, (d.laidOut (formatLayout parser c) path).map Prod.fst = .ok answer) ↔
      ∃ s t, d.read path = .ok s ∧ formatSource parser c path s = .ok t := by
  simp only [map_eq_ok_iff, laidOut_eq_ok_iff, formatLayout]
  constructor
  · rintro ⟨_, _, ⟨s, hs, t, ht, -⟩, -⟩
    exact ⟨s, t, hs, ht⟩
  · rintro ⟨s, t, hs, ht⟩
    exact ⟨_, _, ⟨s, hs, t, ht, rfl⟩, rfl⟩

/-- A file is fixed if every pass succeeds, and then the diagnostics are those that remain. -/
lemma exists_laidOut_fixLayout :
    (∃ report, (d.laidOut (fixLayout parser c) path).map Prod.fst = .ok report ∧
        report.diagnostics = []) ↔
      ∃ s o, d.read path = .ok s ∧ fixSource parser c path s = .ok o ∧ o.remaining = [] := by
  have hdiagnostics : ∀ (s : Text) (o : FixOutcome),
      (if o.output = s then ((⟨o.remaining, false⟩ : LintReport), none)
        else (⟨o.remaining, true⟩, some o.output)).1.diagnostics = o.remaining := by
    intro s o
    split <;> rfl
  simp only [map_eq_ok_iff, laidOut_eq_ok_iff, fixLayout]
  constructor
  · rintro ⟨_, ⟨_, ⟨s, hs, o, ho, rfl⟩, rfl⟩, hclean⟩
    rw [hdiagnostics] at hclean
    exact ⟨s, o, hs, ho, hclean⟩
  · rintro ⟨s, o, hs, ho, hclean⟩
    refine ⟨_, ⟨_, ⟨s, hs, o, ho, rfl⟩, rfl⟩, ?_⟩
    rw [hdiagnostics, hclean]

/-! ## Exit codes -/

lemma any_isFault_eq_false_iff {α : Type} {results : List (Text × Except LayoutFault α)} :
    results.any isFault = false ↔ ∀ r ∈ results, ∃ answer, r.2 = .ok answer := by
  rw [List.any_eq_false]
  refine forall₂_congr fun r _ => ?_
  unfold isFault
  cases r.2 with
  | error f => simp [Except.toOption]
  | ok answer => simp [Except.toOption]

lemma disk_runFormat :
    (runFormat parser c false false backup d paths).disk =
      (eachFile (formatFile parser c true backup) d paths).2 := by
  unfold runFormat
  dsimp only
  rw [if_neg (by simp)]
  split
  · rfl
  · rw [if_neg (by simp)]
    rfl

/-- Formatting succeeds if no file had an error. -/
lemma code_runFormat : (runFormat parser c false false backup d paths).code = 0 ↔
    ∀ r ∈ (eachFile (formatFile parser c true backup) d paths).1, ∃ answer, r.2 = .ok answer := by
  rw [← any_isFault_eq_false_iff]
  unfold runFormat
  dsimp only
  rw [if_neg (by simp)]
  split
  · next hfault => exact iff_of_false Nat.one_ne_zero fun hok => by simp [hok] at hfault
  · next hok =>
    rw [if_neg (by simp)]
    exact iff_of_true rfl (Bool.eq_false_iff.2 hok)

lemma disk_runLint :
    (runLint parser c true backup d paths).disk = (eachFile (lintFile parser c true backup) d paths).2 := by
  unfold runLint
  dsimp only
  split
  · rfl
  · split <;> rfl

/-- Fixing succeeds if no file had an error and no diagnostic remains. -/
lemma code_runLint : (runLint parser c true backup d paths).code = 0 ↔
    ∀ r ∈ (eachFile (lintFile parser c true backup) d paths).1,
      ∃ report, r.2 = .ok report ∧ report.diagnostics = [] := by
  generalize hrs : (eachFile (lintFile parser c true backup) d paths).1 = results
  have hreported : ((results.filterMap fun r => r.2.toOption).flatMap (·.diagnostics)).length = 0 ↔
      ∀ r ∈ results, ∀ report, r.2 = .ok report → report.diagnostics = [] := by
    rw [List.length_eq_zero_iff, List.flatMap_eq_nil_iff]
    constructor
    · intro hnil r hr report hreport
      exact hnil report (List.mem_filterMap.2 ⟨r, hr, by rw [hreport]; rfl⟩)
    · intro hclean report hmem
      obtain ⟨r, hr, hreport⟩ := List.mem_filterMap.1 hmem
      refine hclean r hr report ?_
      cases hanswer : r.2 with
      | error f => simp [hanswer, Except.toOption] at hreport
      | ok other => simpa [hanswer, Except.toOption] using hreport
  have hcode : (runLint parser c true backup d paths).code = 0 ↔
      ((results.filterMap fun r => r.2.toOption).flatMap (·.diagnostics)).length = 0 ∧
        results.any isFault = false := by
    unfold runLint
    dsimp only
    rw [hrs]
    split
    · next hpos => exact iff_of_false Nat.one_ne_zero fun hclean => Nat.ne_of_gt hpos hclean.1
    · next hzero =>
      split
      · next hfault => exact iff_of_false Nat.one_ne_zero fun hclean => by simp [hclean.2] at hfault
      · next hok =>
        rw [if_pos rfl]
        exact iff_of_true rfl ⟨Nat.eq_zero_of_not_pos hzero, Bool.eq_false_iff.2 hok⟩
  rw [hcode, hreported, any_isFault_eq_false_iff]
  constructor
  · rintro ⟨hclean, hok⟩ r hr
    obtain ⟨report, hreport⟩ := hok r hr
    exact ⟨report, hreport, hclean r hr report hreport⟩
  · intro hall
    constructor
    · intro r hr report hreport
      obtain ⟨other, hother, hclean⟩ := hall r hr
      obtain rfl : other = report := by simpa [hother] using hreport
      exact hclean
    · intro r hr
      obtain ⟨report, hreport, -⟩ := hall r hr
      exact ⟨report, hreport⟩

/-! ## Runs -/

/-- A run that formats and a run that fixes leave every file with its own result, they fail exactly if
some file had an error or a diagnostic remains, and they treat their files apart.  The files are such
that those with a text can be written; nothing is assumed of the parser that reads them. -/
theorem Disk.AreSourceFiles.runs_leaveResults (parser : Parser) (c : Config) (backup : Bool)
    {d : Disk} {paths : List Text} (h : d.AreSourceFiles paths)
    (hw : ∀ p ∈ paths, ∀ s t, d.read p = .ok s → ∃ e, d.write backup p t = .ok e) :
    (LeavesResults (formatSource parser c) backup paths d
        (runFormat parser c false false backup d paths).disk ∧
      ((runFormat parser c false false backup d paths).code = 0 ↔
        ∀ p ∈ paths, ∃ s t, d.read p = .ok s ∧ formatSource parser c p s = .ok t) ∧
      TreatsApart (runFormat parser c false false backup d) (formatFile parser c true backup)
        (formatLayout parser c) backup d paths) ∧
    LeavesResults (organizeSource parser c) backup paths d (runLint parser c true backup d paths).disk ∧
      ((runLint parser c true backup d paths).code = 0 ↔
        ∀ p ∈ paths, ∃ s o, d.read p = .ok s ∧ fixSource parser c p s = .ok o ∧ o.remaining = []) ∧
      TreatsApart (runLint parser c true backup d) (lintFile parser c true backup)
        (fixLayout parser c) backup d paths := by
  refine ⟨⟨?_, ?_, ?_⟩, ?_, ?_, ?_⟩
  · rw [disk_runFormat, ← layOutAlone_formatLayout]
    exact leavesResults_eachFile (formatLayout parser c) h hw writesResults_formatLayout
  · rw [code_runFormat, ← layOutAlone_formatLayout,
      forall_mem_eachFile (P := fun r => ∃ answer, r = .ok answer) (formatLayout parser c) h hw]
    exact forall₂_congr fun p _ => exists_laidOut_formatLayout
  · rw [← layOutAlone_formatLayout]
    exact treatsApart (formatLayout parser c) h hw fun ps => disk_runFormat
  · rw [disk_runLint, ← layOutAlone_fixLayout]
    exact leavesResults_eachFile (fixLayout parser c) h hw writesResults_fixLayout
  · rw [code_runLint, ← layOutAlone_fixLayout,
      forall_mem_eachFile (P := fun r => ∃ report, r = .ok report ∧ report.diagnostics = [])
        (fixLayout parser c) h hw]
    exact forall₂_congr fun p _ => exists_laidOut_fixLayout
  · rw [← layOutAlone_fixLayout]
    exact treatsApart (fixLayout parser c) h hw fun ps => disk_runLint

/-- A folder with a file that is no module, one that is laid out, one that is no text, and one that is
not laid out. -/
def mixedFolder : Disk where
  tree := .folder [("work".toList, .folder
    [("broken.ts".toList, .file (.text "import a from".toList)),
      ("even.ts".toList, .file (.text "import a from 'a'".toList)),
      ("raw.ts".toList, .file (.binary [255])),
      ("wide.ts".toList, .file (.text "import   a   from 'a'".toList))])]
  here := ["work".toList]

/-- The files of the folder. -/
def mixedPaths : List Text := ["wide.ts", "broken.ts", "even.ts", "raw.ts"].map String.toList

theorem runs_leaveResults_mixedFolder :
    mixedFolder.AreSourceFiles mixedPaths ∧
    (∀ p ∈ mixedPaths, ∀ s t, mixedFolder.read p = .ok s → ∃ e, mixedFolder.write true p t = .ok e) ∧
    ((runFormat sourceParser .default false false true mixedFolder mixedPaths).code ≠ 0 ∧
      let e := (runFormat sourceParser .default false false true mixedFolder mixedPaths).disk
      e.content? "wide.ts".toList = some (.text "import a from 'a'".toList) ∧
      e.content? "wide.ts.bak".toList = some (.text "import   a   from 'a'".toList) ∧
      e.content? "broken.ts".toList = some (.text "import a from".toList) ∧
      e.content? "broken.ts.bak".toList = none) ∧
    let e := (runLint sourceParser .default true true mixedFolder mixedPaths).disk
    e.content? "wide.ts".toList = some (.text "import a from 'a'".toList) ∧
    e.content? "even.ts.bak".toList = none := by
  have hfiles : mixedFolder.AreSourceFiles mixedPaths := by
    constructor <;> decide +kernel
  have hw : ∀ p ∈ mixedPaths, ∀ s t, mixedFolder.read p = .ok s →
      ∃ e, mixedFolder.write true p t = .ok e := by
    intro p hp s t _
    simp only [mixedPaths, List.map_cons, List.map_nil, List.mem_cons, List.not_mem_nil,
      or_false] at hp
    rcases hp with rfl | rfl | rfl | rfl
    · exact ⟨_, rfl⟩
    · exact ⟨_, rfl⟩
    · exact ⟨_, rfl⟩
    · exact ⟨_, rfl⟩
  obtain ⟨⟨hformatted, hcode, -⟩, hfixed, -⟩ := hfiles.runs_leaveResults sourceParser .default true hw
  have hbroken : ∀ t,
      formatSource sourceParser .default "broken.ts".toList "import a from".toList ≠ .ok t := by
    intro t ht
    have hnone : (formatSource sourceParser .default "broken.ts".toList
        "import a from".toList).toOption = none := by decide +kernel
    rw [ht] at hnone
    simp [Except.toOption] at hnone
  have hread : mixedFolder.read "broken.ts".toList = .ok "import a from".toList := by decide +kernel
  have hkept := hformatted.kept "broken.ts".toList (by decide +kernel) fun s t hs ht => by
    obtain rfl : "import a from".toList = s := Except.ok.inj (hread.symm.trans hs)
    exact absurd ht (hbroken t)
  have hwide := hformatted.replaced "wide.ts".toList (by decide +kernel)
    "import   a   from 'a'".toList "import a from 'a'".toList (by decide +kernel)
    (by decide +kernel) (by decide)
  have hwidefixed := hfixed.replaced "wide.ts".toList (by decide +kernel)
    "import   a   from 'a'".toList "import a from 'a'".toList (by decide +kernel)
    (by decide +kernel) (by decide)
  have heven := hfixed.kept "even.ts".toList (by decide +kernel) fun s t hs ht => by
    have hevenread : mixedFolder.read "even.ts".toList = .ok "import a from 'a'".toList := by
      decide +kernel
    obtain rfl : "import a from 'a'".toList = s := Except.ok.inj (hevenread.symm.trans hs)
    have hsame : organizeSource sourceParser .default "even.ts".toList "import a from 'a'".toList =
        .ok "import a from 'a'".toList := by decide +kernel
    exact Except.ok.inj (ht.symm.trans hsame)
  refine ⟨hfiles, hw, ⟨?_, hwide.1, ?_, ?_, ?_⟩, hwidefixed.1, ?_⟩
  · intro hzero
    obtain ⟨s, t, hs, ht⟩ := hcode.1 hzero "broken.ts".toList (by decide +kernel)
    obtain rfl : "import a from".toList = s := Except.ok.inj (hread.symm.trans hs)
    exact hbroken t ht
  · exact hwide.2
  · exact hkept.1.trans (by decide +kernel)
  · exact hkept.2.trans (by decide +kernel)
  · exact heven.2.trans (by decide +kernel)

end ImportGrid
