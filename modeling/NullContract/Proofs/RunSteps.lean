import Mathlib.Algebra.Order.Ring.Nat
import NullContract.CommandLine.Run
import NullContract.Proofs.TreeGrowth

namespace NullContract.CommandLine

section Filter

variable {ε α : Type} {p : α → Except ε Bool}

theorem filterAuxM_eq_ok {list acc kept : List α} :
    list.filterAuxM p acc = .ok kept ↔
      (∀ a ∈ list, ∃ b, p a = .ok b) ∧ kept = (list.filter fun a => (p a).toOption = some true).reverse ++ acc := by
  induction list generalizing acc with
  | nil => simp [List.filterAuxM, pure, Except.pure, eq_comm]
  | cons a list ih =>
    rw [List.filterAuxM, bind_eq_ok]
    cases hp : p a with
    | error e => simp [hp]
    | ok b =>
      simp only [Except.ok.injEq, exists_eq_left', ih]
      cases b <;> simp [hp, Except.toOption]

theorem filterM_eq_ok {list kept : List α} :
    list.filterM p = .ok kept ↔
      (∀ a ∈ list, ∃ b, p a = .ok b) ∧ kept = list.filter fun a => (p a).toOption = some true := by
  rw [List.filterM, bind_eq_ok]
  simp only [filterAuxM_eq_ok, List.append_nil]
  constructor
  · rintro ⟨_, ⟨hall, rfl⟩, hkept⟩
    cases hkept
    exact ⟨hall, List.reverse_reverse _⟩
  · rintro ⟨hall, rfl⟩
    exact ⟨_, ⟨hall, rfl⟩, congrArg Except.ok (List.reverse_reverse _)⟩

end Filter

section Missing

variable {options : Options} {tree : FileTree} {missing : List String}

theorem missing_eq_ok :
    options.missing tree = .ok missing ↔ (∀ file ∈ options.files, ∃ there, tree.contains file = .ok there) ∧
      missing = options.files.filter fun file => (tree.contains file).toOption = some false := by
  rw [Options.missing, filterM_eq_ok]
  refine and_congr (forall₂_congr fun file _ => ?_) (Eq.congr rfl (List.filter_congr fun file _ => ?_))
  · cases tree.contains file <;> simp [bind, Except.bind, pure, Except.pure]
  · cases hthere : tree.contains file with
    | error e => rfl
    | ok there => cases there <;> rfl

theorem toOption_eq_some {ε α : Type} {result : Except ε α} {a : α} : result.toOption = some a ↔ result = .ok a := by
  cases result <;> simp [Except.toOption]

theorem mem_missing (h : options.missing tree = .ok missing) {file : String} :
    file ∈ missing ↔ file ∈ options.files ∧ tree.contains file = .ok false := by
  rw [(missing_eq_ok.mp h).2, List.mem_filter, decide_eq_true_eq, toOption_eq_some]

theorem missing_eq_nil_iff :
    options.missing tree = .ok [] ↔ ∀ file ∈ options.files, tree.contains file = .ok true := by
  rw [missing_eq_ok, eq_comm, List.filter_eq_nil_iff]
  constructor
  · rintro ⟨hdecided, hnone⟩ file hfile
    obtain ⟨there, hthere⟩ := hdecided file hfile
    have hnot := hnone file hfile
    rw [decide_eq_true_eq, toOption_eq_some] at hnot
    cases there with
    | false => exact absurd hthere hnot
    | true => exact hthere
  · intro hall
    refine ⟨fun file hfile => ⟨true, hall file hfile⟩, fun file hfile => ?_⟩
    simp [hall file hfile, Except.toOption]

theorem missing_congr {tree' : FileTree} (h : options.missing tree = .ok missing)
    (hsame : ∀ file ∈ options.files, tree'.contains file = tree.contains file) :
    options.missing tree' = .ok missing := by
  obtain ⟨hdecided, rfl⟩ := missing_eq_ok.mp h
  refine missing_eq_ok.mpr ⟨fun file hfile => ?_, List.filter_congr fun file hfile => ?_⟩
  · rw [hsame file hfile]
    exact hdecided file hfile
  · rw [hsame file hfile]

end Missing

structure Share where
  failed : Nat
  lines : List Text
  log : List LogEntry
  reports : List (Place × Json)

def report? (stamp : Stamp) (options : Options) (settings : Settings) (file : String) :
    FileOutcome → Option (String × Json)
  | .malformed => none
  | .checked summary => (options.reportPath? file).map fun path => (path, stampedReport summary stamp settings)

def share (stamp : Stamp) (options : Options) (settings : Settings) (file : String) (outcome : FileOutcome) : Share where
  failed := outcome.failed
  lines :=
    match outcome with
    | .malformed => [.ofString ("❌ Error: Could not parse " ++ file ++ ": <syntax error>")]
    | .checked summary => checkedLines options.verbose summary (options.reportPath? file)
  log :=
    match outcome with
    | .malformed => []
    | .checked summary => summary.log
  reports := (report? stamp options settings file outcome).toList.map fun report => (Path.place report.1, report.2)

def Progress.plus (progress : Progress) (tree : FileTree) (shares : List Share) : Progress where
  tree := tree
  failed := progress.failed + (shares.map Share.failed).sum
  lines := progress.lines ++ shares.flatMap Share.lines
  log := progress.log ++ shares.flatMap Share.log
  reports := progress.reports ++ shares.flatMap Share.reports

theorem Progress.plus_nil (progress : Progress) : progress.plus progress.tree [] = progress := by
  simp [plus]

theorem Progress.plus_plus (progress : Progress) (tree tree' : FileTree) (shares shares' : List Share) :
    (progress.plus tree shares).plus tree' shares' = progress.plus tree' (shares ++ shares') := by
  simp [plus, Nat.add_assoc]

def Stores (before : FileTree) (report : Option (String × Json)) (after : FileTree) : Prop :=
  match report with
  | none => after = before
  | some (path, json) => before.write path (json.render (some (Json.blanks 2))).toUTF8 = .ok (after, Path.place path)

section Step

variable {stamp : Stamp} {options : Options} {settings : Settings} {progress after : Progress} {file : String}

theorem write_eq_ok_iff {path : String} {json : Json} :
    progress.write path json = .ok after ↔
      ∃ tree, Stores progress.tree (some (path, json)) tree ∧
        after = { progress with tree := tree, reports := progress.reports ++ [(Path.place path, json)] } := by
  simp only [Progress.write, Stores]
  cases hwrite : progress.tree.write path (json.render (some (Json.blanks 2))).toUTF8 with
  | error e => simp
  | ok written =>
    obtain ⟨tree, place⟩ := written
    have hplace := (FileTree.write_eq_ok hwrite).1
    subst hplace
    simp [eq_comm]

theorem step_eq_ok_iff :
    step stamp options settings progress file = .ok after ↔
      ∃ outcome tree, checkFile settings progress.tree file = .ok outcome ∧
        Stores progress.tree (report? stamp options settings file outcome) tree ∧
        after = progress.plus tree [share stamp options settings file outcome] := by
  unfold step
  rw [bind_eq_ok]
  refine exists_congr fun outcome => ?_
  rw [exists_and_left]
  refine and_congr_right fun _ => ?_
  cases outcome with
  | malformed => simp [report?, Stores, share, Progress.plus, FileOutcome.failed, pure, Except.pure, eq_comm]
  | checked summary =>
    cases hpath : options.reportPath? file with
    | none => simp [report?, Stores, share, Progress.plus, hpath, pure, Except.pure, bind, Except.bind, eq_comm]
    | some path =>
      simp only [report?, hpath, Option.map_some, bind_eq_ok, write_eq_ok_iff]
      constructor
      · rintro ⟨_, ⟨tree, hstores, rfl⟩, h⟩
        cases h
        exact ⟨tree, hstores, by simp [share, report?, Progress.plus, hpath]⟩
      · rintro ⟨tree, hstores, rfl⟩
        exact ⟨_, ⟨tree, hstores, rfl⟩, by simp [share, report?, Progress.plus, hpath, pure, Except.pure]⟩

end Step

section ReportPaths

variable {options : Options} {file other path path' : String}

theorem isName_reportName (file : String) : Path.IsName (reportName file) := by
  have hlength : (reportName file).toList.length = (Path.stem file).toList.length + 14 := by
    simp [reportName]
  refine ⟨fun h => ?_, fun h => ?_, fun h => ?_⟩
  · simp [h] at hlength
  · simp [h] at hlength
  · rw [reportName, String.toList_append, List.mem_append] at h
    exact h.elim (Path.slash_not_mem_stem file) (by decide)

theorem reportName_ne_up (file : String) : reportName file ≠ ".." := by
  intro h
  have hlength : (reportName file).toList.length = (Path.stem file).toList.length + 14 := by
    simp [reportName]
  simp [h] at hlength

theorem above_eq (h : path ∈ options.reportPath? file) (h' : path' ∈ options.reportPath? other) :
    Path.above path = Path.above path' := by
  unfold Options.reportPath? at h h'
  obtain ⟨target, htarget, rfl⟩ := Option.map_eq_some_iff.mp h
  obtain ⟨target', htarget', rfl⟩ := Option.map_eq_some_iff.mp h'
  rw [htarget, Option.some.injEq] at htarget'
  subst htarget'
  unfold reportPath
  split
  · have habove : ∀ file, Path.above (Path.join target (reportName file)) = Place.through [] (Path.parts target) := by
      intro file
      rw [Path.above, Path.parts_join target (isName_reportName file), List.dropLast_concat]
    rw [habove, habove]
  · rfl

end ReportPaths

def Options.ReportsApart (options : Options) : Prop :=
  ∀ file ∈ options.files, ∀ path ∈ options.reportPath? file, ∀ other ∈ options.files, Path.place path ≠ Path.place other

instance (options : Options) : Decidable options.ReportsApart :=
  inferInstanceAs (Decidable (∀ file ∈ options.files, ∀ path ∈ options.reportPath? file, ∀ other ∈ options.files,
    Path.place path ≠ Path.place other))

def Written (options : Options) (settings : Settings) (tree : FileTree) (place : Place) : Prop :=
  ∃ file ∈ options.files, ∃ summary, checkFile settings tree file = .ok (.checked summary) ∧
    ∃ path ∈ options.reportPath? file, place = Path.place path

def Made (options : Options) (place : Place) : Prop :=
  ∃ file ∈ options.files, ∃ path ∈ options.reportPath? file, place ∈ Path.above path

def RoomFor (options : Options) (settings : Settings) (tree : FileTree) (file : String) : Prop :=
  ∀ summary, checkFile settings tree file = .ok (.checked summary) →
    ∀ path ∈ options.reportPath? file, Path.FitsFile path ∧ tree.HasRoom path

section Fold

variable {stamp : Stamp} {options : Options} {settings : Settings} {tree before after : FileTree} {file : String}
  {outcome : FileOutcome}

theorem checkFile_of_grows (hthere : ∀ file ∈ options.files, tree.contains file = .ok true) (hapart : options.ReportsApart)
    (hgrows : tree.Grows (Written options settings tree) (Made options) after) (hfile : file ∈ options.files) :
    checkFile settings after file = checkFile settings tree file := by
  have hnot : ¬ Written options settings tree (Path.place file) := by
    rintro ⟨other, hother, summary, -, path, hpath, hplace⟩
    exact hapart other hother path hpath file hfile hplace.symm
  rw [checkFile, checkFile, hgrows.textAt (hthere file hfile) hnot]

theorem Stores.grows (hfile : file ∈ options.files) (hcheck : checkFile settings tree file = .ok outcome)
    (h : Stores before (report? stamp options settings file outcome) after) :
    before.Grows (Written options settings tree) (Made options) after := by
  cases outcome with
  | malformed =>
    cases h
    exact .refl _
  | checked summary =>
    cases hpath : options.reportPath? file with
    | none =>
      rw [report?, hpath] at h
      cases h
      exact .refl _
    | some path =>
      rw [report?, hpath] at h
      obtain ⟨-, -, -, hgrows, -⟩ := FileTree.write_eq_ok h
      refine hgrows.mono ?_ fun place hplace => ⟨file, hfile, path, hpath, hplace⟩
      rintro place rfl
      exact ⟨file, hfile, summary, hcheck, path, hpath, rfl⟩

theorem Stores.room (hcheck : checkFile settings before file = .ok outcome)
    (h : Stores before (report? stamp options settings file outcome) after) : RoomFor options settings before file := by
  intro summary hsummary path hpath
  rw [hcheck, Except.ok.injEq] at hsummary
  subst hsummary
  rw [report?, Option.mem_def.mp hpath] at h
  obtain ⟨-, hfits, hroom, -⟩ := FileTree.write_eq_ok h
  exact ⟨hfits, hroom⟩

theorem exists_stores (hcheck : checkFile settings before file = .ok outcome) (hroom : RoomFor options settings before file) :
    ∃ after, Stores before (report? stamp options settings file outcome) after := by
  cases outcome with
  | malformed => exact ⟨before, rfl⟩
  | checked summary =>
    cases hpath : options.reportPath? file with
    | none => exact ⟨before, by rw [report?, hpath]; rfl⟩
    | some path =>
      obtain ⟨hfits, hroom⟩ := hroom summary hcheck path hpath
      obtain ⟨after, hwrite⟩ := FileTree.exists_write hfits hroom
        ((stampedReport summary stamp settings).render (some (Json.blanks 2))).toUTF8
      exact ⟨after, by rw [report?, hpath]; exact hwrite⟩

theorem RoomFor.of_grows (hgrows : tree.Grows (Written options settings tree) (Made options) after)
    (hsame : checkFile settings after file = checkFile settings tree file) (h : RoomFor options settings after file) :
    RoomFor options settings tree file := by
  intro summary hsummary path hpath
  obtain ⟨hfits, hroom⟩ := h summary (hsame.trans hsummary) path hpath
  exact ⟨hfits, hroom.of_grows hgrows⟩

theorem RoomFor.of_grown (hall : ∀ file ∈ options.files, RoomFor options settings tree file)
    (hgrows : tree.Grows (Written options settings tree) (Made options) after) (hfile : file ∈ options.files)
    (hsame : checkFile settings after file = checkFile settings tree file) : RoomFor options settings after file := by
  intro summary hsummary path hpath
  obtain ⟨hfits, hroom⟩ := hall file hfile summary (hsame.symm.trans hsummary) path hpath
  refine ⟨hfits, hroom.of_grown hgrows ?_ ?_⟩
  · rintro place hplace ⟨other, hother, summary', hsummary', path', hpath', rfl⟩
    have hroom' := (hall other hother summary' hsummary' path' hpath').2
    rw [above_eq hpath hpath'] at hplace
    exact hroom'.apart hplace
  · rintro ⟨other, hother, path', hpath', hplace⟩
    rw [above_eq hpath' hpath] at hplace
    exact hroom.apart hplace

/-- What a run finds in its files, each of them in the tree that the reports on those before it leave. -/
inductive Finds (stamp : Stamp) (options : Options) (settings : Settings) :
    FileTree → List String → List FileOutcome → FileTree → Prop where
  | nil {tree : FileTree} : Finds stamp options settings tree [] [] tree
  | cons {before between after : FileTree} {file : String} {outcome : FileOutcome} {files : List String}
      {found : List FileOutcome} (hcheck : checkFile settings before file = .ok outcome)
      (hstores : Stores before (report? stamp options settings file outcome) between)
      (hrest : Finds stamp options settings between files found after) :
      Finds stamp options settings before (file :: files) (outcome :: found) after

theorem foldlM_step_eq_ok_iff {files : List String} {progress last : Progress} :
    files.foldlM (step stamp options settings) progress = .ok last ↔
      ∃ found, Finds stamp options settings progress.tree files found last.tree ∧
        last = progress.plus last.tree (List.zipWith (share stamp options settings) files found) := by
  induction files generalizing progress with
  | nil =>
    constructor
    · intro h
      cases h
      exact ⟨[], .nil, (Progress.plus_nil _).symm⟩
    · rintro ⟨_, hfinds, hlast⟩
      generalize htree : last.tree = tree at hfinds hlast
      cases hfinds
      rw [hlast]
      exact congrArg Except.ok (Progress.plus_nil _).symm
  | cons file files ih =>
    rw [List.foldlM_cons, bind_eq_ok]
    simp only [step_eq_ok_iff, ih]
    constructor
    · rintro ⟨_, ⟨outcome, between, hcheck, hstores, rfl⟩, found, hfinds, hlast⟩
      refine ⟨outcome :: found, .cons hcheck hstores hfinds, ?_⟩
      rw [Progress.plus_plus] at hlast
      exact hlast
    · rintro ⟨_, hfinds, hlast⟩
      generalize htree : last.tree = tree at hfinds hlast
      cases hfinds with
      | cons hcheck hstores hrest =>
        refine ⟨_, ⟨_, _, hcheck, hstores, rfl⟩, _, hrest, ?_⟩
        rw [Progress.plus_plus]
        exact hlast

theorem Finds.checks (hthere : ∀ file ∈ options.files, tree.contains file = .ok true) (hapart : options.ReportsApart)
    {files : List String} {found : List FileOutcome} (h : Finds stamp options settings before files found after)
    (hfiles : files ⊆ options.files) (hgrows : tree.Grows (Written options settings tree) (Made options) before) :
    List.Forall₂ (fun file outcome => checkFile settings tree file = .ok outcome) files found ∧
      ∀ file ∈ files, RoomFor options settings tree file := by
  induction h with
  | nil => exact ⟨.nil, by simp⟩
  | cons hcheck hstores _ ih =>
    obtain ⟨hfile, hfiles⟩ := List.cons_subset.mp hfiles
    have hsame := checkFile_of_grows hthere hapart hgrows hfile
    have hcheck' := hsame.symm.trans hcheck
    obtain ⟨hchecks, hrooms⟩ := ih hfiles (hgrows.trans (hstores.grows hfile hcheck'))
    exact ⟨.cons hcheck' hchecks, List.forall_mem_cons.mpr ⟨(hstores.room hcheck).of_grows hgrows hsame, hrooms⟩⟩

theorem exists_finds (hthere : ∀ file ∈ options.files, tree.contains file = .ok true) (hapart : options.ReportsApart)
    (hchecks : ∀ file ∈ options.files, ∃ outcome, checkFile settings tree file = .ok outcome)
    (hrooms : ∀ file ∈ options.files, RoomFor options settings tree file) {files : List String}
    (hfiles : files ⊆ options.files) (hgrows : tree.Grows (Written options settings tree) (Made options) before) :
    ∃ found after, Finds stamp options settings before files found after := by
  induction files generalizing before with
  | nil => exact ⟨[], before, .nil⟩
  | cons file files ih =>
    obtain ⟨hfile, hfiles⟩ := List.cons_subset.mp hfiles
    have hsame := checkFile_of_grows hthere hapart hgrows hfile
    obtain ⟨outcome, hcheck⟩ := hchecks file hfile
    obtain ⟨between, hstores⟩ : ∃ between, Stores before (report? stamp options settings file outcome) between :=
      exists_stores (hsame.trans hcheck) (RoomFor.of_grown hrooms hgrows hfile hsame)
    obtain ⟨found, after, hrest⟩ := ih hfiles (hgrows.trans (hstores.grows hfile hcheck))
    exact ⟨outcome :: found, after, .cons (hsame.trans hcheck) hstores hrest⟩

end Fold

end NullContract.CommandLine
