import Mathlib.Data.List.Nodup
import NullContract.Proofs.RunStatus
import NullContract.Proofs.SourceChecks

namespace NullContract

theorem Text.ofString_inj {a b : String} : Text.ofString a = Text.ofString b ↔ a = b := by
  refine ⟨fun h => String.toList_injective (List.map_injective_iff.mpr ?_ h), fun h => by rw [h]⟩
  exact fun _ _ h => CodePoint.char.inj h

end NullContract

namespace NullContract.CommandLine

def Outcome.reportAt? (outcome : Outcome) (place : Place) : Option Json :=
  outcome.reports.reverse.lookup place

structure IsReportOn (file : String) (summary : Summary) (report : Json) : Prop where
  file : (report.field? "metadata").bind (Json.field? "source_file") = some (.str file)
  results : ∃ durations : List Double,
    report.field? "results" = some (.arr (summary.results.zipIdx.map fun (r, i) => r.entry (durations[i]?.getD .zero)))

def Outcome.Keeps (outcome : Outcome) (directory file : String) (summary : Summary) : Prop :=
  ∃ place report, Path.place directory <+: place ∧ outcome.reportAt? place = some report ∧ IsReportOn file summary report

theorem lookup_of_mem {α β : Type} [BEq α] [LawfulBEq α] {list : List (α × β)} {a : α} {b : β}
    (h : (list.map Prod.fst).Nodup) (hmem : (a, b) ∈ list) : list.lookup a = some b := by
  obtain ⟨before, after, rfl⟩ := List.append_of_mem hmem
  refine List.lookup_eq_some_iff.mpr ⟨before, after, rfl, fun p hp => ?_⟩
  rw [List.map_append, List.nodup_append'] at h
  have hapart := h.2.2 (List.mem_map_of_mem (f := Prod.fst) hp)
  rw [bne_iff_ne]
  rintro rfl
  exact hapart List.mem_cons_self

section Names

variable {file other : String}

theorem reportName_inj : reportName file = reportName other ↔ Path.stem file = Path.stem other := by
  refine ⟨fun h => ?_, fun h => by rw [reportName, h, reportName]⟩
  have hlist := congrArg String.toList h
  rw [reportName, reportName, String.toList_append, String.toList_append] at hlist
  exact String.toList_injective (List.append_cancel_right hlist)

def reportPlace (directory file : String) : Place :=
  Path.place directory ++ [reportName file]

theorem place_reportPath (directory file : String) :
    Path.place (reportPath directory file true) = reportPlace directory file := by
  rw [reportPath, if_pos rfl]
  exact Path.place_join directory (isName_reportName file) (reportName_ne_up file)

theorem reportPlace_inj {directory : String} :
    reportPlace directory file = reportPlace directory other ↔ Path.stem file = Path.stem other := by
  rw [← reportName_inj]
  simp [reportPlace]

theorem reportPath_inj {directory : String} :
    reportPath directory file true = reportPath directory other true ↔ Path.stem file = Path.stem other := by
  constructor
  · intro h
    have hplace := congrArg Path.place h
    rw [place_reportPath, place_reportPath] at hplace
    exact reportPlace_inj.mp hplace
  · intro h
    rw [reportPath, reportPath, reportName_inj.mpr h]

theorem nodup_map_iff {α β γ : Type} {f : α → β} {g : α → γ} (h : ∀ {a b}, f a = f b ↔ g a = g b) (list : List α) :
    (list.map f).Nodup ↔ (list.map g).Nodup := by
  simp only [List.Nodup, List.pairwise_map, ne_eq, h]

end Names

theorem isReportOn_stampedReport {file : String} {summary : Summary} (h : summary.filename = file) (stamp : Stamp)
    (settings : Settings) : IsReportOn file summary (stampedReport summary stamp settings) where
  file := by
    rw [← h]
    rfl
  results := ⟨summary.results.map fun r => stamp.seconds r.candidate, rfl⟩

section Found

variable {stamp : Stamp} {options : Options} {settings : Settings} {before after : FileTree} {files : List String}
  {found : List FileOutcome} {directory file : String} {summary : Summary} {place : Place} {report : Json}

theorem Finds.filename (h : Finds stamp options settings before files found after)
    (hmem : (file, .checked summary) ∈ files.zip found) : summary.filename = file := by
  induction h with
  | nil => cases hmem
  | cons hcheck _ _ ih =>
    rw [List.zip_cons_cons, List.mem_cons] at hmem
    rcases hmem with heq | hmem
    · cases heq
      obtain ⟨text, -, hsummary⟩ := checkFile_eq_checked.mp hcheck
      exact (checkSource_eq_ok.mp hsummary).1
    · exact ih hmem

theorem Finds.exists_checked (h : Finds stamp options settings before files found after)
    (hparse : ∀ outcome ∈ found, outcome ≠ .malformed) (hfile : file ∈ files) :
    ∃ summary, (file, .checked summary) ∈ files.zip found := by
  induction h with
  | nil => cases hfile
  | @cons _ _ _ head outcome _ _ _ _ _ ih =>
    obtain ⟨houtcome, hparse⟩ := List.forall_mem_cons.mp hparse
    rcases List.mem_cons.mp hfile with rfl | hfile
    · cases outcome with
      | malformed => exact absurd rfl houtcome
      | checked summary => exact ⟨summary, by simp⟩
    · obtain ⟨summary, hmem⟩ := ih hparse hfile
      exact ⟨summary, List.mem_cons_of_mem _ hmem⟩

def reportsOn (stamp : Stamp) (options : Options) (settings : Settings) (files : List String) (found : List FileOutcome) :
    List (Place × Json) :=
  (List.zipWith (share stamp options settings) files found).flatMap Share.reports

theorem reports_share (hpath : options.reportPath? file = some (reportPath directory file true)) (outcome : FileOutcome) :
    (share stamp options settings file outcome).reports =
      match outcome with
      | .malformed => []
      | .checked summary => [(reportPlace directory file, stampedReport summary stamp settings)] := by
  cases outcome with
  | malformed => rfl
  | checked summary => simp [share, report?, hpath, place_reportPath]

theorem reportsOn_cons (outcome : FileOutcome) :
    reportsOn stamp options settings (file :: files) (outcome :: found) =
      (share stamp options settings file outcome).reports ++ reportsOn stamp options settings files found := rfl

theorem mem_reportsOn (hpath : ∀ file, options.reportPath? file = some (reportPath directory file true)) :
    (place, report) ∈ reportsOn stamp options settings files found ↔
      ∃ file summary, (file, .checked summary) ∈ files.zip found ∧ place = reportPlace directory file ∧
        report = stampedReport summary stamp settings := by
  induction files generalizing found with
  | nil => simp [reportsOn]
  | cons file files ih =>
    cases found with
    | nil => simp [reportsOn]
    | cons outcome found =>
      rw [reportsOn_cons, List.mem_append, ih, reports_share (hpath file)]
      cases outcome with
      | malformed => simp
      | checked summary =>
        simp only [List.mem_cons, List.not_mem_nil, or_false, Prod.mk.injEq, List.zip_cons_cons, FileOutcome.checked.injEq]
        constructor
        · rintro (⟨rfl, rfl⟩ | ⟨other, summary', hmem, rfl, rfl⟩)
          · exact ⟨file, summary, .inl ⟨rfl, rfl⟩, rfl, rfl⟩
          · exact ⟨other, summary', .inr hmem, rfl, rfl⟩
        · rintro ⟨other, summary', ⟨rfl, rfl⟩ | hmem, rfl, rfl⟩
          · exact .inl ⟨rfl, rfl⟩
          · exact .inr ⟨other, summary', hmem, rfl, rfl⟩

theorem places_reportsOn (hpath : ∀ file, options.reportPath? file = some (reportPath directory file true)) :
    ((reportsOn stamp options settings files found).map Prod.fst).Sublist (files.map (reportPlace directory)) := by
  induction files generalizing found with
  | nil => simp [reportsOn]
  | cons file files ih =>
    cases found with
    | nil => simp [reportsOn]
    | cons outcome found =>
      rw [reportsOn_cons, reports_share (hpath file)]
      cases outcome with
      | malformed => exact ih.cons _
      | checked summary => exact ih.cons_cons _

def Holds (tree : FileTree) (reports : List (Place × Json)) : Prop :=
  ∀ place report, reports.reverse.lookup place = some report →
    tree.entry? place = some (.file (report.render (some (Json.blanks 2))).toUTF8)

theorem Stores.holds {reports : List (Place × Json)} {report : Option (String × Json)} (h : Stores before report after)
    (hholds : Holds before reports) : Holds after (reports ++ report.toList.map fun r => (Path.place r.1, r.2)) := by
  cases report with
  | none =>
    cases h
    simpa using hholds
  | some written =>
    obtain ⟨path, json⟩ := written
    obtain ⟨-, -, -, hgrows, hentry⟩ := FileTree.write_eq_ok h
    intro place report hreport
    rw [Option.toList_some, List.map_singleton, List.reverse_append, List.reverse_singleton, List.singleton_append,
      List.lookup_cons] at hreport
    split at hreport
    · next heq =>
      cases hreport
      rw [eq_of_beq heq]
      exact hentry
    · next hne =>
      have hchange := hgrows place
      rw [hholds place report hreport] at hchange
      exact hchange.file_of_not_written (ne_of_beq_false (by simpa using hne))

theorem Finds.holds (h : Finds stamp options settings before files found after) {reports : List (Place × Json)}
    (hholds : Holds before reports) : Holds after (reports ++ reportsOn stamp options settings files found) := by
  induction h generalizing reports with
  | nil => simpa [reportsOn] using hholds
  | cons _ hstores _ ih =>
    rw [reportsOn_cons, ← List.append_assoc]
    exact ih (hstores.holds hholds)

theorem stems_nodup_of_keeps {outcome : Outcome}
    (hpath : ∀ file, options.reportPath? file = some (reportPath directory file true))
    (hfinds : Finds stamp options settings before files found after) (hfiles : files.Nodup)
    (hparse : ∀ outcome ∈ found, outcome ≠ .malformed)
    (hreports : outcome.reports = reportsOn stamp options settings files found)
    (hkeeps : ∀ file summary, (file, .checked summary) ∈ files.zip found → outcome.Keeps directory file summary) :
    (files.map Path.stem).Nodup := by
  have hplace : ∀ file ∈ files, ∃ report, outcome.reportAt? (reportPlace directory file) = some report ∧
      (report.field? "metadata").bind (Json.field? "source_file") = some (.str file) := by
    intro file hfile
    obtain ⟨summary, hmem⟩ := hfinds.exists_checked hparse hfile
    obtain ⟨place, report, -, hreport, hon⟩ := hkeeps file summary hmem
    have hwritten : (place, report) ∈ reportsOn stamp options settings files found := by
      obtain ⟨before, after, hsplit, -⟩ := List.lookup_eq_some_iff.mp hreport
      rw [← hreports, ← List.mem_reverse, hsplit]
      simp
    obtain ⟨other, summary', hmem', rfl, rfl⟩ := (mem_reportsOn hpath).mp hwritten
    -- The report on a file names it, so it stands at the place that belongs to the file.
    have hother := (isReportOn_stampedReport (hfinds.filename hmem') stamp settings).file
    rw [hon.file, Option.some.injEq, Json.str.injEq, Text.ofString_inj] at hother
    subst hother
    exact ⟨_, hreport, hon.file⟩
  rw [List.nodup_map_iff_inj_on hfiles]
  intro file hfile other hother hstem
  obtain ⟨report, hreport, hname⟩ := hplace file hfile
  obtain ⟨report', hreport', hname'⟩ := hplace other hother
  rw [reportPlace_inj.mpr hstem, hreport'] at hreport
  cases hreport
  rw [hname', Option.some.injEq, Json.str.injEq, Text.ofString_inj] at hname
  exact hname.symm

theorem keeps_of_stems_nodup {outcome : Outcome}
    (hpath : ∀ file, options.reportPath? file = some (reportPath directory file true))
    (hfinds : Finds stamp options settings before files found after) (hstems : (files.map Path.stem).Nodup)
    (hreports : outcome.reports = reportsOn stamp options settings files found)
    (hmem : (file, .checked summary) ∈ files.zip found) : outcome.Keeps directory file summary := by
  refine ⟨reportPlace directory file, stampedReport summary stamp settings, List.prefix_append _ _, ?_,
    isReportOn_stampedReport (hfinds.filename hmem) _ _⟩
  have hplaces : (outcome.reports.map Prod.fst).Nodup := by
    rw [hreports]
    exact (places_reportsOn hpath).nodup ((nodup_map_iff reportPlace_inj files).mpr hstems)
  refine lookup_of_mem (by rw [List.map_reverse]; exact List.nodup_reverse.mpr hplaces) (List.mem_reverse.mpr ?_)
  rw [hreports]
  exact (mem_reportsOn hpath).mpr ⟨file, summary, hmem, rfl, rfl⟩

end Found

theorem reports_left_iff_stems_distinct {stamp : Stamp} {vars : Variables} {tree : FileTree} {options : Options}
    {outcome : Outcome} {directory : String} (hjson : options.json = some directory) (hmany : 2 ≤ options.files.length)
    (hdistinct : options.files.Nodup) (hthere : ∀ file ∈ options.files, tree.contains file = .ok true)
    (hrun : run stamp vars tree options = .ok outcome) :
    ∃ found after, Finds stamp options (options.settings vars) tree options.files found after ∧
      (options.ReportsApart →
        List.Forall₂ (fun file outcome => checkFile (options.settings vars) tree file = .ok outcome) options.files found) ∧
      Holds after outcome.reports ∧
      ((∀ outcome ∈ found, outcome ≠ .malformed) →
        ((∀ file summary, (file, .checked summary) ∈ options.files.zip found → outcome.Keeps directory file summary) ↔
          (options.files.map Path.stem).Nodup)) ∧
      ((options.files.map options.reportPath?).Nodup ↔ (options.files.map Path.stem).Nodup) := by
  have hpath : ∀ file, options.reportPath? file = some (reportPath directory file true) := by
    intro file
    rw [Options.reportPath?, hjson, Option.map_some, decide_eq_true (by omega)]
  obtain ⟨found, after, hfinds, rfl⟩ := (run_eq_ok_of_there hthere).mp hrun
  refine ⟨found, after, hfinds, fun hapart => ?_, ?_,
    fun hparse => ⟨fun hkeeps => ?_, fun hstems file summary hmem => ?_⟩, ?_⟩
  · exact (hfinds.checks hthere hapart (List.Subset.refl _) (.refl _)).1
  · have hnone : Holds tree [] := by
      intro place report h
      cases h
    exact hfinds.holds hnone
  · exact stems_nodup_of_keeps hpath hfinds hdistinct hparse rfl hkeeps
  · exact keeps_of_stems_nodup hpath hfinds hstems rfl hmem
  · refine nodup_map_iff ?_ _
    intro file other
    rw [hpath, hpath, Option.some.injEq]
    exact reportPath_inj

def inTwoDirectories (first second : String) : FileTree where
  entries := [
    (["a"], .directory),
    (["a", first], .file "@contract('!null -> !null')\ndef f(s):\n    return None\n".toUTF8),
    (["b"], .directory),
    (["b", second], .file "@contract('!null -> !null')\ndef g(s):\n    return s\n".toUTF8)]

def inTwoDirectoriesOptions (first second : String) : Options :=
  { files := ["a/" ++ first, "b/" ++ second], checkContracts := true, json := some "out" }

theorem reports_left_iff_stems_distinct_inTwoDirectories :
    ∃ outcome found,
      run noon (fun _ => none) (inTwoDirectories "x.py" "x.y.py") (inTwoDirectoriesOptions "x.py" "x.y.py") = .ok outcome ∧
      List.Forall₂ (fun file outcome => checkFile ((inTwoDirectoriesOptions "x.py" "x.y.py").settings fun _ => none)
        (inTwoDirectories "x.py" "x.y.py") file = .ok outcome) ["a/x.py", "b/x.y.py"] found ∧
      (∀ file ∈ ["a/x.py", "b/x.y.py"], ∃ summary, (file, .checked summary) ∈ ["a/x.py", "b/x.y.py"].zip found) ∧
      ∀ file summary, (file, .checked summary) ∈ ["a/x.py", "b/x.y.py"].zip found → outcome.Keeps "out" file summary := by
  have hapart : (inTwoDirectoriesOptions "x.py" "x.y.py").ReportsApart := by decide +kernel
  have hexit : (run noon (fun _ => none) (inTwoDirectories "x.py" "x.y.py")
      (inTwoDirectoriesOptions "x.py" "x.y.py")).toOption.map Outcome.exit = some 1 := by
    decide +kernel
  have hchecked : ∀ file ∈ ["a/x.py", "b/x.y.py"],
      (checkFile ((inTwoDirectoriesOptions "x.py" "x.y.py").settings fun _ => none)
        (inTwoDirectories "x.py" "x.y.py") file).toOption.map (fun | .malformed => false | .checked _ => true) = some true := by
    decide +kernel
  obtain ⟨outcome, houtcome, -⟩ := Option.map_eq_some_iff.mp hexit
  have hrun := toOption_eq_some.mp houtcome
  obtain ⟨found, after, hfinds, hchecks, -, hleft, -⟩ :=
    reports_left_iff_stems_distinct rfl (by decide) (by decide) (by decide +kernel) hrun
  have hparse : ∀ outcome ∈ found, outcome ≠ .malformed := by
    rintro _ hmem rfl
    obtain ⟨file, hfile, hcheck⟩ := exists_of_mem_right (hchecks hapart) _ hmem
    have htrue := hchecked file hfile
    rw [hcheck] at htrue
    cases htrue
  exact ⟨outcome, found, hrun, hchecks hapart, fun file hfile => hfinds.exists_checked hparse hfile,
    (hleft hparse).mpr (by decide +kernel)⟩

theorem not_reports_left_inTwoDirectories :
    (inTwoDirectoriesOptions "x.py" "x.py").files.Nodup ∧ ∃ outcome,
      run noon (fun _ => none) (inTwoDirectories "x.py" "x.py") (inTwoDirectoriesOptions "x.py" "x.py") = .ok outcome ∧
      outcome.reports.map Prod.fst = [["out", "x.nullpact.json"], ["out", "x.nullpact.json"]] ∧
      ∀ summary, ¬ outcome.Keeps "out" "a/x.py" summary := by
  have hreports : (run noon (fun _ => none) (inTwoDirectories "x.py" "x.py")
      (inTwoDirectoriesOptions "x.py" "x.py")).toOption.map (fun outcome => outcome.reports.map fun written =>
        (written.1, Json.isText "a/x.py" ((written.2.field? "metadata").bind (Json.field? "source_file")))) =
      some [(["out", "x.nullpact.json"], true), (["out", "x.nullpact.json"], false)] := by
    decide +kernel
  obtain ⟨outcome, houtcome, hreports⟩ := Option.map_eq_some_iff.mp hreports
  obtain ⟨⟨place, report⟩, rest, hlist, hfirst, hrest⟩ := List.map_eq_cons_iff.mp hreports
  obtain ⟨⟨place', report'⟩, rest', rfl, hsecond, hrest'⟩ := List.map_eq_cons_iff.mp hrest
  obtain rfl := List.map_eq_nil_iff.mp hrest'
  obtain ⟨rfl, -⟩ := Prod.mk.inj hfirst
  obtain ⟨rfl, hother⟩ := Prod.mk.inj hsecond
  refine ⟨by decide, outcome, toOption_eq_some.mp houtcome, by rw [hlist]; rfl, ?_⟩
  rintro summary ⟨place, left, -, hleft, hon⟩
  rw [Outcome.reportAt?, hlist, List.reverse_cons, List.reverse_singleton, List.singleton_append, List.lookup_cons] at hleft
  split at hleft
  · cases hleft
    rw [hon.file] at hother
    exact absurd hother (by decide)
  · next hne =>
    rw [List.lookup_cons, hne] at hleft
    cases hleft

end NullContract.CommandLine
