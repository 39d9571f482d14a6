import NullContract.Proofs.ReportTotals
import NullContract.Proofs.RunSteps

namespace NullContract.CommandLine

section Check

variable {settings : Settings} {tree : FileTree} {file : String} {summary : Summary} {outcome : FileOutcome}

theorem checkFile_eq_checked :
    checkFile settings tree file = .ok (.checked summary) ↔
      ∃ text, tree.textAt file = .ok text ∧ checkSource settings file text = .ok summary := by
  unfold checkFile
  cases tree.textAt file with
  | error e => simp
  | ok text =>
    simp only [Except.ok.injEq, exists_eq_left', checkText]
    cases checkSource settings file text with
    | ok summary' => simp
    | error e => cases e <;> simp

def Passes (settings : Settings) (tree : FileTree) (file : String) : Prop :=
  ∃ text summary, tree.textAt file = .ok text ∧ checkSource settings file text = .ok summary ∧
    ∀ result ∈ summary.results, result.diagnostics = []

theorem failed_eq_zero : summary.failed = 0 ↔ ∀ result ∈ summary.results, result.diagnostics = [] := by
  rw [Summary.failed, List.countP_eq_zero]
  simp [Result.clean]

theorem passes_iff (h : checkFile settings tree file = .ok outcome) : Passes settings tree file ↔ outcome.failed = 0 := by
  constructor
  · rintro ⟨text, summary, htext, hsummary, hclean⟩
    have hchecked := checkFile_eq_checked.mpr ⟨text, htext, hsummary⟩
    rw [h, Except.ok.injEq] at hchecked
    subst hchecked
    exact failed_eq_zero.mpr hclean
  · intro hfailed
    cases outcome with
    | malformed => cases hfailed
    | checked summary =>
      obtain ⟨text, htext, hsummary⟩ := checkFile_eq_checked.mp h
      exact ⟨text, summary, htext, hsummary, failed_eq_zero.mp hfailed⟩

theorem forall_passes_iff {files : List String} {outcomes : List FileOutcome}
    (h : List.Forall₂ (fun file outcome => checkFile settings tree file = .ok outcome) files outcomes) :
    (∀ file ∈ files, Passes settings tree file) ↔ (outcomes.map FileOutcome.failed).sum = 0 := by
  induction h with
  | nil => simp
  | cons hfile _ ih => rw [List.forall_mem_cons, ih, passes_iff hfile, List.map_cons, List.sum_cons, Nat.add_eq_zero_iff]

end Check

def Outcome.ofShares (shares : List Share) : Outcome where
  exit := exitStatus (shares.map Share.failed).sum
  lines := shares.flatMap Share.lines
  log := shares.flatMap Share.log
  reports := shares.flatMap Share.reports

section Run

variable {stamp : Stamp} {vars : Variables} {tree : FileTree} {options : Options} {outcome : Outcome}
  {missing : List String}

theorem run_of_missing (hmissing : options.missing tree = .ok missing) (hne : missing ≠ []) :
    run stamp vars tree options =
      .ok { exit := 2, lines := missing.map fun file => .ofString ("❌ Error: File not found: " ++ file) } := by
  unfold run
  rw [hmissing]
  cases missing with
  | nil => exact absurd rfl hne
  | cons => rfl

theorem run_eq_ok_of_there (hthere : ∀ file ∈ options.files, tree.contains file = .ok true) :
    run stamp vars tree options = .ok outcome ↔
      ∃ found after, Finds stamp options (options.settings vars) tree options.files found after ∧
        outcome = .ofShares (List.zipWith (share stamp options (options.settings vars)) options.files found) := by
  unfold run
  rw [missing_eq_nil_iff.mpr hthere]
  simp only [bind_eq_ok, foldlM_step_eq_ok_iff]
  constructor
  · rintro ⟨last, ⟨found, hfinds, hlast⟩, h⟩
    cases h
    refine ⟨found, last.tree, hfinds, ?_⟩
    rw [hlast]
    simp [Progress.plus, Outcome.ofShares]
  · rintro ⟨found, after, hfinds, rfl⟩
    refine ⟨Progress.plus { tree := tree } after (List.zipWith (share stamp options (options.settings vars)) options.files found),
      ⟨found, hfinds, rfl⟩, ?_⟩
    simp [Progress.plus, Outcome.ofShares, pure, Except.pure]

theorem exists_missing (h : run stamp vars tree options = .ok outcome) : ∃ missing, options.missing tree = .ok missing := by
  unfold run at h
  cases hmissing : options.missing tree with
  | error e =>
    rw [hmissing] at h
    cases h
  | ok missing => exact ⟨missing, rfl⟩

theorem there_of_forall (h : run stamp vars tree options = .ok outcome)
    (hnone : ¬ ∃ file ∈ options.files, tree.contains file = .ok false) :
    ∀ file ∈ options.files, tree.contains file = .ok true := by
  obtain ⟨missing, hmissing⟩ := exists_missing h
  intro file hfile
  obtain ⟨there, hfound⟩ := (missing_eq_ok.mp hmissing).1 file hfile
  cases there with
  | true => exact hfound
  | false => exact absurd ⟨file, hfile, hfound⟩ hnone

theorem shares_of_run (hapart : options.ReportsApart) (hthere : ∀ file ∈ options.files, tree.contains file = .ok true)
    (h : run stamp vars tree options = .ok outcome) :
    ∃ outcomes, List.Forall₂ (fun file outcome => checkFile (options.settings vars) tree file = .ok outcome)
        options.files outcomes ∧
      outcome = .ofShares (List.zipWith (share stamp options (options.settings vars)) options.files outcomes) ∧
      ∀ file ∈ options.files, RoomFor options (options.settings vars) tree file := by
  obtain ⟨found, after, hfinds, rfl⟩ := (run_eq_ok_of_there hthere).mp h
  obtain ⟨hchecks, hrooms⟩ := hfinds.checks hthere hapart (List.Subset.refl _) (.refl _)
  exact ⟨found, hchecks, rfl, hrooms⟩

theorem failed_shares (stamp : Stamp) (options : Options) (settings : Settings) {files : List String}
    {outcomes : List FileOutcome} (hlength : files.length = outcomes.length) :
    (List.zipWith (share stamp options settings) files outcomes).map Share.failed = outcomes.map FileOutcome.failed := by
  induction outcomes generalizing files with
  | nil => simp
  | cons outcome outcomes ih =>
    cases files with
    | nil => cases hlength
    | cons file files => exact congrArg (outcome.failed :: ·) (ih (Nat.succ.inj hlength))

theorem exit_of_missing (hmissing : ∃ file ∈ options.files, tree.contains file = .ok false)
    (h : run stamp vars tree options = .ok outcome) : outcome.exit = 2 ∧ outcome.reports = [] := by
  obtain ⟨missing, hlist⟩ := exists_missing h
  obtain ⟨file, hfile⟩ := hmissing
  have hmem : file ∈ missing := (mem_missing hlist).mpr hfile
  rw [run_of_missing hlist (List.ne_nil_of_mem hmem)] at h
  cases h
  exact ⟨rfl, rfl⟩

theorem exit_of_there (hapart : options.ReportsApart) (hthere : ∀ file ∈ options.files, tree.contains file = .ok true)
    (h : run stamp vars tree options = .ok outcome) :
    (outcome.exit = 0 ↔ ∀ file ∈ options.files, Passes (options.settings vars) tree file) ∧
      (outcome.exit = 1 ↔ ¬ ∀ file ∈ options.files, Passes (options.settings vars) tree file) := by
  obtain ⟨outcomes, hchecks, rfl, -⟩ := shares_of_run hapart hthere h
  rw [forall_passes_iff hchecks, Outcome.ofShares, failed_shares _ _ _ hchecks.length_eq, exitStatus]
  split <;> simp_all

theorem exit_congr {options' : Options} {outcome' : Outcome} (hapart : options.ReportsApart)
    (hapart' : options'.ReportsApart) (hfiles : ∀ file, file ∈ options'.files ↔ file ∈ options.files)
    (hsettings : options'.settings vars = options.settings vars) (h : run stamp vars tree options = .ok outcome)
    (h' : run stamp vars tree options' = .ok outcome') : outcome'.exit = outcome.exit := by
  by_cases hmissing : ∃ file ∈ options.files, tree.contains file = .ok false
  · have hmissing' : ∃ file ∈ options'.files, tree.contains file = .ok false := by
      obtain ⟨file, hfile, hgone⟩ := hmissing
      exact ⟨file, (hfiles file).mpr hfile, hgone⟩
    rw [(exit_of_missing hmissing h).1, (exit_of_missing hmissing' h').1]
  · have hthere := there_of_forall h hmissing
    have hthere' : ∀ file ∈ options'.files, tree.contains file = .ok true :=
      fun file hfile => hthere file ((hfiles file).mp hfile)
    obtain ⟨hzero, hone⟩ := exit_of_there hapart hthere h
    obtain ⟨hzero', hone'⟩ := exit_of_there hapart' hthere' h'
    have hpass : (∀ file ∈ options'.files, Passes (options'.settings vars) tree file) ↔
        ∀ file ∈ options.files, Passes (options.settings vars) tree file := by
      rw [hsettings]
      exact forall_congr' fun file => by rw [hfiles]
    by_cases hall : ∀ file ∈ options.files, Passes (options.settings vars) tree file
    · rw [hzero.mpr hall, hzero'.mpr (hpass.mpr hall)]
    · rw [hone.mpr hall, hone'.mpr fun hall' => hall (hpass.mp hall')]

theorem exists_run {options' : Options} (hapart : options.ReportsApart) (hapart' : options'.ReportsApart)
    (hfiles : ∀ file, file ∈ options'.files ↔ file ∈ options.files)
    (hsettings : options'.settings vars = options.settings vars)
    (hpaths : ∀ file, options'.reportPath? file = options.reportPath? file) (h : run stamp vars tree options = .ok outcome) :
    ∃ outcome', run stamp vars tree options' = .ok outcome' := by
  by_cases hmissing : ∃ file ∈ options.files, tree.contains file = .ok false
  · obtain ⟨missing, hlist⟩ := exists_missing h
    have hdecided : ∀ file ∈ options'.files, ∃ there, tree.contains file = .ok there :=
      fun file hfile => (missing_eq_ok.mp hlist).1 file ((hfiles file).mp hfile)
    have hlist' := missing_eq_ok.mpr ⟨hdecided, rfl⟩
    obtain ⟨file, hfile, hgone⟩ := hmissing
    have hmem := (mem_missing hlist').mpr ⟨(hfiles file).mpr hfile, hgone⟩
    exact ⟨_, run_of_missing hlist' (List.ne_nil_of_mem hmem)⟩
  · have hthere := there_of_forall h hmissing
    have hthere' : ∀ file ∈ options'.files, tree.contains file = .ok true :=
      fun file hfile => hthere file ((hfiles file).mp hfile)
    obtain ⟨outcomes, hchecks, -, hrooms⟩ := shares_of_run hapart hthere h
    have hchecks' : ∀ file ∈ options'.files, ∃ outcome, checkFile (options'.settings vars) tree file = .ok outcome := by
      intro file hfile
      obtain ⟨outcome, -, houtcome⟩ := exists_of_mem_right hchecks.flip file ((hfiles file).mp hfile)
      exact ⟨outcome, by rw [hsettings]; exact houtcome⟩
    have hrooms' : ∀ file ∈ options'.files, RoomFor options' (options'.settings vars) tree file := by
      intro file hfile summary hsummary path hpath
      rw [hpaths] at hpath
      rw [hsettings] at hsummary
      exact hrooms file ((hfiles file).mp hfile) summary hsummary path hpath
    obtain ⟨found, after, hfinds⟩ :
        ∃ found after, Finds stamp options' (options'.settings vars) tree options'.files found after :=
      exists_finds hthere' hapart' hchecks' hrooms' (List.Subset.refl _) (.refl tree)
    exact ⟨_, (run_eq_ok_of_there hthere').mpr ⟨found, after, hfinds, rfl⟩⟩

end Run

structure Outcome.Faithful (stamp : Stamp) (vars : Variables) (tree : FileTree) (options : Options)
    (outcome : Outcome) : Prop where
  missing : outcome.exit = 2 ↔ ∃ file ∈ options.files, tree.contains file = .ok false
  -- What stands in the files makes no difference then, so none of them is read.
  untouched : outcome.exit = 2 → outcome.reports = [] ∧
    ∀ stamp' vars' tree', (∀ file ∈ options.files, tree'.contains file = tree.contains file) →
      run stamp' vars' tree' options = .ok outcome
  passed : outcome.exit ≠ 2 →
    (outcome.exit = 0 ↔ ∀ file ∈ options.files, Passes (options.settings vars) tree file)
  failed : outcome.exit ≠ 2 →
    (outcome.exit = 1 ↔ ¬ ∀ file ∈ options.files, Passes (options.settings vars) tree file)
  -- Every file has its share, whatever becomes of those before it.
  shares : outcome.exit ≠ 2 →
    ∃ outcomes, List.Forall₂ (fun file outcome => checkFile (options.settings vars) tree file = .ok outcome)
        options.files outcomes ∧
      outcome = .ofShares (List.zipWith (share stamp options (options.settings vars)) options.files outcomes)
  rearranged : ∀ files, (∀ file, file ∈ files ↔ file ∈ options.files) →
    options.json = none ∨ (1 < files.length ↔ 1 < options.files.length) →
    ∃ outcome', run stamp vars tree { options with files := files } = .ok outcome' ∧ outcome'.exit = outcome.exit
  repeated : ∀ files, (∀ file, file ∈ files ↔ file ∈ options.files) →
    Options.ReportsApart { options with files := files } →
    ∀ outcome', run stamp vars tree { options with files := files } = .ok outcome' → outcome'.exit = outcome.exit

theorem exit_status_and_counts_faithful :
    (∀ (stamp : Stamp) (vars : Variables) (tree : FileTree) (options : Options) (outcome : Outcome),
      options.ReportsApart → run stamp vars tree options = .ok outcome →
      outcome.Faithful stamp vars tree options) ∧
    ∀ (summary : Summary) (timestamp : String) (checkContracts : Bool) (durations : List Double),
      summary.ToldBy (summary.report timestamp checkContracts durations) := by
  refine ⟨fun stamp vars tree options outcome hapart h => ?_, Summary.toldBy_report⟩
  have hmissing : outcome.exit = 2 ↔ ∃ file ∈ options.files, tree.contains file = .ok false := by
    refine ⟨fun hexit => ?_, fun hgone => (exit_of_missing hgone h).1⟩
    by_contra hnone
    obtain ⟨hzero, hone⟩ := exit_of_there hapart (there_of_forall h hnone) h
    by_cases hall : ∀ file ∈ options.files, Passes (options.settings vars) tree file
    · simp [hzero.mpr hall] at hexit
    · simp [hone.mpr hall] at hexit
  have hthere : outcome.exit ≠ 2 → ∀ file ∈ options.files, tree.contains file = .ok true :=
    fun hexit => there_of_forall h fun hgone => hexit (hmissing.mpr hgone)
  refine ⟨hmissing, fun hexit => ⟨?_, ?_⟩, fun hexit => (exit_of_there hapart (hthere hexit) h).1,
    fun hexit => (exit_of_there hapart (hthere hexit) h).2, fun hexit => ?_, fun files hfiles hmany => ?_,
    fun files hfiles hapart' outcome' h' => exit_congr hapart hapart' hfiles rfl h h'⟩
  · exact (exit_of_missing (hmissing.mp hexit) h).2
  · intro stamp' vars' tree' hsame
    obtain ⟨list, hlist⟩ := exists_missing h
    obtain ⟨file, hfile⟩ := hmissing.mp hexit
    have hne : list ≠ [] := List.ne_nil_of_mem ((mem_missing hlist).mpr hfile)
    rw [run_of_missing hlist hne] at h
    rw [run_of_missing (missing_congr hlist hsame) hne, h]
  · obtain ⟨outcomes, hchecks, houtcome, -⟩ := shares_of_run hapart (hthere hexit) h
    exact ⟨outcomes, hchecks, houtcome⟩
  · have hpaths : ∀ file, Options.reportPath? { options with files := files } file = options.reportPath? file := by
      intro file
      rcases hmany with hjson | hmany
      · simp [Options.reportPath?, hjson]
      · simp [Options.reportPath?, hmany]
    have hapart' : Options.ReportsApart { options with files := files } := by
      intro file hfile path hpath other hother
      rw [hpaths] at hpath
      exact hapart file ((hfiles file).mp hfile) path hpath other ((hfiles other).mp hother)
    obtain ⟨outcome', h'⟩ := exists_run hapart hapart' hfiles rfl hpaths h
    exact ⟨outcome', h', exit_congr hapart hapart' hfiles rfl h h'⟩

def brokenAndFaulty : FileTree where
  entries := [
    (["src"], .directory),
    (["src", "broken.py"], .file "def f(:\n".toUTF8),
    (["src", "faulty.py"], .file "@contract('_ -> !null')\ndef f(s):\n    return None\n".toUTF8)]

def brokenAndFaultyOptions : Options :=
  { files := ["src/broken.py", "src/faulty.py"], checkContracts := true, json := some "reports" }

def noon : Stamp where
  timestamp := "2024-01-01T12:00:00+00:00"
  seconds _ := .zero

theorem exit_status_and_counts_faithful_brokenAndFaulty :
    ∃ outcome, brokenAndFaultyOptions.ReportsApart ∧
      run noon (fun _ => none) brokenAndFaulty brokenAndFaultyOptions = .ok outcome ∧
      (outcome.exit, outcome.reports.map Prod.fst) = (1, [["reports", "faulty.nullpact.json"]]) ∧
      outcome.Faithful noon (fun _ => none) brokenAndFaulty brokenAndFaultyOptions := by
  have hapart : brokenAndFaultyOptions.ReportsApart := by decide +kernel
  have hexit : (run noon (fun _ => none) brokenAndFaulty brokenAndFaultyOptions).toOption.map
      (fun outcome => (outcome.exit, outcome.reports.map Prod.fst)) = some (1, [["reports", "faulty.nullpact.json"]]) := by
    decide +kernel
  obtain ⟨outcome, houtcome, hexit⟩ := Option.map_eq_some_iff.mp hexit
  have hrun := toOption_eq_some.mp houtcome
  exact ⟨outcome, hapart, hrun, hexit, exit_status_and_counts_faithful.1 _ _ _ _ outcome hapart hrun⟩

end NullContract.CommandLine
