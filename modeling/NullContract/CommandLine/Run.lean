import NullContract.CommandLine.Options
import NullContract.FileCheck
import NullContract.Report.Basic

namespace NullContract.CommandLine

structure Stamp where
  timestamp : String
  seconds : Candidate → Double

structure Progress where
  tree : FileTree
  failed : Nat := 0
  lines : List Text := []
  log : List LogEntry := []
  reports : List (Place × Json) := []

structure Outcome where
  exit : Nat
  lines : List Text
  log : List LogEntry := []
  reports : List (Place × Json) := []

def reportName (file : String) : String :=
  Path.stem file ++ ".nullpact.json"

def reportPath (target file : String) (multiple : Bool) : String :=
  if multiple then Path.join target (reportName file) else target

def Options.reportPath? (options : Options) (file : String) : Option String :=
  options.json.map fun target => reportPath target file (options.files.length > 1)

def Options.settings (options : Options) (vars : Variables) : Settings :=
  (Settings.ofVariables vars).override
    { checkContracts := if options.checkContracts then some true else none
      names := if options.names.isEmpty then none else some options.names }

def Progress.write (progress : Progress) (path : String) (report : Json) : Except FileCheckError Progress :=
  match progress.tree.write path (report.render (some (Json.blanks 2))).toUTF8 with
  | .ok (tree, place) => .ok { progress with tree := tree, reports := progress.reports ++ [(place, report)] }
  | .error e => .error (.file e)

def stampedReport (summary : Summary) (stamp : Stamp) (settings : Settings) : Json :=
  summary.report stamp.timestamp settings.checkContracts (summary.results.map fun r => stamp.seconds r.candidate)

def checkedLines (verbose : Bool) (summary : Summary) (report : Option String) : List Text :=
  let saved := report.toList.flatMap fun path => [Text.ofString "", .ofString ("💾 JSON output saved to: " ++ path)]
  (if verbose then summary.progress ++ saved else []) ++ summary.lines

def step (stamp : Stamp) (options : Options) (settings : Settings) (progress : Progress) (file : String) :
    Except FileCheckError Progress := do
  let outcome ← checkFile settings progress.tree file
  let progress := { progress with failed := progress.failed + outcome.failed }
  match outcome with
  | .malformed =>
    let line := Text.ofString ("❌ Error: Could not parse " ++ file ++ ": <syntax error>")
    return { progress with lines := progress.lines ++ [line] }
  | .checked summary =>
    let path := options.reportPath? file
    let progress ← match path with
      | some path => progress.write path (stampedReport summary stamp settings)
      | none => pure progress
    return { progress with
      lines := progress.lines ++ checkedLines options.verbose summary path
      log := progress.log ++ summary.log }

def Options.missing (options : Options) (tree : FileTree) : Except FileError (List String) :=
  options.files.filterM fun file => return !(← tree.contains file)

def exitStatus (failed : Nat) : Nat :=
  if failed = 0 then 0 else 1

def run (stamp : Stamp) (vars : Variables) (tree : FileTree) (options : Options) : Except FileCheckError Outcome :=
  match options.missing tree with
  | .error e => .error (.file e)
  | .ok [] => do
    let progress ← options.files.foldlM (step stamp options (options.settings vars)) { tree := tree }
    return ⟨exitStatus progress.failed, progress.lines, progress.log, progress.reports⟩
  | .ok missing => .ok { exit := 2, lines := missing.map fun file => .ofString ("❌ Error: File not found: " ++ file) }

def Outcome.logLines (outcome : Outcome) (options : Options) : List String :=
  if options.verbose then outcome.log.map fun entry => "DEBUG nullpact.core.checker: " ++ entry.message else []

end NullContract.CommandLine
