import NullContract.Discovery

namespace NullContract

structure Result where
  candidate : Candidate
  checked : Checked

namespace Result

def name (r : Result) : String :=
  r.candidate.subject.qualname

def line (r : Result) : Nat :=
  r.candidate.subject.location.position.line

def contract (r : Result) : Option Text :=
  r.candidate.subject.contract

def diagnostics (r : Result) : List Diagnostic :=
  r.checked.diagnostics

def clean (r : Result) : Bool :=
  r.diagnostics.isEmpty

def violations (r : Result) : List Diagnostic :=
  r.diagnostics.filter (·.kind = .violation)

def deepChecked (r : Result) : Bool :=
  r.checked.state = .done

def detail (r : Result) : String :=
  if !r.clean then toString r.diagnostics.length ++ " diagnostic(s)"
  else if r.deepChecked then "contract honoured"
  else "not deep-checked (" ++ r.checked.state.text ++ ")"

def text (r : Result) : Text :=
  (if r.clean then "✅ OK  " else "❌ FAIL") ++ " " ++ r.name ++ ":" ++ toString r.line ++ " @contract(" ++
    r.contract.getD "None" ++ ") - " ++ r.detail

end Result

structure Summary where
  filename : String
  results : List Result

namespace Summary

def total (s : Summary) : Nat :=
  s.results.length

def clean (s : Summary) : Nat :=
  s.results.countP Result.clean

def failed (s : Summary) : Nat :=
  s.results.countP fun r => !r.clean

def diagnostics (s : Summary) : List Diagnostic :=
  s.results.flatMap Result.diagnostics

def log (s : Summary) : List LogEntry :=
  s.results.flatMap (·.checked.log)

def rule (c : Char) : String :=
  String.ofList (List.replicate 80 c)

def resultLines (r : Result) : List Text :=
  "" :: r.text :: r.diagnostics.map fun d => "   " ++ d.text

def lines (s : Summary) : List Text :=
  let head : List Text := ["", rule '=', "CONTRACT CHECK SUMMARY: " ++ s.filename, rule '=']
  let counts : List Text :=
    ["", "Total functions analyzed: " ++ toString s.total,
     "✅ Clean: " ++ toString s.clean,
     "❌ With diagnostics: " ++ toString s.failed,
     "", rule '-', "DETAILED RESULTS", rule '-']
  let foot : List Text := ["", rule '=']
  if s.results.isEmpty then head ++ [Text.ofString "⚠️  No @contract decorated functions found"]
  else head ++ counts ++ s.results.flatMap resultLines ++ foot

def progress (s : Summary) : List Text :=
  let head : List Text := ["", "🔍 Found " ++ toString s.total ++ " @contract decorated functions"]
  head ++ s.results.flatMap fun r =>
    [Text.ofString "", "📝 Checking " ++ r.name ++ " @contract(" ++ r.contract.getD "None" ++ ")..."]

end Summary

def printed (lines : List Text) : Text :=
  lines.flatMap fun line => line ++ "\n"

def standardOracle : Oracle :=
  flowOracle Source.readExpression

def checkAll (oracle : Oracle) (deep : Bool) (candidates : List Candidate) : Except SourceError (List Result) :=
  candidates.mapM fun c => return ⟨c, ← check oracle deep c⟩

def checkSource (settings : Settings) (filename source : String) : Except SourceError Summary := do
  let candidates ← discover settings.names filename source
  return ⟨filename, ← checkAll standardOracle settings.checkContracts candidates⟩

end NullContract
