import Std.Time
import NullContract.CommandLine.Run

namespace NullContract.CommandLine

def entryOnDisk? (place : Place) : IO (Option Entry) := do
  match ← (IO.FS.realPath (Place.text place)).toBaseIO with
  | .error _ => return none
  | .ok real =>
    if ← real.isDir then return some .directory
    return some (.file (← IO.FS.readBinFile real))

def treeOnDisk (paths : List String) : IO FileTree :=
  paths.foldlM (fun tree path =>
    let places := match Path.parts path with
      | "/" :: names => Place.through ["/"] names
      | names => Place.through [] names
    (places.filter fun place => !place.isEmpty).foldlM (fun tree place => do
      match ← entryOnDisk? place with
      | some entry => return tree.put place entry
      | none => return tree) tree) {}

def timeCheck (deep : Bool) (candidate : Candidate) : IO Double := do
  let start ← IO.monoNanosNow
  let _ ← IO.lazyPure fun _ => (check standardOracle deep candidate).isOk
  return .ofRatio false ((← IO.monoNanosNow) - start) 1000000000

def timeChecks (settings : Settings) (tree : FileTree) (files : List String) : IO (List (String × Double)) := do
  let candidates := files.flatMap fun file =>
    match tree.textAt file with
    | .ok text => ((discover settings.names file text).toOption).getD []
    | .error _ => []
  candidates.mapM fun candidate => return (candidate.source, ← timeCheck settings.checkContracts candidate)

def writeOnDisk (place : Place) (text : String) : IO Unit := do
  if place.dropLast ≠ [] then IO.FS.createDirAll (Place.text place.dropLast)
  IO.FS.writeFile (Place.text place) text

def faultText : FileCheckError → String
  | .file .missing => "file not found"
  | .file .isDirectory => "is a directory"
  | .file .notDirectory => "not a directory"
  | .file .alreadyExists => "file exists"
  | .file .nameTooLong => "file name too long"
  | .file .nulCharacter => "file name contains a NUL character"
  | .file .notText => "not valid UTF-8"
  | .source .malformed => "source text does not parse"
  | .source .nulCharacter => "source text contains a NUL character"
  | .source .surrogate => "source text contains a surrogate"

def usageText : String :=
  "usage: nullpact [-h] [--check-contracts] [--contract-annotation NAME] [--json PATH] [-v] files [files ...]"

def timestampNow : IO String := do
  let now ← Std.Time.Timestamp.now
  return (Std.Time.DateTime.ofTimestamp now Std.Time.TimeZone.ZoneRules.UTC).format "uuuu-MM-dd'T'HH:mm:ss.SSSSSSxxx"

def runOnDisk (options : Options) : IO UInt32 := do
  let names := ["NULLPACT_CHECK_CONTRACTS", "NULLPACT_CONTRACT_ANNOTATIONS"]
  let values ← names.mapM fun name => return (name, ← IO.getEnv name)
  let vars : Variables := fun name => (values.lookup name).join
  let targets := options.files.filterMap options.reportPath?
  let tree ← treeOnDisk (options.files ++ targets)
  let settings := options.settings vars
  let times ← if options.json.isSome then timeChecks settings tree options.files else pure []
  let stamp : Stamp := ⟨← timestampNow, fun c => (times.lookup c.source).getD .zero⟩
  match run stamp vars tree options with
  | .error e =>
    IO.eprintln (faultText e)
    return 1
  | .ok outcome =>
    for (place, report) in outcome.reports do
      writeOnDisk place (report.render (some (Json.blanks 2)))
    for line in outcome.logLines options do
      IO.eprintln line
    match (printed outcome.lines).toString? with
    | some text =>
      IO.print text
      return outcome.exit.toUInt32
    | none =>
      IO.eprintln "a contract contains a surrogate, which cannot be printed"
      return 1

def command (arguments : List String) : IO UInt32 := do
  match Options.read arguments with
  | .ok options => runOnDisk options
  | .error .help =>
    IO.println usageText
    return 0
  | .error .usage =>
    IO.eprintln usageText
    return 2

end NullContract.CommandLine

def main (arguments : List String) : IO UInt32 :=
  NullContract.CommandLine.command arguments
