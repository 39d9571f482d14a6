import NullContract.Json.Printer
import NullContract.Report.Digest
import NullContract.Summary

namespace NullContract

def version : String := "0.1.0"

def Diagnostic.toJson (d : Diagnostic) : Json :=
  .obj [
    ("kind", .str d.kind.text),
    ("message", .str d.message),
    ("file", .str d.location.filename),
    ("line", .ofNat d.location.position.line),
    ("column", .ofNat (d.location.position.col + 1)),
    ("function", .ofStr? d.function),
    ("contract", .ofText? d.contract)]

def Result.toJson (r : Result) : Json :=
  .obj [
    ("name", .str r.name),
    ("line", .ofNat r.line),
    ("contract", .ofText? r.contract),
    ("state", .str r.checked.state.text),
    ("deep_checked", .bool r.deepChecked),
    ("clean", .bool r.clean),
    ("diagnostics", .arr (r.diagnostics.map Diagnostic.toJson))]

def Summary.toJson (s : Summary) : Json :=
  .obj [
    ("file", .str s.filename),
    ("total", .ofNat s.total),
    ("clean", .ofNat s.clean),
    ("failed", .ofNat s.failed),
    ("results", .arr (s.results.map Result.toJson))]

def durationJson (duration : Double) : Json :=
  .ofDouble (duration.roundPlaces 4)

def Result.entry (r : Result) (duration : Double) : Json :=
  .obj [
    ("function", .obj [
      ("name", .str r.name),
      ("line", .ofNat r.line),
      ("contract", .ofText? r.contract),
      ("source_hash", if r.candidate.source = "" then .null else .str (Digest.ofText r.candidate.source))]),
    ("check", .obj [
      ("state", .str r.checked.state.text),
      ("deep_checked", .bool r.deepChecked),
      ("clean", .bool r.clean),
      ("duration_seconds", durationJson duration)]),
    ("diagnostics", .arr (r.diagnostics.map Diagnostic.toJson))]

structure Totals where
  functions : Nat
  clean : Nat
  withDiagnostics : Nat
  diagnostics : Nat
  violations : Nat
deriving DecidableEq

namespace Totals

def ofEntries (entries : List Json) : Totals :=
  let clean := entries.countP fun entry => Json.isTrue ((entry.field? "check").bind (Json.field? "clean"))
  let diagnostics := entries.flatMap fun entry => Json.items (entry.field? "diagnostics")
  { functions := entries.length
    clean := clean
    withDiagnostics := entries.length - clean
    diagnostics := diagnostics.length
    violations := diagnostics.countP fun diagnostic => Json.isText "CONTRACT_VIOLATION" (diagnostic.field? "kind") }

def toJson (t : Totals) : Json :=
  .obj [
    ("total_functions", .ofNat t.functions),
    ("clean", .ofNat t.clean),
    ("with_diagnostics", .ofNat t.withDiagnostics),
    ("diagnostics", .ofNat t.diagnostics),
    ("violations", .ofNat t.violations)]

end Totals

def Summary.entries (s : Summary) (durations : List Double) : List Json :=
  s.results.zipIdx.map fun (r, i) => r.entry (durations[i]?.getD .zero)

def Summary.report (s : Summary) (timestamp : String) (checkContracts : Bool) (durations : List Double) : Json :=
  .obj [
    ("schema_version", .str "1.0.0"),
    ("metadata", .obj [
      ("timestamp", .str timestamp),
      ("source_file", .str s.filename),
      ("checker_version", .str ("nullpact-" ++ version)),
      ("check_contracts", .bool checkContracts)]),
    ("summary", (Totals.ofEntries (s.entries durations)).toJson),
    ("results", .arr (s.entries durations))]

end NullContract
