import Mathlib.Algebra.Order.Ring.Nat
import NullContract.Report.Basic

namespace NullContract

theorem Result.clean_entry (r : Result) (duration : Double) :
    Json.isTrue (((r.entry duration).field? "check").bind (Json.field? "clean")) = r.clean := rfl

theorem Result.diagnostics_entry (r : Result) (duration : Double) :
    Json.items ((r.entry duration).field? "diagnostics") = r.diagnostics.map Diagnostic.toJson := rfl

theorem Diagnostic.kind_toJson (d : Diagnostic) :
    Json.isText "CONTRACT_VIOLATION" (d.toJson.field? "kind") = decide (d.kind = .violation) := by
  have hkind : d.toJson.field? "kind" = some (.str d.kind.text) := rfl
  rw [hkind]
  cases d.kind <;> rfl

theorem Summary.clean_add_failed (s : Summary) : s.clean + s.failed = s.total := by
  have hlength := List.length_eq_countP_add_countP Result.clean (l := s.results)
  simp only [Bool.not_eq_true, Bool.decide_eq_false] at hlength
  exact hlength.symm

theorem Summary.sum_violations (s : Summary) :
    s.diagnostics.countP (·.kind = .violation) = (s.results.map fun r => r.violations.length).sum := by
  rw [Summary.diagnostics, List.countP_flatMap]
  simp only [Result.violations, List.countP_eq_length_filter, Function.comp_def]

theorem Totals.ofEntries_entries (s : Summary) (durations : List Double) :
    ofEntries (s.entries durations) =
      { functions := s.total
        clean := s.clean
        withDiagnostics := s.failed
        diagnostics := s.diagnostics.length
        violations := (s.results.map fun r => r.violations.length).sum } := by
  have hresults : s.results.zipIdx.map Prod.fst = s.results := List.zipIdx_map_fst 0 s.results
  have hclean : s.results.zipIdx.countP (fun p => p.1.clean) = s.clean := by
    have hmap : (s.results.zipIdx.map Prod.fst).countP Result.clean = s.results.zipIdx.countP fun p => p.1.clean :=
      List.countP_map
    rw [← hmap, hresults, Summary.clean]
  have hdiagnostics : s.results.zipIdx.flatMap (fun p => p.1.diagnostics.map Diagnostic.toJson) =
      s.diagnostics.map Diagnostic.toJson := by
    have hmap : (s.results.zipIdx.map Prod.fst).flatMap Result.diagnostics =
        s.results.zipIdx.flatMap fun p => p.1.diagnostics := List.flatMap_map _ _ _
    rw [← List.map_flatMap, ← hmap, hresults, Summary.diagnostics]
  have hfailed : s.results.length - s.clean = s.failed := by
    have hsum := s.clean_add_failed
    rw [Summary.total] at hsum
    omega
  simp only [ofEntries, Summary.entries, List.countP_map, List.flatMap_map, List.length_map, List.length_zipIdx,
    Function.comp_def, Result.clean_entry, Result.diagnostics_entry, hclean, hdiagnostics, Diagnostic.kind_toJson,
    hfailed, s.sum_violations, Summary.total]

structure Summary.ToldBy (s : Summary) (report : Json) : Prop where
  functions : (report.field? "summary").bind (Json.field? "total_functions") = some (.ofNat s.total)
  clean : (report.field? "summary").bind (Json.field? "clean") = some (.ofNat s.clean)
  withDiagnostics : (report.field? "summary").bind (Json.field? "with_diagnostics") = some (.ofNat s.failed)
  diagnostics : (report.field? "summary").bind (Json.field? "diagnostics") = some (.ofNat s.diagnostics.length)
  violations : (report.field? "summary").bind (Json.field? "violations") =
    some (.ofNat (s.results.map fun r => r.violations.length).sum)
  violations_le : (s.results.map fun r => r.violations.length).sum ≤ s.diagnostics.length
  clean_add_failed : s.clean + s.failed = s.total
  entries : report.field? "summary" = some (Totals.ofEntries (Json.items (report.field? "results"))).toJson

theorem Summary.toldBy_report (s : Summary) (timestamp : String) (checkContracts : Bool) (durations : List Double) :
    s.ToldBy (s.report timestamp checkContracts durations) := by
  have hsummary : (s.report timestamp checkContracts durations).field? "summary" =
      some (Totals.ofEntries (s.entries durations)).toJson := rfl
  have hentries : Json.items ((s.report timestamp checkContracts durations).field? "results") = s.entries durations := rfl
  constructor
  case entries => rw [hsummary, hentries]
  case violations_le =>
    rw [← s.sum_violations]
    exact List.countP_le_length
  case clean_add_failed => exact s.clean_add_failed
  all_goals
    rw [hsummary, Totals.ofEntries_entries]
    rfl

end NullContract
