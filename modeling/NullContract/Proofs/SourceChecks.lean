import NullContract.Proofs.Entry
import NullContract.Summary

namespace NullContract

theorem mapM_eq_ok_iff {ε α β : Type} {f : α → Except ε β} {xs : List α} {ys : List β} :
    xs.mapM f = .ok ys ↔ List.Forall₂ (fun x y => f x = .ok y) xs ys := by
  constructor
  · exact forall₂_of_mapM_ok
  · intro h
    induction h with
    | nil => rfl
    | cons hx _ ih =>
      rw [List.mapM_cons, hx, ih]
      rfl

section

variable {names : NameSet} {filename source : String} {candidates : List Candidate}

theorem discover_eq_ok :
    discover names filename source = .ok candidates ↔
      '\x00' ∉ filename.toList ∧ ∃ module, Source.readModule source = .ok module ∧
        candidates = (findContracts names module).map fun f => f.candidate filename source := by
  unfold discover
  by_cases hname : '\x00' ∈ filename.toList
  · simp [hname, bind, Except.bind, throw, throwThe, MonadExceptOf.throw]
  · simp only [List.contains_eq_mem, hname, decide_false, Bool.false_eq_true, if_false, not_false_eq_true, true_and]
    refine bind_eq_ok.trans (exists_congr fun module => and_congr_right fun _ => ?_)
    simp [pure, Except.pure, eq_comm]

end

def ResultOf (oracle : Oracle) (deep : Bool) (c : Candidate) (r : Result) : Prop :=
  r.candidate = c ∧ check oracle deep c = .ok r.checked

theorem checkAll_eq_ok {oracle : Oracle} {deep : Bool} {candidates : List Candidate} {results : List Result} :
    checkAll oracle deep candidates = .ok results ↔ List.Forall₂ (ResultOf oracle deep) candidates results := by
  have heach : ∀ c r, (do return ⟨c, ← check oracle deep c⟩ : Except SourceError Result) = .ok r ↔
      ResultOf oracle deep c r := by
    intro c r
    rw [bind_eq_ok]
    constructor
    · rintro ⟨checked, hchecked, hr⟩
      cases hr
      exact ⟨rfl, hchecked⟩
    · rintro ⟨rfl, hchecked⟩
      exact ⟨r.checked, hchecked, rfl⟩
  rw [checkAll, mapM_eq_ok_iff]
  simp only [heach]

theorem checkSource_eq_ok {settings : Settings} {filename source : String} {summary : Summary} :
    checkSource settings filename source = .ok summary ↔
      summary.filename = filename ∧ ∃ candidates, discover settings.names filename source = .ok candidates ∧
        List.Forall₂ (ResultOf standardOracle settings.checkContracts) candidates summary.results := by
  constructor
  · intro h
    obtain ⟨candidates, hdiscover, h⟩ := bind_eq_ok.mp h
    obtain ⟨results, hresults, h⟩ := bind_eq_ok.mp h
    cases h
    exact ⟨rfl, candidates, hdiscover, checkAll_eq_ok.mp hresults⟩
  · rintro ⟨rfl, candidates, hdiscover, hresults⟩
    exact bind_eq_ok.mpr ⟨candidates, hdiscover, bind_eq_ok.mpr ⟨_, checkAll_eq_ok.mpr hresults, rfl⟩⟩

theorem map_candidate_of_results {oracle : Oracle} {deep : Bool} {candidates : List Candidate} {results : List Result}
    (h : List.Forall₂ (ResultOf oracle deep) candidates results) : results.map (·.candidate) = candidates := by
  have hmap := List.forall₂_map_right_iff.mpr (h.imp fun _ _ hr => hr.1.symm)
  rw [List.forall₂_eq_eq_eq] at hmap
  exact hmap.symm

end NullContract
