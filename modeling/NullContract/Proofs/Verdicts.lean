import NullContract.Check.Checked
import NullContract.Proofs.ReturnSites

namespace NullContract

section

variable {read : Reader} {fn : Function} {assumed entry : Env}

theorem flowOracle_of_entry (h : fn.entry read assumed = .ok entry) (index : Nat) (site : Site) :
    flowOracle read fn assumed index site = .ok (site.verdict ((fn.returnStates entry)[index]?.getD none)) := by
  simp only [flowOracle, h]
  rfl

def Function.judged (fn : Function) (entry : Env) : List (Site × Nullness) :=
  fn.sites.zipIdx.map fun (site, index) => (site, site.verdict ((fn.returnStates entry)[index]?.getD none))

theorem verdicts_of_entry (h : fn.entry read assumed = .ok entry) :
    (flowOracle read).verdicts fn assumed = .ok (fn.judged entry) := by
  simp only [Oracle.verdicts, flowOracle_of_entry h]
  exact List.mapM_pure

theorem verdicts_of_entry_error {e : SourceError} (h : fn.entry read assumed = .error e) :
    (flowOracle read).verdicts fn assumed = if fn.sites = [] then .ok [] else .error e := by
  simp only [Oracle.verdicts, flowOracle, h]
  cases fn.sites with
  | nil => rfl
  | cons site rest =>
    rw [List.zipIdx_cons, List.mapM_cons]
    rfl

theorem mem_judged {site : Site} {v : Nullness} (h : (site, v) ∈ fn.judged entry) :
    ∃ (index : Nat) (state : State), fn.sites[index]? = some site ∧ (fn.returnStates entry)[index]? = some state ∧
      v = site.verdict state := by
  obtain ⟨⟨site', index⟩, hmem, heq⟩ := List.mem_map.mp h
  cases heq
  have hsite := List.mem_zipIdx_iff_getElem?.mp hmem
  have hlt : index < (fn.returnStates entry).length := by
    rw [length_returnStates]
    exact (List.getElem?_eq_some_iff.mp hsite).1
  refine ⟨index, (fn.returnStates entry)[index], hsite, List.getElem?_eq_getElem hlt, ?_⟩
  simp [List.getElem?_eq_getElem hlt]

end

def Candidate.clause? (c : Candidate) : Option Clause :=
  c.subject.contract.bind fun contract =>
    match clauses contract with
    | [clause] => (readClause clause.strip).toOption
    | _ => none

theorem clause?_eq_some_iff {c : Candidate} {clause : Clause} :
    c.clause? = some clause ↔
      ∃ contract text, c.subject.contract = some contract ∧ clauses contract = [text] ∧
        readClause text.strip = .ok clause := by
  have htoOption : ∀ {x : Except ClauseError Clause}, x.toOption = some clause ↔ x = .ok clause := by
    intro x
    cases x <;> simp [Except.toOption]
  simp only [Candidate.clause?, Option.bind_eq_some_iff]
  constructor
  · rintro ⟨contract, hcontract, h⟩
    split at h
    · next text htext => exact ⟨contract, text, hcontract, htext, htoOption.mp h⟩
    · cases h
  · rintro ⟨contract, text, hcontract, htext, hread⟩
    refine ⟨contract, hcontract, ?_⟩
    rw [htext]
    exact htoOption.mpr hread

theorem kind_clauseFindings (clause : Clause) (parameters : List String) (subject : Subject) :
    ∀ d ∈ (clauseFindings clause parameters).map (Finding.diagnostic subject), d.kind = .invalidContract := by
  intro d hd
  obtain ⟨finding, hfinding, rfl⟩ := List.mem_map.mp hd
  unfold clauseFindings at hfinding
  rcases List.mem_append.mp hfinding with hf | hf
  · split at hf
    · cases hf
    · rw [List.mem_singleton.mp hf]
      rfl
  · obtain ⟨token, -, rfl⟩ := List.mem_map.mp hf
    rfl

def violationReports (reachability : Reachability) (subject : Subject) (clause : Clause)
    (verdicts : List (Site × Nullness)) : List Diagnostic :=
  ((verdicts.filter fun (site, verdict) =>
    verdict.mayBeNull && reachability site clause.antecedent subject.parameters).map (·.1)).map fun site =>
      Finding.diagnostic subject (.violation site.position clause.antecedent)

theorem filter_violations (clause : Clause) (reachability : Reachability) (subject : Subject)
    (verdicts : List (Site × Nullness)) :
    ((clauseFindings clause subject.parameters).map (Finding.diagnostic subject) ++
        violationReports reachability subject clause verdicts).filter (·.kind = .violation) =
      violationReports reachability subject clause verdicts := by
  have hfindings : ((clauseFindings clause subject.parameters).map (Finding.diagnostic subject)).filter
      (·.kind = .violation) = [] := by
    refine List.filter_eq_nil_iff.mpr fun d hd => ?_
    simp [kind_clauseFindings clause _ _ d hd]
  have hreports : (violationReports reachability subject clause verdicts).filter (·.kind = .violation) =
      violationReports reachability subject clause verdicts := by
    refine List.filter_eq_self.mpr fun d hd => ?_
    obtain ⟨site, -, rfl⟩ := List.mem_map.mp hd
    rfl
  rw [List.filter_append, hfindings, hreports, List.nil_append]

theorem checkBy_of_deepCheckable {deep : Bool} {c : Candidate} {clause : Clause} (hclause : c.clause? = some clause)
    (hdeep : clause.deepCheckable deep = true) (oracle : Oracle) (reachability : Reachability) :
    checkBy oracle reachability deep c = (checkBody oracle reachability c clause).map fun checked =>
      { checked with diagnostics :=
          (clauseFindings clause c.subject.parameters).map (Finding.diagnostic c.subject) ++ checked.diagnostics } := by
  obtain ⟨contract, text, hcontract, htext, hread⟩ := clause?_eq_some_iff.mp hclause
  have hvalid : clause.valid = true := by
    simp only [Clause.deepCheckable, Clause.checkable, Bool.and_eq_true] at hdeep
    exact hdeep.2.1.1
  simp only [checkBy, hcontract, htext, checkClause, hread, hvalid, hdeep, Bool.not_true, Bool.false_eq_true, if_false]

theorem diagnostics_of_deepCheckable {deep : Bool} {c : Candidate} {clause : Clause} (hclause : c.clause? = some clause)
    (hdeep : clause.deepCheckable deep = true) (oracle : Oracle) (reachability : Reachability) :
    (checkBy oracle reachability deep c).map (·.diagnostics) =
      (oracle.verdicts c.function (assumptions clause.antecedent c.subject.parameters)).map fun verdicts =>
        (clauseFindings clause c.subject.parameters).map (Finding.diagnostic c.subject) ++
          violationReports reachability c.subject clause verdicts := by
  rw [checkBy_of_deepCheckable hclause hdeep, checkBody]
  cases oracle.verdicts c.function (assumptions clause.antecedent c.subject.parameters) with
  | error e => rfl
  | ok verdicts => rfl

theorem state_of_deepCheckable {deep : Bool} {c : Candidate} {clause : Clause} (hclause : c.clause? = some clause)
    (hdeep : clause.deepCheckable deep = true) (oracle : Oracle) (reachability : Reachability) :
    (checkBy oracle reachability deep c).map (·.state) =
      (oracle.verdicts c.function (assumptions clause.antecedent c.subject.parameters)).map fun _ => .done := by
  rw [checkBy_of_deepCheckable hclause hdeep, checkBody]
  cases oracle.verdicts c.function (assumptions clause.antecedent c.subject.parameters) with
  | error e => rfl
  | ok verdicts => rfl

theorem map_eq_ok {ε α β : Type} {x : Except ε α} {f : α → β} {b : β} :
    x.map f = .ok b ↔ ∃ a, x = .ok a ∧ f a = b := by
  cases x <;> simp [Except.map]

theorem check_of_verdicts {deep : Bool} {c : Candidate} {clause : Clause} (hclause : c.clause? = some clause)
    (hdeep : clause.deepCheckable deep = true) {oracle : Oracle} {verdicts : List (Site × Nullness)}
    (h : oracle.verdicts c.function (assumptions clause.antecedent c.subject.parameters) = .ok verdicts) :
    ∃ checked, check oracle deep c = .ok checked ∧ checked.diagnostics =
      (clauseFindings clause c.subject.parameters).map (Finding.diagnostic c.subject) ++
        violationReports Site.reachableUnder c.subject clause verdicts := by
  have hdiagnostics := diagnostics_of_deepCheckable hclause hdeep oracle Site.reachableUnder
  rw [h] at hdiagnostics
  exact map_eq_ok.mp hdiagnostics

theorem deepCheckable_or_sameText (deep : Bool) (c : Candidate) :
    (∃ clause, c.clause? = some clause ∧ clause.deepCheckable deep = true) ∨
    ∃ checked : Checked, (∀ fn oracle reachability,
      checkBy oracle reachability deep { c with function := fn } = .ok checked) ∧
      ∀ d ∈ checked.diagnostics, d.kind = .invalidContract := by
  by_cases h : ∃ clause, c.clause? = some clause ∧ clause.deepCheckable deep = true
  · exact .inl h
  right
  unfold checkBy
  dsimp only
  cases hcontract : c.subject.contract with
  | none => exact ⟨_, fun _ _ _ => rfl, by simp⟩
  | some contract =>
    simp only
    split
    · next text htext =>
      unfold checkClause
      dsimp only
      cases hread : readClause text.strip with
      | error e => exact ⟨_, fun _ _ _ => rfl, by simp [Finding.diagnostic, Finding.kind]⟩
      | ok clause =>
        have hclause := clause?_eq_some_iff.mpr ⟨contract, text, hcontract, htext, hread⟩
        have hdeep : ¬ clause.deepCheckable deep = true := fun hd => h ⟨clause, hclause, hd⟩
        by_cases hvalid : clause.valid = true
        · simp only [hvalid, hdeep, Bool.not_true, Bool.not_false, Bool.false_eq_true, if_false, if_true]
          exact ⟨_, fun _ _ _ => rfl, kind_clauseFindings clause _ _⟩
        · simp only [hvalid, Bool.not_false, if_true]
          exact ⟨_, fun _ _ _ => rfl, kind_clauseFindings clause _ _⟩
    · exact ⟨_, fun _ _ _ => rfl, by simp⟩

theorem deepCheckable_or_textual (deep : Bool) (c : Candidate) :
    (∃ clause, c.clause? = some clause ∧ clause.deepCheckable deep = true) ∨
    ∃ checked : Checked, (∀ oracle reachability, checkBy oracle reachability deep c = .ok checked) ∧
      ∀ d ∈ checked.diagnostics, d.kind = .invalidContract := by
  rcases deepCheckable_or_sameText deep c with h | ⟨checked, hchecked, hkind⟩
  · exact .inl h
  · exact .inr ⟨checked, hchecked c.function, hkind⟩

theorem checkBody_eq_ok {oracle : Oracle} {reachability : Reachability} {c : Candidate} {clause : Clause}
    {checked : Checked} (h : checkBody oracle reachability c clause = .ok checked) :
    checked.state = .done ∧ ∀ d ∈ checked.diagnostics, d.kind = .violation := by
  cases hverdicts : oracle.verdicts c.function (assumptions clause.antecedent c.subject.parameters) with
  | error e =>
    simp only [checkBody, hverdicts] at h
    cases h
  | ok verdicts =>
    simp only [checkBody, hverdicts] at h
    cases h
    refine ⟨rfl, fun d hd => ?_⟩
    obtain ⟨site, -, rfl⟩ := List.mem_map.mp hd
    rfl

theorem check_of_clause {oracle : Oracle} {deep : Bool} {c : Candidate} {clause : Clause} {checked : Checked}
    (hclause : c.clause? = some clause) (h : check oracle deep c = .ok checked) :
    (checked.state =
      if !clause.valid then .tokenInvalid else if !clause.deepCheckable deep then .unsupported else .done) ∧
    ∃ violations : List Diagnostic, (∀ d ∈ violations, d.kind = .violation) ∧ checked.diagnostics =
      (clauseFindings clause c.subject.parameters).map (Finding.diagnostic c.subject) ++ violations := by
  obtain ⟨contract, text, hcontract, htext, hread⟩ := clause?_eq_some_iff.mp hclause
  simp only [check, checkBy, hcontract, htext, checkClause, hread] at h
  split
  · next hvalid =>
    rw [if_pos hvalid] at h
    cases h
    exact ⟨rfl, [], by simp, by simp⟩
  · next hvalid =>
    rw [if_neg hvalid] at h
    split
    · next hdeep =>
      rw [if_pos hdeep] at h
      cases h
      exact ⟨rfl, [], by simp, by simp⟩
    · next hdeep =>
      rw [if_neg hdeep] at h
      obtain ⟨body, hbody, rfl⟩ := map_eq_ok.mp h
      obtain ⟨hstate, hkind⟩ := checkBody_eq_ok hbody
      exact ⟨hstate, body.diagnostics, hkind, rfl⟩

end NullContract
