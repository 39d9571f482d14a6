import NullContract.Proofs.ClauseLanguage
import NullContract.Proofs.ClauseSplitting
import NullContract.Proofs.SourceChecks
import NullContract.Proofs.Verdicts

namespace NullContract

def SpeaksOfNullness (contract : Text) : Prop :=
  ∃ (text : Text) (count : Nat) (antecedent : List Constraint),
    contract = text ++ List.replicate count (.char ';') ∧ .char ';' ∉ text ∧
      IsClause antecedent (some .nonNull) text ∧ ∀ constraint ∈ antecedent, constraint ∈ [.any, .null, .nonNull]

theorem checkable_iff_mem (constraint : Constraint) :
    constraint.checkable = true ↔ constraint ∈ [.any, .null, .nonNull] := by
  cases constraint <;> decide

theorem Clause.checkable_iff {clause : Clause} :
    clause.checkable = true ↔ clause.unknownTokens = [] ∧ clause.consequent = some .nonNull ∧
      ∀ constraint ∈ clause.antecedent, constraint ∈ [.any, .null, .nonNull] := by
  simp only [Clause.checkable, Clause.valid, Bool.and_eq_true, List.isEmpty_iff, decide_eq_true_eq, List.all_eq_true,
    checkable_iff_mem]
  tauto

theorem IsClause.ne_nil {antecedent : List Constraint} {consequent : Option Constraint} {text : Text}
    (h : IsClause antecedent consequent text) : text ≠ [] := by
  rintro rfl
  exact absurd h.oneArrow (by decide)

theorem clause?_of_isClause {c : Candidate} {text : Text} {count : Nat} {antecedent : List Constraint}
    {consequent : Option Constraint} (hcontract : c.subject.contract = some (text ++ List.replicate count (.char ';')))
    (hsep : .char ';' ∉ text) (h : IsClause antecedent consequent text) :
    ∃ clause, c.clause? = some clause ∧ clause.States antecedent consequent := by
  obtain ⟨clause, hread, hstates⟩ := readClause_of_isClause h
  rw [readClause_pad (padded_strip text)] at hread
  have htext := clauses_eq_singleton.mpr ⟨h.ne_nil, hsep, count, rfl⟩
  exact ⟨clause, clause?_eq_some_iff.mpr ⟨_, text, hcontract, htext, hread⟩, hstates⟩

theorem exists_checkable_clause_iff {c : Candidate} :
    (∃ clause, c.clause? = some clause ∧ clause.checkable = true) ↔
      ∃ contract, c.subject.contract = some contract ∧ SpeaksOfNullness contract := by
  constructor
  · rintro ⟨clause, hclause, hcheckable⟩
    obtain ⟨contract, text, hcontract, htext, hread⟩ := clause?_eq_some_iff.mp hclause
    obtain ⟨hvalid, hconsequent, hwords⟩ := Clause.checkable_iff.mp hcheckable
    obtain ⟨-, hsep, count, rfl⟩ := clauses_eq_singleton.mp htext
    rw [← readClause_pad (padded_strip text)] at hread
    have his := isClause_of_readClause hread hvalid
    rw [hconsequent] at his
    exact ⟨_, hcontract, text, count, clause.antecedent, rfl, hsep, his, hwords⟩
  · rintro ⟨contract, hcontract, text, count, antecedent, rfl, hsep, his, hwords⟩
    obtain ⟨clause, hclause, hstates⟩ := clause?_of_isClause hcontract hsep his
    refine ⟨clause, hclause, Clause.checkable_iff.mpr ⟨hstates.unknownTokens, hstates.consequent, ?_⟩⟩
    rw [hstates.antecedent]
    exact hwords

structure Checked.Deepens (contract : Option Text) (shallow deep : Checked) : Prop where
  faults : ∀ d ∈ shallow.diagnostics, d.kind = .invalidContract
  added : ∃ violations, deep.diagnostics = shallow.diagnostics ++ violations ∧ ∀ d ∈ violations, d.kind = .violation
  deepened : (∃ text, contract = some text ∧ SpeaksOfNullness text) → shallow.state = .unsupported ∧ deep.state = .done
  kept : ¬ (∃ text, contract = some text ∧ SpeaksOfNullness text) → deep.state = shallow.state
  onlyDone : ∀ checked ∈ [shallow, deep], ∀ d ∈ checked.diagnostics, d.kind = .violation → checked.state = .done

section

variable {oracle : Oracle} {c : Candidate} {clause : Clause}

theorem check_of_not_checkable (h : ∀ clause, c.clause? = some clause → clause.checkable = false) (oracle : Oracle) :
    check oracle true c = check oracle false c := by
  unfold check checkBy
  cases hcontract : c.subject.contract with
  | none => rfl
  | some contract =>
    dsimp only
    split
    · next text htext =>
      unfold checkClause
      cases hread : readClause text.strip with
      | error e => rfl
      | ok clause =>
        have hcheckable := h clause (clause?_eq_some_iff.mpr ⟨contract, text, hcontract, htext, hread⟩)
        simp only [Clause.deepCheckable, hcheckable, Bool.and_false]
    · rfl

theorem check_shallow_of_checkable (hclause : c.clause? = some clause) (hcheckable : clause.checkable = true)
    (oracle : Oracle) :
    ∃ shallow, check oracle false c = .ok shallow ∧ shallow.state = .unsupported ∧
      shallow.diagnostics = (clauseFindings clause c.subject.parameters).map (Finding.diagnostic c.subject) := by
  obtain ⟨contract, text, hcontract, htext, hread⟩ := clause?_eq_some_iff.mp hclause
  have hvalid : clause.valid = true := List.isEmpty_iff.mpr (Clause.checkable_iff.mp hcheckable).1
  simp only [check, checkBy, hcontract, htext, checkClause, hread, hvalid, Clause.deepCheckable, Bool.false_and,
    Bool.not_true, Bool.not_false, Bool.false_eq_true, if_false, if_true]
  exact ⟨_, rfl, rfl, rfl⟩

theorem deepens_of_checkable (hclause : c.clause? = some clause) (hcheckable : clause.checkable = true) {deep : Checked}
    (h : check oracle true c = .ok deep) :
    ∃ shallow, check oracle false c = .ok shallow ∧ shallow.Deepens c.subject.contract deep := by
  obtain ⟨shallow, hshallow, hstate, hfindings⟩ := check_shallow_of_checkable hclause hcheckable oracle
  have hspeaks := exists_checkable_clause_iff.mp ⟨clause, hclause, hcheckable⟩
  have hvalid : clause.valid = true := List.isEmpty_iff.mpr (Clause.checkable_iff.mp hcheckable).1
  obtain ⟨hdone, violations, hkind, hdiagnostics⟩ := check_of_clause hclause h
  simp only [hvalid, Clause.deepCheckable, hcheckable, Bool.and_self, Bool.not_true, Bool.false_eq_true, if_false] at hdone
  rw [← hfindings] at hdiagnostics
  have hfaults : ∀ d ∈ shallow.diagnostics, d.kind = .invalidContract := by
    rw [hfindings]
    exact kind_clauseFindings clause _ _
  refine ⟨shallow, hshallow, hfaults, ⟨violations, hdiagnostics, hkind⟩, fun _ => ⟨hstate, hdone⟩,
    fun hnot => absurd hspeaks hnot, ?_⟩
  simp only [List.forall_mem_cons]
  refine ⟨fun d hd hviolation => ?_, fun _ _ _ => hdone, by simp⟩
  rw [hfaults d hd] at hviolation
  cases hviolation

theorem deepens_of_not_checkable (hclause : ¬ ∃ clause, c.clause? = some clause ∧ clause.checkable = true)
    {deep : Checked} (h : check oracle true c = .ok deep) :
    check oracle false c = .ok deep ∧ deep.Deepens c.subject.contract deep := by
  have hcheckable : ∀ clause, c.clause? = some clause → clause.checkable = false := by
    intro clause hc
    rw [Bool.eq_false_iff]
    exact fun hcheckable => hclause ⟨clause, hc, hcheckable⟩
  have hfaults : ∀ d ∈ deep.diagnostics, d.kind = .invalidContract := by
    rcases deepCheckable_or_textual true c with ⟨clause, hc, hdeep⟩ | ⟨checked, hchecked, hkind⟩
    · exact absurd ⟨clause, hc, hdeep⟩ hclause
    · cases h.symm.trans (hchecked oracle Site.reachableUnder)
      exact hkind
  refine ⟨(check_of_not_checkable hcheckable oracle).symm.trans h, hfaults, ⟨[], by simp, by simp⟩, ?_, fun _ => rfl, ?_⟩
  · exact fun hspeaks => absurd (exists_checkable_clause_iff.mpr hspeaks) hclause
  · simp only [List.forall_mem_cons]
    have hnone : ∀ d ∈ deep.diagnostics, d.kind = .violation → deep.state = .done := by
      intro d hd hviolation
      rw [hfaults d hd] at hviolation
      cases hviolation
    exact ⟨hnone, hnone, by simp⟩

theorem exists_shallow {deep : Checked} (h : check oracle true c = .ok deep) :
    ∃ shallow, check oracle false c = .ok shallow ∧ shallow.Deepens c.subject.contract deep := by
  by_cases hclause : ∃ clause, c.clause? = some clause ∧ clause.checkable = true
  · obtain ⟨clause, hclause, hcheckable⟩ := hclause
    exact deepens_of_checkable hclause hcheckable h
  · exact ⟨deep, deepens_of_not_checkable hclause h⟩

end

structure Result.Deepens (shallow deep : Result) : Prop where
  candidate : deep.candidate = shallow.candidate
  checked : shallow.checked.Deepens shallow.contract deep.checked

theorem exists_shallow_results {oracle : Oracle} {candidates : List Candidate} {deep : List Result}
    (h : List.Forall₂ (ResultOf oracle true) candidates deep) :
    ∃ shallow, List.Forall₂ (ResultOf oracle false) candidates shallow ∧
      List.Forall₂ Result.Deepens shallow deep := by
  induction h with
  | nil => exact ⟨[], .nil, .nil⟩
  | @cons c result candidates deep hresult _ ih =>
    obtain ⟨rfl, hcheck⟩ := hresult
    obtain ⟨checked, hchecked, hdeepens⟩ := exists_shallow hcheck
    obtain ⟨shallow, hshallow, hall⟩ := ih
    exact ⟨⟨result.candidate, checked⟩ :: shallow, .cons ⟨rfl, hchecked⟩ hshallow, .cons ⟨rfl, hdeepens⟩ hall⟩

theorem deep_checking_only_adds_violations :
    (∀ (oracle : Oracle) (c : Candidate) (deep : Checked), check oracle true c = .ok deep →
      ∃ shallow, check oracle false c = .ok shallow ∧ shallow.Deepens c.subject.contract deep) ∧
    ∀ (extraNames : NameSet) (filename source : String) (deep : Summary),
      checkSource ⟨true, extraNames⟩ filename source = .ok deep →
      ∃ shallow, checkSource ⟨false, extraNames⟩ filename source = .ok shallow ∧
        discover (defaultNames ∪ extraNames) filename source = .ok (shallow.results.map (·.candidate)) ∧
        List.Forall₂ Result.Deepens shallow.results deep.results := by
  refine ⟨fun _ _ _ => exists_shallow, fun extraNames filename source deep h => ?_⟩
  obtain ⟨-, candidates, hdiscover, hdeep⟩ := checkSource_eq_ok.mp h
  obtain ⟨shallow, hshallow, hdeepens⟩ := exists_shallow_results hdeep
  refine ⟨⟨filename, shallow⟩, checkSource_eq_ok.mpr ⟨rfl, candidates, hdiscover, hshallow⟩, ?_, hdeepens⟩
  rw [map_candidate_of_results hshallow]
  exact hdiscover

def mixedContracts : String :=
  "@contract(' !null,_ -> !null;')\ndef f(x):\n return\n@ensures('true -> !null')\ndef g(x):\n return\n"

theorem deep_checking_only_adds_violations_mixedContracts :
    ∃ shallow deep, checkSource ⟨true, .ofList ["ensures"]⟩ "m.py" mixedContracts = .ok deep ∧
      checkSource ⟨false, .ofList ["ensures"]⟩ "m.py" mixedContracts = .ok shallow ∧
      List.Forall₂ Result.Deepens shallow.results deep.results ∧
      deep.results.map (fun r => (r.checked.state, r.diagnostics.map (·.kind))) =
        [(.done, [.invalidContract, .violation]), (.unsupported, [])] := by
  obtain ⟨-, hsource⟩ := deep_checking_only_adds_violations
  have hends : (checkSource ⟨true, .ofList ["ensures"]⟩ "m.py" mixedContracts).map (fun summary =>
      summary.results.map fun r => (r.checked.state, r.diagnostics.map (·.kind))) =
        .ok [(.done, [.invalidContract, .violation]), (.unsupported, [])] := by
    decide +kernel
  obtain ⟨deep, hdeep, hends⟩ := map_eq_ok.mp hends
  obtain ⟨shallow, hshallow, -, hdeepens⟩ := hsource _ _ _ _ hdeep
  exact ⟨shallow, deep, hdeep, hshallow, hdeepens, hends⟩

end NullContract
