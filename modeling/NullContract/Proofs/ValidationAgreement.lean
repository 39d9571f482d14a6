import NullContract.Proofs.ClauseReading
import NullContract.Proofs.Entry
import NullContract.Proofs.Verdicts
import NullContract.Service.Response

namespace NullContract

def Checked.contractFaults (checked : Checked) : List Diagnostic :=
  checked.diagnostics.filter (·.kind = .invalidContract)

theorem length_clauseFindings (clause : Clause) (parameters : List String) :
    (clauseFindings clause parameters).length = (clause.faults parameters.length).length := by
  simp only [clauseFindings, Clause.faults, List.length_append, List.length_map]
  by_cases h : clause.binding.tokens.length = parameters.length <;> simp [h]

theorem length_contractFaults {checked : Checked} {clause : Clause} {subject : Subject} {violations : List Diagnostic}
    (hkind : ∀ d ∈ violations, d.kind = .violation)
    (h : checked.diagnostics =
      (clauseFindings clause subject.parameters).map (Finding.diagnostic subject) ++ violations) :
    checked.contractFaults.length = (clause.faults subject.parameters.length).length := by
  have hfindings : ((clauseFindings clause subject.parameters).map (Finding.diagnostic subject)).filter
      (·.kind = .invalidContract) = (clauseFindings clause subject.parameters).map (Finding.diagnostic subject) := by
    refine List.filter_eq_self.mpr fun d hd => ?_
    simpa using kind_clauseFindings clause _ _ d hd
  have hviolations : violations.filter (·.kind = .invalidContract) = [] := by
    refine List.filter_eq_nil_iff.mpr fun d hd => ?_
    simp [hkind d hd]
  rw [Checked.contractFaults, h, List.filter_append, hfindings, hviolations, List.append_nil, List.length_map,
    length_clauseFindings]

theorem Clause.valid_of_checkable {clause : Clause} (h : clause.checkable = true) : clause.valid = true := by
  rw [Clause.checkable, Bool.and_eq_true, Bool.and_eq_true] at h
  exact h.1.1

structure Validation.Agrees (v : Validation) (checked : Checked) : Prop where
  faults : v.faults.length = checked.contractFaults.length
  checkable : v.deepCheckable = true ↔ checked.state = .done ∧ checked.contractFaults = []
  limits : v.limits ≠ [] ↔ checked.state = .invalidShape ∨ checked.state = .unsupported

theorem Validation.Agrees.valid {v : Validation} {checked : Checked} (h : v.Agrees checked) :
    v.valid = true ↔ checked.contractFaults = [] := by
  rw [Validation.valid, List.isEmpty_iff, ← List.length_eq_zero_iff, ← List.length_eq_zero_iff, h.faults]

section

variable {oracle : Oracle} {c : Candidate} {contract text : Text} {checked : Checked}

theorem agrees_of_unreadable {e : ClauseError} (hcontract : c.subject.contract = some contract)
    (htext : clauses contract = [text]) (hread : readClause text = .error e) (h : check oracle true c = .ok checked) :
    (validateClause text c.subject.parameters.length).Agrees checked := by
  have hstrip := readClause_pad (padded_strip text)
  rw [hread] at hstrip
  simp only [check, checkBy, hcontract, htext, checkClause, ← hstrip] at h
  cases h
  simp only [validateClause, hread]
  refine ⟨rfl, ?_, ?_⟩
  · simp [Validation.deepCheckable, Validation.valid]
  · simp

theorem agrees_of_readable {clause : Clause} (hcontract : c.subject.contract = some contract)
    (htext : clauses contract = [text]) (hread : readClause text = .ok clause) (h : check oracle true c = .ok checked) :
    (validateClause text c.subject.parameters.length).Agrees checked := by
  have hstrip := readClause_pad (padded_strip text)
  rw [hread] at hstrip
  have hclause := clause?_eq_some_iff.mpr ⟨contract, text, hcontract, htext, hstrip.symm⟩
  obtain ⟨hstate, violations, hkind, hdiagnostics⟩ := check_of_clause hclause h
  have hfaults := length_contractFaults hkind hdiagnostics
  have hnone : checked.contractFaults = [] ↔ clause.faults c.subject.parameters.length = [] := by
    rw [← List.length_eq_zero_iff, ← List.length_eq_zero_iff, hfaults]
  simp only [validateClause, hread]
  refine ⟨hfaults.symm, ?_, ?_⟩
  · have hdone : checked.state = .done ↔ clause.checkable = true := by
      rw [hstate]
      cases hcheckable : clause.checkable with
      | false => cases hvalid : clause.valid <;> simp [Clause.deepCheckable, hcheckable]
      | true => simp [Clause.deepCheckable, hcheckable, Clause.valid_of_checkable hcheckable]
    rw [hdone, hnone, Validation.deepCheckable, Validation.valid, Bool.and_eq_true, List.isEmpty_iff, and_comm]
  · rw [hstate]
    cases hvalid : clause.valid <;> cases hcheckable : clause.checkable <;> simp [Clause.deepCheckable, hcheckable]

theorem agrees_of_several (hcontract : c.subject.contract = some contract)
    (hseveral : ∀ text, clauses contract ≠ [text])
    (h : check oracle true c = .ok checked) : (validateContract contract c.subject.parameters).Agrees checked := by
  have hchecked : checked.state = .invalidShape ∧ checked.diagnostics = [] := by
    simp only [check, checkBy, hcontract] at h
    cases h
    exact ⟨rfl, rfl⟩
  have hlimits : validateContract contract c.subject.parameters =
      { limits := [.clauseCount (clauses contract).length] } := by
    unfold validateContract
    split
    · next text htext => exact absurd htext (hseveral text)
    · rfl
  rw [hlimits]
  refine ⟨?_, ?_, ?_⟩
  · simp [Checked.contractFaults, hchecked.2]
  · simp [hchecked.1, Validation.deepCheckable]
  · simp [hchecked.1]

theorem validateContract_agrees (hcontract : c.subject.contract = some contract)
    (h : check oracle true c = .ok checked) :
    (validateContract contract c.subject.parameters).Agrees checked := by
  by_cases hsingle : ∃ text, clauses contract = [text]
  · obtain ⟨text, htext⟩ := hsingle
    have hvalidate : validateContract contract c.subject.parameters =
        validateClause text c.subject.parameters.length := by
      rw [validateContract, htext]
    rw [hvalidate]
    cases hread : readClause text with
    | error e => exact agrees_of_unreadable hcontract htext hread h
    | ok clause => exact agrees_of_readable hcontract htext hread h
  · exact agrees_of_several hcontract (fun text htext => hsingle ⟨text, htext⟩) h

end

structure Service.Agrees (answer : Json) (checked : Checked) : Prop where
  errors : ∃ errors, answer.field? "errors" = some (.strs errors) ∧ errors.length = checked.contractFaults.length
  valid : ∃ valid, answer.field? "valid" = some (.bool valid) ∧ (valid = true ↔ checked.contractFaults = [])
  deepCheckable : ∃ deep, answer.field? "deep_checkable" = some (.bool deep) ∧
    (deep = true ↔ checked.state = .done ∧ checked.contractFaults = [])
  warnings : ∃ warnings, answer.field? "warnings" = some (.strs warnings) ∧
    (warnings ≠ [] ↔ checked.state = .invalidShape ∨ checked.state = .unsupported)

theorem Validation.Agrees.answer {v : Validation} {checked : Checked} (h : v.Agrees checked) :
    Service.Agrees (Service.validationJson v) checked where
  errors := ⟨_, rfl, by rw [List.length_map, h.faults]⟩
  valid := ⟨_, rfl, h.valid⟩
  deepCheckable := ⟨_, rfl, h.checkable⟩
  warnings := ⟨_, rfl, by rw [Ne, List.map_eq_nil_iff, ← h.limits]⟩

theorem service_agrees_with_check (oracle : Oracle) :
    (∀ (c : Candidate) (contract : Text) (checked : Checked), c.subject.contract = some contract →
      check oracle true c = .ok checked →
      Service.Agrees (Service.validationJson (validateContract contract c.subject.parameters)) checked) ∧
    (∀ (request : Service.ContractRequest) (c : Candidate) (checked : Checked),
      c.subject.contract = some (request.contract : Text) → c.subject.parameters = request.parameters →
      check oracle true c = .ok checked →
      ∃ answer, Service.validateAnswer request = .answer 200 answer ∧ Service.Agrees answer checked) ∧
    ∀ clause text : Text, Padded clause text → readClause text = readClause clause := by
  refine ⟨fun c contract checked hcontract h => (validateContract_agrees hcontract h).answer, ?_,
    fun _ _ => readClause_pad⟩
  intro request c checked hcontract hparameters h
  refine ⟨_, rfl, ?_⟩
  rw [← hparameters]
  exact (validateContract_agrees hcontract h).answer

def strayToken : Candidate :=
  Function.under (.plain "stray_token" ["x"] [.ret ⟨2, 4⟩ (some (.name "x"))]) "\u3000_ , maybe -> !null ;"

theorem service_agrees_with_check_strayToken :
    ∃ checked answer, check (flowOracle readLiteral) true strayToken = .ok checked ∧
      Service.validateAnswer ⟨"\u3000_ , maybe -> !null ;", ["x"]⟩ = .answer 200 answer ∧
      Service.Agrees answer checked ∧ readClause " _ -> null\t" = readClause "_ -> null" := by
  obtain ⟨-, hrequest, hpad⟩ := service_agrees_with_check (flowOracle readLiteral)
  have hok : (check (flowOracle readLiteral) true strayToken).isOk = true := by decide +kernel
  cases hchecked : check (flowOracle readLiteral) true strayToken with
  | error e =>
    rw [hchecked] at hok
    cases hok
  | ok checked =>
    obtain ⟨answer, hanswer, hagrees⟩ :=
      hrequest ⟨"\u3000_ , maybe -> !null ;", ["x"]⟩ strayToken checked rfl rfl hchecked
    exact ⟨checked, answer, rfl, hanswer, hagrees, hpad _ _ ⟨" ", "\t", by decide, by decide, rfl⟩⟩

end NullContract
