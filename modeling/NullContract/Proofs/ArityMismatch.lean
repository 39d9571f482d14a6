import NullContract.Proofs.DeepChecking
import NullContract.Proofs.ReturnOwners
import NullContract.Proofs.Weakening

namespace NullContract

/-- The antecedent cut to a number of parameters, or filled up to it with constraints that ask nothing. -/
def fitted (count : Nat) (antecedent : List Constraint) : List Constraint :=
  antecedent.take count ++ List.replicate (count - antecedent.length) .any

section

variable {antecedent : List Constraint} {parameters : List String}

theorem length_fitted (count : Nat) (antecedent : List Constraint) : (fitted count antecedent).length = count := by
  simp only [fitted, List.length_append, List.length_take, List.length_replicate]
  omega

theorem zip_fitted (antecedent : List Constraint) (parameters : List String) :
    ∃ idle, (fitted parameters.length antecedent).zip parameters = antecedent.zip parameters ++ idle ∧
      ∀ p ∈ idle, p.1 = .any := by
  induction parameters generalizing antecedent with
  | nil => exact ⟨[], by simp, by simp⟩
  | cons x parameters ih =>
    cases antecedent with
    | nil =>
      refine ⟨(List.replicate (parameters.length + 1) .any).zip (x :: parameters), by simp [fitted], ?_⟩
      intro p hp
      exact List.eq_of_mem_replicate (List.of_mem_zip hp).1
    | cons constraint antecedent =>
      obtain ⟨idle, hzip, hidle⟩ := ih antecedent
      refine ⟨idle, ?_, hidle⟩
      have hcons : fitted (parameters.length + 1) (constraint :: antecedent) =
          constraint :: fitted parameters.length antecedent := by
        simp [fitted]
      rw [List.length_cons, hcons, List.zip_cons_cons, hzip, List.zip_cons_cons, List.cons_append]

theorem assumptions_fitted (antecedent : List Constraint) (parameters : List String) :
    assumptions (fitted parameters.length antecedent) parameters = assumptions antecedent parameters := by
  obtain ⟨idle, hzip, hidle⟩ := zip_fitted antecedent parameters
  simp only [assumptions, hzip, List.foldl_append]
  generalize List.foldl _ _ (antecedent.zip parameters) = env
  clear hzip
  induction idle with
  | nil => rfl
  | cons p idle ih =>
    rw [List.forall_mem_cons] at hidle
    rw [List.foldl_cons, hidle.1]
    exact ih hidle.2

theorem reachableUnder_fitted (site : Site) (antecedent : List Constraint) (parameters : List String) :
    site.reachableUnder (fitted parameters.length antecedent) parameters = site.reachableUnder antecedent parameters := by
  obtain ⟨idle, hzip, hidle⟩ := zip_fitted antecedent parameters
  simp only [Site.reachableUnder, hzip, List.all_append, Bool.and_eq_left_iff_imp, List.all_eq_true]
  intro _ p hp
  simp [hidle p hp]

theorem checkable_fitted {count : Nat} (h : ∀ constraint ∈ antecedent, constraint ∈ [.any, .null, .nonNull]) :
    ∀ constraint ∈ fitted count antecedent, constraint ∈ [.any, .null, .nonNull] := by
  intro constraint hconstraint
  rcases List.mem_append.mp hconstraint with hkept | hidle
  · exact h constraint (List.mem_of_mem_take hkept)
  · rw [List.eq_of_mem_replicate hidle]
    decide

end

def nonNullContract (antecedent : List Constraint) : Text :=
  Text.intercalate "," (antecedent.map fun constraint => (constraint.text : Text)) ++ arrow ++ "!null"

section

variable (antecedent : List Constraint)

theorem isClause_nonNullContract : IsClause antecedent (some .nonNull) (nonNullContract antecedent) := by
  apply isClause_of_spelled
  · refine .inr ⟨_, ?_, rfl⟩
    rw [List.forall₂_map_right_iff, List.forall₂_same]
    intro constraint _
    exact ⟨[], [], by simp, by simp, by simp⟩
  · exact ⟨[], [], by simp, by simp, rfl⟩

theorem separator_not_mem_nonNullContract : CodePoint.char ';' ∉ nonNullContract antecedent := by
  have hword : ∀ constraint : Constraint, ∀ c ∈ (constraint.text : Text), c ≠ .char ';' := by
    intro constraint
    cases constraint <;> decide
  have hbefore : ∀ c ∈ Text.intercalate "," (antecedent.map fun constraint => (constraint.text : Text)),
      c ≠ .char ';' := by
    apply forall_mem_intercalate
    · decide
    · simp only [List.forall_mem_map]
      exact fun constraint _ => hword constraint
  intro hmem
  rcases List.mem_append.mp hmem with hmem | hmem
  · rcases List.mem_append.mp hmem with hmem | hmem
    · exact hbefore _ hmem rfl
    · exact absurd hmem (by decide)
  · exact hword .nonNull _ hmem rfl

end

structure Candidate.Asks (c : Candidate) (contract : Text) (clause : Clause) : Prop where
  reads : (c.withContract contract).clause? = some clause
  deepCheckable : clause.deepCheckable true = true

theorem Candidate.Asks.checkable {c : Candidate} {contract : Text} {clause : Clause} (h : c.Asks contract clause) :
    clause.checkable = true :=
  h.deepCheckable

theorem exists_asks (c : Candidate) {antecedent : List Constraint}
    (h : ∀ constraint ∈ antecedent, constraint ∈ [.any, .null, .nonNull]) :
    ∃ contract clause, c.Asks contract clause ∧ clause.antecedent = antecedent := by
  have hcontract : (c.withContract (nonNullContract antecedent)).subject.contract =
      some (nonNullContract antecedent ++ List.replicate 0 (.char ';')) := by
    simp [Candidate.withContract]
  obtain ⟨clause, hclause, hstates⟩ := clause?_of_isClause hcontract (separator_not_mem_nonNullContract antecedent)
    (isClause_nonNullContract antecedent)
  rw [← hstates.antecedent] at h
  have hcheckable := Clause.checkable_iff.mpr ⟨hstates.unknownTokens, hstates.consequent, h⟩
  exact ⟨_, clause, ⟨hclause, hcheckable⟩, hstates.antecedent⟩

structure Checked.Reports (checked : Checked) (subject : Subject) (faults : List Finding) (antecedent : List Constraint)
    (sites : List Site) : Prop where
  state : checked.state = .done
  diagnostics : checked.diagnostics =
    (faults ++ sites.map fun site => Finding.violation site.position antecedent).map (Finding.diagnostic subject)
  kinds : checked.diagnostics.map (·.kind) = faults.map (fun _ => .invalidContract) ++ sites.map fun _ => .violation

def arityFaults (clause : Clause) (parameters : List String) : List Finding :=
  if clause.antecedent.length = parameters.length then []
  else [.arityMismatch clause.text clause.antecedent.length]

theorem map_eq_error {ε α β : Type} {x : Except ε α} {f : α → β} {e : ε} : x.map f = .error e ↔ x = .error e := by
  cases x <;> simp [Except.map]

section

variable {oracle : Oracle} {c : Candidate} {contract : Text} {clause : Clause} {verdicts : List (Site × Nullness)}

theorem Candidate.Asks.findings (h : c.Asks contract clause) :
    clauseFindings clause c.subject.parameters = arityFaults clause c.subject.parameters := by
  have hvalid := (Clause.checkable_iff.mp h.checkable).1
  have hlength : clause.binding.tokens.length = clause.antecedent.length := by
    obtain ⟨_, text, _, _, hread⟩ := clause?_eq_some_iff.mp h.reads
    obtain ⟨_, hread', hstates⟩ := readClause_of_isClause (isClause_of_readClause hread hvalid)
    cases hread.symm.trans hread'
    rw [hstates.tokens, List.length_map]
  rw [clauseFindings, arityFaults, hvalid, hlength, List.map_nil, List.append_nil]

theorem Candidate.Asks.check_eq_error (h : c.Asks contract clause) {e : SourceError} :
    check oracle true (c.withContract contract) = .error e ↔
      oracle.verdicts c.function (assumptions clause.antecedent c.subject.parameters) = .error e := by
  have hdiagnostics := diagnostics_of_deepCheckable h.reads h.deepCheckable oracle Site.reachableUnder
  calc check oracle true (c.withContract contract) = .error e
      ↔ (check oracle true (c.withContract contract)).map (·.diagnostics) = .error e := map_eq_error.symm
    _ ↔ oracle.verdicts c.function (assumptions clause.antecedent c.subject.parameters) = .error e := by
        rw [check, hdiagnostics, map_eq_error]
        rfl

def reportedSites (antecedent : List Constraint) (parameters : List String) (verdicts : List (Site × Nullness)) :
    List Site :=
  (verdicts.filter fun (site, verdict) => verdict.mayBeNull && site.reachableUnder antecedent parameters).map (·.1)

theorem reportedSites_fitted (antecedent : List Constraint) (parameters : List String) :
    reportedSites (fitted parameters.length antecedent) parameters verdicts =
      reportedSites antecedent parameters verdicts := by
  simp only [reportedSites, reachableUnder_fitted]

theorem Candidate.Asks.reports (h : c.Asks contract clause)
    (hverdicts : oracle.verdicts c.function (assumptions clause.antecedent c.subject.parameters) = .ok verdicts) :
    ∃ checked, check oracle true (c.withContract contract) = .ok checked ∧
      checked.Reports (c.withContract contract).subject (arityFaults clause c.subject.parameters) clause.antecedent
        (reportedSites clause.antecedent c.subject.parameters verdicts) := by
  obtain ⟨checked, hchecked, hdiagnostics⟩ := check_of_verdicts h.reads h.deepCheckable hverdicts
  have hfindings : clauseFindings clause (c.withContract contract).subject.parameters =
      arityFaults clause c.subject.parameters := h.findings
  have hreported : checked.diagnostics = (arityFaults clause c.subject.parameters ++
      (reportedSites clause.antecedent c.subject.parameters verdicts).map fun site =>
        Finding.violation site.position clause.antecedent).map
          (Finding.diagnostic (c.withContract contract).subject) := by
    rw [hdiagnostics, hfindings, List.map_append, List.map_map]
    rfl
  refine ⟨checked, hchecked, ?_, hreported, ?_⟩
  · have hvalid : clause.valid = true := List.isEmpty_iff.mpr (Clause.checkable_iff.mp h.checkable).1
    rw [(check_of_clause h.reads hchecked).1, hvalid, h.deepCheckable]
    rfl
  · rw [hreported, List.map_map, List.map_append, List.map_map, arityFaults]
    split <;> rfl

end

theorem arity_mismatch_adds_one_fault (oracle : Oracle) (c : Candidate) (contract : Text) (clause : Clause)
    (h : c.Asks contract clause) :
    (∃ contract' clause', c.Asks contract' clause' ∧
      clause'.antecedent = fitted c.subject.parameters.length clause.antecedent) ∧
    ∀ contract' clause', c.Asks contract' clause' →
      clause'.antecedent = fitted c.subject.parameters.length clause.antecedent →
      (∀ e, check oracle true (c.withContract contract) = .error e ↔
        check oracle true (c.withContract contract') = .error e) ∧
      ∀ checked, check oracle true (c.withContract contract) = .ok checked →
        ∃ checked' sites, check oracle true (c.withContract contract') = .ok checked' ∧
          sites.Sublist c.function.sites ∧
          checked.Reports (c.withContract contract).subject (arityFaults clause c.subject.parameters) clause.antecedent
            sites ∧
          checked'.Reports (c.withContract contract').subject [] clause'.antecedent sites := by
  refine ⟨exists_asks c (checkable_fitted (Clause.checkable_iff.mp h.checkable).2.2), ?_⟩
  intro contract' clause' h' hfitted
  have hassumed : assumptions clause'.antecedent c.subject.parameters =
      assumptions clause.antecedent c.subject.parameters := by
    rw [hfitted, assumptions_fitted]
  constructor
  · intro e
    rw [h.check_eq_error, h'.check_eq_error, hassumed]
  · intro checked hchecked
    cases hverdicts : oracle.verdicts c.function (assumptions clause.antecedent c.subject.parameters) with
    | error e =>
      rw [h.check_eq_error.mpr hverdicts] at hchecked
      cases hchecked
    | ok verdicts =>
      obtain ⟨checked₁, hchecked₁, hreports⟩ := h.reports hverdicts
      obtain rfl : checked₁ = checked := Except.ok.inj (hchecked₁.symm.trans hchecked)
      rw [← hassumed] at hverdicts
      obtain ⟨checked', hchecked', hreports'⟩ := h'.reports hverdicts
      have hlength : clause'.antecedent.length = c.subject.parameters.length := by rw [hfitted, length_fitted]
      rw [arityFaults, if_pos hlength, hfitted, reportedSites_fitted, ← hfitted] at hreports'
      refine ⟨checked', _, hchecked', ?_, hreports, hreports'⟩
      rw [← map_fst_verdicts hverdicts]
      exact List.filter_sublist.map Prod.fst

def neverAnswers : Candidate :=
  Function.under (.plain "never_answers" ["x"] [
    .ifElse 2 (.compare (.name "x") [.is] [.literal .none]) [.ret ⟨3, 8⟩ none] [],
    .ret ⟨4, 4⟩ (some (.literal .none))]) "!null, null -> !null"

theorem arity_mismatch_adds_one_fault_neverAnswers :
    ∃ clause clause' checked checked' sites, neverAnswers.Asks "!null, null -> !null" clause ∧
      neverAnswers.Asks "!null -> !null" clause' ∧ clause'.antecedent = fitted 1 clause.antecedent ∧
      check (flowOracle readLiteral) true (neverAnswers.withContract "!null, null -> !null") = .ok checked ∧
      check (flowOracle readLiteral) true (neverAnswers.withContract "!null -> !null") = .ok checked' ∧
      checked.diagnostics.map (·.kind) = [.invalidContract, .violation] ∧
      checked'.Reports (neverAnswers.withContract "!null -> !null").subject [] clause'.antecedent sites := by
  have hlong : ((neverAnswers.withContract "!null, null -> !null").clause?.map fun clause =>
      (clause.antecedent, clause.deepCheckable true)) = some ([.nonNull, .null], true) := by decide +kernel
  have hfit : ((neverAnswers.withContract "!null -> !null").clause?.map fun clause =>
      (clause.antecedent, clause.deepCheckable true)) = some ([.nonNull], true) := by decide +kernel
  have hkinds : (check (flowOracle readLiteral) true (neverAnswers.withContract "!null, null -> !null")).map
      (fun checked => checked.diagnostics.map (·.kind)) = .ok [.invalidContract, .violation] := by decide +kernel
  obtain ⟨clause, hclause, hread⟩ := Option.map_eq_some_iff.mp hlong
  obtain ⟨clause', hclause', hread'⟩ := Option.map_eq_some_iff.mp hfit
  obtain ⟨hantecedent, hdeep⟩ := Prod.mk.inj hread
  obtain ⟨hantecedent', hdeep'⟩ := Prod.mk.inj hread'
  obtain ⟨checked, hchecked, hkinds⟩ := map_eq_ok.mp hkinds
  have hfitted : clause'.antecedent = fitted 1 clause.antecedent := by
    rw [hantecedent, hantecedent']
    rfl
  obtain ⟨-, hreports⟩ := (arity_mismatch_adds_one_fault (flowOracle readLiteral) neverAnswers _ clause
    ⟨hclause, hdeep⟩).2 _ clause' ⟨hclause', hdeep'⟩ hfitted
  obtain ⟨checked', sites, hchecked', -, -, hreports'⟩ := hreports checked hchecked
  exact ⟨clause, clause', checked, checked', sites, ⟨hclause, hdeep⟩, ⟨hclause', hdeep'⟩, hfitted, hchecked, hchecked',
    hkinds, hreports'⟩

end NullContract
