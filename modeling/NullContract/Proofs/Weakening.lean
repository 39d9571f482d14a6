import NullContract.Proofs.Entry
import NullContract.Proofs.MonotoneFlow
import NullContract.Proofs.Verdicts

namespace NullContract

def WeakerToken (token weaker : Text) : Prop :=
  weaker = token ∨ token = "!null" ∧ weaker = "_"

def WeakerConstraint (constraint weaker : Constraint) : Prop :=
  weaker = constraint ∨ constraint = .nonNull ∧ weaker = .any

structure Clause.Weaker (clause weaker : Clause) : Prop where
  tokens : List.Forall₂ WeakerToken clause.binding.tokens weaker.binding.tokens
  consequent : weaker.binding.consequent = clause.binding.consequent

theorem readClause_eq_ok {text : Text} {clause : Clause} (h : readClause text = .ok clause) :
    clause.antecedent = clause.binding.tokens.filterMap readToken ∧
      clause.consequent = readToken clause.binding.consequent ∧
      clause.unknownTokens = clause.binding.tokens.filter fun token => (readToken token).isNone := by
  obtain ⟨binding, -, h⟩ := bind_eq_ok.mp h
  cases h
  exact ⟨rfl, rfl, rfl⟩

theorem readToken_nonNull : readToken "!null" = some .nonNull := by decide +kernel

theorem readToken_any : readToken "_" = some .any := by decide +kernel

theorem forall₂_readToken {tokens weaker : List Text} (h : List.Forall₂ WeakerToken tokens weaker) :
    List.Forall₂ WeakerConstraint (tokens.filterMap readToken) (weaker.filterMap readToken) := by
  induction h with
  | nil => exact .nil
  | @cons token token' _ _ htoken _ ih =>
    rcases htoken with rfl | ⟨rfl, rfl⟩
    · cases hread : readToken token' with
      | none => simpa [hread] using ih
      | some constraint => simpa [hread] using ⟨.inl rfl, ih⟩
    · rw [List.filterMap_cons_some readToken_nonNull, List.filterMap_cons_some readToken_any]
      exact .cons (.inr ⟨rfl, rfl⟩) ih

section

variable {text text' : Text} {clause clause' : Clause}

theorem Clause.Weaker.antecedent (hweaker : clause.Weaker clause') (h : readClause text = .ok clause)
    (h' : readClause text' = .ok clause') : List.Forall₂ WeakerConstraint clause.antecedent clause'.antecedent := by
  rw [(readClause_eq_ok h).1, (readClause_eq_ok h').1]
  exact forall₂_readToken hweaker.tokens

theorem Clause.Weaker.deepCheckable (hweaker : clause.Weaker clause') (h : readClause text = .ok clause)
    (h' : readClause text' = .ok clause') {deep : Bool} (hdeep : clause.deepCheckable deep = true) :
    clause'.deepCheckable deep = true := by
  obtain ⟨-, hconsequent, hunknown⟩ := readClause_eq_ok h
  obtain ⟨-, hconsequent', hunknown'⟩ := readClause_eq_ok h'
  simp only [Clause.deepCheckable, Clause.checkable, Clause.valid, Bool.and_eq_true] at hdeep ⊢
  obtain ⟨hon, ⟨hvalid, hall⟩, hresult⟩ := hdeep
  refine ⟨hon, ⟨?_, ?_⟩, ?_⟩
  · rw [hunknown, List.isEmpty_iff, List.filter_eq_nil_iff] at hvalid
    rw [hunknown', List.isEmpty_iff, List.filter_eq_nil_iff]
    intro token' htoken'
    obtain ⟨token, htoken, rfl | ⟨-, rfl⟩⟩ := exists_of_mem_right hweaker.tokens token' htoken'
    · exact hvalid _ htoken
    · simp [readToken_any]
  · refine List.all_eq_true.mpr fun constraint' hconstraint' => ?_
    obtain ⟨constraint, hconstraint, rfl | ⟨-, rfl⟩⟩ :=
      exists_of_mem_right (hweaker.antecedent h h') constraint' hconstraint'
    · exact List.all_eq_true.mp hall _ hconstraint
    · rfl
  · rw [hconsequent', hweaker.consequent, ← hconsequent]
    exact hresult

end

section

variable {antecedent weaker : List Constraint} {parameters : List String}

theorem find?_weaker (h : List.Forall₂ WeakerConstraint antecedent weaker) (parameters : List String) (x : String) :
    (weaker.zip parameters).find? (·.2 = x) = (antecedent.zip parameters).find? (·.2 = x) ∨
      (antecedent.zip parameters).find? (·.2 = x) = some (.nonNull, x) ∧
        (weaker.zip parameters).find? (·.2 = x) = some (.any, x) := by
  induction h generalizing parameters with
  | nil => exact .inl rfl
  | cons hconstraint _ ih =>
    cases parameters with
    | nil => exact .inl rfl
    | cons y parameters =>
      by_cases hy : y = x
      · subst hy
        rcases hconstraint with rfl | ⟨rfl, rfl⟩
        · exact .inl (by simp)
        · exact .inr (by simp)
      · simpa [hy] using ih parameters

theorem assumptions_weaker (h : List.Forall₂ WeakerConstraint antecedent weaker) (hnodup : parameters.Nodup)
    (x : String) :
    (assumptions weaker parameters)[x]? = (assumptions antecedent parameters)[x]? ∨
      (assumptions antecedent parameters)[x]? = some .nonNull ∧ (assumptions weaker parameters)[x]? = none := by
  rw [getElem?_assumptions hnodup, getElem?_assumptions hnodup]
  rcases find?_weaker h parameters x with heq | ⟨hstrong, hweak⟩
  · exact .inl (by rw [heq])
  · exact .inr ⟨by rw [hstrong]; rfl, by rw [hweak]; rfl⟩

theorem reachableUnder_weaker (h : List.Forall₂ WeakerConstraint antecedent weaker) {site : Site}
    (hsite : site.reachableUnder antecedent parameters = true) : site.reachableUnder weaker parameters = true := by
  unfold Site.reachableUnder at *
  induction h generalizing parameters with
  | nil => rfl
  | cons hconstraint _ ih =>
    cases parameters with
    | nil => rfl
    | cons y parameters =>
      simp only [List.zip_cons_cons, List.all_cons, Bool.and_eq_true] at hsite ⊢
      refine ⟨?_, ih hsite.2⟩
      rcases hconstraint with rfl | ⟨rfl, rfl⟩
      · exact hsite.1
      · rfl

theorem seed_mono {declared : List (String × Nullness)} {a b : Env}
    (h : ∀ p ∈ declared, a[p.1]?.getD p.2 ≤ b[p.1]?.getD p.2) :
    (some (seed a declared) : State) ≤ some (seed b declared) := by
  have hfold : ∀ env env' : Env, (some env : State) ≤ some env' →
      (some (declared.foldl (fun env p => env.insert p.1 (a[p.1]?.getD p.2)) env) : State) ≤
        some (declared.foldl (fun env p => env.insert p.1 (b[p.1]?.getD p.2)) env') := by
    induction declared with
    | nil => exact fun _ _ => id
    | cons p rest ih =>
      obtain ⟨hp, hrest⟩ := List.forall_mem_cons.mp h
      exact fun env env' henv => ih hrest _ _ (Env.insert_mono henv p.1 hp)
  exact hfold ∅ ∅ (le_refl _)

end

theorem entry_weaker {read : Reader} {fn : Function} {antecedent weaker : List Constraint} {parameters : List String}
    (h : List.Forall₂ WeakerConstraint antecedent weaker) (hnodup : parameters.Nodup) {entry : Env}
    (hentry : fn.entry read (assumptions antecedent parameters) = .ok entry) :
    ∃ entry', fn.entry read (assumptions weaker parameters) = .ok entry' ∧ (some entry : State) ≤ some entry' := by
  obtain ⟨declared, hdeclared, rfl⟩ := entry_eq_ok.mp hentry
  refine ⟨_, entry_eq_ok.mpr ⟨declared, hdeclared, rfl⟩, seed_mono fun p hp => ?_⟩
  rcases assumptions_weaker h hnodup p.1 with heq | ⟨hstrong, hweak⟩
  · rw [heq]
  · rw [hstrong, hweak]
    exact Nullness.nonNull_le (declared_ne_null hdeclared p hp)

theorem entry_weaker_error {read : Reader} {fn : Function} {assumed assumed' : Env} {e : SourceError}
    (h : fn.entry read assumed = .error e) : fn.entry read assumed' = .error e := by
  unfold Function.entry at h ⊢
  cases hdeclared : fn.header.signature.declared read with
  | error e' =>
    rw [hdeclared] at h
    exact h
  | ok declared =>
    rw [hdeclared] at h
    cases h

section

variable {fn : Function} {entry entry' : Env}

theorem returnStates_mono (hfinal : ∀ s ∈ nestedOfBlock fn.body, s.hasFinal = false)
    (hentry : (some entry : State) ≤ some entry') (index : Nat) :
    ((fn.returnStates entry)[index]?.getD none : State) ≤ (fn.returnStates entry')[index]?.getD none := by
  have hall : List.Forall₂ (· ≤ ·) (fn.returnStates entry) (fn.returnStates entry') :=
    (execBlock_mono hfinal hentry).returned
  by_cases hi : index < (fn.returnStates entry).length
  · have hi' : index < (fn.returnStates entry').length := hall.length_eq ▸ hi
    rw [List.getElem?_eq_getElem hi, List.getElem?_eq_getElem hi']
    exact hall.get hi hi'
  · rw [List.getElem?_eq_none (Nat.le_of_not_lt hi)]
    exact State.none_le _

/-- The verdict on a site may jump from non-null to null where the site becomes reachable, but it never ceases to
allow null. -/
theorem mayBeNull_verdict_mono (site : Site) {s t : State} (hst : s ≤ t) (h : (site.verdict s).mayBeNull = true) :
    (site.verdict t).mayBeNull = true := by
  cases s with
  | none => cases h
  | some a =>
    obtain ⟨b, rfl, hab⟩ := State.exists_of_some_le hst
    unfold Site.verdict at h ⊢
    cases hvalue : site.value with
    | none => rfl
    | some value =>
      rw [hvalue] at h
      exact Nullness.mayBeNull_mono (value.evaluate_mono hab) h

theorem judged_sublist (hfinal : ∀ s ∈ nestedOfBlock fn.body, s.hasFinal = false)
    (hentry : (some entry : State) ≤ some entry') {reachable reachable' : Site → Bool}
    (hreachable : ∀ site, reachable site = true → reachable' site = true) :
    (((fn.judged entry).filter fun (site, v) => v.mayBeNull && reachable site).map (·.1)).Sublist
      (((fn.judged entry').filter fun (site, v) => v.mayBeNull && reachable' site).map (·.1)) := by
  simp only [Function.judged, List.filter_map, List.map_map]
  refine List.Sublist.map _ (List.monotone_filter_right _ ?_)
  rintro ⟨site, index⟩ h
  simp only [Function.comp_apply, Bool.and_eq_true] at h ⊢
  exact ⟨mayBeNull_verdict_mono site (returnStates_mono hfinal hentry index) h.1, hreachable site h.2⟩

end

def Checked.violatedAt (checked : Checked) : List Location :=
  (checked.diagnostics.filter (·.kind = .violation)).map (·.location)

def Candidate.withContract (c : Candidate) (contract : Text) : Candidate :=
  { c with subject := { c.subject with contract := some contract } }

theorem locations_of_violations (clause : Clause) (reachability : Reachability) (subject : Subject)
    (verdicts : List (Site × Nullness)) :
    (((clauseFindings clause subject.parameters).map (Finding.diagnostic subject) ++
        violationReports reachability subject clause verdicts).filter (·.kind = .violation)).map (·.location) =
      ((verdicts.filter fun (site, v) =>
        v.mayBeNull && reachability site clause.antecedent subject.parameters).map (·.1)).map fun site =>
          { subject.location with position := site.position } := by
  rw [filter_violations, violationReports, List.map_map]
  rfl

theorem violatedAt_of_verdicts {read : Reader} {c : Candidate} {clause : Clause} {deep : Bool}
    (hclause : c.clause? = some clause) (hdeep : clause.deepCheckable deep = true) {verdicts : List (Site × Nullness)}
    (h : (flowOracle read).verdicts c.function (assumptions clause.antecedent c.subject.parameters) = .ok verdicts) :
    ∃ checked, check (flowOracle read) deep c = .ok checked ∧ checked.violatedAt =
      ((verdicts.filter fun (site, v) =>
        v.mayBeNull && site.reachableUnder clause.antecedent c.subject.parameters).map (·.1)).map fun site =>
          { c.subject.location with position := site.position } := by
  obtain ⟨checked, hchecked, hreports⟩ := check_of_verdicts hclause hdeep h
  refine ⟨checked, hchecked, ?_⟩
  rw [Checked.violatedAt, hreports]
  exact locations_of_violations clause Site.reachableUnder c.subject verdicts

theorem verdicts_weaker {read : Reader} {fn : Function} {antecedent weaker : List Constraint} {parameters : List String}
    (hfinal : ∀ s ∈ nestedOfBlock fn.body, s.hasFinal = false) (hnodup : parameters.Nodup)
    (h : List.Forall₂ WeakerConstraint antecedent weaker) {verdicts : List (Site × Nullness)}
    (hverdicts : (flowOracle read).verdicts fn (assumptions antecedent parameters) = .ok verdicts) :
    ∃ verdicts', (flowOracle read).verdicts fn (assumptions weaker parameters) = .ok verdicts' ∧
      ((verdicts.filter fun (site, v) => v.mayBeNull && site.reachableUnder antecedent parameters).map (·.1)).Sublist
        ((verdicts'.filter fun (site, v) => v.mayBeNull && site.reachableUnder weaker parameters).map (·.1)) := by
  cases hentry : fn.entry read (assumptions antecedent parameters) with
  | ok entry =>
    obtain ⟨entry', hentry', hle⟩ := entry_weaker h hnodup hentry
    rw [verdicts_of_entry hentry] at hverdicts
    cases hverdicts
    have hreachable : ∀ site : Site, site.reachableUnder antecedent parameters = true →
        site.reachableUnder weaker parameters = true := fun site => reachableUnder_weaker h
    exact ⟨_, verdicts_of_entry hentry', judged_sublist hfinal hle hreachable⟩
  | error e =>
    rw [verdicts_of_entry_error hentry] at hverdicts
    refine ⟨verdicts, (verdicts_of_entry_error (entry_weaker_error hentry)).trans hverdicts, ?_⟩
    split at hverdicts
    · cases hverdicts
      exact List.Sublist.refl _
    · cases hverdicts

theorem violatedAt_weaker {read : Reader} {c : Candidate} (hdistinct : c.subject.parameters.Nodup)
    (hfinal : ∀ s ∈ nestedOfBlock c.function.body, s.hasFinal = false) {contract weaker : Text}
    {clause clause' : Clause} (hclause : (c.withContract contract).clause? = some clause)
    (hclause' : (c.withContract weaker).clause? = some clause') (hweaker : clause.Weaker clause') {deep : Bool}
    (hdeep : clause.deepCheckable deep = true) {checked : Checked}
    (hchecked : check (flowOracle read) deep (c.withContract contract) = .ok checked) :
    ∃ checked', check (flowOracle read) deep (c.withContract weaker) = .ok checked' ∧
      checked.violatedAt.Sublist checked'.violatedAt := by
  obtain ⟨_, _, _, _, hread⟩ := clause?_eq_some_iff.mp hclause
  obtain ⟨_, _, _, _, hread'⟩ := clause?_eq_some_iff.mp hclause'
  have hdiagnostics := diagnostics_of_deepCheckable hclause hdeep (flowOracle read) Site.reachableUnder
  rw [show checkBy (flowOracle read) Site.reachableUnder deep (c.withContract contract) = .ok checked from hchecked,
    eq_comm] at hdiagnostics
  obtain ⟨verdicts, hverdicts, -⟩ := map_eq_ok.mp hdiagnostics
  obtain ⟨verdicts', hverdicts', hsublist⟩ :=
    verdicts_weaker hfinal hdistinct (hweaker.antecedent hread hread') hverdicts
  obtain ⟨checked₁, hchecked₁, hviolated⟩ := violatedAt_of_verdicts hclause hdeep hverdicts
  obtain ⟨checked', hchecked', hviolated'⟩ :=
    violatedAt_of_verdicts hclause' (hweaker.deepCheckable hread hread' hdeep) hverdicts'
  obtain rfl : checked₁ = checked := Except.ok.inj (hchecked₁.symm.trans hchecked)
  refine ⟨checked', hchecked', ?_⟩
  rw [hviolated, hviolated']
  exact hsublist.map _

theorem weakening_keeps_violations (read : Reader) :
    (∀ (c : Candidate) (contract weaker : Text) (clause clause' : Clause) (deep : Bool) (checked : Checked),
      c.subject.parameters.Nodup → (∀ s ∈ nestedOfBlock c.function.body, s.hasFinal = false) →
      (c.withContract contract).clause? = some clause → (c.withContract weaker).clause? = some clause' →
      clause.Weaker clause' → clause.deepCheckable deep = true →
      check (flowOracle read) deep (c.withContract contract) = .ok checked →
      ∃ checked', check (flowOracle read) deep (c.withContract weaker) = .ok checked' ∧
        checked.violatedAt.Sublist checked'.violatedAt) ∧
    (∀ b : List Stmt, (∀ s ∈ nestedOfBlock b, s.hasFinal = false) →
      ∀ s t : State, s ≤ t → execBlock b s ≤ execBlock b t) ∧
    (∀ (e : Expr) (truth : Bool) (s t : State), s ≤ t → e.assume truth s ≤ e.assume truth t) ∧
    ∀ (e : Expr) (a b : Env), (some a : State) ≤ some b →
      (some (e.effects a) : State) ≤ some (e.effects b) ∧ e.evaluate a ≤ e.evaluate b := by
  refine ⟨?_, fun _ hfinal _ _ => execBlock_mono hfinal, fun e truth _ _ => e.assume_mono truth,
    fun e _ _ hab => ⟨e.effects_mono hab, e.evaluate_mono hab⟩⟩
  intro c contract weaker clause clause' deep checked hdistinct hfinal hclause hclause' hweaker hdeep hchecked
  exact violatedAt_weaker hdistinct hfinal hclause hclause' hweaker hdeep hchecked

def twoGaps : Candidate :=
  Function.under (.plain "two_gaps" ["x", "y"] [
    .forLoop false (.name "z") (.name "y")
      [.ifElse 3 (.compare (.name "x") [.is] [.literal .none]) [.ret ⟨4, 12⟩ none] [],
        .ifElse 5 (.name "z") [.break] []]
      [.ret ⟨8, 8⟩ (some (.literal .none))],
    .ret ⟨9, 4⟩ (some (.name "x"))]) "!null, !null -> !null"

theorem weakening_keeps_violations_twoGaps :
    ∃ checked checked',
      check (flowOracle readLiteral) true (twoGaps.withContract "!null, !null -> !null") = .ok checked ∧
      check (flowOracle readLiteral) true (twoGaps.withContract "_, !null -> !null") = .ok checked' ∧
      checked.violatedAt.Sublist checked'.violatedAt := by
  have hstrong : ((twoGaps.withContract "!null, !null -> !null").clause?.map fun clause =>
      (clause.binding, clause.deepCheckable true)) = some (⟨["!null", "!null"], "!null"⟩, true) := by decide +kernel
  have hweak : ((twoGaps.withContract "_, !null -> !null").clause?.map Clause.binding) =
      some ⟨["_", "!null"], "!null"⟩ := by decide +kernel
  have hok : (check (flowOracle readLiteral) true (twoGaps.withContract "!null, !null -> !null")).isOk = true := by
    decide +kernel
  obtain ⟨clause, hclause, hdivided⟩ := Option.map_eq_some_iff.mp hstrong
  obtain ⟨clause', hclause', hbinding'⟩ := Option.map_eq_some_iff.mp hweak
  obtain ⟨hbinding, hdeep⟩ := Prod.mk.inj hdivided
  have hweaker : clause.Weaker clause' := by
    constructor
    · rw [hbinding, hbinding']
      exact .cons (.inr ⟨rfl, rfl⟩) (.cons (.inl rfl) .nil)
    · rw [hbinding, hbinding']
  cases hchecked : check (flowOracle readLiteral) true (twoGaps.withContract "!null, !null -> !null") with
  | error e =>
    rw [hchecked] at hok
    cases hok
  | ok checked =>
    obtain ⟨checked', hchecked', hsublist⟩ := (weakening_keeps_violations readLiteral).1 twoGaps _ _ clause clause' true
      checked (by decide) (by decide) hclause hclause' hweaker hdeep hchecked
    exact ⟨checked, checked', rfl, hchecked', hsublist⟩

end NullContract
