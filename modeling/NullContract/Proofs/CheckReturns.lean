import NullContract.Proofs.DeepChecking
import NullContract.Proofs.HintReading
import NullContract.Proofs.LoopHead
import NullContract.Proofs.MonotoneMeaning
import NullContract.Proofs.Visits

namespace NullContract

def Unreadable (text : Text) : Prop :=
  .char '\x00' ∈ text ∨ ∃ index, .surrogate index ∈ text

namespace Source

theorem chars?_eq_none {text : Text} : text.chars? = none ↔ ∃ index, .surrogate index ∈ text := by
  constructor
  · intro h
    by_contra hnone
    have hchars : text ∈ Set.range (List.map CodePoint.char) := by
      rw [Set.range_list_map]
      intro point hpoint
      cases point with
      | char c => exact ⟨c, rfl⟩
      | surrogate index => exact absurd ⟨index, hpoint⟩ hnone
    obtain ⟨cs, rfl⟩ := hchars
    have hsome : Text.chars? (.ofChars cs) = some cs := chars?_eq_some.mpr rfl
    exact absurd (hsome.symm.trans h) (by simp)
  · rintro ⟨index, hindex⟩
    by_contra hsome
    obtain ⟨cs, hcs⟩ := Option.ne_none_iff_exists'.mp hsome
    rw [chars?_eq_some.mp hcs] at hindex
    obtain ⟨c, -, hc⟩ := List.mem_map.mp hindex
    cases hc

theorem readBy_eq_error {α : Type} {rule : Rules → Parse α} {firstLine : Nat} {source cs : List Char} :
    (∃ e, readBy rule firstLine source cs = .error e ∧ e ≠ .malformed) ↔ '\x00' ∈ source := by
  unfold readBy
  by_cases hnul : '\x00' ∈ source
  · simp [hnul]
  · simp only [List.contains_eq_mem, hnul, decide_false, Bool.false_eq_true, if_false, iff_false]
    rintro ⟨e, herror, he⟩
    split at herror
    · cases herror
    · cases herror
      exact he rfl

theorem readExpression_eq_error {text : Text} :
    (∃ e, readExpression text = .error e ∧ e ≠ .malformed) ↔ Unreadable text := by
  unfold readExpression
  cases hcs : text.chars? with
  | none => exact ⟨fun _ => .inr (chars?_eq_none.mp hcs), fun _ => ⟨.surrogate, rfl, by decide⟩⟩
  | some cs =>
    have hsurrogate : ¬ ∃ index, .surrogate index ∈ text := by
      rw [← chars?_eq_none, hcs]
      simp
    refine readBy_eq_error.trans ?_
    rw [Unreadable, or_iff_left hsurrogate, chars?_eq_some.mp hcs]
    simp [Text.ofChars]

end Source

def Signature.judgedHints (sig : Signature) : List Expr :=
  (sig.positionalDefaults ++ sig.keywordOnlyDefaults).filterMap (·.1.hint)

def Function.HintsReadable (fn : Function) : Prop :=
  ∀ hint ∈ fn.header.signature.judgedHints, ∀ text, hint.Consults Source.readExpression text → ¬ Unreadable text

theorem exists_forall₂_iff {α β : Type} {R : α → β → Prop} {xs : List α} :
    (∃ ys, List.Forall₂ R xs ys) ↔ ∀ x ∈ xs, ∃ y, R x y := by
  constructor
  · rintro ⟨ys, h⟩ x hx
    obtain ⟨y, -, hy⟩ := exists_of_mem_right h.flip x hx
    exact ⟨y, hy⟩
  · intro h
    induction xs with
    | nil => exact ⟨[], .nil⟩
    | cons x xs ih =>
      obtain ⟨⟨y, hy⟩, hrest⟩ := List.forall_mem_cons.mp h
      obtain ⟨ys, hys⟩ := ih hrest
      exact ⟨y :: ys, .cons hy hys⟩

section

variable {read : Reader}

theorem exists_declaredNullness {param : Parameter} (default : Option Expr) :
    (∃ v, declaredNullness read param default = .ok v) ↔
      ∀ hint ∈ param.hint, ∃ admits, hint.admitsNone read = .ok admits := by
  unfold declaredNullness
  cases param.hint with
  | none => simp [bind, Except.bind, pure, Except.pure]
  | some hint => cases h : hint.admitsNone read <;> simp [bind, Except.bind, pure, Except.pure, h]

theorem exists_declare {params : List (Parameter × Option Expr)} :
    (∃ declared, params.mapM (fun p => do return (p.1.name, ← declaredNullness read p.1 p.2)) = .ok declared) ↔
      ∀ hint ∈ params.filterMap (·.1.hint), ∃ admits, hint.admitsNone read = .ok admits := by
  have heach : ∀ p : Parameter × Option Expr,
      (∃ declared, (do return (p.1.name, ← declaredNullness read p.1 p.2) : Except SourceError _) = .ok declared) ↔
        ∀ hint ∈ p.1.hint, ∃ admits, hint.admitsNone read = .ok admits := by
    intro p
    rw [← exists_declaredNullness p.2]
    cases declaredNullness read p.1 p.2 <;> simp [bind, Except.bind, pure, Except.pure]
  simp only [mapM_eq_ok_iff, exists_forall₂_iff, heach, List.mem_filterMap]
  constructor
  · rintro h hint ⟨p, hp, hhint⟩
    exact h p hp hint hhint
  · exact fun h p hp hint hhint => h hint ⟨p, hp, hhint⟩

theorem exists_declared {sig : Signature} :
    (∃ declared, sig.declared read = .ok declared) ↔
      ∀ hint ∈ sig.judgedHints, ∃ admits, hint.admitsNone read = .ok admits := by
  rw [Signature.judgedHints, List.filterMap_append, List.forall_mem_append, ← exists_declare, ← exists_declare]
  unfold Signature.declared
  constructor
  · rintro ⟨declared, h⟩
    obtain ⟨positional, hpositional, h⟩ := bind_eq_ok.mp h
    obtain ⟨keywordOnly, hkeywordOnly, -⟩ := bind_eq_ok.mp h
    exact ⟨⟨positional, hpositional⟩, ⟨keywordOnly, hkeywordOnly⟩⟩
  · rintro ⟨⟨positional, hpositional⟩, ⟨keywordOnly, hkeywordOnly⟩⟩
    exact ⟨_, bind_eq_ok.mpr ⟨positional, hpositional, bind_eq_ok.mpr ⟨keywordOnly, hkeywordOnly, rfl⟩⟩⟩

theorem exists_entry {fn : Function} {assumed : Env} :
    (∃ entry, fn.entry read assumed = .ok entry) ↔
      ∀ hint ∈ fn.header.signature.judgedHints, ∃ admits, hint.admitsNone read = .ok admits := by
  rw [← exists_declared]
  simp [entry_eq_ok]

end

theorem exists_admitsNone {hint : Expr} :
    (∃ admits, hint.admitsNone Source.readExpression = .ok admits) ↔
      ∀ text, hint.Consults Source.readExpression text → ¬ Unreadable text := by
  constructor
  · rintro ⟨admits, h⟩ text hconsults hunreadable
    obtain ⟨e, hread, he⟩ := Source.readExpression_eq_error.mpr hunreadable
    have herror := (admitsNone_eq_error Source.readExpression_shrinks).mpr ⟨text, hconsults, hread, he⟩
    cases h.symm.trans herror
  · intro hreadable
    cases h : hint.admitsNone Source.readExpression with
    | ok admits => exact ⟨admits, rfl⟩
    | error e =>
      obtain ⟨text, hconsults, herror⟩ := (admitsNone_eq_error Source.readExpression_shrinks).mp h
      exact absurd (Source.readExpression_eq_error.mp ⟨e, herror⟩) (hreadable text hconsults)

theorem exists_verdicts {fn : Function} {assumed : Env} :
    (∃ verdicts, standardOracle.verdicts fn assumed = .ok verdicts) ↔ (fn.sites ≠ [] → fn.HintsReadable) := by
  have hentry : (∃ entry, fn.entry Source.readExpression assumed = .ok entry) ↔ fn.HintsReadable := by
    rw [exists_entry]
    exact forall₂_congr fun hint _ => exists_admitsNone
  rw [← hentry, standardOracle]
  cases h : fn.entry Source.readExpression assumed with
  | ok entry => simp [verdicts_of_entry h]
  | error e =>
    rw [verdicts_of_entry_error h]
    by_cases hsites : fn.sites = [] <;> simp [hsites]

def Candidate.IsJudged (deep : Bool) (c : Candidate) : Prop :=
  deep = true ∧ (∃ contract, c.subject.contract = some contract ∧ SpeaksOfNullness contract) ∧ c.function.sites ≠ []

theorem exists_check {deep : Bool} {c : Candidate} :
    (∃ checked, check standardOracle deep c = .ok checked) ↔ (c.IsJudged deep → c.function.HintsReadable) := by
  by_cases h : ∃ clause, c.clause? = some clause ∧ clause.deepCheckable deep = true
  · obtain ⟨clause, hclause, hdeep⟩ := h
    have hon : deep = true ∧ clause.checkable = true := by simpa [Clause.deepCheckable] using hdeep
    have hspeaks := exists_checkable_clause_iff.mp ⟨clause, hclause, hon.2⟩
    have hverdicts : (∃ checked, check standardOracle deep c = .ok checked) ↔ ∃ verdicts,
        standardOracle.verdicts c.function (assumptions clause.antecedent c.subject.parameters) = .ok verdicts := by
      have hstate := state_of_deepCheckable hclause hdeep standardOracle Site.reachableUnder
      constructor
      · rintro ⟨checked, hchecked⟩
        rw [← check, hchecked] at hstate
        obtain ⟨verdicts, hverdicts, -⟩ := map_eq_ok.mp hstate.symm
        exact ⟨verdicts, hverdicts⟩
      · rintro ⟨verdicts, hverdicts⟩
        rw [hverdicts] at hstate
        obtain ⟨checked, hchecked, -⟩ := map_eq_ok.mp hstate
        exact ⟨checked, hchecked⟩
    rw [hverdicts, exists_verdicts]
    exact ⟨fun hread hjudged => hread hjudged.2.2, fun hread hsites => hread ⟨hon.1, hspeaks, hsites⟩⟩
  · obtain ⟨checked, hchecked, -⟩ := (deepCheckable_or_textual deep c).resolve_left h
    refine ⟨fun _ hjudged => absurd ?_ h, fun _ => ⟨checked, hchecked _ _⟩⟩
    obtain ⟨clause, hclause, hcheckable⟩ := exists_checkable_clause_iff.mpr hjudged.2.1
    exact ⟨clause, hclause, by simp [Clause.deepCheckable, hjudged.1, hcheckable]⟩

theorem exists_checkSource {settings : Settings} {filename source : String} {candidates : List Candidate}
    (hdiscover : discover settings.names filename source = .ok candidates) :
    (∃ summary, checkSource settings filename source = .ok summary ∧ summary.results.map (·.candidate) = candidates) ↔
      ∀ c ∈ candidates, c.IsJudged settings.checkContracts → c.function.HintsReadable := by
  have hresults : (∃ results, List.Forall₂ (ResultOf standardOracle settings.checkContracts) candidates results) ↔
      ∀ c ∈ candidates, c.IsJudged settings.checkContracts → c.function.HintsReadable := by
    rw [exists_forall₂_iff]
    refine forall₂_congr fun c _ => Iff.trans ⟨?_, ?_⟩ exists_check
    · rintro ⟨result, -, hcheck⟩
      exact ⟨result.checked, hcheck⟩
    · rintro ⟨checked, hcheck⟩
      exact ⟨⟨c, checked⟩, rfl, hcheck⟩
  rw [← hresults]
  constructor
  · rintro ⟨summary, hsummary, -⟩
    obtain ⟨-, candidates', hdiscover', hall⟩ := checkSource_eq_ok.mp hsummary
    cases hdiscover.symm.trans hdiscover'
    exact ⟨summary.results, hall⟩
  · rintro ⟨results, hall⟩
    exact ⟨⟨filename, results⟩, checkSource_eq_ok.mpr ⟨rfl, candidates, hdiscover, hall⟩, map_candidate_of_results hall⟩

theorem visits_none {b b' : List Stmt} {t : State} (h : Visits b none b' t) : t = none := by
  obtain ⟨ht, -⟩ := Invariant.all_visits (I := Invariant.unreachable fun _ => True) h
    (fun s _ => Invariant.unreachable_fitsStmt s) State.all_none
  exact State.all_false.mp ht

theorem handlerEntry_ne_none (env : Env) (body : Outcome) : handlerEntry (some env) body ≠ none := by
  rw [handlerEntry, ne_eq, State.join_eq_none]
  simp

theorem check_returns_iff_hints_readable (settings : Settings) {filename source : String} {module : List Stmt}
    (hname : '\x00' ∉ filename.toList) (hmodule : Source.readModule source = .ok module) :
    (∃ candidates, discover settings.names filename source = .ok candidates ∧
      ((∃ summary, checkSource settings filename source = .ok summary ∧ summary.results.map (·.candidate) = candidates) ↔
        ∀ c ∈ candidates, c.IsJudged settings.checkContracts → c.function.HintsReadable)) ∧
    (∀ (deep : Bool) (c : Candidate),
      (∃ checked, check standardOracle deep c = .ok checked) ↔ (c.IsJudged deep → c.function.HintsReadable)) ∧
    (∀ text : Text, (∀ hint, Source.readExpression text ≠ .ok hint) → ¬ Unreadable text →
      (Expr.literal (.text text)).admitsNone Source.readExpression = .ok false) ∧
    (∀ (env : Env) (body : Outcome), handlerEntry (some env) body ≠ none) ∧
    (∀ (test : Expr) (env : Env), ∃ truth, test.assume truth (some env) ≠ none) ∧
    (∀ (stop : Bool) (operands : List Expr) (env : Env), operands ≠ [] →
      Meaning.chain stop (Expr.meanings operands) (some env) ≠ []) ∧
    ∀ (b b' : List Stmt) (t : State), Visits b none b' t → t = none := by
  refine ⟨?_, fun _ _ => exists_check, fun text hno hreadable => ?_, handlerEntry_ne_none, fun test env => test.live_meaning env,
    fun stop operands env hne => ?_, fun _ _ _ => visits_none⟩
  · obtain ⟨candidates, hdiscover⟩ : ∃ candidates, discover settings.names filename source = .ok candidates :=
      ⟨_, discover_eq_ok.mpr ⟨hname, module, hmodule, rfl⟩⟩
    exact ⟨candidates, hdiscover, exists_checkSource hdiscover⟩
  · rw [admitsNone_text Source.readExpression_shrinks]
    cases hread : Source.readExpression text with
    | ok hint => exact absurd hread (hno hint)
    | error e =>
      cases e with
      | malformed => rfl
      | _ => exact absurd (Source.readExpression_eq_error.mp ⟨_, hread, by decide⟩) hreadable
  · refine Meaning.chain_ne_nil (Expr.forall_mem_meanings.mpr fun e _ => e.live_meaning) ?_ stop env
    cases operands with
    | nil => exact absurd rfl hne
    | cons e rest => simp [Expr.meanings]

/-- A quoted NUL character that is not come to, behind a `None`, and a text that is no expression. -/
def hiddenNul : String :=
  "@contract('_ -> !null')\ndef f(x: 'None | \"\\\\x00\"', y: ')' = None):\n return x\n"

theorem check_returns_iff_hints_readable_hiddenNul :
    ∃ module summary, Source.readModule hiddenNul = .ok module ∧ checkSource ⟨true, ∅⟩ "m.py" hiddenNul = .ok summary ∧
      summary.results.map (·.checked.state) = [.done] ∧
      ∀ c ∈ summary.results.map (·.candidate), c.IsJudged true → c.function.HintsReadable := by
  have hlength : (Source.readModule hiddenNul).map List.length = .ok 1 := by decide +kernel
  have hstates : (checkSource ⟨true, ∅⟩ "m.py" hiddenNul).map (fun summary => summary.results.map (·.checked.state)) =
      .ok [.done] := by
    decide +kernel
  obtain ⟨module, hmodule, -⟩ := map_eq_ok.mp hlength
  obtain ⟨summary, hsummary, hstates⟩ := map_eq_ok.mp hstates
  obtain ⟨-, found, hfound, hresults⟩ := checkSource_eq_ok.mp hsummary
  have hname : '\x00' ∉ "m.py".toList := by decide
  obtain ⟨⟨candidates, hcandidates, hiff⟩, -⟩ := check_returns_iff_hints_readable ⟨true, ∅⟩ hname hmodule
  cases hfound.symm.trans hcandidates
  have hmap := map_candidate_of_results hresults
  refine ⟨module, summary, hmodule, hsummary, hstates, ?_⟩
  rw [hmap]
  exact hiff.mp ⟨summary, hsummary, hmap⟩

def quotedNul : String :=
  "@contract('_ -> !null')\ndef f(x: '\\x00'):\n    return x\n"

theorem not_check_returns_quotedNul :
    (∃ module, Source.readModule quotedNul = .ok module) ∧
      (∃ candidates, discover defaultNames "<string>" quotedNul = .ok candidates ∧ candidates.length = 1) ∧
      checkSource ⟨true, ∅⟩ "<string>" quotedNul = .error .nulCharacter := by
  have hmodule : (Source.readModule quotedNul).map List.length = .ok 1 := by decide +kernel
  have hfound : (discover defaultNames "<string>" quotedNul).map List.length = .ok 1 := by decide +kernel
  have hcheck : (checkSource ⟨true, ∅⟩ "<string>" quotedNul).map (·.filename) = .error .nulCharacter := by decide +kernel
  obtain ⟨module, hmodule, -⟩ := map_eq_ok.mp hmodule
  refine ⟨⟨module, hmodule⟩, map_eq_ok.mp hfound, ?_⟩
  cases h : checkSource ⟨true, ∅⟩ "<string>" quotedNul with
  | ok summary => simp [h, Except.map] at hcheck
  | error e => simpa [h, Except.map] using hcheck

end NullContract
