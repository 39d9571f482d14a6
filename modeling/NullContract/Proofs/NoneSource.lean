import NullContract.Proofs.Entry
import NullContract.Proofs.Verdicts
import NullContract.Proofs.Visits

namespace NullContract

def Env.Clear (env : Env) : Prop :=
  ∀ (x : String) (v : Nullness), env[x]? = some v → v = .nonNull ∨ v = .unknown

theorem Nullness.mayBeNull_eq_false {v : Nullness} : v.mayBeNull = false ↔ v = .nonNull ∨ v = .unknown := by
  cases v <;> decide

namespace Env.Clear

variable {env : Env}

theorem verdict (h : env.Clear) (x : String) : (env.verdict x).mayBeNull = false := by
  unfold Env.verdict
  cases hx : env[x]? with
  | none => rfl
  | some v => exact Nullness.mayBeNull_eq_false.mpr (h x v hx)

theorem insert (h : env.Clear) (x : String) {v : Nullness} (hv : v.mayBeNull = false) : Env.Clear (env.insert x v) := by
  intro y w hw
  rw [Env.getElem?_insert] at hw
  split at hw
  · cases hw
    exact Nullness.mayBeNull_eq_false.mp hv
  · exact h y w hw

theorem erase (h : env.Clear) (x : String) : Env.Clear (env.erase x) := by
  intro y w hw
  rw [Env.getElem?_erase] at hw
  split at hw
  · cases hw
  · exact h y w hw

theorem join {a b : Env} (ha : a.Clear) (hb : b.Clear) : (a.join b).Clear := by
  intro x v hv
  have hx := Env.verdict_join a b x
  rw [Env.verdict, hv, Option.getD_some] at hx
  have hav := ha.verdict x
  have hbv := hb.verdict x
  rw [hx]
  revert hav hbv
  cases a.verdict x <;> cases b.verdict x <;> decide

end Env.Clear

def Invariant.clear : Invariant where
  holds := Env.Clear
  binds := fun _ => True
  reads := fun _ => True
  yields := fun v => v.mayBeNull = false
  yields_nonNull := rfl
  yields_unknown := rfl
  yields_join := by
    intro a b
    cases a <;> cases b <;> decide
  verdict := Env.Clear.verdict
  join := Env.Clear.join
  insert := fun henv _ hv => henv.insert _ hv
  erase := fun henv _ => henv.erase _
  refine_nonNull := by
    intro env env' x henv _ h
    obtain ⟨-, -, rfl⟩ := Env.refine_eq_some.mp h
    exact henv.insert x rfl
  refine_null := fun _ _ hnull _ => nomatch hnull

namespace Stmt

def returnsNothing : Stmt → Bool
  | ret _ none => true
  | _ => false

def NoneFree (s : Stmt) : Prop :=
  (∀ e ∈ s.judges, ∀ t ∈ e.subterms, t.isNone = false) ∧ s.triesNone = false ∧ s.returnsNothing = false

instance (s : Stmt) : Decidable s.NoneFree :=
  inferInstanceAs (Decidable (_ ∧ _))

theorem NoneFree.fitsExpr {e : Expr} (h : ∀ t ∈ e.subterms, t.isNone = false) : Invariant.clear.FitsExpr e := by
  intro t ht
  have hnone := h t ht
  unfold Invariant.FitsNode
  split
  · cases hnone
  · trivial
  · exact ⟨trivial, trivial⟩
  · trivial

theorem NoneFree.fitsSubterm {s : Stmt} (h : s.NoneFree) {e t : Expr} (he : e ∈ s.judges) (ht : t ∈ e.subterms) :
    Invariant.clear.FitsExpr t :=
  fitsExpr fun u hu => h.1 e he u (Expr.subterms_trans ht hu)

theorem NoneFree.fitsStmt {s : Stmt} (h : s.NoneFree) : Invariant.clear.FitsStmt s where
  targets := fun _ _ => trivial
  judges := fun e he => fitsExpr (h.1 e he)
  triesNone := fun hnone => absurd (hnone.symm.trans h.2.1) (by decide)

end Stmt

section

variable {fn : Function} {entry : Env}

theorem verdict_clear (h : ∀ s ∈ nestedOfBlock fn.body, s.NoneFree) {site : Site} (hsite : site ∈ fn.sites)
    {state : State} (hs : state.All Env.Clear) : (site.verdict state).mayBeNull = false := by
  have hb := forall_mem_nestedOfBlock.mp h
  have hsites : ∀ site ∈ fn.sites, (Stmt.ret site.position site.value).NoneFree :=
    forall_mem_sitesOfBlock fun s hs => forall_mem_sites (hb s hs) []
  obtain ⟨hjudges, -, hvalue⟩ := hsites site hsite
  cases state with
  | none => rfl
  | some env =>
    unfold Site.verdict
    cases hv : site.value with
    | none =>
      rw [hv] at hvalue
      cases hvalue
    | some value =>
      have hfits := Stmt.NoneFree.fitsExpr (hjudges value (by simp [Stmt.judges, hv]))
      exact Invariant.yields_evaluate hfits (State.all_some.mp hs)

theorem returnStates_clear (h : ∀ s ∈ nestedOfBlock fn.body, s.NoneFree) (hentry : entry.Clear) {index : Nat}
    {state : State} (hstate : (fn.returnStates entry)[index]? = some state) : state.All Env.Clear := by
  have hout := Invariant.all_execBlock_of_fits (fun s hs => (h s hs).fitsStmt) (State.all_some.mpr hentry)
  exact hout.returned state (List.mem_of_getElem? hstate)

theorem violationReports_clear (h : ∀ s ∈ nestedOfBlock fn.body, s.NoneFree) (hentry : entry.Clear)
    (reachability : Reachability) (subject : Subject) (clause : Clause) :
    violationReports reachability subject clause (fn.judged entry) = [] := by
  simp only [violationReports, List.map_eq_nil_iff, List.filter_eq_nil_iff]
  rintro ⟨site, v⟩ hmem
  obtain ⟨index, state, hsite, hstate, rfl⟩ := mem_judged hmem
  simp [verdict_clear h (List.mem_of_getElem? hsite) (returnStates_clear h hentry hstate)]

end

theorem no_violation_without_none (read : Reader) :
    (∀ (fn : Function) (assumed entry : Env), (∀ s ∈ nestedOfBlock fn.body, s.NoneFree) →
      fn.entry read assumed = .ok entry → entry.Clear →
      (∀ (b : List Stmt) (state : State), Visits fn.body (some entry) b state →
        state.All Env.Clear ∧ (execBlock b state).All Env.Clear) ∧
      (∀ s ∈ nestedOfBlock fn.body, ∀ e ∈ s.judges, ∀ t ∈ e.subterms, ∀ env : Env, env.Clear →
        (∀ truth, (t.assume truth (some env)).All Env.Clear) ∧ (t.effects env).Clear ∧
        (t.evaluate env = .nonNull ∨ t.evaluate env = .unknown)) ∧
      ∀ (index : Nat) (site : Site), fn.sites[index]? = some site →
        ∃ v, flowOracle read fn assumed index site = .ok v ∧ (v = .nonNull ∨ v = .unknown)) ∧
    ∀ (deep : Bool) (c : Candidate), (∀ s ∈ nestedOfBlock c.function.body, s.NoneFree) →
      (∀ clause, c.clause? = some clause → ∃ entry,
        c.function.entry read (assumptions clause.antecedent c.subject.parameters) = .ok entry ∧ entry.Clear) →
      ∃ checked, check (flowOracle read) deep c = .ok checked ∧ ∀ d ∈ checked.diagnostics, d.kind ≠ .violation := by
  constructor
  · intro fn assumed entry hbody hentry hclear
    refine ⟨fun b state hvisit => ?_, fun s hs e he t ht env henv => ?_, fun index site hsite => ?_⟩
    · exact Invariant.all_visits hvisit (fun s hs => (hbody s hs).fitsStmt) (State.all_some.mpr hclear)
    · have hfits := (hbody s hs).fitsSubterm he ht
      exact ⟨fun truth => Invariant.all_assume hfits truth (State.all_some.mpr henv), Invariant.holds_effects hfits henv,
        Nullness.mayBeNull_eq_false.mp (Invariant.yields_evaluate hfits henv)⟩
    · refine ⟨_, flowOracle_of_entry hentry index site, Nullness.mayBeNull_eq_false.mp ?_⟩
      refine verdict_clear hbody (List.mem_of_getElem? hsite) ?_
      cases hstate : (fn.returnStates entry)[index]? with
      | none => exact State.all_none
      | some state => exact returnStates_clear hbody hclear hstate
  · intro deep c hbody hclear
    rcases deepCheckable_or_textual deep c with ⟨clause, hclause, hdeep⟩ | ⟨checked, hchecked, hkind⟩
    · obtain ⟨entry, hentry, hentryClear⟩ := hclear clause hclause
      obtain ⟨checked, hchecked, hreports⟩ := check_of_verdicts hclause hdeep (verdicts_of_entry hentry)
      refine ⟨checked, hchecked, fun d hd => ?_⟩
      rw [hreports, violationReports_clear hbody hentryClear, List.append_nil] at hd
      simp [kind_clauseFindings clause _ _ d hd]
    · exact ⟨checked, hchecked _ _, fun d hd => by simp [hkind d hd]⟩

def firstOfUse : Function :=
  .plain "first_of_use" ["x", "xs"] [
    .whileLoop (.walrus "y" (.call (.name "next") [.name "xs"] []))
      [.tryBlock
        [.matchCases (.name "y") [
          .mk (.singleton (some true)) none [.continue],
          .mk (.capture (some "z")) (some (.name "z")) [.ret ⟨6, 40⟩ (some (.name "z"))]]]
        [.mk false none (some "fault") [.ret ⟨8, 12⟩ (some (.name "fault"))]]
        []
        [.assign [.name "x"] (.name "y")]]
      [],
    .ret ⟨11, 4⟩ (some (.name "x"))]

theorem no_violation_without_none_firstOfUse :
    (execBlock firstOfUse.body (some (((∅ : Env).insert "x" .nonNull).insert "xs" .unknown))).All Env.Clear ∧
    (∃ v, flowOracle readLiteral firstOfUse ((∅ : Env).insert "x" .nonNull) 2 ⟨⟨11, 4⟩, some (.name "x"), []⟩ = .ok v ∧
      (v = .nonNull ∨ v = .unknown)) ∧
    ∃ checked, check (flowOracle readLiteral) true (firstOfUse.under "!null, _ -> !null") = .ok checked ∧
      ∀ d ∈ checked.diagnostics, d.kind ≠ .violation := by
  obtain ⟨hanalysis, hcheck⟩ := no_violation_without_none readLiteral
  have hbody : ∀ s ∈ nestedOfBlock firstOfUse.body, s.NoneFree := by decide
  have hentry : firstOfUse.entry readLiteral ((∅ : Env).insert "x" .nonNull) =
      .ok (((∅ : Env).insert "x" .nonNull).insert "xs" .unknown) := rfl
  have hempty : Env.Clear ∅ := fun x v hv => by simp at hv
  have hclear : Env.Clear (((∅ : Env).insert "x" .nonNull).insert "xs" .unknown) :=
    (hempty.insert "x" rfl).insert "xs" rfl
  have hassumed : (firstOfUse.under "!null, _ -> !null").clause?.map Clause.antecedent = some [.nonNull, .any] := by
    decide +kernel
  obtain ⟨hvisits, -, hsites⟩ := hanalysis firstOfUse _ _ hbody hentry hclear
  refine ⟨(hvisits _ _ .refl).2, hsites 2 _ rfl, hcheck true (firstOfUse.under "!null, _ -> !null") hbody ?_⟩
  intro clause hclause
  rw [hclause] at hassumed
  rw [Option.some.inj hassumed]
  exact ⟨_, hentry, hclear⟩

end NullContract
