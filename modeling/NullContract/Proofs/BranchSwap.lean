import NullContract.Proofs.Entry
import NullContract.Proofs.Names
import NullContract.Proofs.Rearrangement
import NullContract.Proofs.Verdicts

namespace NullContract

mutual
/-- The second statement is the first with some of the conditionals in it turned around: `if T: A else: B` became
`if not T: B else: A`. -/
inductive Swapped : Stmt → Stmt → Prop where
  | same (s : Stmt) : Swapped s s
  | swap {line line' : Nat} {test : Expr} {body body' orelse orelse' : List Stmt}
      (hbody : List.Forall₂ Swapped body body') (horelse : List.Forall₂ Swapped orelse orelse') :
      Swapped (.ifElse line test body orelse) (.ifElse line' (.not test) orelse' body')
  | ifElse {line : Nat} {test : Expr} {body body' orelse orelse' : List Stmt}
      (hbody : List.Forall₂ Swapped body body') (horelse : List.Forall₂ Swapped orelse orelse') :
      Swapped (.ifElse line test body orelse) (.ifElse line test body' orelse')
  | function {header : Header} {body body' : List Stmt} (hbody : List.Forall₂ Swapped body body') :
      Swapped (.function header body) (.function header body')
  | classDef {header : ClassHeader} {body body' : List Stmt} (hbody : List.Forall₂ Swapped body body') :
      Swapped (.classDef header body) (.classDef header body')
  | forLoop {isAsync : Bool} {target iter : Expr} {body body' orelse orelse' : List Stmt}
      (hbody : List.Forall₂ Swapped body body') (horelse : List.Forall₂ Swapped orelse orelse') :
      Swapped (.forLoop isAsync target iter body orelse) (.forLoop isAsync target iter body' orelse')
  | whileLoop {test : Expr} {body body' orelse orelse' : List Stmt}
      (hbody : List.Forall₂ Swapped body body') (horelse : List.Forall₂ Swapped orelse orelse') :
      Swapped (.whileLoop test body orelse) (.whileLoop test body' orelse')
  | withBlock {isAsync : Bool} {items : List WithItem} {body body' : List Stmt}
      (hbody : List.Forall₂ Swapped body body') :
      Swapped (.withBlock isAsync items body) (.withBlock isAsync items body')
  | matchCases {subject : Expr} {cases cases' : List Case} (hcases : List.Forall₂ SwappedCase cases cases') :
      Swapped (.matchCases subject cases) (.matchCases subject cases')
  | tryBlock {body body' : List Stmt} {handlers handlers' : List Handler} {orelse orelse' final final' : List Stmt}
      (hbody : List.Forall₂ Swapped body body') (hhandlers : List.Forall₂ SwappedHandler handlers handlers')
      (horelse : List.Forall₂ Swapped orelse orelse') (hfinal : List.Forall₂ Swapped final final') :
      Swapped (.tryBlock body handlers orelse final) (.tryBlock body' handlers' orelse' final')

inductive SwappedHandler : Handler → Handler → Prop where
  | mk {forGroups : Bool} {kind : Option Expr} {name : Option String} {body body' : List Stmt}
      (hbody : List.Forall₂ Swapped body body') :
      SwappedHandler (.mk forGroups kind name body) (.mk forGroups kind name body')

inductive SwappedCase : Case → Case → Prop where
  | mk {pattern : Pattern} {guard : Option Expr} {body body' : List Stmt} (hbody : List.Forall₂ Swapped body body') :
      SwappedCase (.mk pattern guard body) (.mk pattern guard body')
end

section

variable {b b' : List Stmt} {hs hs' : List Handler} {cs cs' : List Case}

theorem names_not (e : Expr) : (Expr.not e).names = e.names := rfl

theorem length_names_block (h : ∀ s ∈ b, ∀ t, Swapped s t → t.names.length = s.names.length)
    (hb : List.Forall₂ Swapped b b') : (namesOfBlock b').length = (namesOfBlock b).length := by
  induction hb with
  | nil => rfl
  | cons hs _ ih =>
    rw [List.forall_mem_cons] at h
    simp only [namesOfBlock, List.length_append, h.1 _ hs, ih h.2]

theorem length_names_handlers (h : ∀ c ∈ hs, ∀ s ∈ c.body, ∀ t, Swapped s t → t.names.length = s.names.length)
    (hh : List.Forall₂ SwappedHandler hs hs') : (namesOfHandlers hs').length = (namesOfHandlers hs).length := by
  induction hh with
  | nil => rfl
  | cons hc _ ih =>
    obtain ⟨hbody⟩ := hc
    rw [List.forall_mem_cons, Handler.body_mk] at h
    simp only [namesOfHandlers, List.length_append, length_names_block h.1 hbody, ih h.2]

theorem length_names_cases (h : ∀ c ∈ cs, ∀ s ∈ c.body, ∀ t, Swapped s t → t.names.length = s.names.length)
    (hc : List.Forall₂ SwappedCase cs cs') : (namesOfCases cs').length = (namesOfCases cs).length := by
  induction hc with
  | nil => rfl
  | cons hc _ ih =>
    obtain ⟨hbody⟩ := hc
    rw [List.forall_mem_cons, Case.body_mk] at h
    simp only [namesOfCases, List.length_append, length_names_block h.1 hbody, ih h.2]

end

/-- The names of a statement change places only, so that its loops get the same number of rounds. -/
theorem Swapped.length_names {s t : Stmt} (h : Swapped s t) : t.names.length = s.names.length := by
  induction s generalizing t with
  | ifElse line test body orelse ihb iho =>
    cases h with
    | same => rfl
    | swap hbody horelse =>
      simp only [Stmt.names, names_not, List.length_append, length_names_block ihb hbody,
        length_names_block iho horelse]
      omega
    | ifElse hbody horelse =>
      simp only [Stmt.names, List.length_append, length_names_block ihb hbody, length_names_block iho horelse]
  | forLoop isAsync target iter body orelse ihb iho =>
    cases h with
    | same => rfl
    | forLoop hbody horelse =>
      simp only [Stmt.names, List.length_append, length_names_block ihb hbody, length_names_block iho horelse]
  | whileLoop test body orelse ihb iho =>
    cases h with
    | same => rfl
    | whileLoop hbody horelse =>
      simp only [Stmt.names, List.length_append, length_names_block ihb hbody, length_names_block iho horelse]
  | withBlock isAsync items body ih =>
    cases h with
    | same => rfl
    | withBlock hbody => simp only [Stmt.names, List.length_append, length_names_block ih hbody]
  | matchCases subject cases ih =>
    cases h with
    | same => rfl
    | matchCases hcases => simp only [Stmt.names, List.length_append, length_names_cases ih hcases]
  | tryBlock body handlers orelse final ihb ihh iho ihf =>
    cases h with
    | same => rfl
    | tryBlock hbody hhandlers horelse hfinal =>
      simp only [Stmt.names, List.length_append, length_names_block ihb hbody, length_names_handlers ihh hhandlers,
        length_names_block iho horelse, length_names_block ihf hfinal]
  | _ => cases h <;> rfl

structure Site.View where
  position : Position
  value : Option Expr
  reachable : String → Bool

def Site.view (site : Site) : Site.View :=
  ⟨site.position, site.value, site.reachableWhenNonNull⟩

def Site.View.behind (guard : Guard) (view : Site.View) : Site.View :=
  { view with reachable := fun name => !guard.excludes name && view.reachable name }

theorem view_under (guard : Guard) (site : Site) : (site.under [guard]).view = site.view.behind guard := by
  simp only [Site.view, Site.under, Site.View.behind, Site.View.mk.injEq, true_and]
  funext name
  simp [Site.reachableWhenNonNull]

theorem map_view_behind (guard : Guard) (b : List Stmt) :
    (sitesOfBlock b [guard]).map Site.view = ((sitesOfBlock b []).map Site.view).map (Site.View.behind guard) := by
  rw [sitesOfBlock_under (fun s _ => sites_under s), List.map_map, List.map_map]
  exact List.map_congr_left fun site _ => view_under guard site

def Branch.other : Branch → Branch
  | yes => no
  | no => yes

theorem excludes_not (line line' : Nat) (test : Expr) (branch : Branch) (name : String) :
    Guard.excludes ⟨line', .not test, branch.other⟩ name = Guard.excludes ⟨line, test, branch⟩ name := by
  simp only [Guard.excludes, Guard.nullCheck?, Expr.nullCheck?]
  cases test.nullCheck? with
  | none => rfl
  | some check =>
    obtain ⟨id, asserts⟩ := check
    cases branch <;> cases asserts <;> rfl

theorem behind_not (line line' : Nat) (test : Expr) (branch : Branch) :
    Site.View.behind ⟨line', .not test, branch.other⟩ = Site.View.behind ⟨line, test, branch⟩ := by
  funext view
  simp only [Site.View.behind, excludes_not line]

theorem effects_not (e : Expr) (env : Env) : (Expr.not e).effects env = e.effects env := by
  have hlevels : Meaning.mergeLevels e.meaning.bindings [] = e.meaning.bindings := by
    cases e.meaning.bindings <;> rfl
  simp only [Expr.effects, Expr.meaning, Meaning.not, Meaning.below, Meaning.apply, List.foldr_cons, List.foldr_nil,
    hlevels, List.flatten_cons, List.nil_append]

theorem assume_not (e : Expr) (truth : Bool) (state : State) :
    (Expr.not e).assume truth state = e.assume (!truth) state :=
  rfl

/-- Two pieces of code that differ in the order of their return statements: from every state they end alike, and the
states in which the return statements are reached are rearranged as the statements are. -/
structure Rearranges (σ : Rearrangement) (run run' : State → Outcome) (sites sites' : List Site) : Prop where
  run : ∀ state, run' state = (run state).rearrange σ
  sites : sites'.map Site.view = σ.apply (sites.map Site.view)

abbrev RearrangesBlock (σ : Rearrangement) (b b' : List Stmt) : Prop :=
  Rearranges σ (execBlock b) (execBlock b') (sitesOfBlock b []) (sitesOfBlock b' [])

theorem sites_beside {σ τ : Rearrangement} {a a' b b' : List Site} (ha : a'.map Site.view = σ.apply (a.map Site.view))
    (hb : b'.map Site.view = τ.apply (b.map Site.view)) :
    (a' ++ b').map Site.view = (Rearrangement.beside a.length σ τ).apply ((a ++ b).map Site.view) := by
  rw [List.map_append, List.map_append, ha, hb, Rearrangement.apply_beside σ τ (List.length_map _)]

theorem length_execBlock (b : List Stmt) (state : State) :
    (execBlock b state).returned.length = (sitesOfBlock b []).length :=
  length_returned_execBlock (fun s _ => length_returned_exec s) state []

section

variable {b b' : List Stmt} {hs hs' : List Handler} {cs cs' : List Case}

theorem rearranges_block
    (h : ∀ s ∈ b, ∀ t, Swapped s t → ∃ σ, Rearranges σ s.exec t.exec (s.sites []) (t.sites []))
    (hb : List.Forall₂ Swapped b b') :
    ∃ σ, RearrangesBlock σ b b' := by
  induction hb with
  | nil => exact ⟨.keep, fun _ => rfl, rfl⟩
  | @cons s t rest rest' hs _ ih =>
    rw [List.forall_mem_cons] at h
    obtain ⟨σ, hσ⟩ := h.1 t hs
    obtain ⟨τ, hτ⟩ := ih h.2
    refine ⟨.beside (s.sites []).length σ τ, fun state => ?_, ?_⟩
    · simp only [execBlock, hσ.run, hτ.run, Outcome.next_rearrange]
      exact Outcome.cons_rearrange (length_returned_exec s state [])
    · exact sites_beside hσ.sites hτ.sites

theorem rearranges_handlers
    (h : ∀ c ∈ hs, ∀ s ∈ c.body, ∀ t, Swapped s t → ∃ σ, Rearranges σ s.exec t.exec (s.sites []) (t.sites []))
    (hh : List.Forall₂ SwappedHandler hs hs') :
    ∃ σ, Rearranges σ (execHandlers hs) (execHandlers hs') (sitesOfHandlers hs []) (sitesOfHandlers hs' []) := by
  induction hh with
  | nil => exact ⟨.keep, fun _ => rfl, rfl⟩
  | cons hc _ ih =>
    obtain @⟨_, _, _, body, body', hbody⟩ := hc
    rw [List.forall_mem_cons, Handler.body_mk] at h
    obtain ⟨σ, hσ⟩ := rearranges_block h.1 hbody
    obtain ⟨τ, hτ⟩ := ih h.2
    refine ⟨.beside (sitesOfBlock body []).length σ τ, fun state => ?_, ?_⟩
    · simp only [execHandlers, hσ.run, hτ.run]
      exact Outcome.merge_rearrange (length_execBlock body _)
    · exact sites_beside hσ.sites hτ.sites

theorem rearranges_cases (subject : Expr)
    (h : ∀ c ∈ cs, ∀ s ∈ c.body, ∀ t, Swapped s t → ∃ σ, Rearranges σ s.exec t.exec (s.sites []) (t.sites []))
    (hc : List.Forall₂ SwappedCase cs cs') :
    ∃ σ, Rearranges σ (execCases subject cs) (execCases subject cs') (sitesOfCases cs []) (sitesOfCases cs' []) := by
  induction hc with
  | nil => exact ⟨.keep, fun _ => rfl, rfl⟩
  | cons hc _ ih =>
    obtain @⟨_, _, body, body', hbody⟩ := hc
    rw [List.forall_mem_cons, Case.body_mk] at h
    obtain ⟨σ, hσ⟩ := rearranges_block h.1 hbody
    obtain ⟨τ, hτ⟩ := ih h.2
    refine ⟨.beside (sitesOfBlock body []).length σ τ, fun state => ?_, ?_⟩
    · simp only [execCases, hσ.run, hτ.run]
      exact Outcome.merge_rearrange (length_execBlock body _)
    · exact sites_beside hσ.sites hτ.sites

theorem exhaustive_swapped (hc : List.Forall₂ SwappedCase cs cs') : exhaustive cs' = exhaustive cs := by
  unfold exhaustive
  induction hc with
  | nil => rfl
  | cons hc _ ih =>
    obtain @⟨_, guard, _, _, _⟩ := hc
    rw [List.any_cons, List.any_cons, ih]
    cases guard <;> rfl

end

theorem loopFuel_congr {names names' : List String} (h : names'.length = names.length) (state : State) :
    loopFuel names' state = loopFuel names state := by
  cases state with
  | none => rfl
  | some env => rw [loopFuel, loopFuel, h]

theorem loop_rearrange {body body' orelse orelse' : List Stmt} {σ τ : Rearrangement}
    (hσ : RearrangesBlock σ body body') (hτ : RearrangesBlock τ orelse orelse')
    (enter leave : State → State) (fuel : Nat) (state : State) :
    (iterate (fun head => execBlock body' (enter head)) fuel state).2.afterLoop
        (execBlock orelse' (leave (iterate (fun head => execBlock body' (enter head)) fuel state).1)) =
      ((iterate (fun head => execBlock body (enter head)) fuel state).2.afterLoop
        (execBlock orelse (leave (iterate (fun head => execBlock body (enter head)) fuel state).1))).rearrange
          (.beside (sitesOfBlock body []).length σ τ) := by
  have hlen : ∀ head, (execBlock body (enter head)).returned.length = (sitesOfBlock body []).length :=
    fun head => length_execBlock body _
  rw [iterate_rearrange hlen (fun head => hσ.run (enter head)), hτ.run]
  exact Outcome.afterLoop_rearrange (length_returned_iterate hlen fuel state)

theorem Swapped.rearranges {s t : Stmt} (h : Swapped s t) :
    ∃ σ, Rearranges σ s.exec t.exec (s.sites []) (t.sites []) := by
  induction s generalizing t with
  | ifElse line test body orelse ihb iho =>
    cases h with
    | same => exact ⟨.keep, fun _ => rfl, rfl⟩
    | @swap _ line' _ _ body' _ orelse' hbody horelse =>
      obtain ⟨σ, hσ⟩ := rearranges_block (fun s hs _ => ihb s hs) hbody
      obtain ⟨τ, hτ⟩ := rearranges_block (fun s hs _ => iho s hs) horelse
      refine ⟨.across (sitesOfBlock body []).length σ τ, fun state => ?_, ?_⟩
      · simp only [Stmt.exec, assume_not, hσ.run, hτ.run, Bool.not_true, Bool.not_false]
        rw [show (Expr.not test).effects = test.effects from funext (effects_not test)]
        exact Outcome.merge_rearrange_comm (length_execBlock body _)
      · -- The side that was entered on a true test is now entered on a false negation of it, and excludes the same names.
        have hyes := behind_not line line' test .no
        have hno := behind_not line line' test .yes
        simp only [Branch.other] at hyes hno
        rw [Stmt.sites, Stmt.sites, List.nil_append, List.nil_append, List.nil_append, List.nil_append, List.map_append,
          List.map_append, map_view_behind, map_view_behind, map_view_behind, map_view_behind, hσ.sites, hτ.sites, hyes,
          hno, ← Rearrangement.apply_map, ← Rearrangement.apply_map, Rearrangement.apply_across σ τ (by simp)]
    | ifElse hbody horelse =>
      obtain ⟨σ, hσ⟩ := rearranges_block (fun s hs _ => ihb s hs) hbody
      obtain ⟨τ, hτ⟩ := rearranges_block (fun s hs _ => iho s hs) horelse
      refine ⟨.beside (sitesOfBlock body []).length σ τ, fun state => ?_, ?_⟩
      · simp only [Stmt.exec, hσ.run, hτ.run]
        exact Outcome.merge_rearrange (length_execBlock body _)
      · rw [Stmt.sites, Stmt.sites, List.nil_append, List.nil_append, List.map_append, List.map_append, map_view_behind,
          map_view_behind, map_view_behind, map_view_behind, hσ.sites, hτ.sites, ← Rearrangement.apply_map,
          ← Rearrangement.apply_map, Rearrangement.apply_beside σ τ (by simp)]
  | forLoop isAsync target iter body orelse ihb iho =>
    have hnames := h.length_names
    cases h with
    | same => exact ⟨.keep, fun _ => rfl, rfl⟩
    | forLoop hbody horelse =>
      obtain ⟨σ, hσ⟩ := rearranges_block (fun s hs _ => ihb s hs) hbody
      obtain ⟨τ, hτ⟩ := rearranges_block (fun s hs _ => iho s hs) horelse
      refine ⟨.beside (sitesOfBlock body []).length σ τ, fun state => ?_, ?_⟩
      · simp only [Stmt.exec, loopFuel_congr hnames]
        exact loop_rearrange hσ hτ (·.map (target.bind .unknown)) id _ state
      · exact sites_beside hσ.sites hτ.sites
  | whileLoop test body orelse ihb iho =>
    have hnames := h.length_names
    cases h with
    | same => exact ⟨.keep, fun _ => rfl, rfl⟩
    | whileLoop hbody horelse =>
      obtain ⟨σ, hσ⟩ := rearranges_block (fun s hs _ => ihb s hs) hbody
      obtain ⟨τ, hτ⟩ := rearranges_block (fun s hs _ => iho s hs) horelse
      refine ⟨.beside (sitesOfBlock body []).length σ τ, fun state => ?_, ?_⟩
      · simp only [Stmt.exec, loopFuel_congr hnames]
        exact loop_rearrange hσ hτ (test.assume true) (test.assume false) _ state
      · exact sites_beside hσ.sites hτ.sites
  | withBlock isAsync items body ih =>
    cases h with
    | same => exact ⟨.keep, fun _ => rfl, rfl⟩
    | withBlock hbody =>
      obtain ⟨σ, hσ⟩ := rearranges_block (fun s hs _ => ih s hs) hbody
      exact ⟨σ, fun state => hσ.run _, hσ.sites⟩
  | matchCases subject cases ih =>
    cases h with
    | same => exact ⟨.keep, fun _ => rfl, rfl⟩
    | matchCases hcases =>
      obtain ⟨σ, hσ⟩ := rearranges_cases subject (fun c hc s hs _ => ih c hc s hs) hcases
      refine ⟨σ, fun state => ?_, hσ.sites⟩
      simp only [Stmt.exec, exhaustive_swapped hcases, hσ.run]
      split <;> rfl
  | tryBlock body handlers orelse final ihb ihh iho ihf =>
    cases h with
    | same => exact ⟨.keep, fun _ => rfl, rfl⟩
    | tryBlock hbody hhandlers horelse hfinal =>
      obtain ⟨σ, hσ⟩ := rearranges_block (fun s hs _ => ihb s hs) hbody
      obtain ⟨η, hη⟩ := rearranges_handlers (fun c hc s hs _ => ihh c hc s hs) hhandlers
      obtain ⟨τ, hτ⟩ := rearranges_block (fun s hs _ => iho s hs) horelse
      obtain ⟨φ, hφ⟩ := rearranges_block (fun s hs _ => ihf s hs) hfinal
      have hhandlersLength : ∀ state,
          (execHandlers handlers state).returned.length = (sitesOfHandlers handlers []).length :=
        fun state => length_returned_execHandlers (fun c _ s _ => length_returned_exec s) state []
      have hsites := sites_beside (sites_beside hσ.sites (sites_beside hη.sites hτ.sites)) hφ.sites
      refine ⟨_, fun state => ?_, hsites⟩
      simp only [Stmt.exec, hσ.run, handlerEntry, Outcome.raised_rearrange, Outcome.next_rearrange, hη.run, hτ.run]
      rw [Outcome.merge_rearrange (hhandlersLength _), Outcome.followedBy_rearrange (length_execBlock body _),
        Outcome.next_rearrange, hφ.run, Outcome.merge_rearrange]
      · rfl
      · simp [Outcome.followedBy, Outcome.merge, length_execBlock, hhandlersLength]
  | _ => cases h <;> exact ⟨.keep, fun _ => rfl, rfl⟩

def Function.withBody (fn : Function) (body : List Stmt) : Function :=
  { fn with body := body }

def Candidate.withBody (c : Candidate) (body : List Stmt) : Candidate :=
  { c with function := c.function.withBody body }

def Site.View.verdict (view : Site.View) (state : State) : Nullness :=
  Site.verdict ⟨view.position, view.value, []⟩ state

theorem verdict_view (site : Site) (state : State) : site.view.verdict state = site.verdict state := by
  cases state <;> rfl

def Site.View.reachableUnder (view : Site.View) (antecedent : List Constraint) (parameters : List String) : Bool :=
  (antecedent.zip parameters).all fun (constraint, parameter) => constraint ≠ .nonNull || view.reachable parameter

theorem reachableUnder_view (site : Site) (antecedent : List Constraint) (parameters : List String) :
    site.view.reachableUnder antecedent parameters = site.reachableUnder antecedent parameters :=
  rfl

def seen (judged : Site × Nullness) : Site.View × Nullness :=
  (judged.1.view, judged.2)

theorem map_seen_judged (fn : Function) (entry : Env) :
    (fn.judged entry).map seen =
      List.zipWith (fun view state => (view, view.verdict state)) (fn.sites.map Site.view) (fn.returnStates entry) := by
  apply List.ext_getElem
  · simp [Function.judged, length_returnStates]
  · intro i hi hi'
    have hlt : i < (fn.returnStates entry).length := List.lt_length_right_of_zipWith hi'
    simp [Function.judged, seen, verdict_view, List.getElem?_eq_getElem hlt]

def report? (subject : Subject) (clause : Clause) (judged : Site.View × Nullness) : Option Diagnostic :=
  if judged.2.mayBeNull && judged.1.reachableUnder clause.antecedent subject.parameters then
    some (Finding.diagnostic subject (.violation judged.1.position clause.antecedent))
  else none

theorem violationReports_eq_filterMap (subject : Subject) (clause : Clause) (verdicts : List (Site × Nullness)) :
    violationReports Site.reachableUnder subject clause verdicts =
      (verdicts.map seen).filterMap (report? subject clause) := by
  induction verdicts with
  | nil => rfl
  | cons judged rest ih =>
    simp only [violationReports, List.map_cons, List.filter_cons, List.filterMap_cons, report?, seen,
      reachableUnder_view] at ih ⊢
    by_cases h : (judged.2.mayBeNull && judged.1.reachableUnder clause.antecedent subject.parameters) = true
    · simp only [h, if_true, List.map_cons, ih]
      rfl
    · simp only [h, Bool.false_eq_true, if_false, ih]

theorem entry_withBody (read : Reader) (fn : Function) (body : List Stmt) (assumed : Env) :
    (fn.withBody body).entry read assumed = fn.entry read assumed :=
  rfl

structure SameReturns (read : Reader) (fn fn' : Function) (order : List Nat) : Prop where
  perm : order.Perm (List.range fn.sites.length)
  length : fn'.sites.length = fn.sites.length
  each : ∀ k i, order[k]? = some i → ∃ site site', fn.sites[i]? = some site ∧ fn'.sites[k]? = some site' ∧
    site'.position = site.position ∧ site'.value = site.value ∧
    (∀ assumed, flowOracle read fn' assumed k site' = flowOracle read fn assumed i site) ∧
    ∀ antecedent parameters, site'.reachableUnder antecedent parameters = site.reachableUnder antecedent parameters

section

variable {fn : Function} {body : List Stmt} {σ : Rearrangement} (hσ : RearrangesBlock σ fn.body body)

include hσ

theorem returnStates_rearranged (entry : Env) :
    (fn.withBody body).returnStates entry = σ.apply (fn.returnStates entry) :=
  congrArg Outcome.returned (hσ.run (some entry))

theorem sites_rearranged : (fn.withBody body).sites.map Site.view = σ.apply (fn.sites.map Site.view) :=
  hσ.sites

theorem length_sites_rearranged : (fn.withBody body).sites.length = fn.sites.length := by
  have h := congrArg List.length (sites_rearranged hσ)
  simpa only [List.length_map, Rearrangement.length_apply] using h

theorem verdicts_rearranged (read : Reader) (assumed : Env) :
    ((flowOracle read).verdicts (fn.withBody body) assumed).map (·.map seen) =
      ((flowOracle read).verdicts fn assumed).map fun verdicts => σ.apply (verdicts.map seen) := by
  have hentry' := entry_withBody read fn body assumed
  cases hentry : fn.entry read assumed with
  | error e =>
    have hnil : (fn.withBody body).sites = [] ↔ fn.sites = [] := by
      rw [← List.length_eq_zero_iff, length_sites_rearranged hσ, List.length_eq_zero_iff]
    rw [verdicts_of_entry_error hentry, verdicts_of_entry_error (hentry'.trans hentry)]
    by_cases h : fn.sites = []
    · have hempty : σ.apply ([] : List (Site.View × Nullness)) = [] := List.perm_nil.mp (σ.apply_perm [])
      rw [if_pos h, if_pos (hnil.mpr h)]
      simp [Except.map, hempty]
    · rw [if_neg h, if_neg (mt hnil.mp h)]
      rfl
  | ok entry =>
    rw [verdicts_of_entry hentry, verdicts_of_entry (hentry'.trans hentry)]
    simp only [Except.map, map_seen_judged, returnStates_rearranged hσ, sites_rearranged hσ]
    rw [Rearrangement.apply_zipWith σ _ (by simp [length_returnStates])]

theorem sameReturns_rearranged (read : Reader) :
    SameReturns read fn (fn.withBody body) (σ.apply (List.range fn.sites.length)) := by
  refine ⟨σ.apply_perm _, length_sites_rearranged hσ, fun k i hk => ?_⟩
  have hi : i < fn.sites.length := List.mem_range.mp ((σ.apply_perm _).mem_iff.mp (List.mem_of_getElem? hk))
  have hviews : ((fn.withBody body).sites.map Site.view)[k]? = (fn.sites.map Site.view)[i]? := by
    rw [sites_rearranged hσ, σ.getElem?_apply, List.length_map, hk]
    rfl
  rw [List.getElem?_map, List.getElem?_map, List.getElem?_eq_getElem hi] at hviews
  obtain ⟨site', hsite', hview⟩ := Option.map_eq_some_iff.mp hviews
  refine ⟨fn.sites[i], site', List.getElem?_eq_getElem hi, hsite', congrArg Site.View.position hview,
    congrArg Site.View.value hview, fun assumed => ?_, fun antecedent parameters => ?_⟩
  · have hentry' := entry_withBody read fn body assumed
    cases hentry : fn.entry read assumed with
    | error e =>
      simp only [flowOracle, hentry', hentry]
      rfl
    | ok entry =>
      have hstates : ((fn.withBody body).returnStates entry)[k]? = (fn.returnStates entry)[i]? := by
        rw [returnStates_rearranged hσ, σ.getElem?_apply, length_returnStates, hk]
        rfl
      rw [flowOracle_of_entry hentry, flowOracle_of_entry (hentry'.trans hentry), hstates, ← verdict_view,
        ← verdict_view, hview]
  · rw [← reachableUnder_view, ← reachableUnder_view, hview]

end

theorem map_const_congr {ε α β γ δ : Type} {x : Except ε α} {y : Except ε β} {f : α → γ} {g : β → γ}
    (h : x.map f = y.map g) (d : δ) : (x.map fun _ => d) = y.map fun _ => d := by
  cases x <;> cases y <;> simp_all [Except.map]

theorem check_rearranged {c : Candidate} {body : List Stmt} {σ : Rearrangement}
    (hσ : RearrangesBlock σ c.function.body body) (read : Reader) (deep : Bool) :
    (check (flowOracle read) deep (c.withBody body)).map (·.state) = (check (flowOracle read) deep c).map (·.state) ∧
    ∀ checked checked', check (flowOracle read) deep c = .ok checked →
      check (flowOracle read) deep (c.withBody body) = .ok checked' →
        checked'.diagnostics.Perm checked.diagnostics := by
  rcases deepCheckable_or_sameText deep c with ⟨clause, hclause, hdeep⟩ | ⟨text, htext, -⟩
  · -- The contract is read from the subject, which is the same.
    have hclause' : (c.withBody body).clause? = some clause := hclause
    have hverdicts := verdicts_rearranged hσ read (assumptions clause.antecedent c.subject.parameters)
    constructor
    · have hstate := state_of_deepCheckable hclause hdeep (flowOracle read) Site.reachableUnder
      have hstate' := state_of_deepCheckable hclause' hdeep (flowOracle read) Site.reachableUnder
      exact hstate'.trans ((map_const_congr hverdicts CheckState.done).trans hstate.symm)
    · intro checked checked' hchecked hchecked'
      have hdiagnostics := diagnostics_of_deepCheckable hclause hdeep (flowOracle read) Site.reachableUnder
      have hdiagnostics' := diagnostics_of_deepCheckable hclause' hdeep (flowOracle read) Site.reachableUnder
      obtain ⟨verdicts, hv, hd⟩ := map_eq_ok.mp (hdiagnostics.symm.trans (congrArg _ hchecked))
      obtain ⟨verdicts', hv', hd'⟩ := map_eq_ok.mp (hdiagnostics'.symm.trans (congrArg _ hchecked'))
      have hseen : verdicts'.map seen = σ.apply (verdicts.map seen) :=
        Except.ok.inj (((congrArg _ hv').symm.trans hverdicts).trans (congrArg _ hv))
      dsimp only at hd hd'
      rw [← hd, ← hd', violationReports_eq_filterMap, violationReports_eq_filterMap, hseen]
      exact ((σ.apply_perm _).filterMap _).append_left _
  · have hc : check (flowOracle read) deep c = .ok text := htext c.function _ _
    have hc' : check (flowOracle read) deep (c.withBody body) = .ok text := htext _ _ _
    refine ⟨by rw [hc, hc'], fun checked checked' hchecked hchecked' => ?_⟩
    cases hc.symm.trans hchecked
    cases hc'.symm.trans hchecked'
    exact .refl _

theorem swapping_branches_keeps_verdicts (read : Reader) (c : Candidate) (body : List Stmt)
    (h : List.Forall₂ Swapped c.function.body body) :
    (∃ order, SameReturns read c.function (c.function.withBody body) order) ∧
    ∀ deep,
      (check (flowOracle read) deep (c.withBody body)).map (·.state) = (check (flowOracle read) deep c).map (·.state) ∧
      ∀ checked checked', check (flowOracle read) deep c = .ok checked →
        check (flowOracle read) deep (c.withBody body) = .ok checked' →
          checked'.diagnostics.Perm checked.diagnostics := by
  obtain ⟨σ, hσ⟩ := rearranges_block (fun s _ t => Swapped.rearranges) h
  exact ⟨⟨_, sameReturns_rearranged hσ read⟩, fun deep => check_rearranged hσ read deep⟩

def firstPart : Candidate :=
  Function.under (.plain "first_part" ["x", "parts"] [
    .forLoop false (.name "part") (.name "parts")
      [.tryBlock
        [.ifElse 4 (.compare (.name "part") [.is] [.literal .none])
          [.ret ⟨5, 16⟩ (some (.name "part"))]
          [.ifElse 6 (.name "x") [.ret ⟨7, 16⟩ (some (.name "part"))] [.ret ⟨9, 16⟩ none]]]
        [] [] [.assign [.name "x"] (.name "part")]]
      [],
    .ret ⟨12, 4⟩ (some (.name "x"))]) "!null, _ -> !null"

def firstPartTurned : List Stmt := [
  .forLoop false (.name "part") (.name "parts")
    [.tryBlock
      [.ifElse 4 (.not (.compare (.name "part") [.is] [.literal .none]))
        [.ifElse 5 (.not (.name "x")) [.ret ⟨9, 16⟩ none] [.ret ⟨7, 16⟩ (some (.name "part"))]]
        [.ret ⟨5, 16⟩ (some (.name "part"))]]
      [] [] [.assign [.name "x"] (.name "part")]]
    [],
  .ret ⟨12, 4⟩ (some (.name "x"))]

theorem swapping_branches_keeps_verdicts_firstPart :
    (∃ order, SameReturns readLiteral firstPart.function (firstPart.function.withBody firstPartTurned) order) ∧
    ∃ checked checked', check (flowOracle readLiteral) true firstPart = .ok checked ∧
      check (flowOracle readLiteral) true (firstPart.withBody firstPartTurned) = .ok checked' ∧
      checked.diagnostics.length = 2 ∧ checked'.diagnostics.Perm checked.diagnostics := by
  have hinner : Swapped
      (.ifElse 6 (.name "x") [.ret ⟨7, 16⟩ (some (.name "part"))] [.ret ⟨9, 16⟩ none])
      (.ifElse 5 (.not (.name "x")) [.ret ⟨9, 16⟩ none] [.ret ⟨7, 16⟩ (some (.name "part"))]) :=
    .swap (.cons (.same _) .nil) (.cons (.same _) .nil)
  have hturned : List.Forall₂ Swapped firstPart.function.body firstPartTurned := by
    refine .cons (.forLoop (.cons (.tryBlock ?_ .nil .nil (.cons (.same _) .nil)) .nil) .nil) (.cons (.same _) .nil)
    exact .cons (.swap (.cons (.same _) .nil) (.cons hinner .nil)) .nil
  obtain ⟨hreturns, hcheck⟩ := swapping_branches_keeps_verdicts readLiteral firstPart firstPartTurned hturned
  have hcount : (check (flowOracle readLiteral) true firstPart).map (·.diagnostics.length) = .ok 2 := by
    decide +kernel
  have hcount' : (check (flowOracle readLiteral) true (firstPart.withBody firstPartTurned)).map
      (·.diagnostics.length) = .ok 2 := by
    decide +kernel
  obtain ⟨checked, hchecked, hlength⟩ := map_eq_ok.mp hcount
  obtain ⟨checked', hchecked', -⟩ := map_eq_ok.mp hcount'
  exact ⟨hreturns, checked, checked', hchecked, hchecked', hlength, (hcheck true).2 checked checked' hchecked hchecked'⟩

end NullContract
