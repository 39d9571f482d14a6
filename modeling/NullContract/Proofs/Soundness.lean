import NullContract.Proofs.Entry
import NullContract.Proofs.ExprSoundness
import NullContract.Proofs.LoopHead
import NullContract.Proofs.Verdicts

namespace NullContract

section

variable {σ σ' : Store} {v : Value} {env : Env} {n : Nullness}

theorem Binds.fits {target : Expr} (h : Binds target v σ σ') (henv : σ.Fits env) (hn : n.Admits v) :
    σ'.Fits (target.bind n env) := by
  induction h generalizing env n with
  | name => exact henv.set hn
  | nil => exact henv
  | cons _ _ ih ihrest => exact ihrest (ih henv (n := .unknown) trivial) (n := .unknown) trivial
  | list _ ih => exact ih henv hn
  | starred hw _ ih => exact ih henv (n := .nonNull) hw
  | member => exact henv
  | subscript => exact henv

theorem fits_bindsAll {targets : List Expr} (h : bindsAll targets v σ σ') (henv : σ.Fits env) (hn : n.Admits v) :
    σ'.Fits (targets.foldl (fun env target => target.bind n env) env) := by
  induction targets generalizing σ env with
  | nil =>
    obtain rfl := h
    exact henv
  | cons target rest ih =>
    obtain ⟨τ, ht, hrest⟩ := h
    exact ih hrest (ht.fits henv hn)

theorem fits_assignTo {targets : List Expr} {value : Expr} (hvalue : value.assigned = [])
    (hovert : ∀ kinds ∈ value.testedTypes, ¬ kinds.HidesNone) (h : Yields σ value v) (ht : bindsAll targets v σ σ')
    (henv : σ.Fits env) : σ'.Fits (assignTo targets value env) := by
  rw [assignTo, Expr.effects_eq_self hvalue]
  exact fits_bindsAll ht henv (h.sound hovert henv).value

/-- The analysis may know names that a deletion of a tuple has unbound: they are allowed to be. -/
theorem fits_unbind (targets : List Expr) (henv : σ.Fits env) : (unbind targets σ).Fits (targets.foldl forget env) := by
  unfold unbind
  induction targets generalizing σ env with
  | nil => exact henv
  | cons target rest ih =>
    rw [List.flatMap_cons, List.foldl_append, List.foldl_cons]
    refine ih ?_
    have hunset : ∀ names : List String, (names.foldl (fun σ id => σ.set id none) σ).Fits env := by
      intro names
      induction names generalizing σ with
      | nil => exact henv
      | cons id names ihn => exact ihn henv.unset
    cases target with
    | name id => exact henv.erase
    | _ => exact hunset _

end

theorem State.Admits.map {f : Env → Env} {s : State} {σ σ' : Store} (h : s.Admits σ)
    (hf : ∀ {env : Env}, σ.Fits env → σ'.Fits (f env)) : State.Admits (s.map f) σ' := by
  obtain ⟨env, rfl, henv⟩ := h
  exact .of_fits (hf henv)

theorem Yields.admits_assume {σ : Store} {e : Expr} {v : Value} (h : Yields σ e v)
    (hovert : ∀ kinds ∈ e.testedTypes, ¬ kinds.HidesNone) {truth : Bool} (hv : v.truth = truth) {s : State}
    (hs : s.Admits σ) : (e.assume truth s).Admits σ := by
  obtain ⟨env, rfl, henv⟩ := hs
  rw [← hv]
  exact (h.sound hovert henv).assume

namespace Outcome

def Admits (o : Outcome) : End → Prop
  | .next σ => o.next.Admits σ
  | .broke σ => o.broke.Admits σ
  | .continued σ => o.continued.Admits σ
  | .returned index σ _ => ∃ state, o.returned[index]? = some state ∧ state.Admits σ

variable {a b : Outcome} {e : End}

theorem Admits.mono (h : a.Admits e) (hle : a ≤ b) : b.Admits e := by
  cases e with
  | next σ => exact State.Admits.mono h hle.next
  | broke σ => exact State.Admits.mono h hle.broke
  | continued σ => exact State.Admits.mono h hle.continued
  | returned index σ v =>
    obtain ⟨s, hs, hadmits⟩ := h
    obtain ⟨hi, rfl⟩ := List.getElem?_eq_some_iff.mp hs
    have hi' : index < b.returned.length := hle.returned.length_eq ▸ hi
    exact ⟨b.returned[index], List.getElem?_eq_getElem hi', hadmits.mono (hle.returned.get hi hi')⟩

theorem returned_left {xs ys : List State} {index : Nat} {σ : Store}
    (h : ∃ state, xs[index]? = some state ∧ state.Admits σ) :
    ∃ state, (xs ++ ys)[index]? = some state ∧ state.Admits σ := by
  obtain ⟨state, hs, hadmits⟩ := h
  exact ⟨state, List.getElem?_append_left (List.getElem?_eq_some_iff.mp hs).1 ▸ hs, hadmits⟩

theorem returned_right {xs ys : List State} {index : Nat} {σ : Store}
    (h : ∃ state, ys[index]? = some state ∧ state.Admits σ) :
    ∃ state, (xs ++ ys)[xs.length + index]? = some state ∧ state.Admits σ := by
  obtain ⟨state, hs, hadmits⟩ := h
  exact ⟨state, by rw [List.getElem?_append_right (by omega), Nat.add_sub_cancel_left, hs], hadmits⟩

theorem Admits.merge_left (h : a.Admits e) (b : Outcome) : (a.merge b).Admits e := by
  cases e with
  | next σ => exact State.Admits.mono h (State.le_join_left _ _)
  | broke σ => exact State.Admits.mono h (State.le_join_left _ _)
  | continued σ => exact State.Admits.mono h (State.le_join_left _ _)
  | returned index σ v => exact returned_left h

theorem Admits.merge_right (h : b.Admits e) (a : Outcome) : (a.merge b).Admits (e.shift a.returned.length) := by
  cases e with
  | next σ => exact State.Admits.mono h (State.le_join_right _ _)
  | broke σ => exact State.Admits.mono h (State.le_join_right _ _)
  | continued σ => exact State.Admits.mono h (State.le_join_right _ _)
  | returned index σ v => exact returned_right h

theorem Admits.cons_left (h : a.Admits e) (he : e.isNext = false) (b : Outcome) : (a.cons b).Admits e := by
  have hmerge := h.merge_left b
  cases e with
  | next σ => cases he
  | broke σ => exact hmerge
  | continued σ => exact hmerge
  | returned index σ v => exact hmerge

theorem Admits.cons_right (h : b.Admits e) (a : Outcome) : (a.cons b).Admits (e.shift a.returned.length) := by
  have hmerge := h.merge_right a
  cases e with
  | next σ => exact h
  | broke σ => exact hmerge
  | continued σ => exact hmerge
  | returned index σ v => exact hmerge

theorem Admits.afterLoop_right (h : b.Admits e) (a : Outcome) :
    (a.afterLoop b).Admits (e.shift a.returned.length) := by
  cases e with
  | next σ => exact State.Admits.mono h (State.le_join_left _ _)
  | broke σ => exact h
  | continued σ => exact h
  | returned index σ v => exact returned_right h

end Outcome

namespace LoopHead

def enter : LoopHead → State → State
  | test e, state => e.assume true state
  | each target, state => state.map (target.bind .unknown)

def leave : LoopHead → State → State
  | test e, state => e.assume false state
  | each _, state => state

def testedTypes : LoopHead → List Expr
  | test e => e.testedTypes
  | each _ => []

variable {head : LoopHead} {σ τ : Store} {s : State}

theorem Enters.admits (h : head.Enters σ τ) (hovert : ∀ kinds ∈ head.testedTypes, ¬ kinds.HidesNone)
    (hs : s.Admits σ) : (head.enter s).Admits τ := by
  cases h with
  | test h hv => exact h.admits_assume hovert hv hs
  | each h => exact hs.map fun henv => h.fits henv (n := .unknown) trivial

theorem Leaves.admits (h : head.Leaves σ) (hovert : ∀ kinds ∈ head.testedTypes, ¬ kinds.HidesNone)
    (hs : s.Admits σ) : (head.leave s).Admits σ := by
  cases h with
  | test h hv => exact h.admits_assume hovert hv hs
  | each => exact hs

end LoopHead

namespace Code

/-- What the analysis makes of a piece of code. Of a loop it takes the last round, from a head that is stable. -/
def outcome : Code → State → Outcome
  | stmt s, state => s.exec state
  | block b, state => execBlock b state
  | loop head body orelse, state =>
    (execBlock body (head.enter state)).afterLoop (execBlock orelse (head.leave state))

def Ready : Code → State → Prop
  | loop head body _, state =>
    (∀ kinds ∈ head.testedTypes, ¬ kinds.HidesNone) ∧ Stable (fun head' => execBlock body (head.enter head')) state
  | _, _ => True

def nested : Code → List Stmt
  | stmt s => s.nested
  | block b => nestedOfBlock b
  | loop _ body orelse => nestedOfBlock body ++ nestedOfBlock orelse

end Code

section

variable {σ : Store} {e : End} {state : State}

theorem length_sitesOfBlock (b : List Stmt) (state : State) :
    (sitesOfBlock b []).length = (execBlock b state).returned.length :=
  (length_returned_execBlock (fun s _ => length_returned_exec s) state []).symm

theorem admits_stable {round : State → Outcome} (hstable : Stable round state) {σ' : Store} {e : End}
    (he : e = .next σ' ∨ e = .continued σ') (h : (round state).Admits e) : state.Admits σ' := by
  rw [← hstable]
  rcases he with rfl | rfl
  · exact State.Admits.mono h (Outcome.next_le_nextHead _ _)
  · exact State.Admits.mono h (Outcome.continued_le_nextHead _ _)

theorem admits_loop {enter : State → State} {body : List Stmt} {orelse : State → Outcome} (fuel : Nat)
    (hstable : Stable (fun head => execBlock body (enter head))
      (iterate (fun head => execBlock body (enter head)) fuel state).1)
    (hs : state.Admits σ)
    (h : ∀ head : State, Stable (fun head => execBlock body (enter head)) head → head.Admits σ →
      ((execBlock body (enter head)).afterLoop (orelse head)).Admits e) :
    ((iterate (fun head => execBlock body (enter head)) fuel state).2.afterLoop
      (orelse (iterate (fun head => execBlock body (enter head)) fuel state).1)).Admits e := by
  have hlen := fun head => (length_sitesOfBlock body (enter head)).symm
  have hhead := hs.mono (le_iterate (fun head => execBlock body (enter head)) fuel state)
  exact (h _ hstable hhead).mono (Outcome.afterLoop_mono (round_le_iterate hlen fuel state) (Outcome.le_rfl _))

structure Stmt.Plain (s : Stmt) : Prop where
  core : s.Core
  overt : ∀ kinds ∈ s.testedTypes, ¬ kinds.HidesNone

theorem Stmt.Plain.assigned {s : Stmt} (h : s.Plain) {e : Expr} (he : e ∈ s.expressions) : e.assigned = [] :=
  h.core.2 e he

theorem Runs.sound {c : Code} (h : Runs c σ e) (hc : ∀ t ∈ c.nested, t.Plain) (hready : c.Ready state)
    (hs : state.Admits σ) : (c.outcome state).Admits e := by
  -- On the run, with the state free: a loop goes on from the same stable head in every round.
  induction h generalizing state with
  | pass => exact hs
  | @expr value σ =>
    have hvalue := (hc _ (mem_nested_self _)).assigned (e := value) (by simp [Stmt.expressions])
    exact hs.map fun henv => by rwa [Expr.effects_eq_self hvalue]
  | @assign targets value v σ σ' h ht =>
    have hself := hc _ (mem_nested_self _)
    have hvalue := hself.assigned (e := value) (by simp [Stmt.expressions])
    exact hs.map fun henv => fits_assignTo hvalue hself.overt h ht henv
  | declare => exact hs
  | @annAssign target hint value v σ σ' h ht =>
    have hself := hc _ (mem_nested_self _)
    have hvalue := hself.assigned (e := value) (by simp [Stmt.expressions])
    have hovert : ∀ kinds ∈ value.testedTypes, ¬ kinds.HidesNone := by simpa [Stmt.testedTypes] using hself.overt
    exact hs.map fun henv => fits_assignTo hvalue hovert h ⟨σ', ht, rfl⟩ henv
  | @augAssign target value op v σ σ' hv ht =>
    have hvalue := (hc _ (mem_nested_self _)).assigned (e := value) (by simp [Stmt.expressions])
    refine hs.map fun henv => ?_
    rw [Expr.effects_eq_self hvalue]
    exact ht.fits henv (n := .nonNull) hv
  | delete => exact hs.map fun henv => fits_unbind _ henv
  | assert h hv => exact h.admits_assume (hc _ (mem_nested_self _)).overt hv hs
  | @ifTrue line test body orelse v σ e h hv _ ih =>
    obtain ⟨hself, hb, -⟩ := forall_mem_nested_ifElse.mp hc
    have hstate : State.Admits (state.map test.effects) σ :=
      hs.map fun henv => by rwa [Expr.effects_eq_self (hself.assigned (by simp [Stmt.expressions]))]
    exact (ih (forall_mem_nestedOfBlock.mpr hb) trivial (h.admits_assume hself.overt hv hstate)).merge_left _
  | @ifFalse line test body orelse v σ e h hv _ ih =>
    obtain ⟨hself, -, ho⟩ := forall_mem_nested_ifElse.mp hc
    have hstate : State.Admits (state.map test.effects) σ :=
      hs.map fun henv => by rwa [Expr.effects_eq_self (hself.assigned (by simp [Stmt.expressions]))]
    rw [length_sitesOfBlock body (test.assume true (state.map test.effects))]
    exact (ih (forall_mem_nestedOfBlock.mpr ho) trivial (h.admits_assume hself.overt hv hstate)).merge_right _
  | @whileLoop test body orelse σ e _ ih =>
    obtain ⟨hself, hb, ho⟩ := forall_mem_nested_whileLoop.mp hc
    have hloop : ∀ t ∈ nestedOfBlock body ++ nestedOfBlock orelse, t.Plain :=
      List.forall_mem_append.mpr ⟨forall_mem_nestedOfBlock.mpr hb, forall_mem_nestedOfBlock.mpr ho⟩
    exact admits_loop _ (whileLoop_stable test body orelse state) hs fun head hstable hhead =>
      ih hloop ⟨hself.overt, hstable⟩ hhead
  | @forLoop isAsync target iter body orelse σ e _ ih =>
    obtain ⟨-, hb, ho⟩ := forall_mem_nested_forLoop.mp hc
    have hloop : ∀ t ∈ nestedOfBlock body ++ nestedOfBlock orelse, t.Plain :=
      List.forall_mem_append.mpr ⟨forall_mem_nestedOfBlock.mpr hb, forall_mem_nestedOfBlock.mpr ho⟩
    exact admits_loop _ (forLoop_stable isAsync target iter body orelse state) hs fun head hstable hhead =>
      ih hloop ⟨fun _ hkinds => absurd hkinds List.not_mem_nil, hstable⟩ hhead
  | breaks => exact hs
  | continues => exact hs
  | @ret position value v σ h =>
    have hvalue := (hc _ (mem_nested_self _)).assigned (e := value) (by simp [Stmt.expressions])
    exact ⟨_, rfl, hs.map fun henv => by simpa [Expr.effects_eq_self hvalue] using henv⟩
  | retNothing => exact ⟨_, rfl, hs.map fun henv => henv⟩
  | nil => exact hs
  | @cons s rest σ τ e _ _ ih ihrest =>
    have hplain := forall_mem_nestedOfBlock.mp hc
    have hnext := ih (hplain s (by simp)) trivial hs
    have hrest := ihrest (forall_mem_nestedOfBlock.mpr fun t ht => hplain t (List.mem_cons_of_mem _ ht)) trivial hnext
    rw [← length_returned_exec s state []]
    exact hrest.cons_right _
  | @leaves s rest σ e _ he ih =>
    have hplain := forall_mem_nestedOfBlock.mp hc
    exact (ih (hplain s (by simp)) trivial hs).cons_left he _
  | @round head body orelse σ τ σ' e e' henter _ he' _ ihbody ihloop =>
    obtain ⟨hovert, hstable⟩ := hready
    have hbody := ihbody (List.forall_mem_append.mp hc).1 trivial (henter.admits hovert hs)
    exact ihloop hc ⟨hovert, hstable⟩ (admits_stable hstable he' hbody)
  | exit henter _ ih =>
    have hbody := ih (List.forall_mem_append.mp hc).1 trivial (henter.admits hready.1 hs)
    exact State.Admits.mono hbody (State.le_join_right _ _)
  | returns henter _ ih =>
    have hbody := ih (List.forall_mem_append.mp hc).1 trivial (henter.admits hready.1 hs)
    exact Outcome.returned_left hbody
  | @done head body orelse σ e hleave _ ih =>
    have horelse := ih (List.forall_mem_append.mp hc).2 trivial (hleave.admits hready.1 hs)
    rw [length_sitesOfBlock body (head.enter state)]
    exact horelse.afterLoop_right _

end

theorem length_sites_eq (b : List Stmt) (guards : List Guard) :
    (sitesOfBlock b guards).length = (sitesOfBlock b []).length := by
  rw [length_sitesOfBlock b none, length_returned_execBlock (fun s _ => length_returned_exec s) none guards]

def End.From (sites : List Site) : End → Prop
  | .returned index σ v => ∃ site, sites[index]? = some site ∧ site.Yields σ v
  | _ => True

section

variable {xs ys : List Site} {e : End}

theorem End.From.left (h : e.From xs) (ys : List Site) : e.From (xs ++ ys) := by
  cases e with
  | returned index σ v =>
    obtain ⟨site, hsite, hv⟩ := h
    exact ⟨site, List.getElem?_append_left (List.getElem?_eq_some_iff.mp hsite).1 ▸ hsite, hv⟩
  | _ => trivial

theorem End.From.right (h : e.From ys) (xs : List Site) : (e.shift xs.length).From (xs ++ ys) := by
  cases e with
  | returned index σ v =>
    obtain ⟨site, hsite, hv⟩ := h
    exact ⟨site, by rw [List.getElem?_append_right (by omega), Nat.add_sub_cancel_left, hsite], hv⟩
  | _ => trivial

end

theorem Runs.from_sites {c : Code} {σ : Store} {e : End} (h : Runs c σ e) (guards : List Guard) :
    e.From (c.sites guards) := by
  induction h generalizing guards with
  | ifTrue _ _ _ ih => exact (ih _).left _
  | @ifFalse line test body orelse v σ e _ _ _ ih =>
    rw [← length_sites_eq body (guards ++ [⟨line, test, .yes⟩])]
    exact (ih _).right _
  | whileLoop _ ih => exact ih guards
  | forLoop _ ih => exact ih guards
  | ret h => exact ⟨_, rfl, h⟩
  | retNothing => exact ⟨_, rfl, rfl⟩
  | @cons s rest σ τ e _ _ _ ih =>
    rw [← length_returned_exec s none, length_returned_exec s none guards]
    exact (ih guards).right _
  | leaves _ _ ih => exact (ih guards).left _
  | round _ _ _ _ _ ih => exact ih guards
  | returns _ _ ih => exact (ih guards).left _
  | @done head body orelse σ e _ _ ih =>
    rw [← length_sites_eq body guards]
    exact (ih guards).right _
  | pass => trivial
  | expr => trivial
  | assign => trivial
  | declare => trivial
  | annAssign => trivial
  | augAssign => trivial
  | delete => trivial
  | assert => trivial
  | breaks => trivial
  | continues => trivial
  | nil => trivial
  | exit => trivial

namespace Function

def FlowSound (fn : Function) : Prop :=
  ∀ (read : Reader) (assumed entry : Env) (σ σ' : Store) (index : Nat) (v : Value),
    fn.entry read assumed = .ok entry → σ.Fits entry → Runs (.block fn.body) σ (.returned index σ' v) →
    ∃ site env verdict, fn.sites[index]? = some site ∧ site.Yields σ' v ∧
      (fn.returnStates entry)[index]? = some (some env) ∧ σ'.Fits env ∧
      flowOracle read fn assumed index site = .ok verdict ∧ verdict.Admits v

def testedTypes (fn : Function) : List Expr :=
  (nestedOfBlock fn.body).flatMap Stmt.testedTypes

variable {fn : Function}

theorem flowSound_of_plain (hplain : ∀ s ∈ nestedOfBlock fn.body, s.Plain) : fn.FlowSound := by
  intro read assumed entry σ σ' index v hentry hσ hrun
  obtain ⟨site, hsite, hv⟩ := hrun.from_sites []
  obtain ⟨state, hstate, env, rfl, henv⟩ := hrun.sound hplain trivial (.of_fits hσ)
  have hreturn : (fn.returnStates entry)[index]? = some (some env) := hstate
  have hverdict := flowOracle_of_entry hentry index site
  rw [hreturn] at hverdict
  refine ⟨site, env, _, hsite, hv, hreturn, henv, hverdict, ?_⟩
  have hsites : ∀ site ∈ fn.sites, (Stmt.ret site.position site.value).Plain :=
    forall_mem_sitesOfBlock fun s hs => forall_mem_sites (forall_mem_nestedOfBlock.mp hplain s hs) []
  have hovert := (hsites site (List.mem_of_getElem? hsite)).overt
  obtain ⟨position, value, guards⟩ := site
  cases value with
  | none => exact hv
  | some value =>
    have hvalue : ∀ kinds ∈ value.testedTypes, ¬ kinds.HidesNone := by simpa [Stmt.testedTypes] using hovert
    exact (Yields.sound hv hvalue henv).value

end Function

def returnsInstance (kinds : Expr) : Function :=
  .plain "f" ["x"] [
    .ifElse 2 (.call (.name "isinstance") [.name "x", kinds] []) [.ret ⟨3, 8⟩ (some (.name "x"))] [],
    .ret ⟨4, 4⟩ (some (.literal (.int 1)))]

def holdsNone : Store := Store.set (fun _ => none) "x" (some .none)

section

variable {kinds : Expr}

theorem assigned_typeTest (hkinds : kinds.assigned = []) :
    (Expr.call (.name "isinstance") [.name "x", kinds] []).assigned = [] := by
  simpa [Expr.assigned, Expr.subterms, Expr.subtermsOfList] using hkinds

theorem core_returnsInstance (hkinds : kinds.assigned = []) : ∀ s ∈ nestedOfBlock (returnsInstance kinds).body, s.Core := by
  have hnested : nestedOfBlock (returnsInstance kinds).body = [
      .ifElse 2 (.call (.name "isinstance") [.name "x", kinds] []) [.ret ⟨3, 8⟩ (some (.name "x"))] [],
      .ret ⟨3, 8⟩ (some (.name "x")), .ret ⟨4, 4⟩ (some (.literal (.int 1)))] := rfl
  rw [hnested]
  refine List.forall_mem_cons.mpr ⟨⟨rfl, ?_⟩, by decide⟩
  exact List.forall_mem_singleton.mpr (assigned_typeTest hkinds)

theorem runs_returnsInstance (hkinds : kinds.MentionsNone) :
    Runs (.block (returnsInstance kinds).body) holdsNone (.returned 0 holdsNone .none) := by
  have hcall : CallGives holdsNone (.name "isinstance") [.name "x", kinds] .truthy := by
    refine ⟨fun _ _ _ _ => by decide, fun id kinds' _ hargs hquiet => ?_⟩
    cases hargs
    exact absurd hkinds hquiet
  exact .leaves (.ifTrue (.call hcall) rfl (.leaves (.ret (.name rfl)) rfl)) rfl

theorem returnStates_returnsInstance (hassigned : kinds.assigned = []) (hkinds : kinds.mentionsNone = false) :
    ((returnsInstance kinds).returnStates ((∅ : Env).insert "x" .unknown))[0]? =
      some (some (((∅ : Env).insert "x" .unknown).insert "x" .nonNull)) := by
  have hname := Expr.effects_eq_self (e := .name "x") rfl
  have hassume : (Expr.call (.name "isinstance") [.name "x", kinds] []).assume true
      (some ((∅ : Env).insert "x" .unknown)) = some (((∅ : Env).insert "x" .unknown).insert "x" .nonNull) := by
    simp only [Expr.assume, Option.bind_some, Expr.meaning, Meaning.call, Meaning.typeTest?, hkinds]
    rfl
  simp [Function.returnStates, returnsInstance, Function.plain, execBlock, Stmt.exec,
    Expr.effects_eq_self (assigned_typeTest hassigned), hassume, hname, Outcome.cons, Outcome.followedBy, Outcome.merge]

theorem not_flowSound_returnsInstance (hassigned : kinds.assigned = []) (hkinds : kinds.HidesNone) :
    ¬ (returnsInstance kinds).FlowSound := by
  intro hsound
  have hentry : (returnsInstance kinds).entry readLiteral ∅ = .ok ((∅ : Env).insert "x" .unknown) := rfl
  have hfits : holdsNone.Fits ((∅ : Env).insert "x" .unknown) := Store.Fits.set (fun _ => trivial) trivial
  obtain ⟨site, env, verdict, -, -, hstate, henv, -, -⟩ :=
    hsound readLiteral ∅ _ holdsNone holdsNone 0 .none hentry hfits (runs_returnsInstance hkinds.1)
  rw [returnStates_returnsInstance hassigned (Expr.mentionsNone_eq_false.mpr hkinds.2)] at hstate
  cases hstate
  have hx := henv "x"
  rw [Env.getElem?_insert, if_pos rfl] at hx
  exact hx rfl

theorem Stmt.assigned_of_testedTypes {s : Stmt} (h : s.Core) (hkinds : kinds ∈ s.testedTypes) : kinds.assigned = [] := by
  obtain ⟨e, he, hkinds⟩ : ∃ e ∈ s.expressions, kinds ∈ e.testedTypes := by
    unfold testedTypes at hkinds
    split at hkinds
    all_goals simp_all [Stmt.expressions]
  exact Expr.assigned_of_subterm (Expr.testedTypes_subset_subterms hkinds) (h.2 e he)

end

theorem flowOracle_sound_iff (types : Expr → Prop) :
    (∀ fn : Function, (∀ s ∈ nestedOfBlock fn.body, s.Core) → (∀ kinds ∈ fn.testedTypes, types kinds) → fn.FlowSound) ↔
      ∀ kinds, types kinds → kinds.assigned = [] → ¬ kinds.HidesNone := by
  constructor
  · intro h kinds hkinds hassigned hhides
    refine not_flowSound_returnsInstance hassigned hhides (h _ (core_returnsInstance hassigned) fun kinds' hmem => ?_)
    obtain rfl : kinds' = kinds := List.mem_singleton.mp hmem
    exact hkinds
  · intro h fn hcore htypes
    refine Function.flowSound_of_plain fun s hs => ⟨hcore s hs, fun kinds hkinds => ?_⟩
    have hmem : kinds ∈ fn.testedTypes := List.mem_flatMap.mpr ⟨s, hs, hkinds⟩
    exact h kinds (htypes kinds hmem) (Stmt.assigned_of_testedTypes (hcore s hs) hkinds)

def firstTrue : Function :=
  .plain "first_true" ["x", "xs"] [
    .assign [.name "y"] (.literal .none),
    .forLoop false (.name "y") (.name "xs")
      [.ifElse 4 (.compare (.name "x") [.is] [.literal .none]) [.continue] [],
        .ifElse 6 (.name "y") [.break] []]
      [.assign [.name "y"] (.name "x")],
    .ret ⟨10, 4⟩ (some (.name "y"))]

def firstTrueStart : Store :=
  (Store.set (fun _ => none) "x" (some .truthy)).set "xs" (some .truthy)

def firstTrueEnd : Store :=
  ((firstTrueStart.set "y" (some .none)).set "y" (some .falsy)).set "y" (some .truthy)

theorem firstTrue_runs : Runs (.block firstTrue.body) firstTrueStart (.returned 0 firstTrueEnd .truthy) := by
  have htest : ∀ {σ : Store}, σ "x" = some .truthy → Yields σ (.compare (.name "x") [.is] [.literal .none]) .falsy :=
    fun h => .same (.inl rfl) (.inr rfl) (.name h) (.literal .none)
  let missed := (firstTrueStart.set "y" (some .none)).set "y" (some .falsy)
  refine .cons (e := .returned 0 _ _) (.assign (.literal _) ⟨_, .name, rfl⟩) ?_
  refine .cons (e := .returned 0 _ _) (.forLoop ?_) (.leaves (.ret (.name rfl)) rfl)
  refine @Runs.round _ _ _ _ missed missed _ _ (.each .name) ?_ (.inl rfl)
    (.exit (.each (.name (v := .truthy))) ?_)
  · refine .cons (e := .next _) (.ifFalse (e := .next _) (htest rfl) rfl .nil) (.cons (e := .next _) ?_ .nil)
    exact .ifFalse (e := .next _) (.name rfl) rfl .nil
  · refine .cons (e := .broke _) (.ifFalse (e := .next _) (htest rfl) rfl .nil) (.leaves ?_ rfl)
    exact .ifTrue (.name rfl) rfl (.leaves .breaks rfl)

theorem flowOracle_sound_iff_firstTrue :
    ∃ site env verdict, firstTrue.sites[0]? = some site ∧ site.Yields firstTrueEnd .truthy ∧
      (firstTrue.returnStates (((∅ : Env).insert "x" .nonNull).insert "xs" .unknown))[0]? = some (some env) ∧
      firstTrueEnd.Fits env ∧
      flowOracle readLiteral firstTrue ((∅ : Env).insert "x" .nonNull) 0 site =
        .ok verdict ∧ verdict.Admits .truthy := by
  have hempty : Store.Fits (fun _ => none) ∅ := fun x => by simp [slotFits]
  have hstart : firstTrueStart.Fits (((∅ : Env).insert "x" .nonNull).insert "xs" .unknown) :=
    (hempty.set (by decide)).set (by decide)
  have hsound := (flowOracle_sound_iff fun kinds => ¬ kinds.HidesNone).mpr (fun _ h _ => h) firstTrue (by decide)
    fun _ hkinds => absurd hkinds List.not_mem_nil
  exact hsound _ _ _ _ _ _ _ rfl hstart firstTrue_runs

def memberNoneType : Expr :=
  .member (.name "types") "NoneType"

theorem not_flowOracle_sound_memberNoneType :
    memberNoneType.MentionsNone ∧ (∀ s ∈ nestedOfBlock (returnsInstance memberNoneType).body, s.Core) ∧
    Runs (.block (returnsInstance memberNoneType).body) holdsNone (.returned 0 holdsNone .none) ∧
    (∀ guards, flowOracle readLiteral (returnsInstance memberNoneType) ∅ 0 ⟨⟨3, 8⟩, some (.name "x"), guards⟩ =
      .ok .nonNull) ∧
    ¬ (returnsInstance memberNoneType).FlowSound := by
  have hmentions : memberNoneType.MentionsNone := ⟨memberNoneType, Expr.mem_subterms_self _, rfl⟩
  have hhides : memberNoneType.HidesNone := ⟨hmentions, Expr.mentionsNone_eq_false.mp (by decide)⟩
  refine ⟨hmentions, core_returnsInstance (by decide), runs_returnsInstance hmentions, fun guards => ?_,
    not_flowSound_returnsInstance (by decide) hhides⟩
  have hentry : (returnsInstance memberNoneType).entry readLiteral ∅ = .ok ((∅ : Env).insert "x" .unknown) := rfl
  rw [flowOracle_of_entry hentry, returnStates_returnsInstance (by decide) (by decide)]
  rfl

end NullContract
