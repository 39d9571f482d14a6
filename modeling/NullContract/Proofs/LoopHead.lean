import Mathlib.Data.Finset.Card
import NullContract.Proofs.FlowInvariant
import NullContract.Proofs.Names

namespace NullContract

theorem Env.Within.insert {names : Finset String} {env : Env} (h : env.Within names) {x : String} (hx : x ∈ names)
    (v : Nullness) : Env.Within names (env.insert x v) := by
  intro y hy
  have hne : x ≠ y := by
    rintro rfl
    exact hy hx
  rw [Env.getElem?_insert, if_neg hne, h y hy]

namespace Invariant

def within (names : Finset String) : Invariant where
  holds := Env.Within names
  binds := (· ∈ names)
  reads := (· ∈ names)
  yields := fun _ => True
  yields_nonNull := trivial
  yields_unknown := trivial
  yields_join := fun _ _ => trivial
  verdict := fun _ _ => trivial
  join := by
    intro a b ha hb x hx
    rw [Env.getElem?_join, ha x hx, hb x hx]
    rfl
  insert := fun henv hx _ => henv.insert hx _
  erase := by
    intro env x henv _ y hy
    rw [Env.getElem?_erase, henv y hy, ite_self]
  refine_nonNull := by
    intro env env' x henv hx h
    obtain ⟨-, -, rfl⟩ := Env.refine_eq_some.mp h
    exact henv.insert hx _
  refine_null := by
    intro env env' x henv hx _ h
    obtain ⟨-, -, rfl⟩ := Env.refine_eq_some.mp h
    exact henv.insert hx _

def unreachable (binds : String → Prop) : Invariant where
  holds := fun _ => False
  binds := binds
  reads := fun _ => True
  yields := fun _ => True
  yields_nonNull := trivial
  yields_unknown := trivial
  yields_join := fun _ _ => trivial
  verdict := False.elim
  join := fun h _ => h
  insert := fun h _ _ => h
  erase := fun h _ => h
  refine_nonNull := fun h _ _ => h
  refine_null := fun h _ _ _ => h

theorem unreachable_fitsExpr {binds : String → Prop} {e : Expr} (h : ∀ x ∈ e.assigned, binds x) :
    (unreachable binds).FitsExpr e := by
  intro t ht
  unfold FitsNode
  split
  · trivial
  · trivial
  · next target value => exact ⟨h target (List.mem_filterMap.mpr ⟨_, ht, rfl⟩), trivial⟩
  · trivial

theorem unreachable_fitsStmt (s : Stmt) : (unreachable fun _ => True).FitsStmt s where
  targets := fun _ _ => trivial
  judges := fun _ _ => unreachable_fitsExpr fun _ _ => trivial
  triesNone := fun _ => trivial

end Invariant

theorem State.all_false {state : State} : state.All (fun _ => False) ↔ state = none := by
  cases state with
  | none => simp [State.all_none]
  | some env => simp [State.all_some]

theorem execBlock_none (b : List Stmt) : (execBlock b none).All (fun _ => False) :=
  Invariant.all_execBlock_of_fits (I := Invariant.unreachable fun _ => True)
    (fun s _ => Invariant.unreachable_fitsStmt s) State.all_none

theorem Expr.effects_eq_self {e : Expr} (h : e.assigned = []) (env : Env) : e.effects env = env := by
  have hkeeps := Invariant.keeps_meaning (Invariant.unreachable_fitsExpr (e := e) fun _ hx => hx)
  have hnil : e.meaning.bindings.flatten = [] := by
    refine List.eq_nil_iff_forall_not_mem.mpr fun p hp => ?_
    have hmem : p.1 ∈ e.assigned := (hkeeps.bindings p hp).1
    rw [h] at hmem
    cases hmem
  rw [effects, Meaning.apply, hnil, List.foldl_nil]

namespace Invariant

variable {names : Finset String}

theorem within_fitsExpr {e : Expr} (h : ∀ x ∈ e.names, x ∈ names) : (within names).FitsExpr e := by
  intro t ht
  have hname := fun x hx => h x (Expr.mem_names_of_subterms ht hx)
  unfold FitsNode
  split
  · trivial
  · exact hname _ rfl
  · exact ⟨hname _ rfl, hname _ rfl⟩
  · trivial

theorem within_fitsStmt {s : Stmt} (h : ∀ x ∈ s.names, x ∈ names) : ∀ t ∈ s.nested, (within names).FitsStmt t := by
  intro t ht
  have hsub := fun x hx => h x (names_subset_of_nested s t ht x hx)
  exact {
    targets := fun x hx => hsub x (targets_subset_names x hx)
    judges := fun e he => within_fitsExpr fun x hx => hsub x (judges_names_subset e he x hx)
    triesNone := fun _ => trivial }

end Invariant

/-- What the analysis runs of a loop: the states in which a round and the else block start when the loop is at its head,
and the two blocks. -/
structure Loop where
  enter : State → State
  leave : State → State
  body : List Stmt
  orelse : List Stmt

def Loop.round (loop : Loop) (head : State) : Outcome :=
  execBlock loop.body (loop.enter head)

def Stmt.loop? : Stmt → Option Loop
  | forLoop _ target _ body orelse => some ⟨fun head => head.map (target.bind .unknown), id, body, orelse⟩
  | whileLoop test body orelse => some ⟨test.assume true, test.assume false, body, orelse⟩
  | _ => none

section

variable {s : Stmt} {loop : Loop} {known : Finset String} {state : State}

theorem enter_none (h : s.loop? = some loop) : loop.enter none = none := by
  cases s with
  | forLoop isAsync target iter body orelse =>
    cases h
    rfl
  | whileLoop test body orelse =>
    cases h
    rfl
  | _ => cases h

theorem names_of_loop (h : s.loop? = some loop) : ∀ t ∈ loop.body, ∀ x ∈ t.names, x ∈ s.names := by
  intro t ht x hx
  cases s with
  | forLoop isAsync target iter body orelse =>
    cases h
    simp only [Stmt.names, namesOfBlock_eq_flatMap, List.mem_append, List.mem_flatMap]
    exact .inl (.inr ⟨t, ht, hx⟩)
  | whileLoop test body orelse =>
    cases h
    simp only [Stmt.names, namesOfBlock_eq_flatMap, List.mem_append, List.mem_flatMap]
    exact .inl (.inr ⟨t, ht, hx⟩)
  | _ => cases h

theorem within_enter (h : s.loop? = some loop) (hknown : ∀ x ∈ s.names, x ∈ known)
    (hstate : state.All (Env.Within known)) : (loop.enter state).All (Env.Within known) := by
  cases s with
  | forLoop isAsync target iter body orelse =>
    cases h
    refine hstate.map fun env henv =>
      Invariant.holds_bind (I := Invariant.within known) (fun x hx => hknown x ?_) trivial henv
    exact List.mem_append_left _ (List.mem_append_left _ (Expr.targetNames_subset_names hx))
  | whileLoop test body orelse =>
    cases h
    refine Invariant.all_assume (I := Invariant.within known) (Invariant.within_fitsExpr fun x hx => hknown x ?_) true
      hstate
    exact List.mem_append_left _ (List.mem_append_left _ hx)
  | _ => cases h

theorem within_nextHead (h : s.loop? = some loop) (hknown : ∀ x ∈ s.names, x ∈ known)
    (hstate : state.All (Env.Within known)) : ((loop.round state).nextHead state).All (Env.Within known) := by
  have hfits : ∀ t ∈ nestedOfBlock loop.body, (Invariant.within known).FitsStmt t :=
    forall_mem_nestedOfBlock.mpr fun t ht =>
      Invariant.within_fitsStmt fun x hx => hknown x (names_of_loop h t ht x hx)
  have hround := Invariant.all_execBlock_of_fits hfits (within_enter h hknown hstate)
  have hjoin := fun {a b : Env} => (Invariant.within known).join (a := a) (b := b)
  exact (hstate.join hjoin hround.next).join hjoin hround.continued

theorem Env.within_keys (env : Env) (names : List String) : env.Within (env.keys ++ names).toFinset := by
  intro x hx
  apply Std.ExtTreeMap.getElem?_eq_none
  rw [← Std.ExtTreeMap.mem_keys]
  intro hmem
  apply hx
  simp [hmem]

theorem exists_rounds_of_env (h : s.loop? = some loop) (env : Env) :
    ∃ heads final out, Rounds loop.round (some env) heads final out ∧
      heads.length ≤ 2 * (env.keys ++ s.names).toFinset.card + 1 := by
  have hknown : ∀ x ∈ s.names, x ∈ (env.keys ++ s.names).toFinset := by
    intro x hx
    simp [hx]
  obtain ⟨heads, final, out, hrounds, hlength⟩ := exists_rounds (env.keys ++ s.names).toFinset
    (fun a b ha hnext => within_nextHead h hknown (State.all_some.mpr ha) b hnext) (env.within_keys s.names)
  exact ⟨heads, final, out, hrounds, by omega⟩

theorem stable_none (h : s.loop? = some loop) : Stable loop.round none := by
  have hnone := execBlock_none loop.body
  have hnext := State.all_false.mp hnone.next
  have hcontinued := State.all_false.mp hnone.continued
  simp [Stable, Loop.round, enter_none h, Outcome.nextHead, hnext, hcontinued]

theorem exists_rounds_of_loop (h : s.loop? = some loop) (state : State) :
    ∃ heads final out, Rounds loop.round state heads final out ∧ heads.length ≤ loopFuel s.names state + 1 := by
  cases state with
  | none => exact ⟨_, _, _, .last (stable_none h), by simp⟩
  | some env =>
    obtain ⟨heads, final, out, hrounds, hlength⟩ := exists_rounds_of_env h env
    have hcard : (env.keys ++ s.names).toFinset.card ≤ env.size + s.names.length := by
      calc (env.keys ++ s.names).toFinset.card ≤ (env.keys ++ s.names).length := List.toFinset_card_le _
        _ = env.size + s.names.length := by rw [List.length_append, Std.ExtTreeMap.length_keys]
    refine ⟨heads, final, out, hrounds, ?_⟩
    simp only [loopFuel]
    omega

theorem loop_stable (h : s.loop? = some loop) (state : State) :
    Stable loop.round (iterate loop.round (loopFuel s.names state) state).1 := by
  obtain ⟨heads, final, out, hrounds, hlength⟩ := exists_rounds_of_loop h state
  rw [hrounds.iterate_eq hlength]
  exact hrounds.stable

end

theorem whileLoop_stable (test : Expr) (body orelse : List Stmt) (state : State) :
    Stable (fun head => execBlock body (test.assume true head))
      (iterate (fun head => execBlock body (test.assume true head))
        (loopFuel (Stmt.whileLoop test body orelse).names state) state).1 :=
  loop_stable (s := .whileLoop test body orelse) rfl state

theorem forLoop_stable (isAsync : Bool) (target iter : Expr) (body orelse : List Stmt) (state : State) :
    Stable (fun head => execBlock body (head.map (target.bind .unknown)))
      (iterate (fun head => execBlock body (head.map (target.bind .unknown)))
        (loopFuel (Stmt.forLoop isAsync target iter body orelse).names state) state).1 :=
  loop_stable (s := .forLoop isAsync target iter body orelse) rfl state

end NullContract
