import NullContract.Proofs.FlowInvariant

namespace NullContract

namespace Outcome

structure Resumes (P : Env → Prop) (o : Outcome) : Prop where
  next : o.next.All P
  continued : o.continued.All P
  raised : o.raised.All P

theorem All.resumes {P : Env → Prop} {o : Outcome} (h : o.All P) : o.Resumes P :=
  ⟨h.next, h.continued, h.raised⟩

def mergeAll (outs : List Outcome) : Outcome :=
  outs.foldr merge { next := none }

section

variable {f : Outcome → State} (hmerge : ∀ a b, f (a.merge b) = (f a).join (f b)) {outs : List Outcome}

include hmerge

-- `f` picks one of the states of an outcome; all but those at the returns are joined by a merge.
theorem all_mergeAll {P : Env → Prop} (hP : ∀ {a b}, P a → P b → P (a.join b)) (hnone : f { next := none } = none)
    (h : ∀ o ∈ outs, (f o).All P) : (f (mergeAll outs)).All P := by
  induction outs with
  | nil =>
    rw [mergeAll, List.foldr_nil, hnone]
    exact State.all_none
  | cons o rest ih =>
    rw [List.forall_mem_cons] at h
    rw [mergeAll, List.foldr_cons, hmerge]
    exact h.1.join hP (ih h.2)

theorem le_mergeAll {o : Outcome} (h : o ∈ outs) : f o ≤ f (mergeAll outs) := by
  induction outs with
  | nil => cases h
  | cons o' rest ih =>
    rw [mergeAll, List.foldr_cons, hmerge]
    rcases List.mem_cons.mp h with rfl | h
    · exact State.le_join_left _ _
    · exact (ih h).trans (State.le_join_right _ _)

end

end Outcome

theorem execHandlers_eq_mergeAll (hs : List Handler) (state : State) :
    execHandlers hs state =
      .mergeAll (hs.map fun h => execBlock h.body (state.map (·.bindAll h.name.toList .nonNull))) := by
  induction hs with
  | nil => rfl
  | cons h rest ih =>
    obtain ⟨forGroups, kind, name, body⟩ := h
    simp only [execHandlers, ih]
    rfl

theorem execCases_eq_mergeAll (subject : Expr) (cs : List Case) (state : State) :
    execCases subject cs state =
      .mergeAll (cs.map fun c => execBlock c.body (caseEntry subject c.pattern c.guard state)) := by
  induction cs with
  | nil => rfl
  | cons c rest ih =>
    obtain ⟨pattern, guard, body⟩ := c
    simp only [execCases, ih]
    rfl

/-- `s.Starts state b t`: analysing the statement from `state` starts its block `b` in the state `t`. -/
inductive Stmt.Starts : Stmt → State → List Stmt → State → Prop where
  | forRound {isAsync : Bool} {target iter : Expr} {body orelse : List Stmt} {state head : State}
      (h : head ∈ heads (fun head => execBlock body (head.map (target.bind .unknown)))
        (loopFuel (Stmt.forLoop isAsync target iter body orelse).names state) state) :
      Starts (.forLoop isAsync target iter body orelse) state body (head.map (target.bind .unknown))
  | forElse {isAsync : Bool} {target iter : Expr} {body orelse : List Stmt} {state : State} :
      Starts (.forLoop isAsync target iter body orelse) state orelse
        (iterate (fun head => execBlock body (head.map (target.bind .unknown)))
          (loopFuel (Stmt.forLoop isAsync target iter body orelse).names state) state).1
  | whileRound {test : Expr} {body orelse : List Stmt} {state head : State}
      (h : head ∈ heads (fun head => execBlock body (test.assume true head))
        (loopFuel (Stmt.whileLoop test body orelse).names state) state) :
      Starts (.whileLoop test body orelse) state body (test.assume true head)
  | whileElse {test : Expr} {body orelse : List Stmt} {state : State} :
      Starts (.whileLoop test body orelse) state orelse
        (test.assume false (iterate (fun head => execBlock body (test.assume true head))
          (loopFuel (Stmt.whileLoop test body orelse).names state) state).1)
  | ifTrue {line : Nat} {test : Expr} {body orelse : List Stmt} {state : State} :
      Starts (.ifElse line test body orelse) state body (test.assume true (state.map test.effects))
  | ifFalse {line : Nat} {test : Expr} {body orelse : List Stmt} {state : State} :
      Starts (.ifElse line test body orelse) state orelse (test.assume false (state.map test.effects))
  | withBody {isAsync : Bool} {items : List WithItem} {body : List Stmt} {state : State} :
      Starts (.withBlock isAsync items body) state body (state.map (items.foldl bindItem ·))
  | caseBody {subject : Expr} {cases : List Case} {c : Case} {state : State} (h : c ∈ cases) :
      Starts (.matchCases subject cases) state c.body (caseEntry subject c.pattern c.guard state)
  | tryBody {body : List Stmt} {handlers : List Handler} {orelse final : List Stmt} {state : State} :
      Starts (.tryBlock body handlers orelse final) state body state
  | handlerBody {body : List Stmt} {handlers : List Handler} {orelse final : List Stmt} {handler : Handler}
      {state : State} (h : handler ∈ handlers) :
      Starts (.tryBlock body handlers orelse final) state handler.body
        ((handlerEntry state (execBlock body state)).map (·.bindAll handler.name.toList .nonNull))
  | tryElse {body : List Stmt} {handlers : List Handler} {orelse final : List Stmt} {state : State} :
      Starts (.tryBlock body handlers orelse final) state orelse (execBlock body state).next
  | finalBody {body : List Stmt} {handlers : List Handler} {orelse final : List Stmt} {state : State} :
      Starts (.tryBlock body handlers orelse final) state final
        (finalEntry
          ((execBlock body state).followedBy ((execHandlers handlers (handlerEntry state (execBlock body state))).merge
            (execBlock orelse (execBlock body state).next))).next
          (handlerEntry state (execBlock body state)))

/-- `Visits b state b' t`: the analysis of the block `b` from `state` comes to the block or rest of a block `b'` in the
state `t`. -/
inductive Visits : List Stmt → State → List Stmt → State → Prop where
  | refl {b : List Stmt} {state : State} : Visits b state b state
  | next {s : Stmt} {rest b : List Stmt} {state t : State} (h : Visits rest (s.exec state).next b t) :
      Visits (s :: rest) state b t
  | inside {s : Stmt} {rest b b' : List Stmt} {state t t' : State} (hs : s.Starts state b t) (h : Visits b t b' t') :
      Visits (s :: rest) state b' t'

theorem nested_of_starts {s : Stmt} {state t : State} {b : List Stmt} (h : s.Starts state b t) :
    ∀ u ∈ nestedOfBlock b, u ∈ s.nested := by
  cases h with
  | forRound => exact forall_mem_nestedOfBlock.mpr (forall_mem_nested_forLoop.mp fun _ hu => hu).2.1
  | forElse => exact forall_mem_nestedOfBlock.mpr (forall_mem_nested_forLoop.mp fun _ hu => hu).2.2
  | whileRound => exact forall_mem_nestedOfBlock.mpr (forall_mem_nested_whileLoop.mp fun _ hu => hu).2.1
  | whileElse => exact forall_mem_nestedOfBlock.mpr (forall_mem_nested_whileLoop.mp fun _ hu => hu).2.2
  | ifTrue => exact forall_mem_nestedOfBlock.mpr (forall_mem_nested_ifElse.mp fun _ hu => hu).2.1
  | ifFalse => exact forall_mem_nestedOfBlock.mpr (forall_mem_nested_ifElse.mp fun _ hu => hu).2.2
  | withBody => exact forall_mem_nestedOfBlock.mpr (forall_mem_nested_withBlock.mp fun _ hu => hu).2
  | caseBody hc => exact forall_mem_nestedOfBlock.mpr ((forall_mem_nested_matchCases.mp fun _ hu => hu).2 _ hc)
  | tryBody => exact forall_mem_nestedOfBlock.mpr (forall_mem_nested_tryBlock.mp fun _ hu => hu).2.1
  | handlerBody hh => exact forall_mem_nestedOfBlock.mpr ((forall_mem_nested_tryBlock.mp fun _ hu => hu).2.2.1 _ hh)
  | tryElse => exact forall_mem_nestedOfBlock.mpr (forall_mem_nested_tryBlock.mp fun _ hu => hu).2.2.2.1
  | finalBody => exact forall_mem_nestedOfBlock.mpr (forall_mem_nested_tryBlock.mp fun _ hu => hu).2.2.2.2

namespace Invariant

variable {I : Invariant} {state t : State} {b b' : List Stmt}

theorem all_heads {body : List Stmt} {enter : State → State} {fuel : Nat}
    (henter : ∀ head : State, head.All I.holds → (enter head).All I.holds)
    (hround : ∀ head ∈ heads (fun head => execBlock body (enter head)) fuel state,
      (enter head).All I.holds → (execBlock body (enter head)).Resumes I.holds)
    (hs : state.All I.holds) :
    ∀ head ∈ heads (fun head => execBlock body (enter head)) fuel state, head.All I.holds := by
  refine heads_induction (fun head hmem hhead => ?_) hs
  have hout := hround head hmem (henter head hhead)
  exact (hhead.join I.join hout.next).join I.join hout.continued

theorem all_handlerStart {handlers : List Handler} {handler : Handler}
    (hnames : ∀ x ∈ handlers.flatMap fun h => h.name.toList, I.binds x) (h : handler ∈ handlers)
    (hs : state.All I.holds) : State.All I.holds (state.map (·.bindAll handler.name.toList .nonNull)) := by
  refine hs.map fun env henv => holds_bindAll (fun x hx => ?_) I.yields_nonNull henv
  exact hnames x (List.mem_flatMap.mpr ⟨handler, h, hx⟩)

theorem all_starts_of_resumes {s : Stmt} (hself : I.FitsStmt s) (hs : state.All I.holds)
    (hblocks : ∀ b t, s.Starts state b t → t.All I.holds → (execBlock b t).Resumes I.holds) (h : s.Starts state b t) :
    t.All I.holds := by
  cases h with
  | @forRound isAsync target iter body orelse _ head h =>
    have henter : ∀ head : State, head.All I.holds → State.All I.holds (head.map (target.bind .unknown)) :=
      fun head hhead => hhead.map fun env henv => holds_bind hself.targets I.yields_unknown henv
    exact henter head (all_heads henter (fun head hmem => hblocks _ _ (.forRound hmem)) hs head h)
  | @forElse isAsync target iter body orelse =>
    have henter : ∀ head : State, head.All I.holds → State.All I.holds (head.map (target.bind .unknown)) :=
      fun head hhead => hhead.map fun env henv => holds_bind hself.targets I.yields_unknown henv
    exact all_heads henter (fun head hmem => hblocks _ _ (.forRound hmem)) hs _ (fst_iterate_mem_heads _ _ _)
  | @whileRound test body orelse _ head h =>
    have htest := hself.judges test (by simp [Stmt.judges])
    have hheads := all_heads (fun _ => all_assume htest true) (fun head hmem => hblocks _ _ (.whileRound hmem)) hs
    exact all_assume htest true (hheads head h)
  | @whileElse test body orelse =>
    have htest := hself.judges test (by simp [Stmt.judges])
    have hheads := all_heads (fun _ => all_assume htest true) (fun head hmem => hblocks _ _ (.whileRound hmem)) hs
    exact all_assume htest false (hheads _ (fst_iterate_mem_heads _ _ _))
  | @ifTrue line test body orelse =>
    have htest := hself.judges test (by simp [Stmt.judges])
    exact all_assume htest true (hs.map fun env henv => holds_effects htest henv)
  | @ifFalse line test body orelse =>
    have htest := hself.judges test (by simp [Stmt.judges])
    exact all_assume htest false (hs.map fun env henv => holds_effects htest henv)
  | withBody => exact hs.map fun env henv => holds_bindItem hself.targets henv
  | caseBody hc => exact all_caseEntries hself hs _ hc
  | tryBody => exact hs
  | handlerBody hmem => exact all_handlerStart hself.targets hmem (hs.join I.join (hblocks _ _ .tryBody hs).raised)
  | tryElse => exact (hblocks _ _ .tryBody hs).next
  | @finalBody body handlers orelse final =>
    have hbody := hblocks _ _ .tryBody hs
    have hentry := hs.join I.join hbody.raised
    have hhandlers : (execHandlers handlers (handlerEntry state (execBlock body state))).next.All I.holds := by
      rw [execHandlers_eq_mergeAll]
      refine Outcome.all_mergeAll (fun _ _ => rfl) I.join rfl (List.forall_mem_map.mpr fun handler hmem => ?_)
      exact (hblocks _ _ (.handlerBody hmem) (all_handlerStart hself.targets hmem hentry)).next
    exact all_finalEntry (hhandlers.join I.join (hblocks _ _ .tryElse hbody.next).next) hentry

theorem all_starts {s : Stmt} (hfits : ∀ u ∈ s.nested, I.FitsStmt u) (h : s.Starts state b t) (hs : state.All I.holds) :
    (∀ u ∈ nestedOfBlock b, I.FitsStmt u) ∧ t.All I.holds := by
  have hblock : ∀ b t, s.Starts state b t → ∀ u ∈ nestedOfBlock b, I.FitsStmt u :=
    fun b t h u hu => hfits u (nested_of_starts h u hu)
  refine ⟨hblock b t h, all_starts_of_resumes (hfits s (mem_nested_self s)) hs (fun b t h ht => ?_) h⟩
  exact (all_execBlock_of_fits (hblock b t h) ht).resumes

theorem fits_visits (h : Visits b state b' t) (hfits : ∀ u ∈ nestedOfBlock b, I.FitsStmt u) (hs : state.All I.holds) :
    (∀ u ∈ nestedOfBlock b', I.FitsStmt u) ∧ t.All I.holds := by
  induction h with
  | refl => exact ⟨hfits, hs⟩
  | @next s rest b state t _ ih =>
    have hall := forall_mem_nestedOfBlock.mp hfits
    have hrest := forall_mem_nestedOfBlock.mpr fun u hu => hall u (List.mem_cons_of_mem _ hu)
    exact ih hrest (all_exec (hall s (by simp)) hs).next
  | @inside s rest b b' state t t' hstart _ ih =>
    have hall := forall_mem_nestedOfBlock.mp hfits
    obtain ⟨hfits', ht⟩ := all_starts (hall s (by simp)) hstart hs
    exact ih hfits' ht

theorem all_visits (h : Visits b state b' t) (hfits : ∀ u ∈ nestedOfBlock b, I.FitsStmt u) (hs : state.All I.holds) :
    t.All I.holds ∧ (execBlock b' t).All I.holds := by
  obtain ⟨hfits', ht⟩ := fits_visits h hfits hs
  exact ⟨ht, all_execBlock_of_fits hfits' ht⟩

end Invariant

end NullContract
