import NullContract.Proofs.Invariant

namespace NullContract

structure Outcome.All (P : Env → Prop) (o : Outcome) : Prop where
  next : o.next.All P
  broke : o.broke.All P
  continued : o.continued.All P
  raised : o.raised.All P
  returned : ∀ state ∈ o.returned, state.All P

namespace Outcome.All

variable {P : Env → Prop} {a b : Outcome}

theorem ofNext {state : State} (h : state.All P) : All P { next := state } where
  next := h
  broke := State.all_none
  continued := State.all_none
  raised := State.all_none
  returned := by simp

variable (hP : ∀ {a b}, P a → P b → P (a.join b))

include hP

theorem merge (ha : a.All P) (hb : b.All P) : (a.merge b).All P where
  next := ha.next.join hP hb.next
  broke := ha.broke.join hP hb.broke
  continued := ha.continued.join hP hb.continued
  raised := ha.raised.join hP hb.raised
  returned := fun state h => (List.mem_append.mp h).elim (ha.returned state) (hb.returned state)

theorem followedBy (ha : a.All P) (hb : b.All P) : (a.followedBy b).All P :=
  { merge hP ha hb with next := hb.next }

theorem cons (ha : a.All P) (hb : b.All P) : (a.cons b).All P :=
  { followedBy hP ha hb with raised := ha.next.join hP (ha.raised.join hP hb.raised) }

theorem afterLoop (ha : a.All P) (hb : b.All P) : (a.afterLoop b).All P where
  next := hb.next.join hP ha.broke
  broke := hb.broke
  continued := hb.continued
  raised := ha.raised.join hP hb.raised
  returned := fun state h => (List.mem_append.mp h).elim (ha.returned state) (hb.returned state)

theorem withEarlier (ha : a.All P) (hb : b.All P) : (a.withEarlier b).All P :=
  { hb with
    raised := ha.raised.join hP hb.raised
    returned := by
      intro state h
      obtain ⟨i, hi⟩ := List.mem_iff_getElem?.mp h
      simp only [Outcome.withEarlier, List.getElem?_zipWith_eq_some] at hi
      obtain ⟨s, t, hs, ht, rfl⟩ := hi
      exact (ha.returned s (List.mem_of_getElem? hs)).join hP (hb.returned t (List.mem_of_getElem? ht)) }

theorem iterate {round : State → Outcome} (hround : ∀ head : State, head.All P → (round head).All P) (fuel : Nat)
    {head : State} (h : head.All P) :
    (iterate round fuel head).1.All P ∧ (iterate round fuel head).2.All P := by
  refine iterate_induction (fun t ht => ?_) (fun _ _ => withEarlier hP) fuel h
  have hr := hround t ht
  exact ⟨hr, (ht.join hP hr.next).join hP hr.continued⟩

end Outcome.All

namespace Invariant

variable (I : Invariant)

structure FitsStmt (s : Stmt) : Prop where
  targets : ∀ x ∈ s.targets, I.binds x
  judges : ∀ e ∈ s.judges, I.FitsExpr e
  triesNone : s.triesNone = true → I.yields .null

variable {I}

theorem holds_bindItems {items : List Expr}
    (ih : ∀ e ∈ items, ∀ (v : Nullness) (env : Env), (∀ x ∈ e.targetNames, I.binds x) → I.yields v → I.holds env →
      I.holds (e.bind v env))
    (h : ∀ x ∈ Expr.targetNamesOfList items, I.binds x) {env : Env} (henv : I.holds env) :
    I.holds (bindItems items env) := by
  induction items generalizing env with
  | nil => exact henv
  | cons e rest ihrest =>
    simp only [Expr.targetNamesOfList, List.mem_append, or_imp, forall_and] at h
    have he := ih e (by simp) .unknown env h.1 I.yields_unknown henv
    exact ihrest (fun t ht => ih t (List.mem_cons_of_mem _ ht)) h.2 he

theorem holds_bind {target : Expr} (h : ∀ x ∈ target.targetNames, I.binds x) {v : Nullness} (hv : I.yields v)
    {env : Env} (henv : I.holds env) : I.holds (target.bind v env) := by
  induction target generalizing v env with
  | name id => exact I.insert henv (h id (by simp [Expr.targetNames])) hv
  | tuple items ih => exact holds_bindItems (fun e he v env h hv henv => ih e he h hv henv) h henv
  | list items ih => exact holds_bindItems (fun e he v env h hv henv => ih e he h hv henv) h henv
  | starred target ih => exact ih h I.yields_nonNull henv
  | _ => simpa only [Expr.bind] using henv

theorem holds_bindTargets {targets : List Expr} (ht : ∀ x ∈ targets.flatMap Expr.targetNames, I.binds x) {v : Nullness}
    (hv : I.yields v) {env : Env} (henv : I.holds env) :
    I.holds (targets.foldl (fun env target => target.bind v env) env) := by
  induction targets generalizing env with
  | nil => exact henv
  | cons target rest ih =>
    simp only [List.flatMap_cons, List.mem_append, or_imp, forall_and] at ht
    exact ih ht.2 (holds_bind ht.1 hv henv)

theorem holds_assignTo {targets : List Expr} {value : Expr} (ht : ∀ x ∈ targets.flatMap Expr.targetNames, I.binds x)
    (hv : I.FitsExpr value) {env : Env} (henv : I.holds env) : I.holds (assignTo targets value env) :=
  have heff := holds_effects hv henv
  holds_bindTargets ht (yields_evaluate hv heff) heff

theorem holds_forget {targets : List Expr} (h : ∀ x ∈ targets.flatMap Expr.targetNames, I.binds x) {env : Env}
    (henv : I.holds env) : I.holds (targets.foldl forget env) := by
  induction targets generalizing env with
  | nil => exact henv
  | cons target rest ih =>
    simp only [List.flatMap_cons, List.mem_append, or_imp, forall_and] at h
    refine ih h.2 ?_
    cases target with
    | name id => exact I.erase henv (h.1 id (by simp [Expr.targetNames]))
    | _ => exact henv

theorem holds_bindAll {names : List String} (h : ∀ x ∈ names, I.binds x) {v : Nullness} (hv : I.yields v) {env : Env}
    (henv : I.holds env) : I.holds (env.bindAll names v) := by
  unfold Env.bindAll
  induction names generalizing env with
  | nil => exact henv
  | cons x names ih =>
    exact ih (fun y hy => h y (List.mem_cons_of_mem _ hy)) (I.insert henv (h x (by simp)) hv)

theorem holds_bindItem {items : List WithItem}
    (h : ∀ x ∈ items.flatMap fun item => (item.target.map Expr.targetNames).getD [], I.binds x) {env : Env}
    (henv : I.holds env) : I.holds (items.foldl bindItem env) := by
  induction items generalizing env with
  | nil => exact henv
  | cons item rest ih =>
    simp only [List.flatMap_cons, List.mem_append, or_imp, forall_and] at h
    refine ih h.2 ?_
    obtain ⟨context, _ | target⟩ := item
    · exact henv
    · exact holds_bind h.1 I.yields_unknown henv

theorem all_caseEntry {subject : Expr} {c : Case} (hsubject : I.FitsExpr subject)
    (hguard : ∀ e, c.guard = some e → I.FitsExpr e) (hcaptures : ∀ x ∈ c.pattern.captures, I.binds x)
    (hnone : c.pattern = .singleton none → I.yields .null) {state : State} (hs : state.All I.holds) :
    (caseEntry subject c.pattern c.guard state).All I.holds := by
  have hcapture : State.All I.holds (state.map fun env => env.bindAll c.pattern.captures .unknown) :=
    hs.map fun env henv => holds_bindAll hcaptures I.yields_unknown henv
  have hmatch : (matchPattern subject c.pattern state).All I.holds := by
    unfold matchPattern
    split
    · next truth id hpattern =>
      refine hs.bind fun env henv env' h => ?_
      have hr : I.reads id := hsubject _ (Expr.mem_subterms_self _)
      cases truth with
      | none => exact I.refine_null henv hr (hnone hpattern) h
      | some truth => exact I.refine_nonNull henv hr h
    · exact hcapture
  unfold caseEntry
  cases hg : c.guard with
  | none => exact hmatch
  | some test => exact all_assume (hguard test hg) true hmatch

section

variable {b : List Stmt} {hs : List Handler} {cs : List Case} {state : State}

theorem all_execBlock (h : ∀ s ∈ b, ∀ state : State, state.All I.holds → (s.exec state).All I.holds)
    (hstate : state.All I.holds) : (execBlock b state).All I.holds := by
  induction b generalizing state with
  | nil => exact .ofNext hstate
  | cons s rest ih =>
    have hs := h s (by simp) state hstate
    exact .cons I.join hs (ih (fun t ht => h t (List.mem_cons_of_mem _ ht)) hs.next)

theorem all_execHandlers (hnames : ∀ x ∈ hs.flatMap fun h => h.name.toList, I.binds x)
    (h : ∀ c ∈ hs, ∀ s ∈ c.body, ∀ state : State, state.All I.holds → (s.exec state).All I.holds)
    (hstate : state.All I.holds) : (execHandlers hs state).All I.holds := by
  induction hs with
  | nil => exact .ofNext State.all_none
  | cons c rest ih =>
    obtain ⟨forGroups, kind, name, body⟩ := c
    simp only [List.flatMap_cons, List.mem_append, or_imp, forall_and, Handler.name] at hnames
    have hentry : State.All I.holds (state.map (·.bindAll name.toList .nonNull)) :=
      hstate.map fun env henv => holds_bindAll hnames.1 I.yields_nonNull henv
    exact .merge I.join (all_execBlock (h _ (List.mem_cons_self ..)) hentry)
      (ih hnames.2 fun t ht => h t (List.mem_cons_of_mem _ ht))

theorem all_execCases {subject : Expr}
    (hentry : ∀ c ∈ cs, (caseEntry subject c.pattern c.guard state).All I.holds)
    (h : ∀ c ∈ cs, ∀ s ∈ c.body, ∀ state : State, state.All I.holds → (s.exec state).All I.holds) :
    (execCases subject cs state).All I.holds := by
  induction cs with
  | nil => exact .ofNext State.all_none
  | cons c rest ih =>
    have hc := hentry c (by simp)
    have hbody := all_execBlock (h c (by simp)) hc
    have hrest := ih (fun t ht => hentry t (List.mem_cons_of_mem _ ht)) (fun t ht => h t (List.mem_cons_of_mem _ ht))
    obtain ⟨pattern, guard, body⟩ := c
    exact .merge I.join hbody hrest

theorem all_caseEntries {subject : Expr} (h : I.FitsStmt (.matchCases subject cs)) (hstate : state.All I.holds) :
    ∀ c ∈ cs, (caseEntry subject c.pattern c.guard state).All I.holds := by
  intro c hc
  refine all_caseEntry (h.judges subject (by simp [Stmt.judges])) ?_ ?_ ?_ hstate
  · intro e he
    exact h.judges e (List.mem_cons_of_mem _ (List.mem_filterMap.mpr ⟨c, hc, he⟩))
  · intro x hx
    exact h.targets x (List.mem_flatMap.mpr ⟨c, hc, hx⟩)
  · intro hp
    exact h.triesNone (List.any_eq_true.mpr ⟨c, hc, by rw [hp]⟩)

end

theorem all_finalEntry {out handlerIn : State} (ho : out.All I.holds) (hh : handlerIn.All I.holds) :
    (finalEntry out handlerIn).All I.holds := by
  unfold finalEntry
  split
  · exact ho
  · exact hh

theorem all_exec {s : Stmt} (h : ∀ t ∈ s.nested, I.FitsStmt t) {state : State} (hs : state.All I.holds) :
    (s.exec state).All I.holds := by
  induction s generalizing state with
  | function header body _ =>
    have hself := h _ (mem_nested_self _)
    exact .ofNext (hs.map fun env henv => I.insert henv (hself.targets _ (by simp [Stmt.targets])) I.yields_nonNull)
  | classDef header body _ =>
    have hself := h _ (mem_nested_self _)
    exact .ofNext (hs.map fun env henv => I.insert henv (hself.targets _ (by simp [Stmt.targets])) I.yields_nonNull)
  | ret position value =>
    have hself := h _ (mem_nested_self _)
    refine { Outcome.All.ofNext State.all_none with returned := ?_ }
    intro state hstate
    rw [List.mem_singleton.mp hstate]
    refine hs.map fun env henv => ?_
    cases value with
    | none => exact henv
    | some value => exact holds_effects (hself.judges value (by simp [Stmt.judges])) henv
  | delete targets =>
    have hself := h _ (mem_nested_self _)
    exact .ofNext (hs.map fun env henv => holds_forget hself.targets henv)
  | assign targets value =>
    have hself := h _ (mem_nested_self _)
    have hvalue := hself.judges value (by simp [Stmt.judges])
    exact .ofNext (hs.map fun env henv => holds_assignTo hself.targets hvalue henv)
  | augAssign target op value =>
    have hself := h _ (mem_nested_self _)
    refine .ofNext (hs.map fun env henv => holds_bind hself.targets I.yields_nonNull ?_)
    exact holds_effects (hself.judges value (by simp [Stmt.judges])) henv
  | annAssign target hint value =>
    have hself := h _ (mem_nested_self _)
    cases value with
    | none => exact .ofNext hs
    | some value =>
      refine .ofNext (hs.map fun env henv => holds_assignTo ?_ (hself.judges value (by simp [Stmt.judges])) henv)
      simpa [Stmt.targets] using hself.targets
  | forLoop isAsync target iter body orelse ihb iho =>
    obtain ⟨hself, hb, ho⟩ := forall_mem_nested_forLoop.mp h
    have hround : ∀ head : State, head.All I.holds → (execBlock body (head.map (target.bind .unknown))).All I.holds :=
      fun head hhead => all_execBlock (fun s hs _ => ihb s hs (hb s hs))
        (hhead.map fun env henv => holds_bind hself.targets I.yields_unknown henv)
    obtain ⟨hhead, hlast⟩ := Outcome.All.iterate I.join hround _ hs
    exact .afterLoop I.join hlast
      (all_execBlock (fun s hs _ => iho s hs (ho s hs)) hhead)
  | whileLoop test body orelse ihb iho =>
    obtain ⟨hself, hb, ho⟩ := forall_mem_nested_whileLoop.mp h
    have htest := hself.judges test (by simp [Stmt.judges])
    have hround : ∀ head : State, head.All I.holds → (execBlock body (test.assume true head)).All I.holds :=
      fun head hhead => all_execBlock (fun s hs _ => ihb s hs (hb s hs))
        (all_assume htest true hhead)
    obtain ⟨hhead, hlast⟩ := Outcome.All.iterate I.join hround _ hs
    exact .afterLoop I.join hlast
      (all_execBlock (fun s hs _ => iho s hs (ho s hs)) (all_assume htest false hhead))
  | ifElse line test body orelse ihb iho =>
    obtain ⟨hself, hb, ho⟩ := forall_mem_nested_ifElse.mp h
    have htest := hself.judges test (by simp [Stmt.judges])
    have hstate : State.All I.holds (state.map test.effects) := hs.map fun env henv => holds_effects htest henv
    exact .merge I.join
      (all_execBlock (fun s hs _ => ihb s hs (hb s hs)) (all_assume htest true hstate))
      (all_execBlock (fun s hs _ => iho s hs (ho s hs)) (all_assume htest false hstate))
  | withBlock isAsync items body ih =>
    obtain ⟨hself, hb⟩ := forall_mem_nested_withBlock.mp h
    exact all_execBlock (fun s hs _ => ih s hs (hb s hs))
      (hs.map fun env henv => holds_bindItem hself.targets henv)
  | matchCases subject cases ih =>
    obtain ⟨hself, hc⟩ := forall_mem_nested_matchCases.mp h
    have hcases := all_execCases (all_caseEntries hself hs)
      (fun c hcs s hs _ => ih c hcs s hs (hc c hcs s hs))
    simp only [Stmt.exec]
    split
    · exact hcases
    · exact { hcases with next := hcases.next.join I.join hs }
  | raise cause => exact .ofNext State.all_none
  | tryBlock body handlers orelse final ihb ihh iho ihf =>
    obtain ⟨hself, hb, hh, ho, hf⟩ := forall_mem_nested_tryBlock.mp h
    have hbody := all_execBlock (fun s hs _ => ihb s hs (hb s hs)) hs
    have hentry := hs.join I.join hbody.raised
    have hhandlers := all_execHandlers hself.targets
      (fun c hc s hs _ => ihh c hc s hs (hh c hc s hs)) hentry
    have helse := all_execBlock (fun s hs _ => iho s hs (ho s hs)) hbody.next
    have hout := Outcome.All.followedBy I.join hbody (.merge I.join hhandlers helse)
    have hlast := all_execBlock (fun s hs _ => ihf s hs (hf s hs))
      (all_finalEntry hout.next hentry)
    exact { Outcome.All.merge I.join hout hlast with next := hout.next.bind fun _ _ => hlast.next }
  | assert test message =>
    have hself := h _ (mem_nested_self _)
    exact .ofNext (all_assume (hself.judges test (by simp [Stmt.judges])) true hs)
  | imports origin names =>
    have hself := h _ (mem_nested_self _)
    exact .ofNext (hs.map fun env henv => holds_bindAll hself.targets I.yields_nonNull henv)
  | outer scope names => exact .ofNext hs
  | expr value =>
    have hself := h _ (mem_nested_self _)
    exact .ofNext (hs.map fun env henv => holds_effects (hself.judges value (by simp [Stmt.judges])) henv)
  | breaks => exact { Outcome.All.ofNext State.all_none with broke := hs }
  | continues => exact { Outcome.All.ofNext State.all_none with continued := hs }
  | pass => exact .ofNext hs

theorem all_execBlock_of_fits {b : List Stmt} (h : ∀ t ∈ nestedOfBlock b, I.FitsStmt t) {state : State}
    (hs : state.All I.holds) : (execBlock b state).All I.holds := by
  have hb := forall_mem_nestedOfBlock.mp h
  exact all_execBlock (fun s hmem _ hstate => all_exec (hb s hmem) hstate) hs

end Invariant

end NullContract
