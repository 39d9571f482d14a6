import NullContract.Proofs.FrameMeaning
import NullContract.Proofs.LoopRounds

namespace NullContract

variable {n : String} {v : Option Nullness}

theorem bindItems_put {items : List Expr} (h : n ∉ Expr.targetNamesOfList items)
    (ih : ∀ e ∈ items, n ∉ e.targetNames → ∀ w env, e.bind w (env.put n v) = (e.bind w env).put n v) (env : Env) :
    bindItems items (env.put n v) = (bindItems items env).put n v := by
  induction items generalizing env with
  | nil => rfl
  | cons e rest ihrest =>
    rw [Expr.targetNamesOfList, List.mem_append, not_or] at h
    rw [bindItems, bindItems, ih e (by simp) h.1, ihrest h.2 fun t ht => ih t (List.mem_cons_of_mem _ ht)]

theorem bind_put {target : Expr} (h : n ∉ target.targetNames) (w : Nullness) (env : Env) :
    target.bind w (env.put n v) = (target.bind w env).put n v := by
  induction target generalizing w env with
  | name id =>
    rw [Expr.targetNames, List.mem_singleton] at h
    exact Env.insert_put (Ne.symm h) env w
  | tuple items ih => exact bindItems_put h ih env
  | list items ih => exact bindItems_put h ih env
  | starred target ih => exact ih h .nonNull env
  | _ => simp only [Expr.bind]

theorem bind_put_of_names {target : Expr} (h : n ∉ target.names) (w : Nullness) (env : Env) :
    target.bind w (env.put n v) = (target.bind w env).put n v :=
  bind_put (fun hn => h (Expr.targetNames_subset_names hn)) w env

theorem foldl_put {α : Type} {f : Env → α → Env} {xs : List α}
    (h : ∀ x ∈ xs, ∀ env : Env, f (env.put n v) x = (f env x).put n v) (env : Env) :
    xs.foldl f (env.put n v) = (xs.foldl f env).put n v := by
  induction xs generalizing env with
  | nil => rfl
  | cons x xs ih =>
    rw [List.forall_mem_cons] at h
    rw [List.foldl_cons, List.foldl_cons, h.1, ih h.2]

theorem assignTo_put {targets : List Expr} {value : Expr} (ht : ∀ e ∈ targets, n ∉ e.names) (hv : n ∉ value.names)
    (env : Env) : assignTo targets value (env.put n v) = (assignTo targets value env).put n v := by
  simp only [assignTo, Expr.effects_put hv, Expr.evaluate_put hv]
  exact foldl_put (fun e he => bind_put_of_names (ht e he) _) _

theorem forget_put {target : Expr} (h : n ∉ target.names) (env : Env) :
    forget (env.put n v) target = (forget env target).put n v := by
  cases target with
  | name id => exact Env.erase_put (Expr.ne_of_head rfl h) env
  | _ => rfl

theorem bindItem_put {item : WithItem} (h : n ∉ item.names) (env : Env) :
    bindItem (env.put n v) item = (bindItem env item).put n v := by
  obtain ⟨context, _ | target⟩ := item
  · rfl
  · exact bind_put_of_names h .unknown env

theorem finalEntry_put (out handlerIn : State) :
    finalEntry (out.put n v) (handlerIn.put n v) = (finalEntry out handlerIn).put n v := by
  cases out <;> rfl

theorem matchPattern_put {subject : Expr} {pattern : Pattern} (hs : n ∉ subject.names) (hp : n ∉ pattern.captures)
    (state : State) :
    matchPattern subject pattern (state.put n v) = (matchPattern subject pattern state).put n v := by
  unfold matchPattern
  split
  · exact State.bind_put (fun env => State.refine_put (Expr.ne_of_head rfl hs) env _) state
  · exact State.map_put (fun env => Env.bindAll_put hp env .unknown) state

theorem caseEntry_put {subject : Expr} {pattern : Pattern} {guard : Option Expr} (hs : n ∉ subject.names)
    (hp : n ∉ pattern.captures) (hg : n ∉ (guard.map Expr.names).getD []) (state : State) :
    caseEntry subject pattern guard (state.put n v) = (caseEntry subject pattern guard state).put n v := by
  have hmatch := matchPattern_put (v := v) hs hp state
  cases guard with
  | none => exact hmatch
  | some test =>
    simp only [caseEntry, hmatch]
    exact Expr.assume_put hg v true _

theorem State.toList_put (state : State) : (state.put n v).toList = state.toList.map fun env => env.put n v := by
  cases state <;> rfl

theorem joinEnvs_put (envs : List Env) : joinEnvs (envs.map fun env => env.put n v) = (joinEnvs envs).put n v := by
  induction envs with
  | nil => rfl
  | cons env envs ih => rw [List.map_cons, joinEnvs_cons, joinEnvs_cons, ih, ← State.join_put, State.put_some]

def Outcome.put (out : Outcome) (n : String) (v : Option Nullness) : Outcome where
  next := out.next.put n v
  broke := out.broke.put n v
  continued := out.continued.put n v
  raised := out.raised.put n v
  returned := out.returned.map fun state => state.put n v

namespace Collected

def put (out : Collected) (n : String) (v : Option Nullness) : Collected where
  next := out.next.put n v
  breaks := out.breaks.map fun env => env.put n v
  continues := out.continues.map fun env => env.put n v
  raises := out.raises.map fun env => env.put n v
  returned := out.returned.map fun state => state.put n v

theorem joined_put (out : Collected) : (out.put n v).joined = out.joined.put n v := by
  simp [joined, put, Outcome.put, joinEnvs_put]

theorem single_put (out : Outcome) : single (out.put n v) = (single out).put n v := by
  simp [single, put, Outcome.put, State.toList_put]

theorem next_put {f : Env → Env} (hf : ∀ env : Env, f (env.put n v) = (f env).put n v) (state : State) :
    single { next := Option.map f (state.put n v) } = (single { next := state.map f }).put n v := by
  rw [State.map_put hf]
  exact single_put { next := state.map f }

theorem merge_put (a b : Collected) : (a.put n v).merge (b.put n v) = (a.merge b).put n v := by
  simp [merge, put, State.join_put]

theorem cons_put (a b : Collected) : (a.put n v).cons (b.put n v) = (a.cons b).put n v := by
  simp [cons, followedBy, merge, put, State.toList_put]

theorem tried_put (body orelse handled : Collected) :
    (body.put n v).tried (orelse.put n v) (handled.put n v) = (body.tried orelse handled).put n v := by
  simp [tried, followedBy, merge, put, State.join_put]

theorem afterLoop_put (a b : Collected) : (a.put n v).afterLoop (b.put n v) = (a.afterLoop b).put n v := by
  simp [afterLoop, put, State.join_put, joinEnvs_put]

theorem withEarlier_put (a b : Collected) : (a.put n v).withEarlier (b.put n v) = (a.withEarlier b).put n v := by
  simp [withEarlier, put, State.join_put, List.zipWith_map, List.map_zipWith]

theorem nextHead_put (head : State) (out : Collected) :
    (out.put n v).nextHead (head.put n v) = (out.nextHead head).put n v := by
  simp [nextHead, put, State.join_put, joinEnvs_put]

section

variable {round : State → Collected} (hround : ∀ v head, round (head.put n v) = (round head).put n v)

include hround

theorem stable_put {head : State} (h : (round head).nextHead head = head) (v : Option Nullness) :
    (round (head.put n v)).nextHead (head.put n v) = head.put n v := by
  rw [hround, nextHead_put, h]

theorem stable_put_iff {head : State} {v : Option Nullness} :
    (round (head.put n v)).nextHead (head.put n v) = head.put n v ↔ (round head).nextHead head = head := by
  constructor
  · intro h
    -- Putting back what the head says of the name undoes the change.
    obtain ⟨slot, hslot⟩ := head.exists_put_eq n
    have hback := stable_put hround h slot
    rwa [State.put_put, hslot] at hback
  · intro h
    exact stable_put hround h v

theorem iterate_put (v : Option Nullness) (fuel : Nat) (head : State) :
    iterate round fuel (head.put n v) = ((iterate round fuel head).1.put n v, (iterate round fuel head).2.put n v) := by
  induction fuel generalizing head with
  | zero => exact congrArg (Prod.mk (head.put n v)) (hround v head)
  | succ fuel ih =>
    by_cases hs : (round head).nextHead head = head
    · rw [iterate_succ_of_stable hs, iterate_succ_of_stable ((stable_put_iff hround).mpr hs), hround]
    · rw [iterate_succ_of_not_stable hs, iterate_succ_of_not_stable fun h => hs ((stable_put_iff hround).mp h), hround,
        nextHead_put, ih, withEarlier_put]

end

end Collected

section

variable {b : List Stmt} {hs : List Handler} {cs : List Case}

theorem collectBlock_put_of (ih : ∀ s ∈ b, n ∉ s.names → ∀ v state, s.collect (state.put n v) = (s.collect state).put n v)
    (h : n ∉ namesOfBlock b) (v : Option Nullness) (state : State) :
    collectBlock b (state.put n v) = (collectBlock b state).put n v := by
  induction b generalizing state with
  | nil => rfl
  | cons s rest ihrest =>
    rw [namesOfBlock, List.mem_append, not_or] at h
    rw [List.forall_mem_cons] at ih
    simp only [collectBlock]
    rw [ih.1 h.1, ← Collected.cons_put, ← ihrest ih.2 h.2]
    rfl

theorem collectHandlers_put_of
    (ih : ∀ c ∈ hs, ∀ s ∈ c.body, n ∉ s.names → ∀ v state, s.collect (state.put n v) = (s.collect state).put n v)
    (h : n ∉ namesOfHandlers hs) (v : Option Nullness) (state : State) :
    collectHandlers hs (state.put n v) = (collectHandlers hs state).put n v := by
  induction hs with
  | nil => rfl
  | cons c rest ihrest =>
    obtain ⟨forGroups, kind, name, body⟩ := c
    rw [List.forall_mem_cons, Handler.body_mk] at ih
    simp only [namesOfHandlers, List.mem_append, not_or] at h
    obtain ⟨⟨hname, hbody⟩, hrest⟩ := h
    simp only [collectHandlers]
    rw [State.map_put fun env => Env.bindAll_put hname env .nonNull, collectBlock_put_of ih.1 hbody, ihrest ih.2 hrest,
      Collected.merge_put]

theorem collectCases_put_of {subject : Expr} (hsubject : n ∉ subject.names)
    (ih : ∀ c ∈ cs, ∀ s ∈ c.body, n ∉ s.names → ∀ v state, s.collect (state.put n v) = (s.collect state).put n v)
    (h : n ∉ namesOfCases cs) (v : Option Nullness) (state : State) :
    collectCases subject cs (state.put n v) = (collectCases subject cs state).put n v := by
  induction cs with
  | nil => rfl
  | cons c rest ihrest =>
    obtain ⟨pattern, guard, body⟩ := c
    rw [List.forall_mem_cons, Case.body_mk] at ih
    simp only [namesOfCases, List.mem_append, not_or] at h
    obtain ⟨⟨⟨hpattern, hguard⟩, hbody⟩, hrest⟩ := h
    simp only [collectCases]
    rw [caseEntry_put hsubject hpattern hguard, collectBlock_put_of ih.1 hbody, ihrest ih.2 hrest, Collected.merge_put]

end

theorem collect_loop_put {s : Stmt} {loop : Loop} (h : s.loop? = some loop)
    (henter : ∀ v state, loop.enter (state.put n v) = (loop.enter state).put n v)
    (hleave : ∀ v state, loop.leave (state.put n v) = (loop.leave state).put n v)
    (hbody : ∀ v state, collectBlock loop.body (state.put n v) = (collectBlock loop.body state).put n v)
    (horelse : ∀ v state, collectBlock loop.orelse (state.put n v) = (collectBlock loop.orelse state).put n v)
    (v : Option Nullness) (state : State) : s.collect (state.put n v) = (s.collect state).put n v := by
  have hround : ∀ v head, loop.collect (head.put n v) = (loop.collect head).put n v := by
    intro v head
    rw [Loop.collect, henter, hbody, Loop.collect]
  -- The two runs have their own fuel, and both have enough of it.
  obtain ⟨fuel, hput, hfuel⟩ : ∃ fuel,
      Collected.iterate loop.collect (loopFuel s.names (state.put n v)) (state.put n v) =
        Collected.iterate loop.collect fuel (state.put n v) ∧
      Collected.iterate loop.collect (loopFuel s.names state) state = Collected.iterate loop.collect fuel state :=
    ⟨_, (iterate_collect_eq h (le_max_left _ _)).symm, (iterate_collect_eq h (le_max_right _ _)).symm⟩
  rw [collect_loop h, collect_loop h, hput, hfuel, Collected.iterate_put hround, hleave, horelse, Collected.afterLoop_put]

theorem collect_put {s : Stmt} (h : n ∉ s.names) (v : Option Nullness) (state : State) :
    s.collect (state.put n v) = (s.collect state).put n v := by
  induction s generalizing v state with
  | function header body _ =>
    rw [Stmt.names, List.mem_singleton] at h
    exact Collected.next_put (fun env => Env.insert_put (Ne.symm h) env .nonNull) state
  | classDef header body _ =>
    rw [Stmt.names, List.mem_singleton] at h
    exact Collected.next_put (fun env => Env.insert_put (Ne.symm h) env .nonNull) state
  | ret position value =>
    have heffects : ∀ env : Env, (value.map (·.effects (env.put n v))).getD (env.put n v) =
        ((value.map (·.effects env)).getD env).put n v := by
      intro env
      cases value with
      | none => rfl
      | some value => exact Expr.effects_put h v env
    simp only [Stmt.collect, Stmt.exec]
    rw [State.map_put heffects]
    rfl
  | delete targets =>
    have htargets : ∀ e ∈ targets, n ∉ e.names := by simpa [Stmt.names] using h
    exact Collected.next_put (foldl_put fun e he => forget_put (htargets e he)) state
  | assign targets value =>
    simp only [Stmt.names, List.mem_append, not_or] at h
    have htargets : ∀ e ∈ targets, n ∉ e.names := by simpa using h.1
    exact Collected.next_put (assignTo_put htargets h.2) state
  | augAssign target op value =>
    simp only [Stmt.names, List.mem_append, not_or] at h
    have hassign : ∀ env : Env, target.bind .nonNull (value.effects (env.put n v)) =
        (target.bind .nonNull (value.effects env)).put n v := by
      intro env
      rw [Expr.effects_put h.2, bind_put_of_names h.1]
    exact Collected.next_put hassign state
  | annAssign target hint value =>
    simp only [Stmt.names, List.mem_append, not_or] at h
    cases value with
    | none => rfl
    | some value =>
      have htargets : ∀ e ∈ [target], n ∉ e.names := by simpa using h.1
      exact Collected.next_put (assignTo_put htargets h.2) state
  | forLoop isAsync target iter body orelse ihb iho =>
    simp only [Stmt.names, List.mem_append, not_or] at h
    obtain ⟨⟨htarget, hbody⟩, horelse⟩ := h
    exact collect_loop_put rfl (fun v => State.map_put (bind_put_of_names htarget .unknown)) (fun _ _ => rfl)
      (collectBlock_put_of ihb hbody) (collectBlock_put_of iho horelse) v state
  | whileLoop test body orelse ihb iho =>
    simp only [Stmt.names, List.mem_append, not_or] at h
    obtain ⟨⟨htest, hbody⟩, horelse⟩ := h
    exact collect_loop_put rfl (fun v => Expr.assume_put htest v true) (fun v => Expr.assume_put htest v false)
      (collectBlock_put_of ihb hbody) (collectBlock_put_of iho horelse) v state
  | ifElse line test body orelse ihb iho =>
    simp only [Stmt.names, List.mem_append, not_or] at h
    obtain ⟨⟨htest, hbody⟩, horelse⟩ := h
    simp only [Stmt.collect]
    rw [State.map_put (Expr.effects_put htest v), Expr.assume_put htest, Expr.assume_put htest,
      collectBlock_put_of ihb hbody, collectBlock_put_of iho horelse, Collected.merge_put]
  | withBlock isAsync items body ih =>
    simp only [Stmt.names, List.mem_append, not_or] at h
    have hitems : ∀ item ∈ items, n ∉ item.names := by simpa using h.1
    simp only [Stmt.collect]
    rw [State.map_put (foldl_put fun item hitem => bindItem_put (hitems item hitem)), collectBlock_put_of ih h.2]
  | matchCases subject cases ih =>
    simp only [Stmt.names, List.mem_append, not_or] at h
    have hcases := collectCases_put_of h.1 ih h.2 v state
    simp only [Stmt.collect, hcases]
    split
    · rfl
    · simp [Collected.put, State.join_put]
  | raise cause => rfl
  | tryBlock body handlers orelse final ihb ihh iho ihf =>
    simp only [Stmt.names, List.mem_append, not_or] at h
    obtain ⟨⟨⟨hbody, hhandlers⟩, horelse⟩, hfinal⟩ := h
    have hentry : ∀ out : Collected,
        (state.put n v).join (joinEnvs (out.put n v).raises) = (state.join (joinEnvs out.raises)).put n v := by
      intro out
      rw [← State.join_put, ← joinEnvs_put]
      rfl
    have hnext : ∀ out : Collected, (out.put n v).next = out.next.put n v := fun _ => rfl
    simp only [Stmt.collect]
    rw [collectBlock_put_of ihb hbody, hentry, collectHandlers_put_of ihh hhandlers, hnext,
      collectBlock_put_of iho horelse, Collected.tried_put, hnext, finalEntry_put, collectBlock_put_of ihf hfinal,
      Collected.merge_put]
    generalize Collected.tried _ _ _ = out
    obtain ⟨next, breaks, continues, raises, returned⟩ := out
    cases next <;> rfl
  | assert test message =>
    simp only [Stmt.collect, Stmt.exec]
    rw [Expr.assume_put h]
    exact Collected.single_put { next := test.assume true state }
  | imports origin imported => exact Collected.next_put (fun env => Env.bindAll_put h env .nonNull) state
  | outer scope names => rfl
  | expr value => exact Collected.next_put (Expr.effects_put h v) state
  | breaks => exact Collected.single_put (Stmt.break.exec state)
  | continues => exact Collected.single_put (Stmt.continue.exec state)
  | pass => rfl

theorem collectBlock_put {b : List Stmt} (h : n ∉ namesOfBlock b) (v : Option Nullness) (state : State) :
    collectBlock b (state.put n v) = (collectBlock b state).put n v :=
  collectBlock_put_of (fun _ _ => collect_put) h v state

theorem execBlock_put {b : List Stmt} (h : n ∉ namesOfBlock b) (v : Option Nullness) (state : State) :
    execBlock b (state.put n v) = (execBlock b state).put n v := by
  rw [← joined_collectBlock, collectBlock_put h, Collected.joined_put, joined_collectBlock]

def State.ApartAt (n : String) (v w : Option Nullness) : State → State → Prop
  | none, none => True
  | some a, some b => a[n]? = v ∧ b[n]? = w ∧ ∀ x, x ≠ n → a[x]? = b[x]?
  | _, _ => False

theorem State.apartAt_put (state : State) (n : String) (v w : Option Nullness) :
    ApartAt n v w (state.put n v) (state.put n w) := by
  cases state with
  | none => trivial
  | some env =>
    refine ⟨by simp, by simp, ?_⟩
    intro x hx
    simp [hx.symm]

structure Outcome.ApartAt (n : String) (v w : Option Nullness) (a b : Outcome) : Prop where
  next : a.next.ApartAt n v w b.next
  broke : a.broke.ApartAt n v w b.broke
  continued : a.continued.ApartAt n v w b.continued
  raised : a.raised.ApartAt n v w b.raised
  returned : List.Forall₂ (State.ApartAt n v w) a.returned b.returned

structure Collected.ApartAt (n : String) (v w : Option Nullness) (a b : Collected) : Prop where
  next : a.next.ApartAt n v w b.next
  breaks : List.Forall₂ (fun e f => State.ApartAt n v w (some e) (some f)) a.breaks b.breaks
  continues : List.Forall₂ (fun e f => State.ApartAt n v w (some e) (some f)) a.continues b.continues
  raises : List.Forall₂ (fun e f => State.ApartAt n v w (some e) (some f)) a.raises b.raises
  returned : List.Forall₂ (State.ApartAt n v w) a.returned b.returned

theorem forall₂_map_map {α β : Type} {R : β → β → Prop} {f g : α → β} (h : ∀ x, R (f x) (g x)) (xs : List α) :
    List.Forall₂ R (xs.map f) (xs.map g) :=
  List.forall₂_map_left_iff.mpr (List.forall₂_map_right_iff.mpr (List.forall₂_same.mpr fun x _ => h x))

theorem Outcome.apartAt_put (out : Outcome) (n : String) (v w : Option Nullness) :
    ApartAt n v w (out.put n v) (out.put n w) where
  next := out.next.apartAt_put n v w
  broke := out.broke.apartAt_put n v w
  continued := out.continued.apartAt_put n v w
  raised := out.raised.apartAt_put n v w
  returned := forall₂_map_map (fun state => state.apartAt_put n v w) out.returned

theorem Collected.apartAt_put (out : Collected) (n : String) (v w : Option Nullness) :
    ApartAt n v w (out.put n v) (out.put n w) := by
  have hlist : ∀ envs : List Env, List.Forall₂ (fun e f => State.ApartAt n v w (some e) (some f))
      (envs.map fun env => env.put n v) (envs.map fun env => env.put n w) :=
    forall₂_map_map fun env => State.apartAt_put (some env) n v w
  exact {
    next := out.next.apartAt_put n v w
    breaks := hlist out.breaks
    continues := hlist out.continues
    raises := hlist out.raises
    returned := forall₂_map_map (fun state => state.apartAt_put n v w) out.returned }

/-- A nested function or class mentions its own name alone. -/
theorem unmentioned_name_is_carried {b : List Stmt} {n : String} (h : n ∉ namesOfBlock b) (env : Env)
    (v w : Option Nullness) :
    (execBlock b (some (env.put n v))).ApartAt n v w (execBlock b (some (env.put n w))) ∧
      (collectBlock b (some (env.put n v))).ApartAt n v w (collectBlock b (some (env.put n w))) := by
  rw [← State.put_some, ← State.put_some, execBlock_put h, execBlock_put h, collectBlock_put h, collectBlock_put h]
  exact ⟨(execBlock b (some env)).apartAt_put n v w, (collectBlock b (some env)).apartAt_put n v w⟩

def leavesLoop : List Stmt :=
  [.whileLoop (.name "more")
    [.tryBlock
      [.matchCases (.name "item") [
        .mk (.singleton none) none [.continue],
        .mk (.capture (some "found")) (some (.name "found")) [.ret ⟨5, 20⟩ (some (.name "kept"))]]]
      [.mk false none (some "fault") [.assign [.name "kept"] (.name "fault"), .break]] []
      [.assign [.name "kept"] (.name "item")]]
    [],
  .ret ⟨11, 4⟩ (some (.name "kept"))]

def leavesLoopEntry : Env :=
  ((∅ : Env).insert "item" .nullable).insert "kept" .nonNull

theorem unmentioned_name_is_carried_leavesLoop :
    "other" ∉ namesOfBlock leavesLoop ∧
      (execBlock leavesLoop (some (leavesLoopEntry.put "other" none))).ApartAt "other" none (some .nullable)
        (execBlock leavesLoop (some (leavesLoopEntry.put "other" (some .nullable)))) ∧
      (collectBlock leavesLoop (some (leavesLoopEntry.put "other" none))).ApartAt "other" none (some .nullable)
        (collectBlock leavesLoop (some (leavesLoopEntry.put "other" (some .nullable)))) ∧
      (execBlock leavesLoop (some (leavesLoopEntry.put "other" none))).returned.map
        (Option.map fun env => (env.verdict "kept", env.contains "other")) =
          [some (.nullable, false), some (.nullable, false)] := by
  have hnames : "other" ∉ namesOfBlock leavesLoop := by decide
  obtain ⟨hjoined, hlisted⟩ := unmentioned_name_is_carried hnames leavesLoopEntry none (some .nullable)
  exact ⟨hnames, hjoined, hlisted, by decide +kernel⟩

end NullContract
