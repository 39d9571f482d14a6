import NullContract.Proofs.LoopRounds
import NullContract.Proofs.MonotoneMeaning

/-!
The analysis of code without final blocks is monotone: from a lower state it ends, breaks, continues, raises and
returns in lower states. A final block breaks this, since it starts from the handlers' entry as soon as the code
before it cannot end.
-/

namespace NullContract

def Stmt.hasFinal : Stmt → Bool
  | tryBlock _ _ _ final => !final.isEmpty
  | _ => false

section

variable {a b : Env}

theorem bindItems_mono {items : List Expr}
    (ih : ∀ e ∈ items, ∀ {a b : Env}, (some a : State) ≤ some b → ∀ {v w : Nullness}, v ≤ w →
      (some (e.bind v a) : State) ≤ some (e.bind w b))
    (hab : (some a : State) ≤ some b) : (some (bindItems items a) : State) ≤ some (bindItems items b) := by
  induction items generalizing a b with
  | nil => exact hab
  | cons e rest ihrest =>
    exact ihrest (fun t ht => ih t (List.mem_cons_of_mem _ ht)) (ih e (by simp) hab (le_refl _))

theorem bind_mono (target : Expr) (hab : (some a : State) ≤ some b) {v w : Nullness} (hvw : v ≤ w) :
    (some (target.bind v a) : State) ≤ some (target.bind w b) := by
  induction target generalizing a b v w with
  | name id => exact Env.insert_mono hab id hvw
  | tuple items ih => exact bindItems_mono (fun e he _ _ hab _ _ hvw => ih e he hab hvw) hab
  | list items ih => exact bindItems_mono (fun e he _ _ hab _ _ hvw => ih e he hab hvw) hab
  | starred target ih => exact ih hab (le_refl _)
  | _ => simpa only [Expr.bind] using hab

theorem assignTo_mono (targets : List Expr) (value : Expr) (hab : (some a : State) ≤ some b) :
    (some (assignTo targets value a) : State) ≤ some (assignTo targets value b) := by
  have hbind : ∀ {a b : Env} {v w : Nullness}, (some a : State) ≤ some b → v ≤ w →
      (some (targets.foldl (fun env target => target.bind v env) a) : State) ≤
        some (targets.foldl (fun env target => target.bind w env) b) := by
    intro a b v w hab hvw
    induction targets generalizing a b with
    | nil => exact hab
    | cons target rest ih => exact ih (bind_mono target hab hvw)
  have heff := value.effects_mono hab
  exact hbind heff (value.evaluate_mono heff)

theorem forget_mono (targets : List Expr) (hab : (some a : State) ≤ some b) :
    (some (targets.foldl forget a) : State) ≤ some (targets.foldl forget b) := by
  induction targets generalizing a b with
  | nil => exact hab
  | cons target rest ih =>
    refine ih ?_
    cases target with
    | name id => exact Env.erase_mono hab id
    | _ => exact hab

theorem bindItem_mono (items : List WithItem) (hab : (some a : State) ≤ some b) :
    (some (items.foldl bindItem a) : State) ≤ some (items.foldl bindItem b) := by
  induction items generalizing a b with
  | nil => exact hab
  | cons item rest ih =>
    refine ih ?_
    obtain ⟨context, _ | target⟩ := item
    · exact hab
    · exact bind_mono target hab (le_refl _)

end

section

variable {s t : State}

theorem caseEntry_mono (subject : Expr) (pattern : Pattern) (guard : Option Expr) (hst : s ≤ t) :
    caseEntry subject pattern guard s ≤ caseEntry subject pattern guard t := by
  have hmatch : matchPattern subject pattern s ≤ matchPattern subject pattern t := by
    unfold matchPattern
    split
    · exact State.bind_mono (fun hab => Env.refine_mono hab _ _) hst
    · exact State.map_mono (fun hab => Env.bindAll_mono hab _ _) hst
  unfold caseEntry
  cases guard with
  | none => exact hmatch
  | some test => exact test.assume_mono true hmatch

theorem execBlock_mono_of {b : List Stmt} (h : ∀ c ∈ b, ∀ {s t : State}, s ≤ t → c.exec s ≤ c.exec t) (hst : s ≤ t) :
    execBlock b s ≤ execBlock b t := by
  induction b generalizing s t with
  | nil => exact { Outcome.le_rfl { next := s } with next := hst }
  | cons c rest ih =>
    have hc := h c (by simp) hst
    exact Outcome.cons_mono hc (ih (fun d hd => h d (List.mem_cons_of_mem _ hd)) hc.next)

theorem execHandlers_mono_of {hs : List Handler}
    (h : ∀ c ∈ hs, ∀ d ∈ c.body, ∀ {s t : State}, s ≤ t → d.exec s ≤ d.exec t) (hst : s ≤ t) :
    execHandlers hs s ≤ execHandlers hs t := by
  induction hs with
  | nil => exact Outcome.le_rfl _
  | cons c rest ih =>
    obtain ⟨forGroups, kind, name, body⟩ := c
    have hentry : (s.map (·.bindAll name.toList .nonNull) : State) ≤ t.map (·.bindAll name.toList .nonNull) :=
      State.map_mono (fun hab => Env.bindAll_mono hab _ _) hst
    exact Outcome.merge_mono (execBlock_mono_of (h _ (List.mem_cons_self ..)) hentry)
      (ih fun d hd => h d (List.mem_cons_of_mem _ hd))

theorem execCases_mono_of (subject : Expr) {cs : List Case}
    (h : ∀ c ∈ cs, ∀ d ∈ c.body, ∀ {s t : State}, s ≤ t → d.exec s ≤ d.exec t) (hst : s ≤ t) :
    execCases subject cs s ≤ execCases subject cs t := by
  induction cs with
  | nil => exact Outcome.le_rfl _
  | cons c rest ih =>
    obtain ⟨pattern, guard, body⟩ := c
    have hentry := caseEntry_mono subject pattern guard hst
    exact Outcome.merge_mono (execBlock_mono_of (h _ (List.mem_cons_self ..)) hentry)
      (ih fun d hd => h d (List.mem_cons_of_mem _ hd))

end

theorem exec_tryBlock_nil (body : List Stmt) (handlers : List Handler) (orelse : List Stmt) (state : State) :
    (Stmt.tryBlock body handlers orelse []).exec state =
      (execBlock body state).followedBy
        ((execHandlers handlers (handlerEntry state (execBlock body state))).merge
          (execBlock orelse (execBlock body state).next)) := by
  simp only [Stmt.exec, execBlock]
  generalize (execBlock body state).followedBy _ = out
  obtain ⟨next, broke, continued, raised, returned⟩ := out
  cases next <;> simp [Outcome.merge, finalEntry]

theorem next_mono {s t : State} (hst : s ≤ t) : ({ next := s } : Outcome) ≤ { next := t } :=
  { Outcome.le_rfl { next := s } with next := hst }

section

variable {c : Stmt} {loop : Loop} {s t : State}

theorem enter_mono (h : c.loop? = some loop) (hst : s ≤ t) : loop.enter s ≤ loop.enter t := by
  cases c with
  | forLoop isAsync target iter body orelse =>
    cases h
    exact State.map_mono (fun hab => bind_mono target hab (le_refl _)) hst
  | whileLoop test body orelse =>
    cases h
    exact test.assume_mono true hst
  | _ => cases h

theorem leave_mono (h : c.loop? = some loop) (hst : s ≤ t) : loop.leave s ≤ loop.leave t := by
  cases c with
  | forLoop isAsync target iter body orelse =>
    cases h
    exact hst
  | whileLoop test body orelse =>
    cases h
    exact test.assume_mono false hst
  | _ => cases h

theorem exec_loop_mono (h : c.loop? = some loop)
    (hbody : ∀ {s t : State}, s ≤ t → execBlock loop.body s ≤ execBlock loop.body t)
    (horelse : ∀ {s t : State}, s ≤ t → execBlock loop.orelse s ≤ execBlock loop.orelse t) (hst : s ≤ t) :
    c.exec s ≤ c.exec t := by
  have hround : ∀ {s t : State}, s ≤ t → loop.round s ≤ loop.round t := fun hst => hbody (enter_mono h hst)
  -- The two runs may differ in their number of rounds, so they are compared by where these end.
  obtain ⟨_, _, _, hrounds, -⟩ := exists_rounds_of_loop h s
  obtain ⟨_, _, _, hrounds', -⟩ := exists_rounds_of_loop h t
  obtain ⟨hfinal, hout⟩ := hrounds.mono hround hrounds' hst
  rw [exec_of_rounds h hrounds, exec_of_rounds h hrounds']
  exact Outcome.afterLoop_mono hout (horelse (leave_mono h hfinal))

end

theorem exec_mono {c : Stmt} (h : ∀ d ∈ c.nested, d.hasFinal = false) {s t : State} (hst : s ≤ t) :
    c.exec s ≤ c.exec t := by
  induction c generalizing s t with
  | function header body _ => exact next_mono (State.map_mono (fun hab => Env.insert_mono hab _ (le_refl _)) hst)
  | classDef header body _ => exact next_mono (State.map_mono (fun hab => Env.insert_mono hab _ (le_refl _)) hst)
  | ret position value =>
    refine { Outcome.le_rfl { next := none } with returned := .cons (State.map_mono (fun hab => ?_) hst) .nil }
    cases value with
    | none => exact hab
    | some value => exact value.effects_mono hab
  | delete targets => exact next_mono (State.map_mono (forget_mono targets) hst)
  | assign targets value => exact next_mono (State.map_mono (assignTo_mono targets value) hst)
  | augAssign target op value =>
    exact next_mono (State.map_mono (fun hab => bind_mono target (value.effects_mono hab) (le_refl _)) hst)
  | annAssign target hint value =>
    cases value with
    | none => exact next_mono hst
    | some value => exact next_mono (State.map_mono (assignTo_mono [target] value) hst)
  | forLoop isAsync target iter body orelse ihb iho =>
    obtain ⟨-, hb, ho⟩ := forall_mem_nested_forLoop.mp h
    exact exec_loop_mono rfl (execBlock_mono_of fun d hd _ _ => ihb d hd (hb d hd))
      (execBlock_mono_of fun d hd _ _ => iho d hd (ho d hd)) hst
  | whileLoop test body orelse ihb iho =>
    obtain ⟨-, hb, ho⟩ := forall_mem_nested_whileLoop.mp h
    exact exec_loop_mono rfl (execBlock_mono_of fun d hd _ _ => ihb d hd (hb d hd))
      (execBlock_mono_of fun d hd _ _ => iho d hd (ho d hd)) hst
  | ifElse line test body orelse ihb iho =>
    obtain ⟨-, hb, ho⟩ := forall_mem_nested_ifElse.mp h
    have hstate : (s.map test.effects : State) ≤ t.map test.effects := State.map_mono test.effects_mono hst
    exact Outcome.merge_mono
      (execBlock_mono_of (fun d hd _ _ => ihb d hd (hb d hd)) (test.assume_mono true hstate))
      (execBlock_mono_of (fun d hd _ _ => iho d hd (ho d hd)) (test.assume_mono false hstate))
  | withBlock isAsync items body ih =>
    obtain ⟨-, hb⟩ := forall_mem_nested_withBlock.mp h
    exact execBlock_mono_of (fun d hd _ _ => ih d hd (hb d hd)) (State.map_mono (bindItem_mono items) hst)
  | matchCases subject cases ih =>
    obtain ⟨-, hc⟩ := forall_mem_nested_matchCases.mp h
    have hcases := execCases_mono_of subject (fun c hcs d hd _ _ => ih c hcs d hd (hc c hcs d hd)) hst
    simp only [Stmt.exec]
    split
    · exact hcases
    · exact { hcases with next := State.join_mono hcases.next hst }
  | raise cause => exact Outcome.le_rfl _
  | tryBlock body handlers orelse final ihb ihh iho _ =>
    obtain ⟨hfinal, hb, hh, ho, -⟩ := forall_mem_nested_tryBlock.mp h
    obtain rfl : final = [] := by simpa [Stmt.hasFinal] using hfinal
    have hbody := execBlock_mono_of (fun d hd _ _ => ihb d hd (hb d hd)) hst
    have hentry := State.join_mono hst hbody.raised
    rw [exec_tryBlock_nil, exec_tryBlock_nil]
    exact Outcome.followedBy_mono hbody (Outcome.merge_mono
      (execHandlers_mono_of (fun c hc d hd _ _ => ihh c hc d hd (hh c hc d hd)) hentry)
      (execBlock_mono_of (fun d hd _ _ => iho d hd (ho d hd)) hbody.next))
  | assert test message => exact next_mono (test.assume_mono true hst)
  | imports origin names => exact next_mono (State.map_mono (fun hab => Env.bindAll_mono hab _ _) hst)
  | outer scope names => exact next_mono hst
  | expr value => exact next_mono (State.map_mono value.effects_mono hst)
  | breaks => exact { Outcome.le_rfl { next := none } with broke := hst }
  | continues => exact { Outcome.le_rfl { next := none } with continued := hst }
  | pass => exact next_mono hst

theorem execBlock_mono {b : List Stmt} (h : ∀ d ∈ nestedOfBlock b, d.hasFinal = false) {s t : State} (hst : s ≤ t) :
    execBlock b s ≤ execBlock b t := by
  have hb := forall_mem_nestedOfBlock.mp h
  exact execBlock_mono_of (fun c hc _ _ => exec_mono (hb c hc)) hst

end NullContract
