import NullContract.Proofs.Visits

/-!
The points at which an exception may leave a block: after each of the statements that its analysis comes to, at any depth
and in any round of a loop. What the outcome of the block records is above all of them, and has every property that joins
keep and all of them have.
-/

namespace NullContract

theorem Stmt.inductionOnStarts {motive : Stmt → Prop}
    (step : ∀ s, (∀ state b t, s.Starts state b t → ∀ u ∈ b, motive u) → motive s) (s : Stmt) : motive s := by
  induction s with
  | forLoop isAsync target iter body orelse ihb iho =>
    apply step
    intro state b t h
    cases h with
    | forRound => exact ihb
    | forElse => exact iho
  | whileLoop test body orelse ihb iho =>
    apply step
    intro state b t h
    cases h with
    | whileRound => exact ihb
    | whileElse => exact iho
  | ifElse line test body orelse ihb iho =>
    apply step
    intro state b t h
    cases h with
    | ifTrue => exact ihb
    | ifFalse => exact iho
  | withBlock isAsync items body ih =>
    apply step
    intro state b t h
    cases h with
    | withBody => exact ih
  | matchCases subject cases ih =>
    apply step
    intro state b t h
    cases h with
    | caseBody hc => exact ih _ hc
  | tryBlock body handlers orelse final ihb ihh iho ihf =>
    apply step
    intro state b t h
    cases h with
    | tryBody => exact ihb
    | handlerBody hh => exact ihh _ hh
    | tryElse => exact iho
    | finalBody => exact ihf
  | _ =>
    apply step
    intro state b t h
    cases h

section

variable {round : State → Outcome} {fuel : Nat} {start : State}

theorem all_raised_iterate {P : Env → Prop} (hP : ∀ {a b}, P a → P b → P (a.join b))
    (h : ∀ head ∈ heads round fuel start, (round head).raised.All P) : (iterate round fuel start).2.raised.All P := by
  induction fuel generalizing start with
  | zero => exact h start (by simp [heads])
  | succ fuel ih =>
    by_cases hs : Stable round start
    · rw [iterate_succ_of_stable hs]
      rw [heads_succ_of_stable hs] at h
      exact h start (by simp)
    · rw [iterate_succ_of_not_stable hs]
      rw [heads_succ_of_not_stable hs, List.forall_mem_cons] at h
      exact h.1.join hP (ih h.2)

theorem raised_le_iterate {head : State} (h : head ∈ heads round fuel start) :
    (round head).raised ≤ (iterate round fuel start).2.raised := by
  induction fuel generalizing start with
  | zero =>
    rw [heads, List.mem_singleton] at h
    rw [h]
    exact le_refl _
  | succ fuel ih =>
    by_cases hs : Stable round start
    · rw [heads_succ_of_stable hs, List.mem_singleton] at h
      rw [iterate_succ_of_stable hs, h]
    · rw [heads_succ_of_not_stable hs] at h
      rw [iterate_succ_of_not_stable hs]
      rcases List.mem_cons.mp h with rfl | h
      · exact State.le_join_left _ _
      · exact (ih h).trans (State.le_join_right _ _)

end

section

variable {s : Stmt} {state t : State} {b : List Stmt}

theorem all_raised_exec {P : Env → Prop} (hP : ∀ {a b}, P a → P b → P (a.join b))
    (h : ∀ b t, s.Starts state b t → (execBlock b t).raised.All P) : (s.exec state).raised.All P := by
  cases s with
  | forLoop isAsync target iter body orelse =>
    exact (all_raised_iterate hP fun head hmem => h _ _ (.forRound hmem)).join hP (h _ _ .forElse)
  | whileLoop test body orelse =>
    exact (all_raised_iterate hP fun head hmem => h _ _ (.whileRound hmem)).join hP (h _ _ .whileElse)
  | ifElse line test body orelse => exact (h _ _ .ifTrue).join hP (h _ _ .ifFalse)
  | withBlock isAsync items body => exact h _ _ .withBody
  | matchCases subject cases =>
    have hcases : (execCases subject cases state).raised.All P := by
      rw [execCases_eq_mergeAll]
      exact Outcome.all_mergeAll (fun _ _ => rfl) hP rfl (List.forall_mem_map.mpr fun c hc => h _ _ (.caseBody hc))
    simp only [Stmt.exec]
    split <;> exact hcases
  | tryBlock body handlers orelse final =>
    have hhandlers : (execHandlers handlers (handlerEntry state (execBlock body state))).raised.All P := by
      rw [execHandlers_eq_mergeAll]
      exact Outcome.all_mergeAll (fun _ _ => rfl) hP rfl (List.forall_mem_map.mpr fun c hc => h _ _ (.handlerBody hc))
    exact ((h _ _ .tryBody).join hP (hhandlers.join hP (h _ _ .tryElse))).join hP (h _ _ .finalBody)
  | annAssign target hint value => cases value <;> exact State.all_none
  | _ => exact State.all_none

theorem raised_le_exec (h : s.Starts state b t) : (execBlock b t).raised ≤ (s.exec state).raised := by
  cases h with
  | forRound hmem => exact (raised_le_iterate hmem).trans (State.le_join_left _ _)
  | forElse => exact State.le_join_right _ _
  | whileRound hmem => exact (raised_le_iterate hmem).trans (State.le_join_left _ _)
  | whileElse => exact State.le_join_right _ _
  | ifTrue => exact State.le_join_left _ _
  | ifFalse => exact State.le_join_right _ _
  | withBody => exact le_refl _
  | @caseBody subject cases c _ hc =>
    have hle : (execBlock c.body (caseEntry subject c.pattern c.guard state)).raised ≤
        (execCases subject cases state).raised := by
      rw [execCases_eq_mergeAll]
      exact Outcome.le_mergeAll (f := (·.raised)) (fun _ _ => rfl) (List.mem_map_of_mem hc)
    simp only [Stmt.exec]
    split <;> exact hle
  | tryBody => exact (State.le_join_left _ _).trans (State.le_join_left _ _)
  | @handlerBody body handlers orelse final handler _ hmem =>
    have hle : (execBlock handler.body ((handlerEntry state (execBlock body state)).map
        (·.bindAll handler.name.toList .nonNull))).raised ≤
        (execHandlers handlers (handlerEntry state (execBlock body state))).raised := by
      rw [execHandlers_eq_mergeAll]
      exact Outcome.le_mergeAll (f := (·.raised)) (fun _ _ => rfl) (List.mem_map_of_mem hmem)
    exact ((hle.trans (State.le_join_left _ _)).trans (State.le_join_right _ _)).trans (State.le_join_left _ _)
  | tryElse => exact ((State.le_join_right _ _).trans (State.le_join_right _ _)).trans (State.le_join_left _ _)
  | finalBody => exact State.le_join_right _ _

end

/-- `RaisePoint b state t`: the analysis of the block from `state` comes to a statement after which it is in `t`. -/
def RaisePoint (b : List Stmt) (state t : State) : Prop :=
  ∃ s rest u, Visits b state (s :: rest) u ∧ (s.exec u).next = t

namespace RaisePoint

variable {s : Stmt} {rest b : List Stmt} {state t u : State}

theorem first (s : Stmt) (rest : List Stmt) (state : State) : RaisePoint (s :: rest) state (s.exec state).next :=
  ⟨s, rest, state, .refl, rfl⟩

theorem later (h : RaisePoint rest (s.exec state).next u) : RaisePoint (s :: rest) state u := by
  obtain ⟨s', rest', t, hvisit, hnext⟩ := h
  exact ⟨s', rest', t, .next hvisit, hnext⟩

theorem inside (hstart : s.Starts state b t) (h : RaisePoint b t u) : RaisePoint (s :: rest) state u := by
  obtain ⟨s', rest', t', hvisit, hnext⟩ := h
  exact ⟨s', rest', t', .inside hstart hvisit, hnext⟩

theorem ends (hb : b ≠ []) (state : State) : RaisePoint b state (execBlock b state).next := by
  induction b generalizing state with
  | nil => exact absurd rfl hb
  | cons s rest ih =>
    by_cases hrest : rest = []
    · subst hrest
      exact first s [] state
    · exact later (ih hrest _)

theorem le_raised (h : RaisePoint b state t) : t ≤ (execBlock b state).raised := by
  obtain ⟨s, rest, u, hvisit, rfl⟩ := h
  generalize hb' : s :: rest = b' at hvisit
  induction hvisit with
  | refl =>
    subst hb'
    exact State.le_join_left _ _
  | next _ ih => exact ((ih hb').trans (State.le_join_right _ _)).trans (State.le_join_right _ _)
  | inside hstart _ ih =>
    exact (((ih hb').trans (raised_le_exec hstart)).trans (State.le_join_left _ _)).trans (State.le_join_right _ _)

end RaisePoint

section

variable {P : Env → Prop} (hP : ∀ {a b}, P a → P b → P (a.join b))

include hP

theorem all_raised_execBlock_of {b : List Stmt}
    (ih : ∀ s ∈ b, ∀ state : State, (∀ b t, s.Starts state b t → ∀ u, RaisePoint b t u → u.All P) →
      (s.exec state).raised.All P)
    {state : State} (h : ∀ u, RaisePoint b state u → u.All P) : (execBlock b state).raised.All P := by
  induction b generalizing state with
  | nil => exact State.all_none
  | cons s rest ihrest =>
    rw [List.forall_mem_cons] at ih
    have hs := ih.1 state fun b t hstart u hu => h u (.inside hstart hu)
    have hrest := ihrest ih.2 fun u hu => h u (.later hu)
    exact (h _ (.first s rest state)).join hP (hs.join hP hrest)

theorem all_raised_of_points (s : Stmt) :
    ∀ state : State, (∀ b t, s.Starts state b t → ∀ u, RaisePoint b t u → u.All P) → (s.exec state).raised.All P := by
  induction s using Stmt.inductionOnStarts with
  | step s ih =>
    intro state hpoints
    refine all_raised_exec hP fun b t hstart => ?_
    exact all_raised_execBlock_of hP (ih state b t hstart) (hpoints b t hstart)

theorem all_raised_execBlock {b : List Stmt} {state : State} (h : ∀ u, RaisePoint b state u → u.All P) :
    (execBlock b state).raised.All P :=
  all_raised_execBlock_of hP (fun s _ => all_raised_of_points hP s) h

end

end NullContract
