import Mathlib.Data.List.Chain
import NullContract.Proofs.CollectedStates
import NullContract.Proofs.LoopHead

namespace NullContract

namespace Rounds

variable {round : State → Outcome} {head final : State} {heads : List State} {out : Outcome}

theorem isChain (h : Rounds round head heads final out) : heads.IsChain (· ≤ ·) := by
  induction h with
  | last _ => exact List.isChain_singleton _
  | more _ hrest ih =>
    cases hrest with
    | last _ => exact .cons_cons (Outcome.le_nextHead _ _) ih
    | more _ _ => exact .cons_cons (Outcome.le_nextHead _ _) ih

theorem broke_eq (h : Rounds round head heads final out) : out.broke = (round final).broke := by
  induction h with
  | last _ => rfl
  | more _ _ ih => exact ih

end Rounds

def Loop.collect (loop : Loop) (head : State) : Collected :=
  collectBlock loop.body (loop.enter head)

theorem Loop.joined_collect (loop : Loop) (head : State) : (loop.collect head).joined = loop.round head :=
  joined_collectBlock loop.body (loop.enter head)

section

variable {s : Stmt} {loop : Loop} {state final : State} {heads : List State} {out : Outcome}

theorem exec_loop (h : s.loop? = some loop) (state : State) :
    s.exec state = (iterate loop.round (loopFuel s.names state) state).2.afterLoop
      (execBlock loop.orelse (loop.leave (iterate loop.round (loopFuel s.names state) state).1)) := by
  cases s with
  | forLoop isAsync target iter body orelse =>
    cases h
    rfl
  | whileLoop test body orelse =>
    cases h
    rfl
  | _ => cases h

theorem exec_of_rounds (h : s.loop? = some loop) (hrounds : Rounds loop.round state heads final out) :
    s.exec state = out.afterLoop (execBlock loop.orelse (loop.leave final)) := by
  obtain ⟨heads', final', out', hrounds', hlength⟩ := exists_rounds_of_loop h state
  obtain ⟨rfl, rfl⟩ := hrounds.unique hrounds'
  rw [exec_loop h, hrounds'.iterate_eq hlength]

theorem collect_loop (h : s.loop? = some loop) (state : State) :
    s.collect state = (Collected.iterate loop.collect (loopFuel s.names state) state).2.afterLoop
      (collectBlock loop.orelse (loop.leave (Collected.iterate loop.collect (loopFuel s.names state) state).1)) := by
  cases s with
  | forLoop isAsync target iter body orelse =>
    cases h
    rfl
  | whileLoop test body orelse =>
    cases h
    rfl
  | _ => cases h

theorem iterate_collect_of_rounds (h : s.loop? = some loop) (hrounds : Rounds loop.round state heads final out) :
    ∃ last, Collected.iterate loop.collect (loopFuel s.names state) state = (final, last) ∧ last.joined = out := by
  obtain ⟨heads', final', out', hrounds', hlength⟩ := exists_rounds_of_loop h state
  obtain ⟨rfl, rfl⟩ := hrounds.unique hrounds'
  have hjoined := Collected.joined_iterate loop.collect (loopFuel s.names state) state
  rw [funext loop.joined_collect, hrounds'.iterate_eq hlength, Prod.mk.injEq] at hjoined
  exact ⟨_, Prod.ext hjoined.1.symm rfl, hjoined.2.symm⟩

theorem iterate_collect_eq (h : s.loop? = some loop) {fuel : Nat}
    (hle : loopFuel s.names state ≤ fuel) :
    Collected.iterate loop.collect fuel state = Collected.iterate loop.collect (loopFuel s.names state) state := by
  obtain ⟨heads, final, out, hrounds, hlength⟩ := exists_rounds_of_loop h state
  rw [← funext loop.joined_collect] at hrounds
  exact Collected.iterate_eq_of_rounds hrounds hlength hle

end

theorem loop_comes_to_closed_head {s : Stmt} {loop : Loop} (h : s.loop? = some loop) (env : Env) :
    ∃ heads final out, Rounds loop.round (some env) heads final out ∧
      s.exec (some env) = out.afterLoop (execBlock loop.orelse (loop.leave final)) ∧
      heads.length ≤ 2 * (env.keys ++ s.names).toFinset.card + 1 ∧
      heads.IsChain (fun head next => head.join next = next) ∧
      State.join (some env) final = final ∧
      (final.join (loop.round final).next).join (loop.round final).continued = final ∧
      out.broke = (loop.round final).broke ∧
      State.joinAll (final :: (loop.collect final).next :: (loop.collect final).continues.map some) = final ∧
      ∃ last : Collected, last.joined = out ∧ last.breaks = (loop.collect final).breaks ∧
        s.collect (some env) = last.afterLoop (collectBlock loop.orelse (loop.leave final)) := by
  obtain ⟨heads, final, out, hrounds, hlength⟩ := exists_rounds_of_env h env
  have hclosed : State.joinAll (final :: (loop.collect final).next :: (loop.collect final).continues.map some) = final := by
    rw [State.joinAll_cons, State.joinAll_cons, ← State.join_assoc]
    have hstable := hrounds.stable
    rwa [Stable, ← loop.joined_collect] at hstable
  refine ⟨heads, final, out, hrounds, exec_of_rounds h hrounds, hlength, hrounds.isChain, hrounds.le, hrounds.stable,
    hrounds.broke_eq, hclosed, ?_⟩
  obtain ⟨last, hiterate, hjoined⟩ := iterate_collect_of_rounds h hrounds
  refine ⟨last, hjoined, ?_, ?_⟩
  · have hbreaks := Collected.breaks_iterate loop.collect (loopFuel s.names (some env)) (some env)
    rwa [hiterate] at hbreaks
  · rw [collect_loop h, hiterate]

def handsOn : Stmt :=
  .whileLoop (.name "more")
    [.forLoop true (.name "item") (.name "items")
      [.tryBlock
        [.matchCases (.name "item") [
          .mk (.singleton none) none [.continue],
          .mk (.capture (some "found")) none [.break]]]
        [.mk false none (some "fault") [.assign [.name "found"] (.name "fault")]] [] [.pass]]
      [],
    .assign [.name "first"] (.name "second"),
    .assign [.name "second"] (.name "third"),
    .assign [.name "third"] (.name "found"),
    .ifElse 13 (.name "first") [.continue] [.break]]
    []

def handsOnEntry : Env :=
  ((((∅ : Env).insert "first" .nonNull).insert "second" .nonNull).insert "third" .nonNull).insert "found" .null

theorem loop_comes_to_closed_head_handsOn :
    ∃ loop heads final out, handsOn.loop? = some loop ∧ Rounds loop.round (some handsOnEntry) heads final out ∧
      heads.length ≤ 15 ∧ heads.IsChain (fun head next => head.join next = next) ∧
      (final.join (loop.round final).next).join (loop.round final).continued = final ∧
      out.broke = (loop.round final).broke ∧
      (∃ last : Collected, last.joined = out ∧ last.breaks = (loop.collect final).breaks) ∧
      (out.broke.map fun env => env.verdict "second") = some .nullable := by
  obtain ⟨heads, final, out, hrounds, -, hlength, hchain, -, hclosed, hbroke, -, last, hjoined, hbreaks, -⟩ :=
    loop_comes_to_closed_head (s := handsOn) rfl handsOnEntry
  have hcard : (handsOnEntry.keys ++ handsOn.names).toFinset.card = 7 := by decide +kernel
  rw [hcard] at hlength
  refine ⟨_, heads, final, out, rfl, hrounds, hlength, hchain, hclosed, hbroke, ⟨last, hjoined, hbreaks⟩, ?_⟩
  have hout := congrArg (fun result => result.2.broke.map fun env => env.verdict "second") (hrounds.iterate_eq hlength)
  rw [← hout]
  decide +kernel

end NullContract
