import NullContract.Flow.Exec
import NullContract.Proofs.Rounds
import NullContract.Proofs.SyntaxInduction

namespace NullContract

def joinEnvs (envs : List Env) : State :=
  State.joinAll (envs.map some)

@[simp] theorem joinEnvs_nil : joinEnvs [] = none := rfl

theorem joinEnvs_cons (env : Env) (envs : List Env) : joinEnvs (env :: envs) = State.join (some env) (joinEnvs envs) :=
  State.joinAll_cons _ _

@[simp] theorem joinEnvs_append (xs ys : List Env) : joinEnvs (xs ++ ys) = (joinEnvs xs).join (joinEnvs ys) := by
  induction xs with
  | nil => rw [List.nil_append, joinEnvs_nil, State.none_join]
  | cons x xs ih => rw [List.cons_append, joinEnvs_cons, joinEnvs_cons, ih, State.join_assoc]

@[simp] theorem joinEnvs_toList (state : State) : joinEnvs state.toList = state := by
  cases state <;> rfl

/-- The states in which a block ends, by the way it ends, each listed on its own and in the order in which the analysis
comes to it. An `Outcome` has the joins of these lists. -/
structure Collected where
  next : State
  breaks : List Env := []
  continues : List Env := []
  raises : List Env := []
  returned : List State := []

namespace Collected

/-- A statement without blocks adds one state to a list at most. -/
def single (out : Outcome) : Collected where
  next := out.next
  breaks := out.broke.toList
  continues := out.continued.toList
  raises := out.raised.toList
  returned := out.returned

def merge (a b : Collected) : Collected where
  next := a.next.join b.next
  breaks := a.breaks ++ b.breaks
  continues := a.continues ++ b.continues
  raises := a.raises ++ b.raises
  returned := a.returned ++ b.returned

def followedBy (a b : Collected) : Collected :=
  { a.merge b with next := b.next }

def cons (s rest : Collected) : Collected :=
  { s.followedBy rest with raises := s.raises ++ s.next.toList ++ rest.raises }

/-- The else block of a try statement is analysed before the handlers, but its return statements stand after theirs. -/
def tried (body orelse handled : Collected) : Collected :=
  { body.followedBy (orelse.merge handled) with returned := body.returned ++ (handled.returned ++ orelse.returned) }

def afterLoop (body orelse : Collected) : Collected where
  next := orelse.next.join (joinEnvs body.breaks)
  breaks := orelse.breaks
  continues := orelse.continues
  raises := body.raises ++ orelse.raises
  returned := body.returned ++ orelse.returned

def withEarlier (earlier last : Collected) : Collected :=
  { last with
    raises := earlier.raises ++ last.raises
    returned := List.zipWith State.join earlier.returned last.returned }

def nextHead (head : State) (round : Collected) : State :=
  (head.join round.next).join (joinEnvs round.continues)

def iterate (round : State → Collected) : (fuel : Nat) → (head : State) → State × Collected
  | 0, head => (head, round head)
  | fuel + 1, head =>
    let out := round head
    let next := out.nextHead head
    if next = head then (head, out)
    else
      let (final, last) := iterate round fuel next
      (final, out.withEarlier last)

def joined (out : Collected) : Outcome where
  next := out.next
  broke := joinEnvs out.breaks
  continued := joinEnvs out.continues
  raised := joinEnvs out.raises
  returned := out.returned

@[simp] theorem joined_single (out : Outcome) : (single out).joined = out := by
  simp [single, joined]

theorem joined_merge (a b : Collected) : (a.merge b).joined = a.joined.merge b.joined := by
  simp [merge, joined, Outcome.merge]

theorem joined_cons (s rest : Collected) : (s.cons rest).joined = s.joined.cons rest.joined := by
  have hraised : (joinEnvs s.raises).join (s.next.join (joinEnvs rest.raises)) =
      s.next.join ((joinEnvs s.raises).join (joinEnvs rest.raises)) := by
    rw [← State.join_assoc, State.join_comm (joinEnvs s.raises), State.join_assoc]
  simp [cons, followedBy, merge, joined, Outcome.cons, Outcome.followedBy, Outcome.merge, hraised]

theorem joined_tried (body orelse handled : Collected) :
    (body.tried orelse handled).joined = body.joined.followedBy (handled.joined.merge orelse.joined) := by
  simp [tried, followedBy, merge, joined, Outcome.followedBy, Outcome.merge, State.join_comm (joinEnvs orelse.breaks),
    State.join_comm (joinEnvs orelse.continues), State.join_comm (joinEnvs orelse.raises), State.join_comm orelse.next]

theorem joined_afterLoop (body orelse : Collected) :
    (body.afterLoop orelse).joined = body.joined.afterLoop orelse.joined := by
  simp [afterLoop, joined, Outcome.afterLoop]

theorem joined_withEarlier (earlier last : Collected) :
    (earlier.withEarlier last).joined = earlier.joined.withEarlier last.joined := by
  simp [withEarlier, joined, Outcome.withEarlier]

section

variable {round : State → Collected}

theorem iterate_succ_of_stable {head : State} (h : (round head).nextHead head = head) (fuel : Nat) :
    iterate round (fuel + 1) head = (head, round head) := by
  simp only [iterate]
  exact if_pos h

theorem iterate_succ_of_not_stable {head : State} (h : (round head).nextHead head ≠ head) (fuel : Nat) :
    iterate round (fuel + 1) head =
      ((iterate round fuel ((round head).nextHead head)).1,
        (round head).withEarlier (iterate round fuel ((round head).nextHead head)).2) := by
  simp only [iterate]
  exact if_neg h

theorem joined_iterate (round : State → Collected) (fuel : Nat) (head : State) :
    NullContract.iterate (fun head => (round head).joined) fuel head =
      ((iterate round fuel head).1, (iterate round fuel head).2.joined) := by
  induction fuel generalizing head with
  | zero => rfl
  | succ fuel ih =>
    by_cases hs : Stable (fun head => (round head).joined) head
    · rw [NullContract.iterate_succ_of_stable hs, iterate_succ_of_stable hs]
    · rw [NullContract.iterate_succ_of_not_stable hs, iterate_succ_of_not_stable hs, joined_withEarlier, ih]
      rfl

theorem breaks_iterate (round : State → Collected) (fuel : Nat) (head : State) :
    (iterate round fuel head).2.breaks = (round (iterate round fuel head).1).breaks := by
  induction fuel generalizing head with
  | zero => rfl
  | succ fuel ih =>
    by_cases hs : (round head).nextHead head = head
    · rw [iterate_succ_of_stable hs]
    · rw [iterate_succ_of_not_stable hs]
      exact ih _

theorem iterate_eq_of_rounds {head final : State} {heads : List State} {out : Outcome}
    (h : Rounds (fun head => (round head).joined) head heads final out) {fuel fuel' : Nat}
    (hfuel : heads.length ≤ fuel + 1) (hle : fuel ≤ fuel') : iterate round fuel' head = iterate round fuel head := by
  induction h generalizing fuel fuel' with
  | @last head hs =>
    have hone : ∀ fuel, iterate round fuel head = (head, round head) := by
      intro fuel
      cases fuel with
      | zero => rfl
      | succ fuel => exact iterate_succ_of_stable hs fuel
    rw [hone, hone]
  | more hs hrest ih =>
    have hpos := hrest.length_pos
    rw [List.length_cons] at hfuel
    obtain ⟨fuel, rfl⟩ : ∃ k, fuel = k + 1 := ⟨fuel - 1, by omega⟩
    obtain ⟨fuel', rfl⟩ : ∃ k, fuel' = k + 1 := ⟨fuel' - 1, by omega⟩
    have hless : fuel ≤ fuel' := by omega
    rw [iterate_succ_of_not_stable hs, iterate_succ_of_not_stable hs]
    exact congrArg (fun result => (result.1, (round _).withEarlier result.2)) (ih (by omega) hless)

end

end Collected

mutual
def Stmt.collect : Stmt → State → Collected
  | .forLoop isAsync target iter body orelse, state =>
    let fuel := loopFuel (Stmt.forLoop isAsync target iter body orelse).names state
    let (head, last) := Collected.iterate (fun head => collectBlock body (head.map (target.bind .unknown))) fuel state
    last.afterLoop (collectBlock orelse head)
  | .whileLoop test body orelse, state =>
    let fuel := loopFuel (Stmt.whileLoop test body orelse).names state
    let (head, last) := Collected.iterate (fun head => collectBlock body (test.assume true head)) fuel state
    last.afterLoop (collectBlock orelse (test.assume false head))
  | .ifElse _ test body orelse, state =>
    let state := state.map test.effects
    (collectBlock body (test.assume true state)).merge (collectBlock orelse (test.assume false state))
  | .withBlock _ items body, state => collectBlock body (state.map (items.foldl bindItem ·))
  | .matchCases subject cases, state =>
    let out := collectCases subject cases state
    if exhaustive cases then out else { out with next := out.next.join state }
  | .tryBlock body handlers orelse final, state =>
    let body := collectBlock body state
    let handlerIn := state.join (joinEnvs body.raises)
    let out := body.tried (collectBlock orelse body.next) (collectHandlers handlers handlerIn)
    let last := collectBlock final (finalEntry out.next handlerIn)
    { out.merge last with next := out.next.bind fun _ => last.next }
  | s, state => .single (s.exec state)

def collectBlock : List Stmt → State → Collected
  | [], state => { next := state }
  | s :: rest, state =>
    let out := s.collect state
    out.cons (collectBlock rest out.next)

def collectHandlers : List Handler → State → Collected
  | [], _ => { next := none }
  | .mk _ _ name body :: rest, state =>
    (collectBlock body (state.map (·.bindAll name.toList .nonNull))).merge (collectHandlers rest state)

def collectCases (subject : Expr) : List Case → State → Collected
  | [], _ => { next := none }
  | .mk pattern guard body :: rest, state =>
    (collectBlock body (caseEntry subject pattern guard state)).merge (collectCases subject rest state)
end

section

variable {b : List Stmt} {hs : List Handler} {cs : List Case}

theorem joined_collectBlock_of (ih : ∀ s ∈ b, ∀ state, (s.collect state).joined = s.exec state) (state : State) :
    (collectBlock b state).joined = execBlock b state := by
  induction b generalizing state with
  | nil => rfl
  | cons s rest ihrest =>
    rw [List.forall_mem_cons] at ih
    simp only [collectBlock, execBlock]
    rw [Collected.joined_cons, ihrest ih.2, ← ih.1]
    rfl

theorem joined_collectHandlers_of (ih : ∀ c ∈ hs, ∀ s ∈ c.body, ∀ state, (s.collect state).joined = s.exec state)
    (state : State) : (collectHandlers hs state).joined = execHandlers hs state := by
  induction hs with
  | nil => rfl
  | cons c rest ihrest =>
    obtain ⟨forGroups, kind, name, body⟩ := c
    rw [List.forall_mem_cons, Handler.body_mk] at ih
    simp only [collectHandlers, execHandlers]
    rw [Collected.joined_merge, joined_collectBlock_of ih.1, ihrest ih.2]

theorem joined_collectCases_of {subject : Expr}
    (ih : ∀ c ∈ cs, ∀ s ∈ c.body, ∀ state, (s.collect state).joined = s.exec state) (state : State) :
    (collectCases subject cs state).joined = execCases subject cs state := by
  induction cs with
  | nil => rfl
  | cons c rest ihrest =>
    obtain ⟨pattern, guard, body⟩ := c
    rw [List.forall_mem_cons, Case.body_mk] at ih
    simp only [collectCases, execCases]
    rw [Collected.joined_merge, joined_collectBlock_of ih.1, ihrest ih.2]

end

theorem joined_collect (s : Stmt) (state : State) : (s.collect state).joined = s.exec state := by
  induction s generalizing state with
  | forLoop isAsync target iter body orelse ihb iho =>
    simp only [Stmt.collect, Stmt.exec]
    rw [Collected.joined_afterLoop, joined_collectBlock_of iho]
    simp only [← joined_collectBlock_of ihb, Collected.joined_iterate]
  | whileLoop test body orelse ihb iho =>
    simp only [Stmt.collect, Stmt.exec]
    rw [Collected.joined_afterLoop, joined_collectBlock_of iho]
    simp only [← joined_collectBlock_of ihb, Collected.joined_iterate]
  | ifElse line test body orelse ihb iho =>
    simp only [Stmt.collect, Stmt.exec]
    rw [Collected.joined_merge, joined_collectBlock_of ihb, joined_collectBlock_of iho]
  | withBlock isAsync items body ih => exact joined_collectBlock_of ih _
  | matchCases subject cases ih =>
    simp only [Stmt.collect, Stmt.exec, ← joined_collectCases_of ih]
    split <;> rfl
  | tryBlock body handlers orelse final ihb ihh iho ihf =>
    simp only [Stmt.collect, Stmt.exec, ← joined_collectBlock_of ihb, ← joined_collectHandlers_of ihh,
      ← joined_collectBlock_of iho, ← joined_collectBlock_of ihf, ← Collected.joined_tried]
    simp only [Collected.joined, Collected.merge, Outcome.merge, handlerEntry, joinEnvs_append]
  | _ => exact Collected.joined_single _

theorem joined_collectBlock (b : List Stmt) (state : State) : (collectBlock b state).joined = execBlock b state :=
  joined_collectBlock_of (fun s _ => joined_collect s) state

end NullContract
