import NullContract.Proofs.LoopRounds

/-!
How a loop and a branching read the same test. A branching makes the assignments of its test before it asks what the test
says; a loop asks at once. A loop that breaks off after one round therefore ends like the branching from the state in which
the assignments are already made, and from any other state only if they tell the test nothing new.
-/

namespace NullContract

mutual
def Stmt.jumps : Stmt → Bool
  | .break => true
  | .continue => true
  | .forLoop _ _ _ _ orelse => jumpsOfBlock orelse
  | .whileLoop _ _ orelse => jumpsOfBlock orelse
  | .ifElse _ _ body orelse => jumpsOfBlock body || jumpsOfBlock orelse
  | .withBlock _ _ body => jumpsOfBlock body
  | .matchCases _ cases => jumpsOfCases cases
  | .tryBlock body handlers orelse final =>
    jumpsOfBlock body || jumpsOfHandlers handlers || jumpsOfBlock orelse || jumpsOfBlock final
  | _ => false

def jumpsOfBlock : List Stmt → Bool
  | [] => false
  | s :: rest => s.jumps || jumpsOfBlock rest

def jumpsOfHandlers : List Handler → Bool
  | [] => false
  | .mk _ _ _ body :: rest => jumpsOfBlock body || jumpsOfHandlers rest

def jumpsOfCases : List Case → Bool
  | [] => false
  | .mk _ _ body :: rest => jumpsOfBlock body || jumpsOfCases rest
end

namespace Outcome

structure Stays (out : Outcome) : Prop where
  broke : out.broke = none
  continued : out.continued = none

variable {a b : Outcome}

theorem stays_next (state : State) : Stays { next := state } := ⟨rfl, rfl⟩

theorem Stays.merge (ha : a.Stays) (hb : b.Stays) : (a.merge b).Stays where
  broke := State.join_eq_none.mpr ⟨ha.broke, hb.broke⟩
  continued := State.join_eq_none.mpr ⟨ha.continued, hb.continued⟩

theorem Stays.followedBy (ha : a.Stays) (hb : b.Stays) : (a.followedBy b).Stays :=
  ⟨(ha.merge hb).broke, (ha.merge hb).continued⟩

theorem Stays.cons (ha : a.Stays) (hb : b.Stays) : (a.cons b).Stays :=
  ⟨(ha.followedBy hb).broke, (ha.followedBy hb).continued⟩

theorem Stays.afterLoop (hb : b.Stays) : (a.afterLoop b).Stays :=
  ⟨hb.broke, hb.continued⟩

end Outcome

section

variable {b : List Stmt} {hs : List Handler} {cs : List Case}

theorem stays_execBlock_of (ih : ∀ s ∈ b, s.jumps = false → ∀ state, (s.exec state).Stays)
    (h : jumpsOfBlock b = false) (state : State) : (execBlock b state).Stays := by
  induction b generalizing state with
  | nil => exact Outcome.stays_next state
  | cons s rest ihrest =>
    rw [List.forall_mem_cons] at ih
    rw [jumpsOfBlock, Bool.or_eq_false_iff] at h
    exact (ih.1 h.1 state).cons (ihrest ih.2 h.2 _)

theorem stays_execHandlers_of (ih : ∀ c ∈ hs, ∀ s ∈ c.body, s.jumps = false → ∀ state, (s.exec state).Stays)
    (h : jumpsOfHandlers hs = false) (state : State) : (execHandlers hs state).Stays := by
  induction hs with
  | nil => exact Outcome.stays_next none
  | cons c rest ihrest =>
    obtain ⟨forGroups, kind, name, body⟩ := c
    rw [List.forall_mem_cons, Handler.body_mk] at ih
    rw [jumpsOfHandlers, Bool.or_eq_false_iff] at h
    exact (stays_execBlock_of ih.1 h.1 _).merge (ihrest ih.2 h.2)

theorem stays_execCases_of (subject : Expr)
    (ih : ∀ c ∈ cs, ∀ s ∈ c.body, s.jumps = false → ∀ state, (s.exec state).Stays)
    (h : jumpsOfCases cs = false) (state : State) : (execCases subject cs state).Stays := by
  induction cs with
  | nil => exact Outcome.stays_next none
  | cons c rest ihrest =>
    obtain ⟨pattern, guard, body⟩ := c
    rw [List.forall_mem_cons, Case.body_mk] at ih
    rw [jumpsOfCases, Bool.or_eq_false_iff] at h
    exact (stays_execBlock_of ih.1 h.1 _).merge (ihrest ih.2 h.2)

end

theorem stays_exec {s : Stmt} (h : s.jumps = false) (state : State) : (s.exec state).Stays := by
  induction s generalizing state with
  | ret position value => exact ⟨rfl, rfl⟩
  | annAssign target hint value => cases value <;> exact Outcome.stays_next _
  | forLoop isAsync target iter body orelse _ iho =>
    rw [exec_loop rfl]
    exact (stays_execBlock_of iho h _).afterLoop
  | whileLoop test body orelse _ iho =>
    rw [exec_loop rfl]
    exact (stays_execBlock_of iho h _).afterLoop
  | ifElse line test body orelse ihb iho =>
    rw [Stmt.jumps, Bool.or_eq_false_iff] at h
    exact (stays_execBlock_of ihb h.1 _).merge (stays_execBlock_of iho h.2 _)
  | withBlock isAsync items body ih => exact stays_execBlock_of ih h _
  | matchCases subject cases ih =>
    have hcases := stays_execCases_of subject ih h state
    simp only [Stmt.exec]
    split
    · exact hcases
    · exact ⟨hcases.broke, hcases.continued⟩
  | tryBlock body handlers orelse final ihb ihh iho ihf =>
    simp only [Stmt.jumps, Bool.or_eq_false_iff] at h
    obtain ⟨⟨⟨hbody, hhandlers⟩, horelse⟩, hfinal⟩ := h
    have htry := (stays_execBlock_of ihb hbody state).followedBy
      ((stays_execHandlers_of ihh hhandlers (handlerEntry state (execBlock body state))).merge
        (stays_execBlock_of iho horelse (execBlock body state).next))
    have hlast := fun state => htry.merge (stays_execBlock_of ihf hfinal state)
    exact ⟨(hlast _).broke, (hlast _).continued⟩
  | breaks => cases h
  | continues => cases h
  | _ => exact Outcome.stays_next _

theorem stays_execBlock {b : List Stmt} (h : jumpsOfBlock b = false) (state : State) : (execBlock b state).Stays :=
  stays_execBlock_of (fun _ _ => stays_exec) h state

theorem execBlock_append_break (b : List Stmt) (state : State) :
    (execBlock (b ++ [.break]) state).next = none ∧
      (execBlock (b ++ [.break]) state).broke = (execBlock b state).broke.join (execBlock b state).next ∧
      (execBlock (b ++ [.break]) state).continued = (execBlock b state).continued ∧
      (execBlock (b ++ [.break]) state).returned = (execBlock b state).returned := by
  induction b generalizing state with
  | nil => simp [execBlock, Stmt.exec, Outcome.cons, Outcome.followedBy, Outcome.merge]
  | cons s rest ih =>
    obtain ⟨hnext, hbroke, hcontinued, hreturned⟩ := ih (s.exec state).next
    simp [execBlock, Outcome.cons, Outcome.followedBy, Outcome.merge, hnext, hbroke, hcontinued, hreturned,
      State.join_assoc]

def whileOnce (test : Expr) (b : List Stmt) : Stmt :=
  .whileLoop test (b ++ [.break]) []

def Outcome.SameEnd (a b : Outcome) : Prop :=
  a.next = b.next ∧ a.returned = b.returned

section

variable {test : Expr} {b : List Stmt}

theorem exec_whileOnce (test : Expr) (h : jumpsOfBlock b = false) (state : State) :
    ((whileOnce test b).exec state).next = (test.assume false state).join (execBlock b (test.assume true state)).next ∧
      ((whileOnce test b).exec state).returned = (execBlock b (test.assume true state)).returned := by
  have hstays := stays_execBlock h (test.assume true state)
  obtain ⟨hnext, hbroke, hcontinued, hreturned⟩ := execBlock_append_break b (test.assume true state)
  let loop : Loop := ⟨test.assume true, test.assume false, b ++ [.break], []⟩
  -- Nothing comes back to the head, so the first round is the last.
  have hstable : Stable loop.round state := by
    simp [Stable, Outcome.nextHead, Loop.round, loop, hnext, hcontinued, hstays.continued]
  have hexec : (whileOnce test b).exec state =
      (loop.round state).afterLoop (execBlock [] (test.assume false state)) := exec_of_rounds rfl (.last hstable)
  rw [hexec]
  simp [Outcome.afterLoop, Loop.round, loop, execBlock, hbroke, hreturned, hstays.broke]

theorem exec_ifElse_nil (line : Nat) (test : Expr) (b : List Stmt) (env : Env) :
    ((Stmt.ifElse line test b []).exec (some env)).next =
        (test.assume false (some (test.effects env))).join (execBlock b (test.assume true (some (test.effects env)))).next ∧
      ((Stmt.ifElse line test b []).exec (some env)).returned =
        (execBlock b (test.assume true (some (test.effects env)))).returned := by
  simp [Stmt.exec, execBlock, Outcome.merge, State.join_comm]

variable {start env : Env} {line : Nat}

theorem sameEnd_of_assume (h : jumpsOfBlock b = false)
    (hassume : ∀ truth, test.assume truth (some start) = test.assume truth (some (test.effects env))) :
    ((whileOnce test b).exec (some start)).SameEnd ((Stmt.ifElse line test b []).exec (some env)) := by
  obtain ⟨hwhile, hwhile'⟩ := exec_whileOnce test h (some start)
  obtain ⟨hif, hif'⟩ := exec_ifElse_nil line test b env
  constructor
  · rw [hwhile, hif, hassume, hassume]
  · rw [hwhile', hif', hassume]

theorem assume_of_sameEnd
    (h : ((whileOnce test [.ret ⟨1, 0⟩ none]).exec (some start)).SameEnd
      ((Stmt.ifElse line test [.ret ⟨1, 0⟩ none] []).exec (some env)))
    (truth : Bool) : test.assume truth (some start) = test.assume truth (some (test.effects env)) := by
  obtain ⟨hwhile, hwhile'⟩ := exec_whileOnce test (b := [.ret ⟨1, 0⟩ none]) rfl (some start)
  obtain ⟨hif, hif'⟩ := exec_ifElse_nil line test [.ret ⟨1, 0⟩ none] env
  obtain ⟨hnext, hreturned⟩ := h
  rw [hwhile, hif] at hnext
  rw [hwhile', hif'] at hreturned
  -- The body returns in the state in which the test holds, so the code ends in the one in which it fails.
  cases truth with
  | false => simpa [execBlock, Stmt.exec, Outcome.cons, Outcome.followedBy, Outcome.merge] using hnext
  | true => simpa [execBlock, Stmt.exec, Outcome.cons, Outcome.followedBy, Outcome.merge] using hreturned

end

theorem loop_reads_test_before_its_assignments (test : Expr) (env : Env) :
    (∀ line b, jumpsOfBlock b = false →
      ((whileOnce test b).exec (some (test.effects env))).SameEnd ((Stmt.ifElse line test b []).exec (some env))) ∧
    ((∀ line b, jumpsOfBlock b = false →
        ((whileOnce test b).exec (some env)).SameEnd ((Stmt.ifElse line test b []).exec (some env))) ↔
      ∀ truth, test.assume truth (some env) = test.assume truth (some (test.effects env))) ∧
    (test.assigned = [] → ∀ line b, jumpsOfBlock b = false →
      ((whileOnce test b).exec (some env)).SameEnd ((Stmt.ifElse line test b []).exec (some env))) := by
  refine ⟨?_, ⟨?_, ?_⟩, ?_⟩
  · intro line b hb
    exact sameEnd_of_assume hb fun _ => rfl
  · intro h truth
    exact assume_of_sameEnd (h 1 [.ret ⟨1, 0⟩ none] rfl) truth
  · intro h line b hb
    exact sameEnd_of_assume hb h
  · intro h line b hb
    apply sameEnd_of_assume hb
    intro truth
    rw [Expr.effects_eq_self h]

def fetched : Expr :=
  .walrus "item" (.call (.name "fetch") [] [])

theorem loop_reads_test_before_its_assignments_fetched :
    (∀ truth, fetched.assume truth (some ((∅ : Env).insert "item" .null)) =
      fetched.assume truth (some (fetched.effects ((∅ : Env).insert "item" .null)))) ∧
    ∀ line b, jumpsOfBlock b = false →
      ((whileOnce fetched b).exec (some ((∅ : Env).insert "item" .null))).SameEnd
        ((Stmt.ifElse line fetched b []).exec (some ((∅ : Env).insert "item" .null))) := by
  have hassume : ∀ truth, fetched.assume truth (some ((∅ : Env).insert "item" .null)) =
      fetched.assume truth (some (fetched.effects ((∅ : Env).insert "item" .null))) := by
    decide +kernel
  exact ⟨hassume, (loop_reads_test_before_its_assignments fetched _).2.1.mpr hassume⟩

/-- A test with an assignment inside a comparison: the loop does not learn that the name is now null. -/
theorem not_loop_reads_test_as_branching :
    ¬ ((whileOnce (.compare (.walrus "m" (.literal .none)) [.is] [.literal .none]) [.pass]).exec
        (some ((∅ : Env).insert "m" .nonNull))).SameEnd
      ((Stmt.ifElse 1 (.compare (.walrus "m" (.literal .none)) [.is] [.literal .none]) [.pass] []).exec
        (some ((∅ : Env).insert "m" .nonNull))) := by
  rintro ⟨hnext, -⟩
  revert hnext
  decide +kernel

end NullContract
