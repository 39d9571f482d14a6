import Mathlib.Logic.Function.Iterate
import NullContract.Proofs.MonotoneFlow
import NullContract.Proofs.ReturnSites

namespace NullContract

theorem getD_zipWith_join {xs ys : List State} (h : xs.length = ys.length) (i : Nat) :
    (List.zipWith State.join xs ys).getD i none = (xs.getD i none).join (ys.getD i none) := by
  simp only [List.getD_eq_getElem?_getD, List.getElem?_zipWith]
  by_cases hi : i < xs.length
  · rw [List.getElem?_eq_getElem hi, List.getElem?_eq_getElem (h ▸ hi)]
    rfl
  · rw [List.getElem?_eq_none (by omega), List.getElem?_eq_none (by omega)]
    rfl

namespace Rounds

variable {round : State → Outcome} {head final : State} {heads : List State} {out : Outcome}

theorem returned_eq {n : Nat} (hlen : ∀ head, (round head).returned.length = n)
    (h : Rounds round head heads final out) :
    out.returned.length = n ∧
      ∀ i, out.returned.getD i none = State.joinAll (heads.map fun head => (round head).returned.getD i none) := by
  induction h with
  | @last head _ =>
    refine ⟨hlen head, fun i => ?_⟩
    rw [List.map_singleton, State.joinAll_cons]
    exact (State.join_none _).symm
  | @more head final heads out _ _ ih =>
    obtain ⟨hlength, hreturned⟩ := ih
    refine ⟨?_, fun i => ?_⟩
    · simp [Outcome.withEarlier, hlen, hlength]
    · rw [List.map_cons, State.joinAll_cons, ← hreturned]
      apply getD_zipWith_join
      rw [hlen, hlength]

theorem iterate_nextHead (h : Rounds round head heads final out) {k : Nat} (hk : heads.length ≤ k + 1) :
    (fun head => (round head).nextHead head)^[k] head = final := by
  induction h generalizing k with
  | @last head hs =>
    have hfixed : (fun head => (round head).nextHead head) head = head := hs
    exact Function.iterate_fixed hfixed k
  | more _ hrest ih =>
    have hpos := hrest.length_pos
    rw [List.length_cons] at hk
    cases k with
    | zero => omega
    | succ k =>
      rw [Function.iterate_succ_apply]
      exact ih (by omega)

end Rounds

theorem loop_head_is_least {s : Stmt} {loop : Loop} (h : s.loop? = some loop)
    (hfinal : ∀ t ∈ nestedOfBlock loop.body, t.hasFinal = false) (env : Env) :
    ∃ heads final out, Rounds loop.round (some env) heads final out ∧
      s.exec (some env) = out.afterLoop (execBlock loop.orelse (loop.leave final)) ∧
      (∀ bound : State, some env ≤ bound → Stable loop.round bound → final ≤ bound) ∧
      (∀ start : State, some env ≤ start → start ≤ final → ∃ heads', Rounds loop.round start heads' final out) ∧
      (∀ k, heads.length ≤ k + 1 → (fun head => (loop.round head).nextHead head)^[k] (some env) = final) ∧
      ∀ i, out.returned.getD i none = State.joinAll (heads.map fun head => (loop.round head).returned.getD i none) ∧
        out.returned.getD i none = (loop.round final).returned.getD i none := by
  have hround : ∀ {a b : State}, a ≤ b → loop.round a ≤ loop.round b :=
    fun hab => execBlock_mono hfinal (enter_mono h hab)
  have hlen := fun head : State =>
    length_returned_execBlock (b := loop.body) (fun c _ => length_returned_exec c) (loop.enter head) []
  obtain ⟨heads, final, out, hrounds, -⟩ := exists_rounds_of_loop h (some env)
  refine ⟨heads, final, out, hrounds, exec_of_rounds h hrounds, ?_, ?_, fun k => hrounds.iterate_nextHead, fun i => ⟨?_, ?_⟩⟩
  · intro bound hbound hstable
    exact hrounds.final_le hround hstable hbound
  · intro start hstart hle
    obtain ⟨heads', final', out', hrounds', -⟩ := exists_rounds_of_loop h start
    have hfinal' : final' = final := by
      apply le_antisymm
      · exact hrounds'.final_le hround hrounds.stable hle
      · exact hrounds.final_le hround hrounds'.stable (hstart.trans hrounds'.le)
    subst hfinal'
    rw [hrounds.out_eq hround, ← hrounds'.out_eq hround]
    exact ⟨heads', hrounds'⟩
  · exact (hrounds.returned_eq hlen).2 i
  · rw [hrounds.out_eq hround]

def keepsLast : Stmt :=
  .forLoop false (.name "item") (.name "items")
    [.tryBlock
      [.ifElse 3 (.name "item") [.ret ⟨4, 16⟩ (some (.name "kept"))] [.assign [.name "kept"] (.name "spare")]]
      [.mk false none (some "fault") [.assign [.name "kept"] (.name "fault"), .continue]]
      [.assign [.name "spare"] (.name "other")] [],
    .assign [.name "other"] (.literal .none)]
    []

def keepsLastEntry : Env :=
  (((∅ : Env).insert "kept" .nonNull).insert "spare" .nonNull).insert "other" .nonNull

theorem loop_head_is_least_keepsLast :
    ∃ loop heads final out, keepsLast.loop? = some loop ∧ (∀ t ∈ nestedOfBlock loop.body, t.hasFinal = false) ∧
      Rounds loop.round (some keepsLastEntry) heads final out ∧
      (∀ bound : State, some keepsLastEntry ≤ bound → Stable loop.round bound → final ≤ bound) ∧
      out.returned.getD 0 none = (loop.round final).returned.getD 0 none ∧
      ((out.returned.getD 0 none).map fun env => env.verdict "kept") = some .nullable := by
  have hfinal : ∀ loop, keepsLast.loop? = some loop → ∀ t ∈ nestedOfBlock loop.body, t.hasFinal = false := by
    rintro _ ⟨⟩
    decide
  obtain ⟨heads, final, out, hrounds, hexec, hleast, -, -, hreturned⟩ :=
    loop_head_is_least (s := keepsLast) rfl (hfinal _ rfl) keepsLastEntry
  have hout : out.returned = (keepsLast.exec (some keepsLastEntry)).returned := by
    rw [hexec]
    exact (List.append_nil _).symm
  refine ⟨_, heads, final, out, rfl, hfinal _ rfl, hrounds, hleast, (hreturned 0).2, ?_⟩
  rw [hout]
  decide +kernel

end NullContract
