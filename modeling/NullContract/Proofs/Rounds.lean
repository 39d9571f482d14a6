import Mathlib.Algebra.Order.BigOperators.Group.Finset
import NullContract.Proofs.OutcomeOrder

/-!
The rounds of a loop. The head of the loop only grows, and every growth raises the verdict on some name, so over a
finite set of names the rounds come to a head that one more round leaves as it is.
-/

namespace NullContract

def Stable (round : State → Outcome) (head : State) : Prop :=
  (round head).nextHead head = head

def heads (round : State → Outcome) : (fuel : Nat) → (head : State) → List State
  | 0, head => [head]
  | fuel + 1, head =>
    let next := (round head).nextHead head
    if next = head then [head] else head :: heads round fuel next

/-- `Rounds round head heads final out`: rounds are run from `head` until one of them leaves its head as it is, however
many that takes. They start from `heads`, the last one from `final`, and `out` is the last round together with what left
the loop in the rounds before. -/
inductive Rounds (round : State → Outcome) : State → List State → State → Outcome → Prop where
  | last {head : State} (h : Stable round head) : Rounds round head [head] head (round head)
  | more {head final : State} {heads : List State} {out : Outcome} (h : ¬ Stable round head)
      (hrest : Rounds round ((round head).nextHead head) heads final out) :
      Rounds round head (head :: heads) final ((round head).withEarlier out)

section

variable {round : State → Outcome}

theorem iterate_succ_of_stable {head : State} (h : Stable round head) (fuel : Nat) :
    iterate round (fuel + 1) head = (head, round head) := by
  simp only [iterate]
  exact if_pos h

theorem iterate_succ_of_not_stable {head : State} (h : ¬ Stable round head) (fuel : Nat) :
    iterate round (fuel + 1) head =
      ((iterate round fuel ((round head).nextHead head)).1,
        (round head).withEarlier (iterate round fuel ((round head).nextHead head)).2) := by
  simp only [iterate]
  exact if_neg h

namespace Rounds

variable {head final : State} {heads : List State} {out : Outcome}

theorem stable (h : Rounds round head heads final out) : Stable round final := by
  induction h with
  | last hs => exact hs
  | more _ _ ih => exact ih

theorem length_pos (h : Rounds round head heads final out) : 0 < heads.length := by
  cases h <;> simp

theorem iterate_eq (h : Rounds round head heads final out) {fuel : Nat} (hfuel : heads.length ≤ fuel + 1) :
    iterate round fuel head = (final, out) := by
  induction h generalizing fuel with
  | last hs =>
    cases fuel with
    | zero => rfl
    | succ fuel => exact iterate_succ_of_stable hs fuel
  | more hs hrest ih =>
    have hpos := hrest.length_pos
    rw [List.length_cons] at hfuel
    cases fuel with
    | zero => omega
    | succ fuel => rw [iterate_succ_of_not_stable hs, ih (by omega)]

theorem unique {heads' : List State} {final' : State} {out' : Outcome} (h : Rounds round head heads final out)
    (h' : Rounds round head heads' final' out') : final = final' ∧ out = out' := by
  have hfuel : iterate round (heads.length + heads'.length) head = (final, out) := h.iterate_eq (by omega)
  rw [h'.iterate_eq (by omega)] at hfuel
  cases hfuel
  exact ⟨rfl, rfl⟩

theorem le (h : Rounds round head heads final out) : head ≤ final := by
  induction h with
  | last _ => exact le_refl _
  | more _ _ ih => exact (Outcome.le_nextHead _ _).trans ih

section

variable (hround : ∀ {s t : State}, s ≤ t → round s ≤ round t)

include hround

theorem final_le {bound : State} (hbound : Stable round bound) (h : Rounds round head heads final out)
    (hle : head ≤ bound) : final ≤ bound := by
  induction h with
  | last _ => exact hle
  | @more head final heads out hs hrest ih =>
    apply ih
    calc (round head).nextHead head ≤ (round bound).nextHead bound := Outcome.nextHead_mono hle (hround hle)
      _ = bound := hbound

theorem out_eq (h : Rounds round head heads final out) : out = round final := by
  induction h with
  | last _ => rfl
  | @more head final heads out hs hrest ih =>
    have hle : head ≤ final := (Outcome.le_nextHead head (round head)).trans hrest.le
    rw [ih]
    exact Outcome.withEarlier_eq (hround hle)

theorem mono {head' final' : State} {heads' : List State} {out' : Outcome} (h : Rounds round head heads final out)
    (h' : Rounds round head' heads' final' out') (hle : head ≤ head') : final ≤ final' ∧ out ≤ out' := by
  have hfinal := final_le hround h'.stable h (hle.trans h'.le)
  rw [h.out_eq hround, h'.out_eq hround]
  exact ⟨hfinal, hround hfinal⟩

end

end Rounds

/-- What one round keeps, all rounds keep: `I` speaks of the heads and `O` of what leaves the loop. -/
theorem iterate_induction {I : State → Prop} {O : Outcome → Prop}
    (step : ∀ head, I head → O (round head) ∧ I ((round head).nextHead head))
    (earlier : ∀ a b, O a → O b → O (a.withEarlier b)) (fuel : Nat) {head : State} (h : I head) :
    I (iterate round fuel head).1 ∧ O (iterate round fuel head).2 := by
  induction fuel generalizing head with
  | zero => exact ⟨h, (step head h).1⟩
  | succ fuel ih =>
    obtain ⟨hround, hnext⟩ := step head h
    by_cases hs : Stable round head
    · rw [iterate_succ_of_stable hs]
      exact ⟨h, hround⟩
    · rw [iterate_succ_of_not_stable hs]
      exact ⟨(ih hnext).1, earlier _ _ hround (ih hnext).2⟩

theorem heads_succ_of_stable {head : State} (h : Stable round head) (fuel : Nat) :
    heads round (fuel + 1) head = [head] := by
  simp only [heads]
  exact if_pos h

theorem heads_succ_of_not_stable {head : State} (h : ¬ Stable round head) (fuel : Nat) :
    heads round (fuel + 1) head = head :: heads round fuel ((round head).nextHead head) := by
  simp only [heads]
  exact if_neg h

theorem heads_induction {I : State → Prop} {fuel : Nat} {head : State}
    (step : ∀ t ∈ heads round fuel head, I t → I ((round t).nextHead t)) (h : I head) :
    ∀ t ∈ heads round fuel head, I t := by
  induction fuel generalizing head with
  | zero => simpa [heads] using h
  | succ fuel ih =>
    by_cases hs : Stable round head
    · rw [heads_succ_of_stable hs]
      simpa using h
    · rw [heads_succ_of_not_stable hs, List.forall_mem_cons] at step ⊢
      exact ⟨h, ih step.2 (step.1 h)⟩

theorem head_mem_heads (round : State → Outcome) (fuel : Nat) (head : State) : head ∈ heads round fuel head := by
  cases fuel with
  | zero => simp [heads]
  | succ fuel =>
    simp only [heads]
    split <;> simp

theorem fst_iterate_mem_heads (round : State → Outcome) (fuel : Nat) (head : State) :
    (iterate round fuel head).1 ∈ heads round fuel head := by
  induction fuel generalizing head with
  | zero => simp [iterate, heads]
  | succ fuel ih =>
    by_cases hs : Stable round head
    · rw [iterate_succ_of_stable hs, heads_succ_of_stable hs]
      exact List.mem_singleton.mpr rfl
    · rw [iterate_succ_of_not_stable hs, heads_succ_of_not_stable hs]
      exact List.mem_cons_of_mem _ (ih _)

theorem le_iterate (round : State → Outcome) (fuel : Nat) (head : State) : head ≤ (iterate round fuel head).1 := by
  have hstep : ∀ t, head ≤ t → True ∧ head ≤ (round t).nextHead t :=
    fun t ht => ⟨trivial, ht.trans (Outcome.le_nextHead t _)⟩
  exact (iterate_induction (O := fun _ => True) hstep (fun _ _ _ _ => trivial) fuel (le_refl head)).1

theorem length_returned_iterate {n : Nat} (hlen : ∀ head, (round head).returned.length = n)
    (fuel : Nat) (head : State) : (iterate round fuel head).2.returned.length = n := by
  have hjoin : ∀ a b : Outcome, a.returned.length = n → b.returned.length = n →
      (a.withEarlier b).returned.length = n := by
    intro a b ha hb
    simp [Outcome.withEarlier, ha, hb]
  exact (iterate_induction (I := fun _ => True) (fun t _ => ⟨hlen t, trivial⟩) hjoin fuel trivial).2

theorem round_le_iterate {n : Nat} (hlen : ∀ head, (round head).returned.length = n) (fuel : Nat) (head : State) :
    round (iterate round fuel head).1 ≤ (iterate round fuel head).2 := by
  induction fuel generalizing head with
  | zero => exact Outcome.le_rfl _
  | succ fuel ih =>
    by_cases hs : Stable round head
    · rw [iterate_succ_of_stable hs]
    · rw [iterate_succ_of_not_stable hs]
      refine (ih _).trans (Outcome.le_withEarlier ?_)
      rw [hlen, length_returned_iterate hlen]

end

def slotRank : Option Nullness → Nat
  | none | some .null | some .nonNull => 0
  | some .unknown => 1
  | some .nullable => 2

theorem slotRank_le_two (a : Option Nullness) : slotRank a ≤ 2 := by
  rcases a with _ | a
  · decide
  · cases a <;> decide

theorem slotRank_lt {a b : Option Nullness} (h : joinSlots a b = b) (hne : a ≠ b) : slotRank a < slotRank b := by
  revert h hne
  rcases a with _ | a <;> rcases b with _ | b
  · simp
  · cases b <;> decide
  · cases a <;> decide
  · cases a <;> cases b <;> decide

theorem slotRank_mono {a b : Option Nullness} (h : joinSlots a b = b) : slotRank a ≤ slotRank b := by
  by_cases hne : a = b
  · rw [hne]
  · exact (slotRank_lt h hne).le

namespace Env

def Within (names : Finset String) (env : Env) : Prop :=
  ∀ x ∉ names, env[x]? = none

def rank (names : Finset String) (env : Env) : Nat :=
  ∑ x ∈ names, slotRank env[x]?

theorem rank_le (names : Finset String) (env : Env) : env.rank names ≤ 2 * names.card := by
  calc env.rank names ≤ ∑ _x ∈ names, 2 := Finset.sum_le_sum fun x _ => slotRank_le_two _
    _ = 2 * names.card := by simp [Finset.sum_const, Nat.mul_comm]

theorem rank_lt {names : Finset String} {a b : Env} (h : (some a : State) ≤ some b) (hb : b.Within names)
    (hne : a ≠ b) : a.rank names < b.rank names := by
  have hle := State.some_le_some.mp h
  obtain ⟨x, hx⟩ : ∃ x : String, a[x]? ≠ b[x]? := by
    by_contra hall
    exact hne (Std.ExtTreeMap.ext_getElem? fun x => not_not.mp fun hx => hall ⟨x, hx⟩)
  have hmem : x ∈ names := by
    by_contra hout
    have hbx := hb x hout
    have hax := hle x
    rw [hbx] at hax hx
    revert hax hx
    cases a[x]? <;> simp [joinSlots]
  exact Finset.sum_lt_sum (fun y _ => slotRank_mono (hle y)) ⟨x, hmem, slotRank_lt (hle x) hx⟩

end Env

section

variable {round : State → Outcome}

theorem exists_rounds (names : Finset String)
    (within : ∀ env env' : Env, env.Within names → (round (some env)).nextHead (some env) = some env' →
      env'.Within names) {env : Env} (henv : env.Within names) :
    ∃ heads final out, Rounds round (some env) heads final out ∧
      heads.length + env.rank names ≤ 2 * names.card + 1 := by
  generalize hgap : 2 * names.card - env.rank names = gap
  induction gap using Nat.strong_induction_on generalizing env with
  | _ gap ih =>
    have hmax := Env.rank_le names env
    by_cases hs : Stable round (some env)
    · refine ⟨_, _, _, .last hs, ?_⟩
      rw [List.length_singleton]
      omega
    · obtain ⟨env', hnext, hle⟩ := State.exists_of_some_le (Outcome.le_nextHead (some env) (round (some env)))
      have hwithin := within env env' henv hnext
      have hne : env ≠ env' := by
        rintro rfl
        exact hs hnext
      have hlt := Env.rank_lt hle hwithin hne
      have hmax' := Env.rank_le names env'
      obtain ⟨heads, final, out, hrounds, hlength⟩ := ih _ (by omega) hwithin rfl
      refine ⟨some env :: heads, final, _, .more hs (hnext ▸ hrounds), ?_⟩
      rw [List.length_cons]
      omega

end

end NullContract
