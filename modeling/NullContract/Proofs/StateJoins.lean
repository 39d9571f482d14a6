import Mathlib.Order.Bounds.Basic
import Mathlib.Tactic.Tauto
import NullContract.Proofs.StateOrder

/-!
States form a join-semilattice. For one name there are five cases: the four verdicts and the absence of the name, which is
joined like `unknown` but stays apart from it where the name is absent from both environments.
-/

namespace NullContract

namespace Env

theorem getElem?_join_eq_ite (a b : Env) (x : String) :
    (a.join b)[x]? = if x ∈ a ∨ x ∈ b then some ((a.verdict x).join (b.verdict x)) else none := by
  rw [getElem?_join]
  simp only [← Std.ExtTreeMap.isSome_getElem?_iff_mem, verdict]
  cases a[x]? <;> cases b[x]? <;> simp [joinSlots]

end Env

namespace State

variable {s bound : State} {xs ys : List State}

theorem le_joinAll (h : s ∈ xs) : s ≤ joinAll xs := by
  induction xs with
  | nil => cases h
  | cons x xs ih =>
    rw [joinAll_cons]
    rcases List.mem_cons.mp h with rfl | h
    · exact le_join_left s _
    · exact (ih h).trans (le_join_right x _)

theorem joinAll_le (h : ∀ s ∈ xs, s ≤ bound) : joinAll xs ≤ bound := by
  induction xs with
  | nil => exact none_le bound
  | cons x xs ih =>
    obtain ⟨hx, hxs⟩ := List.forall_mem_cons.mp h
    rw [joinAll_cons]
    exact join_le hx (ih hxs)

theorem isLUB_joinAll (xs : List State) : IsLUB {s | s ∈ xs} (joinAll xs) :=
  ⟨fun _ => le_joinAll, fun _ => joinAll_le⟩

theorem joinAll_congr (h : ∀ s, s ∈ xs ↔ s ∈ ys) : joinAll xs = joinAll ys := by
  have hset : {s | s ∈ xs} = {s | s ∈ ys} := Set.ext h
  have hxs := isLUB_joinAll xs
  rw [hset] at hxs
  exact hxs.unique (isLUB_joinAll ys)

end State

theorem states_form_join_semilattice (a b c : State) (xs : List State) :
    a.join b = b.join a ∧ (a.join b).join c = a.join (b.join c) ∧ a.join a = a ∧ (State.join none a = a ∧ a.join none = a) ∧
    (∀ e f : Env, State.join (some e) (some f) = some (e.join f) ∧ ∀ x : String,
      (e.join f)[x]? = if x ∈ e ∨ x ∈ f then some ((e.verdict x).join (f.verdict x)) else none) ∧
    (∀ ys, (∀ s, s ∈ xs ↔ s ∈ ys) → State.joinAll xs = State.joinAll ys) ∧
    (a ≤ b ↔ a.join b = b) ∧ IsLUB {s | s ∈ xs} (State.joinAll xs) := by
  refine ⟨State.join_comm a b, State.join_assoc a b c, State.join_self a, ⟨State.none_join a, State.join_none a⟩, ?_,
    fun _ => State.joinAll_congr, State.le_iff, State.isLUB_joinAll xs⟩
  exact fun e f => ⟨rfl, Env.getElem?_join_eq_ite e f⟩

def threeWays : List State :=
  [some ((∅ : Env).insert "x" .nonNull), none, some ((∅ : Env).insert "y" .null)]

def threeWaysAgain : List State :=
  [some ((∅ : Env).insert "y" .null), some ((∅ : Env).insert "x" .nonNull), none, some ((∅ : Env).insert "y" .null)]

theorem states_form_join_semilattice_threeWays :
    (∀ s, s ∈ threeWays ↔ s ∈ threeWaysAgain) ∧ State.joinAll threeWays = State.joinAll threeWaysAgain ∧
      State.joinAll threeWays = some (((∅ : Env).insert "x" .unknown).insert "y" .nullable) := by
  have hsame : ∀ s, s ∈ threeWays ↔ s ∈ threeWaysAgain := by
    intro s
    simp only [threeWays, threeWaysAgain, List.mem_cons, List.not_mem_nil, or_false]
    tauto
  obtain ⟨-, -, -, -, -, hjoin, -⟩ := states_form_join_semilattice none none none threeWays
  exact ⟨hsame, hjoin threeWaysAgain hsame, by decide +kernel⟩

end NullContract
