import Mathlib.Order.BoundedOrder.Lattice
import NullContract.Env

/-!
The order that the joins of verdicts and states define: `a ≤ b` if joining `a` to `b` changes nothing, with the
unreachable state below all others. A name that is absent is below `unknown` and `nullable` only.
-/

namespace NullContract

namespace Nullness

instance : Max Nullness := ⟨join⟩

instance : SemilatticeSup Nullness :=
  SemilatticeSup.mk' join_comm join_assoc join_self

theorem le_iff {a b : Nullness} : a ≤ b ↔ a.join b = b := Iff.rfl

instance (a b : Nullness) : Decidable (a ≤ b) :=
  inferInstanceAs (Decidable (a.join b = b))

@[simp] theorem join_left_self (a b : Nullness) : a.join (a.join b) = a.join b := by
  rw [← join_assoc, join_self]

theorem mayBeNull_mono {a b : Nullness} (h : a ≤ b) (ha : a.mayBeNull = true) : b.mayBeNull = true := by
  revert h ha
  cases a <;> cases b <;> decide

theorem nonNull_le {a : Nullness} (h : a ≠ .null) : nonNull ≤ a := by
  cases a with
  | null => exact absurd rfl h
  | nullable => decide
  | nonNull => decide
  | unknown => decide

theorem le_foldl_join (xs : List Nullness) (x : Nullness) : x ≤ xs.foldl join x := by
  induction xs generalizing x with
  | nil => exact le_refl x
  | cons y ys ih => exact le_trans (le_sup_left : x ≤ x ⊔ y) (ih _)

theorem mem_le_foldl_join {xs : List Nullness} {y : Nullness} (hy : y ∈ xs) (x : Nullness) :
    y ≤ xs.foldl join x := by
  induction xs generalizing x with
  | nil => cases hy
  | cons z zs ih =>
    rcases List.mem_cons.mp hy with rfl | hy
    · exact le_trans (le_sup_right : y ≤ x ⊔ y) (le_foldl_join zs _)
    · exact ih hy _

theorem foldl_join_le {xs : List Nullness} {x c : Nullness} (hx : x ≤ c) (hxs : ∀ y ∈ xs, y ≤ c) :
    xs.foldl join x ≤ c := by
  induction xs generalizing x with
  | nil => exact hx
  | cons y ys ih =>
    have hy : x ⊔ y ≤ c := sup_le hx (hxs y (by simp))
    exact ih hy (fun z hz => hxs z (List.mem_cons_of_mem _ hz))

theorem le_joinAll {xs : List Nullness} {x : Nullness} (hx : x ∈ xs) : x ≤ joinAll xs := by
  cases xs with
  | nil => cases hx
  | cons y ys =>
    rcases List.mem_cons.mp hx with rfl | hx
    · exact le_foldl_join ys x
    · exact mem_le_foldl_join hx y

theorem joinAll_le {xs : List Nullness} {c : Nullness} (hne : xs ≠ []) (h : ∀ x ∈ xs, x ≤ c) : joinAll xs ≤ c := by
  cases xs with
  | nil => exact absurd rfl hne
  | cons y ys => exact foldl_join_le (h y (by simp)) (fun z hz => h z (List.mem_cons_of_mem _ hz))

end Nullness

def joinSlots : Option Nullness → Option Nullness → Option Nullness
  | none, none => none
  | a, b => some ((a.getD .unknown).join (b.getD .unknown))

theorem joinSlots_comm (a b : Option Nullness) : joinSlots a b = joinSlots b a := by
  cases a <;> cases b <;> simp [joinSlots, Nullness.join_comm]

theorem joinSlots_assoc (a b c : Option Nullness) :
    joinSlots (joinSlots a b) c = joinSlots a (joinSlots b c) := by
  cases a <;> cases b <;> cases c <;> simp [joinSlots, Nullness.join_assoc]

@[simp] theorem joinSlots_self (a : Option Nullness) : joinSlots a a = a := by
  cases a <;> simp [joinSlots]

namespace Env

@[simp] theorem getElem?_join (a b : Env) (x : String) : (a.join b)[x]? = joinSlots a[x]? b[x]? := by
  simp only [join, Std.ExtTreeMap.getElem?_map, Std.ExtTreeMap.getElem?_union, verdict]
  cases a[x]? <;> cases b[x]? <;> simp [joinSlots]

@[simp] theorem getElem?_insert (env : Env) (x y : String) (v : Nullness) :
    (env.insert x v)[y]? = if x = y then some v else env[y]? := by
  simp [Std.ExtTreeMap.getElem?_insert]

@[simp] theorem getElem?_erase (env : Env) (x y : String) :
    (env.erase x)[y]? = if x = y then none else env[y]? := by
  simp [Std.ExtTreeMap.getElem?_erase]

theorem verdict_join (a b : Env) (x : String) : (a.join b).verdict x = (a.verdict x).join (b.verdict x) := by
  simp only [verdict, getElem?_join]
  cases a[x]? <;> cases b[x]? <;> simp [joinSlots]

theorem verdict_insert (env : Env) (x y : String) (v : Nullness) :
    verdict (env.insert x v) y = if x = y then v else env.verdict y := by
  simp only [verdict, getElem?_insert]
  split <;> simp

theorem verdict_erase (env : Env) (x y : String) :
    verdict (env.erase x) y = if x = y then .unknown else env.verdict y := by
  simp only [verdict, getElem?_erase]
  split <;> simp

theorem refine_eq_some {env env' : Env} {x : String} {v : Nullness} :
    env.refine x v = some env' ↔
      ¬ (v = .null ∧ env.verdict x = .nonNull) ∧ ¬ (v = .nonNull ∧ env.verdict x = .null) ∧ env' = env.insert x v := by
  unfold refine
  cases v <;> cases env.verdict x <;> simp [eq_comm]

end Env

namespace State

theorem join_comm (a b : State) : a.join b = b.join a := by
  cases a <;> cases b <;> try rfl
  simp only [join]
  congr 1
  exact Std.ExtTreeMap.ext_getElem? fun x => by simp [joinSlots_comm]

theorem join_assoc (a b c : State) : (a.join b).join c = a.join (b.join c) := by
  cases a <;> cases b <;> cases c <;> try rfl
  simp only [join]
  congr 1
  exact Std.ExtTreeMap.ext_getElem? fun x => by simp [joinSlots_assoc]

@[simp] theorem join_self (a : State) : a.join a = a := by
  cases a with
  | none => rfl
  | some env =>
    simp only [join]
    congr 1
    exact Std.ExtTreeMap.ext_getElem? fun x => by simp

@[simp] theorem none_join (a : State) : join none a = a := by
  cases a <;> rfl

@[simp] theorem join_none (a : State) : a.join none = a := by
  cases a <;> rfl

theorem join_eq_none {a b : State} : a.join b = none ↔ a = none ∧ b = none := by
  cases a <;> cases b <;> simp [join]

instance : Max State := ⟨join⟩

instance : SemilatticeSup State :=
  SemilatticeSup.mk' join_comm join_assoc join_self

instance : OrderBot State where
  bot := none
  bot_le := none_join

theorem le_iff {a b : State} : a ≤ b ↔ a.join b = b := Iff.rfl

theorem none_le (a : State) : none ≤ a := bot_le (a := a)

theorem eq_none_of_le {a : State} (h : a ≤ none) : a = none := le_bot_iff.mp h

theorem le_join_left (a b : State) : a ≤ a.join b := le_sup_left (a := a) (b := b)

theorem le_join_right (a b : State) : b ≤ a.join b := le_sup_right (a := a) (b := b)

theorem join_le {a b c : State} (ha : a ≤ c) (hb : b ≤ c) : a.join b ≤ c := sup_le ha hb

theorem join_mono {a b c d : State} (h : a ≤ b) (h' : c ≤ d) : a.join c ≤ b.join d := sup_le_sup h h'

theorem joinAll_cons (s : State) (states : List State) : joinAll (s :: states) = s.join (joinAll states) := by
  have : Std.Associative State.join := ⟨join_assoc⟩
  have hfold : states.foldl join (s.join none) = s.join (states.foldl join none) := List.foldl_assoc
  simpa [joinAll] using hfold

theorem some_le_some {a b : Env} : (some a : State) ≤ some b ↔ ∀ x : String, joinSlots a[x]? b[x]? = b[x]? := by
  simp only [le_iff, join, Option.some.injEq]
  constructor
  · intro h x
    rw [← Env.getElem?_join, h]
  · intro h
    exact Std.ExtTreeMap.ext_getElem? fun x => by rw [Env.getElem?_join, h]

theorem exists_of_some_le {a : Env} {t : State} (h : some a ≤ t) : ∃ b, t = some b ∧ (some a : State) ≤ some b := by
  cases t with
  | none => exact absurd (eq_none_of_le h) (by simp)
  | some b => exact ⟨b, rfl, h⟩

theorem map_mono {f : Env → Env} (hf : ∀ {a b : Env}, (some a : State) ≤ some b → (some (f a) : State) ≤ some (f b))
    {s t : State} (h : s ≤ t) : (s.map f : State) ≤ t.map f := by
  cases s with
  | none => exact none_le _
  | some a =>
    obtain ⟨b, rfl, hab⟩ := exists_of_some_le h
    exact hf hab

theorem bind_mono {f : Env → State} (hf : ∀ {a b : Env}, (some a : State) ≤ some b → f a ≤ f b)
    {s t : State} (h : s ≤ t) : (s.bind f : State) ≤ t.bind f := by
  cases s with
  | none => exact none_le _
  | some a =>
    obtain ⟨b, rfl, hab⟩ := exists_of_some_le h
    exact hf hab

end State

namespace Env

variable {a b : Env}

theorem verdict_mono (h : (some a : State) ≤ some b) (x : String) : a.verdict x ≤ b.verdict x := by
  have hx := State.some_le_some.mp h x
  rw [Nullness.le_iff, ← verdict_join, verdict, verdict, getElem?_join, hx]

theorem insert_mono (h : (some a : State) ≤ some b) (x : String) {v w : Nullness} (hvw : v ≤ w) :
    (some (a.insert x v) : State) ≤ some (b.insert x w) := by
  refine State.some_le_some.mpr fun y => ?_
  simp only [getElem?_insert]
  split
  · exact congrArg some hvw
  · exact State.some_le_some.mp h y

theorem erase_mono (h : (some a : State) ≤ some b) (x : String) :
    (some (a.erase x) : State) ≤ some (b.erase x) := by
  refine State.some_le_some.mpr fun y => ?_
  simp only [getElem?_erase]
  split
  · rfl
  · exact State.some_le_some.mp h y

theorem refine_mono (h : (some a : State) ≤ some b) (x : String) (v : Nullness) :
    (a.refine x v : State) ≤ b.refine x v := by
  cases ha : a.refine x v with
  | none => exact State.none_le _
  | some a' =>
    obtain ⟨hnull, hnonNull, rfl⟩ := refine_eq_some.mp ha
    have hx := verdict_mono h x
    -- A refinement that fails above fails below: nothing but itself is below `null` or `nonNull`.
    have hb : b.refine x v = some (b.insert x v) := by
      refine refine_eq_some.mpr ⟨?_, ?_, rfl⟩
      · rintro ⟨rfl, hb⟩
        refine hnull ⟨rfl, ?_⟩
        rw [hb] at hx
        revert hx
        cases a.verdict x <;> decide
      · rintro ⟨rfl, hb⟩
        refine hnonNull ⟨rfl, ?_⟩
        rw [hb] at hx
        revert hx
        cases a.verdict x <;> decide
    rw [hb]
    exact insert_mono h x (le_refl v)

theorem contains_mono (h : (some a : State) ≤ some b) {x : String} (hx : a.contains x = true) :
    b.contains x = true := by
  have hs := State.some_le_some.mp h x
  rw [Std.ExtTreeMap.contains_eq_isSome_getElem?] at *
  revert hs hx
  cases a[x]? <;> cases b[x]? <;> simp [joinSlots]

@[simp] theorem getElem?_bindAll (env : Env) (names : List String) (v : Nullness) (x : String) :
    (env.bindAll names v)[x]? = if x ∈ names then some v else env[x]? := by
  unfold bindAll
  induction names generalizing env with
  | nil => simp
  | cons y names ih =>
    rw [List.foldl_cons, ih, getElem?_insert]
    by_cases hx : x ∈ names
    · simp [hx]
    · by_cases hy : y = x
      · simp [hx, hy]
      · simp [hx, hy, Ne.symm hy]

theorem verdict_bindAll (env : Env) (names : List String) (v : Nullness) (x : String) :
    (env.bindAll names v).verdict x = if x ∈ names then v else env.verdict x := by
  simp only [verdict, getElem?_bindAll]
  split <;> simp

theorem bindAll_mono (h : (some a : State) ≤ some b) (names : List String) (v : Nullness) :
    (some (a.bindAll names v) : State) ≤ some (b.bindAll names v) := by
  unfold bindAll
  induction names generalizing a b with
  | nil => exact h
  | cons x names ih => exact ih (insert_mono h x (le_refl v))

end Env

end NullContract
