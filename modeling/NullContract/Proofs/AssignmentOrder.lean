import NullContract.Proofs.ExprSoundness

namespace NullContract

namespace Expr

def ownAssignment : Expr → List (String × Expr)
  | walrus target value => [(target, value)]
  | _ => []

def levels (e : Expr) : List (List (String × Expr)) :=
  e.ownAssignment :: (e.children.attach.map fun c => c.1.levels).foldr Meaning.mergeLevels []
termination_by sizeOf e
decreasing_by exact sizeOf_lt_of_mem_children c.2

theorem levels_eq (e : Expr) :
    e.levels = e.ownAssignment :: (e.children.map levels).foldr Meaning.mergeLevels [] := by
  rw [levels, List.attach_map_val]

def assignments (e : Expr) : List (String × Expr) :=
  e.levels.flatten

theorem mem_assignments {e : Expr} {p : String × Expr} :
    p ∈ e.assignments ↔ p ∈ e.ownAssignment ∨ ∃ c ∈ e.children, p ∈ c.assignments := by
  have hlist : ∀ es : List Expr,
      p ∈ ((es.map levels).foldr Meaning.mergeLevels []).flatten ↔ ∃ c ∈ es, p ∈ c.assignments := by
    intro es
    induction es with
    | nil => simp
    | cons e rest ih =>
      rw [List.map_cons, List.foldr_cons, Meaning.mem_mergeLevels, ih]
      simp only [List.mem_cons, exists_eq_or_imp, assignments]
  rw [assignments, levels_eq, List.flatten_cons, List.mem_append, hlist]

theorem mem_assignments_of_child {e c : Expr} {p : String × Expr} (hc : c ∈ e.children) (hp : p ∈ c.assignments) :
    p ∈ e.assignments :=
  mem_assignments.mpr (.inr ⟨c, hc, hp⟩)

theorem mem_assignments_iff_subterms {e : Expr} {x : String} {v : Expr} :
    (x, v) ∈ e.assignments ↔ walrus x v ∈ e.subterms := by
  induction e using inductionOnChildren with
  | h e ih =>
    have hown : (x, v) ∈ e.ownAssignment ↔ walrus x v = e := by
      cases e <;> simp [ownAssignment]
    have hchildren : (∃ c ∈ e.children, (x, v) ∈ c.assignments) ↔ ∃ c ∈ e.children, walrus x v ∈ c.subterms := by
      constructor
      · rintro ⟨c, hc, h⟩
        exact ⟨c, hc, (ih c hc).mp h⟩
      · rintro ⟨c, hc, h⟩
        exact ⟨c, hc, (ih c hc).mpr h⟩
    rw [mem_assignments, mem_subterms, hown, hchildren]

theorem mem_assigned {e : Expr} {x : String} : x ∈ e.assigned ↔ ∃ v, (x, v) ∈ e.assignments := by
  simp only [assigned, List.mem_filterMap, mem_assignments_iff_subterms]
  constructor
  · rintro ⟨t, ht, hx⟩
    split at hx
    · next v =>
      cases hx
      exact ⟨v, ht⟩
    · cases hx
  · rintro ⟨v, h⟩
    exact ⟨walrus x v, h, rfl⟩

theorem target_mem_assigned (x : String) (v : Expr) : x ∈ (walrus x v).assigned :=
  mem_assigned.mpr ⟨v, mem_assignments.mpr (.inl (List.mem_singleton_self _))⟩

end Expr

namespace Meaning

theorem mergeLevels_nil {α : Type} (xs : List (List α)) : mergeLevels xs [] = xs := by
  cases xs <;> rfl

theorem map_mergeLevels {α β : Type} (f : α → β) (xs ys : List (List α)) :
    (mergeLevels xs ys).map (List.map f) = mergeLevels (xs.map (List.map f)) (ys.map (List.map f)) := by
  fun_induction mergeLevels xs ys with
  | case1 ys => rfl
  | case2 xs _ => rw [List.map_nil, mergeLevels_nil]
  | case3 x xs y ys ih => simp only [List.map_cons, List.map_append, mergeLevels, ih]

end Meaning

namespace Expr

def judged (p : String × Expr) : Meaning.Assignment :=
  (p.1, p.2.meaning.value)

theorem bindings_eq_children (e : Expr) :
    e.meaning.bindings = e.ownAssignment.map judged ::
      (e.children.map fun c => c.meaning.bindings).foldr Meaning.mergeLevels [] := by
  cases e <;> simp [meaning, Meaning.walrus, Meaning.literal, Meaning.name, Meaning.not, Meaning.junction, Meaning.compare,
    Meaning.cond, Meaning.call, Meaning.inert, Meaning.below, ownAssignment, children, meanings_eq_map, List.foldr_map,
    Meaning.mergeLevels_nil, judged]

theorem bindings_eq_levels (e : Expr) : e.meaning.bindings = e.levels.map (List.map judged) := by
  induction e using inductionOnChildren with
  | h e ih =>
    rw [bindings_eq_children, levels_eq, List.map_cons]
    congr 1
    generalize e.children = es at ih ⊢
    induction es with
    | nil => rfl
    | cons c rest ihrest =>
      obtain ⟨hc, hrest⟩ := List.forall_mem_cons.mp ih
      rw [List.map_cons, List.foldr_cons, List.map_cons, List.foldr_cons, Meaning.map_mergeLevels, hc, ihrest hrest]

end Expr

def assignAll (assignments : List (String × Expr)) (env : Env) : Env :=
  assignments.foldl (fun env p => env.insert p.1 (p.2.evaluate env)) env

section

variable {ps : List (String × Expr)} {env : Env}

theorem assignAll_induction {P : Env → Prop} (step : ∀ p ∈ ps, ∀ (env : Env) (n : Nullness), P env → P (env.insert p.1 n))
    (h : P env) : P (assignAll ps env) := by
  unfold assignAll
  induction ps generalizing env with
  | nil => exact h
  | cons p ps ih =>
    obtain ⟨hp, hps⟩ := List.forall_mem_cons.mp step
    exact ih hps (hp env _ h)

theorem getElem?_assignAll_of_not_mem {x : String} (hx : x ∉ ps.map Prod.fst) : (assignAll ps env)[x]? = env[x]? := by
  refine assignAll_induction (P := fun env' : Env => env'[x]? = env[x]?) (fun p hp env' n h => ?_) rfl
  have hne : p.1 ≠ x := by
    rintro rfl
    exact hx (List.mem_map_of_mem hp)
  rw [Env.getElem?_insert, if_neg hne, h]

end

namespace Expr

theorem effects_eq_assignAll (e : Expr) (env : Env) : e.effects env = assignAll e.assignments env := by
  rw [effects, Meaning.apply, bindings_eq_levels, ← List.map_flatten, List.foldl_map]
  rfl

theorem effects_walrus (x : String) (v : Expr) (env : Env) :
    (walrus x v).effects env = v.effects (env.insert x (v.evaluate env)) := rfl

theorem getElem?_effects_of_not_assigned {e : Expr} {x : String} (hx : x ∉ e.assigned) (env : Env) :
    (e.effects env)[x]? = env[x]? := by
  rw [effects_eq_assignAll]
  refine getElem?_assignAll_of_not_mem fun h => hx ?_
  obtain ⟨p, hp, rfl⟩ := List.mem_map.mp h
  exact mem_assigned.mpr ⟨p.2, hp⟩

end Expr

end NullContract
