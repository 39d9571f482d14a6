import NullContract.Flow.Meaning
import NullContract.Proofs.SyntaxInduction

namespace NullContract

namespace Expr

theorem forall_mem_subtermsOfList {Q : Expr → Prop} {es : List Expr} :
    (∀ t ∈ subtermsOfList es, Q t) ↔ ∀ e ∈ es, ∀ t ∈ e.subterms, Q t := by
  induction es with
  | nil => simp [subtermsOfList]
  | cons e rest ih => simp only [subtermsOfList, List.mem_append, List.forall_mem_cons, ← ih, or_imp, forall_and]

theorem mem_subterms_self (e : Expr) : e ∈ e.subterms := by
  cases e <;> simp [subterms]

def children : Expr → List Expr
  | literal _ | name _ => []
  | walrus _ value | not value | keyword _ value | member value _ | starred value => [value]
  | junction _ items | tuple items | list items | form _ items => items
  | compare left _ rights => left :: rights
  | cond test body orelse => [test, body, orelse]
  | call callee args keywords => callee :: (args ++ keywords)
  | subscript left right | binary _ left right => [left, right]

theorem inductionOnChildren {motive : Expr → Prop} (h : ∀ e : Expr, (∀ c ∈ e.children, motive c) → motive e) (e : Expr) :
    motive e := by
  induction e with
  | literal value => exact h _ (by simp [children])
  | name id => exact h _ (by simp [children])
  | junction op operands ih => exact h _ ih
  | tuple items ih => exact h _ ih
  | list items ih => exact h _ ih
  | form kind parts ih => exact h _ ih
  | compare left ops rights ihl ihr => exact h _ (List.forall_mem_cons.mpr ⟨ihl, ihr⟩)
  | call callee args keywords ihc iha ihk =>
    exact h _ (List.forall_mem_cons.mpr ⟨ihc, List.forall_mem_append.mpr ⟨iha, ihk⟩⟩)
  | _ => exact h _ (by simp_all [children])

theorem sizeOf_lt_of_mem_children {e c : Expr} (h : c ∈ e.children) : sizeOf c < sizeOf e := by
  have hlist : ∀ es : List Expr, c ∈ es → sizeOf c < sizeOf es := fun _ => List.sizeOf_lt_of_mem
  cases e <;> simp only [children, List.mem_cons, List.mem_append, List.not_mem_nil, or_false] at h <;> grind

theorem mem_subterms {e t : Expr} : t ∈ e.subterms ↔ t = e ∨ ∃ c ∈ e.children, t ∈ c.subterms := by
  have hlist : ∀ {es : List Expr}, t ∈ subtermsOfList es ↔ ∃ c ∈ es, t ∈ c.subterms := by
    intro es
    induction es with
    | nil => simp [subtermsOfList]
    | cons e rest ih => simp [subtermsOfList, ih]
  cases e <;> simp [subterms, children, hlist, or_and_right, exists_or]

theorem subterms_trans {e t u : Expr} (ht : t ∈ e.subterms) (hu : u ∈ t.subterms) : u ∈ e.subterms := by
  induction e using inductionOnChildren with
  | h e ih =>
    rcases mem_subterms.mp ht with rfl | ⟨c, hc, ht⟩
    · exact hu
    · exact mem_subterms.mpr (.inr ⟨c, hc, ih c hc ht⟩)

theorem meanings_eq_map (es : List Expr) : meanings es = es.map meaning := by
  induction es with
  | nil => rfl
  | cons e rest ih => simp [meanings, ih]

theorem forall_mem_meanings {Q : Meaning → Prop} {es : List Expr} :
    (∀ m ∈ meanings es, Q m) ↔ ∀ e ∈ es, Q e.meaning := by
  simp [meanings_eq_map]

end Expr

namespace Meaning

abbrev Assignment := String × (Env → Nullness)

theorem mem_mergeLevels {α : Type} {xs ys : List (List α)} {x : α} :
    x ∈ (mergeLevels xs ys).flatten ↔ x ∈ xs.flatten ∨ x ∈ ys.flatten := by
  fun_induction mergeLevels xs ys with
  | case1 ys => simp
  | case2 xs _ => simp
  | case3 x xs y ys ih =>
    simp only [List.flatten_cons, List.mem_append, ih]
    exact or_or_or_comm

theorem mem_below {children : List Meaning} {p : Assignment} :
    p ∈ (below children).flatten ↔ ∃ m ∈ children, p ∈ m.bindings.flatten := by
  simp only [below, List.flatten_cons, List.nil_append]
  induction children with
  | nil => simp
  | cons m rest ih =>
    rw [List.foldr_cons, mem_mergeLevels, ih]
    simp only [List.mem_cons, exists_eq_or_imp]

theorem apply_induction {P : Env → Prop} {bindings : List (List Assignment)}
    (step : ∀ p ∈ bindings.flatten, ∀ env, P env → P (env.insert p.1 (p.2 env))) {env : Env} (h : P env) :
    P (apply bindings env) := by
  unfold apply
  generalize bindings.flatten = ps at step
  induction ps generalizing env with
  | nil => exact h
  | cons p ps ih =>
    exact ih (step p (by simp) env h) (fun q hq => step q (List.mem_cons_of_mem _ hq))

theorem typeTest?_eq_some {callee : Expr} {args : List Expr} {id : String} (h : typeTest? callee args = some id) :
    callee = .name "isinstance" ∧ ∃ kinds, args = [.name id, kinds] ∧ kinds.mentionsNone = false := by
  unfold typeTest? at h
  split at h
  · next x kinds =>
    split at h
    · cases h
    · next hk =>
      cases h
      exact ⟨rfl, kinds, rfl, by simpa using hk⟩
  · cases h

end Meaning

namespace NullCheck

theorem ofComparison?_eq_some {left right : Expr} {op : Comparison} {check : NullCheck}
    (h : ofComparison? left op right = some check) :
    op.assertsNull? = some check.assertsNull ∧
      (left = .name check.name ∧ right = .literal .none ∨ left = .literal .none ∧ right = .name check.name) := by
  unfold ofComparison? at h
  split at h
  · next hop =>
    cases h
    exact ⟨hop, .inl ⟨rfl, rfl⟩⟩
  · next hop =>
    cases h
    exact ⟨hop, .inr ⟨rfl, rfl⟩⟩
  · cases h

theorem ofCompare?_eq_some {left : Expr} {ops : List Comparison} {rights : List Expr} {check : NullCheck}
    (h : ofCompare? left ops rights = some check) :
    ∃ op right rest, ops = [op] ∧ rights = right :: rest ∧ op.assertsNull? = some check.assertsNull ∧
      (left = .name check.name ∧ right = .literal .none ∨ left = .literal .none ∧ right = .name check.name) := by
  unfold ofCompare? at h
  split at h
  · next op right rest =>
    obtain ⟨hop, hsides⟩ := ofComparison?_eq_some h
    exact ⟨op, right, rest, rfl, rfl, hop, hsides⟩
  · cases h

end NullCheck

theorem Expr.assume_of_nullCheck {e : Expr} {check : NullCheck} (h : e.nullCheck? = some check) (truth : Bool) (env : Env) :
    e.meaning.assume truth env = env.refine check.name (if check.assertsNull = truth then .null else .nonNull) := by
  induction e generalizing check truth with
  | not operand ih =>
    obtain ⟨inner, hinner, rfl⟩ := Option.map_eq_some_iff.mp h
    have hflip : (if inner.assertsNull = !truth then Nullness.null else .nonNull) =
        if (!inner.assertsNull) = truth then .null else .nonNull := by
      cases truth <;> cases inner.assertsNull <;> rfl
    exact (ih hinner (!truth)).trans (congrArg (env.refine inner.name) hflip)
  | compare left ops rights _ _ =>
    have hcheck : NullCheck.ofCompare? left ops rights = some check := h
    simp [meaning, Meaning.compare, hcheck]
  | _ => simp [Expr.nullCheck?] at h

end NullContract
