import NullContract.Proofs.AssignmentOrder

/-!
Evaluation of expressions that assign on the way: from left to right, inner operands first. What a junction, a conditional
or a chain of comparisons does not reach is not evaluated, and its assignments are not made. Lambdas and comprehensions
hold no assignments.
-/

namespace NullContract

def interleave {α : Type} : List α → List α → List α
  | x :: xs, y :: ys => x :: y :: interleave xs ys
  | [], ys => ys
  | xs, [] => xs

theorem mem_interleave {α : Type} {a : α} {xs ys : List α} : a ∈ interleave xs ys ↔ a ∈ xs ∨ a ∈ ys := by
  fun_induction interleave xs ys with
  | case1 x xs y ys ih =>
    simp only [List.mem_cons, ih]
    rw [← or_assoc, or_or_or_comm]
  | case2 ys => simp
  | case3 xs _ => simp

namespace Expr

/-- The operands of an expression in the order of evaluation; a dictionary takes each key with its value. -/
def operands : Expr → List Expr
  | form .dict parts => interleave (parts.take (parts.length / 2)) (parts.drop (parts.length / 2))
  | e => e.children

theorem mem_operands {e c : Expr} : c ∈ e.operands ↔ c ∈ e.children := by
  unfold operands
  split
  · next parts => rw [mem_interleave, ← List.mem_append, List.take_append_drop, children]
  · rfl

def evaluatesParts : Expr → Bool
  | keyword _ _ | member _ _ | subscript _ _ | starred _ | list _ | binary _ _ _ | form .set _ | form .dict _
  | form .unpacking _ | form .joinedText _ | form (.unary _) _ | form (.formattedValue _) _ | form .await _
  | form .yield _ | form .yieldFrom _ | form (.slice _ _ _) _ => true
  | _ => false

def opensScope : Expr → Bool
  | form .listComp _ | form .setComp _ | form .dictComp _ | form .generator _ | form .lambda _ => true
  | _ => false

end Expr

-- Operands whose values are not looked at are evaluated as the items of a tuple, so that one relation is enough.
/-- `Evals σ e v made σ'`: from the store `σ` the expression may have the value `v` and leave the store `σ'`, and `made`
are the assignments on the way, in their order. -/
inductive Evals : Store → Expr → Value → List (String × Expr) → Store → Prop where
  | literal {σ : Store} (lit : Literal) : Evals σ (.literal lit) lit.val [] σ
  | name {σ : Store} {id : String} {v : Value} (h : σ id = some v) : Evals σ (.name id) v [] σ
  | walrus {σ τ : Store} {target : String} {value : Expr} {v : Value} {made : List (String × Expr)}
      (h : Evals σ value v made τ) :
      Evals σ (.walrus target value) v (made ++ [(target, value)]) (τ.set target (some v))
  | not {σ τ : Store} {e : Expr} {v : Value} {made : List (String × Expr)} (h : Evals σ e v made τ) :
      Evals σ (.not e) (.ofBool !v.truth) made τ
  | lastOperand {σ τ : Store} {op : Junctor} {e : Expr} {v : Value} {made : List (String × Expr)}
      (h : Evals σ e v made τ) : Evals σ (.junction op [e]) v made τ
  | decides {σ τ : Store} {op : Junctor} {e e' : Expr} {rest : List Expr} {v : Value} {made : List (String × Expr)}
      (h : Evals σ e v made τ) (hv : v.truth = decide (op = .or)) : Evals σ (.junction op (e :: e' :: rest)) v made τ
  | goesOn {σ τ σ' : Store} {op : Junctor} {e e' : Expr} {rest : List Expr} {v w : Value}
      {made more : List (String × Expr)} (h : Evals σ e w made τ) (hw : w.truth = !decide (op = .or))
      (hrest : Evals τ (.junction op (e' :: rest)) v more σ') :
      Evals σ (.junction op (e :: e' :: rest)) v (made ++ more) σ'
  | same {σ τ σ' : Store} {op : Comparison} {left right : Expr} {a b : Value} {made more : List (String × Expr)}
      (hop : op = .is ∨ op = .eq) (hnone : left.isNone = true ∨ right.isNone = true) (hl : Evals σ left a made τ)
      (hr : Evals τ right b more σ') : Evals σ (.compare left [op] [right]) (.ofBool (a = b)) (made ++ more) σ'
  | differs {σ τ σ' : Store} {op : Comparison} {left right : Expr} {a b : Value} {made more : List (String × Expr)}
      (hop : op = .isNot ∨ op = .notEq) (hnone : left.isNone = true ∨ right.isNone = true) (hl : Evals σ left a made τ)
      (hr : Evals τ right b more σ') : Evals σ (.compare left [op] [right]) (.ofBool (a ≠ b)) (made ++ more) σ'
  -- A chain of comparisons stops at the first one that is false.
  | compare {σ σ' : Store} {left right : Expr} {ops : List Comparison} {reached skipped : List Expr} {v w : Value}
      {made : List (String × Expr)} (h : ¬ comparesNone left ops (right :: (reached ++ skipped)))
      (hparts : Evals σ (.tuple (left :: right :: reached)) w made σ') (hv : v ≠ .none)
      (hskip : skipped ≠ [] → v.truth = false) : Evals σ (.compare left ops (right :: (reached ++ skipped))) v made σ'
  | condTrue {σ τ σ' : Store} {test body orelse : Expr} {v w : Value} {made more : List (String × Expr)}
      (ht : Evals σ test w made τ) (hw : w.truth = true) (h : Evals τ body v more σ') :
      Evals σ (.cond test body orelse) v (made ++ more) σ'
  | condFalse {σ τ σ' : Store} {test body orelse : Expr} {v w : Value} {made more : List (String × Expr)}
      (ht : Evals σ test w made τ) (hw : w.truth = false) (h : Evals τ orelse v more σ') :
      Evals σ (.cond test body orelse) v (made ++ more) σ'
  | call {σ σ' : Store} {callee : Expr} {args keywords : List Expr} {v w : Value} {made : List (String × Expr)}
      (hparts : Evals σ (.tuple (callee :: (args ++ keywords))) w made σ') (h : CallGives σ callee args v) :
      Evals σ (.call callee args keywords) v made σ'
  | parts {σ σ' : Store} {e : Expr} {v w : Value} {made : List (String × Expr)} (he : e.evaluatesParts = true)
      (hparts : Evals σ (.tuple e.operands) w made σ') (hv : e.isBuilt = true → v ≠ .none) : Evals σ e v made σ'
  | scope {σ : Store} {e : Expr} {v : Value} (he : e.opensScope = true) (hnone : e.assigned = []) (hv : v ≠ .none) :
      Evals σ e v [] σ
  | nil {σ : Store} {v : Value} (hv : v ≠ .none) : Evals σ (.tuple []) v [] σ
  | cons {σ τ σ' : Store} {e : Expr} {rest : List Expr} {v u w : Value} {made more : List (String × Expr)}
      (h : Evals σ e u made τ) (hrest : Evals τ (.tuple rest) w more σ') (hv : v ≠ .none) :
      Evals σ (.tuple (e :: rest)) v (made ++ more) σ'
  -- Such an operand may also be a name from outside.
  | outside {σ σ' : Store} {id : String} {rest : List Expr} {v w : Value} {made : List (String × Expr)}
      (hrest : Evals σ (.tuple rest) w made σ') (hv : v ≠ .none) : Evals σ (.tuple (.name id :: rest)) v made σ'

namespace Expr

def conditional : Expr → List Expr
  | junction _ operands => operands.tail
  | compare _ _ rights => rights.tail
  | cond _ body orelse => [body, orelse]
  | _ => []

def skippable (e : Expr) : List String :=
  e.subterms.flatMap fun t => t.conditional.flatMap assigned

theorem mem_skippable {e : Expr} {x : String} :
    x ∈ e.skippable ↔ (∃ c ∈ e.conditional, x ∈ c.assigned) ∨ ∃ c ∈ e.children, x ∈ c.skippable := by
  simp only [skippable, List.mem_flatMap]
  constructor
  · rintro ⟨t, ht, hx⟩
    rcases mem_subterms.mp ht with rfl | ⟨c, hc, ht⟩
    · exact .inl hx
    · exact .inr ⟨c, hc, t, ht, hx⟩
  · rintro (hx | ⟨c, hc, t, ht, hx⟩)
    · exact ⟨e, mem_subterms_self e, hx⟩
    · exact ⟨t, mem_subterms.mpr (.inr ⟨c, hc, ht⟩), hx⟩

theorem skippable_of_child {e c : Expr} {x : String} (hc : c ∈ e.children) (hx : x ∈ c.skippable) : x ∈ e.skippable :=
  mem_skippable.mpr (.inr ⟨c, hc, hx⟩)

theorem skippable_mono {e e' : Expr} {x : String} (hx : x ∈ e'.skippable)
    (hcond : ∀ c ∈ e'.conditional, c ∈ e.conditional) (h : ∀ c ∈ e'.children, c ∈ e.children) : x ∈ e.skippable := by
  rcases mem_skippable.mp hx with ⟨c, hc, hx⟩ | ⟨c, hc, hx⟩
  · exact mem_skippable.mpr (.inl ⟨c, hcond c hc, hx⟩)
  · exact mem_skippable.mpr (.inr ⟨c, h c hc, hx⟩)

theorem ownAssignment_of_evaluatesParts {e : Expr} (h : e.evaluatesParts = true) : e.ownAssignment = [] := by
  cases e <;> first | rfl | cases h

def inOrder (e : Expr) : List (String × Expr) :=
  (e.operands.attach.map fun c => c.1.inOrder).flatten ++ e.ownAssignment
termination_by sizeOf e
decreasing_by exact sizeOf_lt_of_mem_children (mem_operands.mp c.2)

theorem inOrder_eq (e : Expr) : e.inOrder = e.operands.flatMap inOrder ++ e.ownAssignment := by
  rw [inOrder, List.attach_map_val, List.flatMap_def]

theorem inOrder_of_operands {e : Expr} (h : e.ownAssignment = []) : e.inOrder = e.operands.flatMap inOrder := by
  rw [inOrder_eq, h, List.append_nil]

theorem inOrder_walrus (x : String) (v : Expr) : (walrus x v).inOrder = v.inOrder ++ [(x, v)] := by
  rw [inOrder_eq]
  exact congrArg (· ++ [(x, v)]) (List.flatMap_singleton inOrder v)

theorem inOrder_cons {e c : Expr} {rest : List Expr} (hoperands : e.operands = c :: rest) (hown : e.ownAssignment = []) :
    e.inOrder = c.inOrder ++ rest.flatMap inOrder := by
  rw [inOrder_of_operands hown, hoperands, List.flatMap_cons]

theorem inOrder_cond (test body orelse : Expr) :
    (cond test body orelse).inOrder = test.inOrder ++ (body.inOrder ++ orelse.inOrder) := by
  rw [inOrder_cons rfl rfl, List.flatMap_cons, List.flatMap_singleton]

theorem mem_inOrder {e : Expr} {p : String × Expr} : p ∈ e.inOrder ↔ p ∈ e.assignments := by
  induction e using inductionOnChildren with
  | h e ih =>
    rw [inOrder_eq, List.mem_append, List.mem_flatMap, mem_assignments, or_comm]
    refine or_congr Iff.rfl ⟨?_, ?_⟩
    · rintro ⟨c, hc, hp⟩
      exact ⟨c, mem_operands.mp hc, (ih c (mem_operands.mp hc)).mp hp⟩
    · rintro ⟨c, hc, hp⟩
      exact ⟨c, mem_operands.mpr hc, (ih c hc).mpr hp⟩

theorem skippable_of_conditional {e c : Expr} {p : String × Expr} (hc : c ∈ e.conditional) (hp : p ∈ c.inOrder) :
    p.1 ∈ e.skippable :=
  mem_skippable.mpr (.inl ⟨c, hc, mem_assigned.mpr ⟨p.2, mem_inOrder.mp hp⟩⟩)

end Expr

inductive LeavesOut (names : List String) : List (String × Expr) → List (String × Expr) → Prop where
  | nil : LeavesOut names [] []
  | keep (p : String × Expr) {made all : List (String × Expr)} (h : LeavesOut names made all) :
      LeavesOut names (p :: made) (p :: all)
  | skip {p : String × Expr} {made all : List (String × Expr)} (hp : p.1 ∈ names) (h : LeavesOut names made all) :
      LeavesOut names made (p :: all)

namespace LeavesOut

variable {names names' : List String} {made made' all all' : List (String × Expr)}

theorem mono (h : LeavesOut names made all) (hnames : ∀ x ∈ names, x ∈ names') : LeavesOut names' made all := by
  induction h with
  | nil => exact .nil
  | keep p _ ih => exact .keep p ih
  | skip hp _ ih => exact .skip (hnames _ hp) ih

theorem append (h : LeavesOut names made all) (h' : LeavesOut names made' all') :
    LeavesOut names (made ++ made') (all ++ all') := by
  induction h with
  | nil => exact h'
  | keep p _ ih => exact .keep p ih
  | skip hp _ ih => exact .skip hp ih

theorem skipFirst (hall : ∀ p ∈ all, p.1 ∈ names) (h : LeavesOut names made all') : LeavesOut names made (all ++ all') := by
  induction all with
  | nil => exact h
  | cons p all ih =>
    obtain ⟨hp, hall⟩ := List.forall_mem_cons.mp hall
    exact .skip hp (ih hall)

theorem skipLast (h : LeavesOut names made all) (hall : ∀ p ∈ all', p.1 ∈ names) : LeavesOut names made (all ++ all') := by
  have hnone : LeavesOut names [] all' := List.append_nil all' ▸ skipFirst hall .nil
  exact List.append_nil made ▸ h.append hnone

theorem subset (h : LeavesOut names made all) {p : String × Expr} (hp : p ∈ made) : p ∈ all := by
  induction h with
  | nil => cases hp
  | keep q _ ih =>
    rcases List.mem_cons.mp hp with rfl | hp
    · exact List.mem_cons_self
    · exact List.mem_cons_of_mem _ (ih hp)
  | skip _ _ ih => exact List.mem_cons_of_mem _ (ih hp)

theorem not_mem_map_fst (h : LeavesOut names made all) {x : String} (hx : x ∉ all.map Prod.fst) : x ∉ made.map Prod.fst := by
  intro hmade
  obtain ⟨p, hp, rfl⟩ := List.mem_map.mp hmade
  exact hx (List.mem_map_of_mem (h.subset hp))

theorem split {before after : List (String × Expr)} {p : String × Expr} (h : LeavesOut names made (before ++ p :: after))
    (hp : p.1 ∉ names) :
    ∃ before' after', made = before' ++ p :: after' ∧ LeavesOut names before' before ∧ LeavesOut names after' after := by
  induction before generalizing made with
  | nil =>
    cases h with
    | @keep _ made _ h => exact ⟨[], made, rfl, .nil, h⟩
    | skip hskip _ => exact absurd hskip hp
  | cons q before ih =>
    cases h with
    | keep _ h =>
      obtain ⟨before', after', rfl, hbefore, hafter⟩ := ih h
      exact ⟨q :: before', after', rfl, .keep q hbefore, hafter⟩
    | skip hq h =>
      obtain ⟨before', after', rfl, hbefore, hafter⟩ := ih h
      exact ⟨before', after', rfl, .skip hq hbefore, hafter⟩

end LeavesOut

namespace Evals

variable {σ σ' : Store} {e : Expr} {v : Value} {made : List (String × Expr)}

theorem eq_of_not_made (h : Evals σ e v made σ') {x : String} (hx : x ∉ made.map Prod.fst) : σ' x = σ x := by
  induction h with
  | literal | name | scope | nil => rfl
  | walrus _ ih =>
    rw [List.map_append, List.mem_append, not_or] at hx
    have hne : x ≠ _ := fun heq => hx.2 (List.mem_singleton.mpr heq)
    rw [Store.set, Function.update_of_ne hne, ih hx.1]
  | not _ ih | lastOperand _ ih | decides _ _ ih | compare _ _ _ _ ih | call _ _ ih | parts _ _ _ ih | outside _ _ ih =>
    exact ih hx
  | goesOn _ _ _ ih ihrest | same _ _ _ _ ih ihrest | differs _ _ _ _ ih ihrest | condTrue _ _ _ ih ihrest
  | condFalse _ _ _ ih ihrest | cons _ _ _ ih ihrest =>
    rw [List.map_append, List.mem_append, not_or] at hx
    rw [ihrest hx.2, ih hx.1]

theorem leavesOut (h : Evals σ e v made σ') : LeavesOut e.skippable made e.inOrder := by
  induction h with
  | literal | name | nil =>
    rw [Expr.inOrder_of_operands rfl]
    exact .nil
  | @scope σ e v he hnone hv =>
    have hnil : e.inOrder = [] := by
      refine List.eq_nil_iff_forall_not_mem.mpr fun p hp => ?_
      have hassigned := Expr.mem_assigned.mpr ⟨p.2, Expr.mem_inOrder.mp hp⟩
      rw [hnone] at hassigned
      cases hassigned
    rw [hnil]
    exact .nil
  | walrus _ ih =>
    rw [Expr.inOrder_walrus]
    exact (ih.mono fun x hx => Expr.skippable_of_child (List.mem_singleton_self _) hx).append (.keep _ .nil)
  | not _ ih | lastOperand _ ih =>
    rw [Expr.inOrder_cons rfl rfl]
    exact (ih.mono fun x hx => Expr.skippable_of_child (List.mem_singleton_self _) hx).skipLast nofun
  | decides _ _ ih =>
    rw [Expr.inOrder_cons rfl rfl]
    refine (ih.mono fun x hx => Expr.skippable_of_child List.mem_cons_self hx).skipLast fun p hp => ?_
    obtain ⟨c, hc, hp⟩ := List.mem_flatMap.mp hp
    exact Expr.skippable_of_conditional hc hp
  | goesOn _ _ _ ih ihrest | cons _ _ _ ih ihrest =>
    rw [Expr.inOrder_of_operands rfl] at ihrest
    rw [Expr.inOrder_cons rfl rfl]
    refine (ih.mono fun x hx => Expr.skippable_of_child List.mem_cons_self hx).append (ihrest.mono fun x hx => ?_)
    exact Expr.skippable_mono hx (by simp +contextual [Expr.conditional]) fun c hc => List.mem_cons_of_mem _ hc
  | same _ _ _ _ ihl ihr | differs _ _ _ _ ihl ihr =>
    rw [Expr.inOrder_cons rfl rfl, List.flatMap_singleton]
    refine (ihl.mono fun x hx => Expr.skippable_of_child List.mem_cons_self hx).append (ihr.mono fun x hx => ?_)
    exact Expr.skippable_of_child (List.mem_cons_of_mem _ (List.mem_singleton_self _)) hx
  | @compare σ σ' left right ops reached skipped v w made _ _ _ _ ih =>
    have hsplit : (Expr.compare left ops (right :: (reached ++ skipped))).inOrder =
        (Expr.tuple (left :: right :: reached)).inOrder ++ skipped.flatMap Expr.inOrder := by
      rw [Expr.inOrder_of_operands rfl, Expr.inOrder_of_operands rfl, ← List.flatMap_append]
      rfl
    rw [hsplit]
    refine (ih.mono fun x hx => ?_).skipLast fun p hp => ?_
    · exact Expr.skippable_mono hx (by simp [Expr.conditional]) fun c hc => List.mem_append_left skipped hc
    · obtain ⟨c, hc, hp⟩ := List.mem_flatMap.mp hp
      exact Expr.skippable_of_conditional (List.mem_append_right reached hc) hp
  | condTrue _ _ _ iht ih =>
    rw [Expr.inOrder_cond]
    refine (iht.mono fun x hx => Expr.skippable_of_child (by simp [Expr.children]) hx).append ?_
    refine (ih.mono fun x hx => Expr.skippable_of_child (by simp [Expr.children]) hx).skipLast fun p hp => ?_
    exact Expr.skippable_of_conditional (by simp [Expr.conditional]) hp
  | condFalse _ _ _ iht ih =>
    rw [Expr.inOrder_cond]
    refine (iht.mono fun x hx => Expr.skippable_of_child (by simp [Expr.children]) hx).append ?_
    refine .skipFirst (fun p hp => ?_) (ih.mono fun x hx => Expr.skippable_of_child (by simp [Expr.children]) hx)
    exact Expr.skippable_of_conditional (by simp [Expr.conditional]) hp
  | call _ _ ih =>
    rw [Expr.inOrder_of_operands rfl] at ih ⊢
    exact ih.mono fun x hx => Expr.skippable_mono hx (by simp [Expr.conditional]) fun c hc => hc
  | parts he _ _ ih =>
    rw [Expr.inOrder_of_operands rfl] at ih
    rw [Expr.inOrder_of_operands (Expr.ownAssignment_of_evaluatesParts he)]
    exact ih.mono fun x hx => Expr.skippable_mono hx (by simp [Expr.conditional]) fun c hc => Expr.mem_operands.mp hc
  | @outside σ σ' id rest v w made _ _ ih =>
    have hname : (Expr.name id).inOrder = [] := Expr.inOrder_of_operands rfl
    rw [Expr.inOrder_of_operands rfl] at ih
    rw [Expr.inOrder_cons rfl rfl, hname, List.nil_append]
    exact ih.mono fun x hx => Expr.skippable_mono hx (by simp [Expr.conditional]) fun c hc => List.mem_cons_of_mem _ hc

theorem made_subset (h : Evals σ e v made σ') {p : String × Expr} (hp : p ∈ made) : p ∈ e.assignments :=
  Expr.mem_inOrder.mp (h.leavesOut.subset hp)

end Evals

end NullContract
