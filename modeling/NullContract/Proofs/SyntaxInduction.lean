import NullContract.Syntax.Stmt

namespace NullContract

@[elab_as_elim, induction_eliminator]
theorem Expr.ind {motive : Expr → Prop}
    (literal : ∀ value, motive (.literal value))
    (name : ∀ id, motive (.name id))
    (walrus : ∀ target value, motive value → motive (.walrus target value))
    (not : ∀ operand, motive operand → motive (.not operand))
    (junction : ∀ op operands, (∀ e ∈ operands, motive e) → motive (.junction op operands))
    (compare : ∀ left ops rights, motive left → (∀ e ∈ rights, motive e) → motive (.compare left ops rights))
    (cond : ∀ test body orelse, motive test → motive body → motive orelse → motive (.cond test body orelse))
    (call : ∀ callee args keywords, motive callee → (∀ e ∈ args, motive e) → (∀ e ∈ keywords, motive e) →
      motive (.call callee args keywords))
    (keyword : ∀ name value, motive value → motive (.keyword name value))
    (member : ∀ value field, motive value → motive (.member value field))
    (subscript : ∀ value index, motive value → motive index → motive (.subscript value index))
    (starred : ∀ value, motive value → motive (.starred value))
    (tuple : ∀ items, (∀ e ∈ items, motive e) → motive (.tuple items))
    (list : ∀ items, (∀ e ∈ items, motive e) → motive (.list items))
    (binary : ∀ op left right, motive left → motive right → motive (.binary op left right))
    (form : ∀ kind parts, (∀ e ∈ parts, motive e) → motive (.form kind parts)) (e : Expr) : motive e := by
  refine @Expr.rec motive (fun es => ∀ e ∈ es, motive e) literal name walrus not junction
    compare cond call keyword member subscript starred tuple list binary form ?_ ?_ e
  · intro e he
    cases he
  · intro e es he hes
    exact List.forall_mem_cons.mpr ⟨he, hes⟩

def Handler.body : Handler → List Stmt
  | .mk _ _ _ body => body

@[simp] theorem Handler.body_mk (forGroups : Bool) (kind : Option Expr) (name : Option String) (body : List Stmt) :
    (Handler.mk forGroups kind name body).body = body := rfl

def Case.body : Case → List Stmt
  | .mk _ _ body => body

@[simp] theorem Case.body_mk (pattern : Pattern) (guard : Option Expr) (body : List Stmt) :
    (Case.mk pattern guard body).body = body := rfl

@[elab_as_elim, induction_eliminator]
theorem Stmt.ind {motive : Stmt → Prop}
    (function : ∀ header body, (∀ s ∈ body, motive s) → motive (.function header body))
    (classDef : ∀ header body, (∀ s ∈ body, motive s) → motive (.classDef header body))
    (ret : ∀ position value, motive (.ret position value))
    (delete : ∀ targets, motive (.delete targets))
    (assign : ∀ targets value, motive (.assign targets value))
    (augAssign : ∀ target op value, motive (.augAssign target op value))
    (annAssign : ∀ target hint value, motive (.annAssign target hint value))
    (forLoop : ∀ isAsync target iter body orelse, (∀ s ∈ body, motive s) → (∀ s ∈ orelse, motive s) →
      motive (.forLoop isAsync target iter body orelse))
    (whileLoop : ∀ test body orelse, (∀ s ∈ body, motive s) → (∀ s ∈ orelse, motive s) →
      motive (.whileLoop test body orelse))
    (ifElse : ∀ line test body orelse, (∀ s ∈ body, motive s) → (∀ s ∈ orelse, motive s) →
      motive (.ifElse line test body orelse))
    (withBlock : ∀ isAsync items body, (∀ s ∈ body, motive s) → motive (.withBlock isAsync items body))
    (matchCases : ∀ subject cases, (∀ c ∈ cases, ∀ s ∈ c.body, motive s) → motive (.matchCases subject cases))
    (raise : ∀ cause, motive (.raise cause))
    (tryBlock : ∀ body handlers orelse final, (∀ s ∈ body, motive s) → (∀ h ∈ handlers, ∀ s ∈ h.body, motive s) →
      (∀ s ∈ orelse, motive s) → (∀ s ∈ final, motive s) → motive (.tryBlock body handlers orelse final))
    (assert : ∀ test message, motive (.assert test message))
    (imports : ∀ origin names, motive (.imports origin names))
    (outer : ∀ scope names, motive (.outer scope names))
    (expr : ∀ value, motive (.expr value))
    (breaks : motive .break) (continues : motive .continue) (pass : motive .pass) (s : Stmt) : motive s := by
  refine @Stmt.rec motive (fun h => ∀ s ∈ h.body, motive s) (fun c => ∀ s ∈ c.body, motive s)
    (fun b => ∀ s ∈ b, motive s) (fun cs => ∀ c ∈ cs, ∀ s ∈ c.body, motive s)
    (fun hs => ∀ h ∈ hs, ∀ s ∈ h.body, motive s)
    function classDef ret delete assign augAssign annAssign forLoop whileLoop ifElse withBlock matchCases raise tryBlock
    assert imports outer expr breaks continues pass (fun _ _ _ _ h => h) (fun _ _ _ h => h) ?_ ?_ ?_ ?_ ?_ ?_ s
  · intro s hs
    cases hs
  · intro s rest hs hrest
    exact List.forall_mem_cons.mpr ⟨hs, hrest⟩
  · intro c hc
    cases hc
  · intro c rest hc hrest
    exact List.forall_mem_cons.mpr ⟨hc, hrest⟩
  · intro h hh
    cases hh
  · intro h rest hh hrest
    exact List.forall_mem_cons.mpr ⟨hh, hrest⟩

end NullContract
