import NullContract.Proofs.SyntaxInduction

namespace NullContract

mutual
def Stmt.nested : Stmt → List Stmt
  | s@(.function _ _) => [s]
  | s@(.classDef _ _) => [s]
  | s@(.ret _ _) => [s]
  | s@(.delete _) => [s]
  | s@(.assign _ _) => [s]
  | s@(.augAssign _ _ _) => [s]
  | s@(.annAssign _ _ _) => [s]
  | s@(.forLoop _ _ _ body orelse) => s :: (nestedOfBlock body ++ nestedOfBlock orelse)
  | s@(.whileLoop _ body orelse) => s :: (nestedOfBlock body ++ nestedOfBlock orelse)
  | s@(.ifElse _ _ body orelse) => s :: (nestedOfBlock body ++ nestedOfBlock orelse)
  | s@(.withBlock _ _ body) => s :: nestedOfBlock body
  | s@(.matchCases _ cases) => s :: nestedOfCases cases
  | s@(.raise _) => [s]
  | s@(.tryBlock body handlers orelse final) =>
    s :: (nestedOfBlock body ++ (nestedOfHandlers handlers ++ (nestedOfBlock orelse ++ nestedOfBlock final)))
  | s@(.assert _ _) => [s]
  | s@(.imports _ _) => [s]
  | s@(.outer _ _) => [s]
  | s@(.expr _) => [s]
  | .break => [.break]
  | .continue => [.continue]
  | .pass => [.pass]

def nestedOfBlock : List Stmt → List Stmt
  | [] => []
  | s :: rest => s.nested ++ nestedOfBlock rest

def nestedOfHandlers : List Handler → List Stmt
  | [] => []
  | .mk _ _ _ body :: rest => nestedOfBlock body ++ nestedOfHandlers rest

def nestedOfCases : List Case → List Stmt
  | [] => []
  | .mk _ _ body :: rest => nestedOfBlock body ++ nestedOfCases rest
end

section

variable {Q : Stmt → Prop}

theorem forall_mem_nestedOfBlock {b : List Stmt} :
    (∀ t ∈ nestedOfBlock b, Q t) ↔ ∀ s ∈ b, ∀ t ∈ s.nested, Q t := by
  induction b with
  | nil => simp [nestedOfBlock]
  | cons s rest ih => simp only [nestedOfBlock, List.mem_append, List.forall_mem_cons, ← ih, or_imp, forall_and]

theorem forall_mem_nestedOfHandlers {hs : List Handler} :
    (∀ t ∈ nestedOfHandlers hs, Q t) ↔ ∀ h ∈ hs, ∀ s ∈ h.body, ∀ t ∈ s.nested, Q t := by
  induction hs with
  | nil => simp [nestedOfHandlers]
  | cons h rest ih =>
    obtain ⟨forGroups, kind, name, body⟩ := h
    simp only [nestedOfHandlers, List.mem_append, List.forall_mem_cons, ← ih, or_imp, forall_and,
      forall_mem_nestedOfBlock, Handler.body_mk]

theorem forall_mem_nestedOfCases {cs : List Case} :
    (∀ t ∈ nestedOfCases cs, Q t) ↔ ∀ c ∈ cs, ∀ s ∈ c.body, ∀ t ∈ s.nested, Q t := by
  induction cs with
  | nil => simp [nestedOfCases]
  | cons c rest ih =>
    obtain ⟨pattern, guard, body⟩ := c
    simp only [nestedOfCases, List.mem_append, List.forall_mem_cons, ← ih, or_imp, forall_and,
      forall_mem_nestedOfBlock, Case.body_mk]

theorem forall_mem_nested_forLoop {isAsync : Bool} {target iter : Expr} {body orelse : List Stmt} :
    (∀ t ∈ (Stmt.forLoop isAsync target iter body orelse).nested, Q t) ↔
      Q (.forLoop isAsync target iter body orelse) ∧ (∀ s ∈ body, ∀ t ∈ s.nested, Q t) ∧
        ∀ s ∈ orelse, ∀ t ∈ s.nested, Q t := by
  simp only [Stmt.nested, List.forall_mem_cons, List.mem_append, or_imp, forall_and, forall_mem_nestedOfBlock]

theorem forall_mem_nested_whileLoop {test : Expr} {body orelse : List Stmt} :
    (∀ t ∈ (Stmt.whileLoop test body orelse).nested, Q t) ↔
      Q (.whileLoop test body orelse) ∧ (∀ s ∈ body, ∀ t ∈ s.nested, Q t) ∧ ∀ s ∈ orelse, ∀ t ∈ s.nested, Q t := by
  simp only [Stmt.nested, List.forall_mem_cons, List.mem_append, or_imp, forall_and, forall_mem_nestedOfBlock]

theorem forall_mem_nested_ifElse {line : Nat} {test : Expr} {body orelse : List Stmt} :
    (∀ t ∈ (Stmt.ifElse line test body orelse).nested, Q t) ↔
      Q (.ifElse line test body orelse) ∧ (∀ s ∈ body, ∀ t ∈ s.nested, Q t) ∧ ∀ s ∈ orelse, ∀ t ∈ s.nested, Q t := by
  simp only [Stmt.nested, List.forall_mem_cons, List.mem_append, or_imp, forall_and, forall_mem_nestedOfBlock]

theorem forall_mem_nested_withBlock {isAsync : Bool} {items : List WithItem} {body : List Stmt} :
    (∀ t ∈ (Stmt.withBlock isAsync items body).nested, Q t) ↔
      Q (.withBlock isAsync items body) ∧ ∀ s ∈ body, ∀ t ∈ s.nested, Q t := by
  simp only [Stmt.nested, List.forall_mem_cons, forall_mem_nestedOfBlock]

theorem forall_mem_nested_matchCases {subject : Expr} {cases : List Case} :
    (∀ t ∈ (Stmt.matchCases subject cases).nested, Q t) ↔
      Q (.matchCases subject cases) ∧ ∀ c ∈ cases, ∀ s ∈ c.body, ∀ t ∈ s.nested, Q t := by
  simp only [Stmt.nested, List.forall_mem_cons, forall_mem_nestedOfCases]

theorem forall_mem_nested_tryBlock {body : List Stmt} {handlers : List Handler} {orelse final : List Stmt} :
    (∀ t ∈ (Stmt.tryBlock body handlers orelse final).nested, Q t) ↔
      Q (.tryBlock body handlers orelse final) ∧ (∀ s ∈ body, ∀ t ∈ s.nested, Q t) ∧
        (∀ h ∈ handlers, ∀ s ∈ h.body, ∀ t ∈ s.nested, Q t) ∧ (∀ s ∈ orelse, ∀ t ∈ s.nested, Q t) ∧
        ∀ s ∈ final, ∀ t ∈ s.nested, Q t := by
  simp only [Stmt.nested, List.forall_mem_cons, List.mem_append, or_imp, forall_and, forall_mem_nestedOfBlock,
    forall_mem_nestedOfHandlers]

theorem mem_nested_self (s : Stmt) : s ∈ s.nested := by
  cases s <;> simp [Stmt.nested]

end

namespace Expr

def assigned (e : Expr) : List String :=
  e.subterms.filterMap fun
    | walrus target _ => some target
    | _ => none

mutual
def targetNames : Expr → List String
  | name id => [id]
  | tuple items => targetNamesOfList items
  | list items => targetNamesOfList items
  | starred target => target.targetNames
  | literal _ | walrus _ _ | not _ | junction _ _ | compare _ _ _ | cond _ _ _ | call _ _ _ | keyword _ _
  | member _ _ | subscript _ _ | binary _ _ _ | form _ _ => []

def targetNamesOfList : List Expr → List String
  | [] => []
  | e :: rest => e.targetNames ++ targetNamesOfList rest
end

end Expr

namespace Case

def pattern : Case → Pattern
  | .mk pattern _ _ => pattern

def guard : Case → Option Expr
  | .mk _ guard _ => guard

end Case

def Handler.name : Handler → Option String
  | .mk _ _ name _ => name

namespace Stmt

def judges : Stmt → List Expr
  | ret _ value => value.toList
  | assign _ value => [value]
  | augAssign _ _ value => [value]
  | annAssign _ _ value => value.toList
  | whileLoop test _ _ => [test]
  | ifElse _ test _ _ => [test]
  | matchCases subject cases => subject :: cases.filterMap Case.guard
  | assert test _ => [test]
  | expr value => [value]
  | function _ _ | classDef _ _ | delete _ | forLoop _ _ _ _ _ | withBlock _ _ _ | raise _ | tryBlock _ _ _ _
  | imports _ _ | outer _ _ | .break | .continue | pass => []

/-- The names that a statement names as its targets: where it assigns, deletes, iterates, imports, defines,
captures or catches. A hint without a value has none. -/
def targets : Stmt → List String
  | function header _ => [header.name]
  | classDef header _ => [header.name]
  | delete targets => targets.flatMap Expr.targetNames
  | assign targets _ => targets.flatMap Expr.targetNames
  | augAssign target _ _ => target.targetNames
  | annAssign target _ (some _) => target.targetNames
  | annAssign _ _ none => []
  | forLoop _ target _ _ _ => target.targetNames
  | withBlock _ items _ => items.flatMap fun item => (item.target.map Expr.targetNames).getD []
  | matchCases _ cases => cases.flatMap fun c => c.pattern.captures
  | tryBlock _ handlers _ _ => handlers.flatMap fun h => h.name.toList
  | imports _ names => names.map Alias.bound
  | ret _ _ | whileLoop _ _ _ | ifElse _ _ _ _ | raise _ | assert _ _ | outer _ _ | expr _ | .break | .continue
  | pass => []

def binds (s : Stmt) : List String :=
  s.targets ++ s.judges.flatMap Expr.assigned

def triesNone : Stmt → Bool
  | matchCases _ cases => cases.any fun c =>
    match c.pattern with
    | .singleton none => true
    | _ => false
  | _ => false

end Stmt

end NullContract
