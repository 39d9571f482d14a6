import Mathlib.Logic.Function.Basic
import NullContract.Flow.Meaning
import NullContract.Guard.Site
import NullContract.Proofs.Nested

/-!
Runs of the core of the checked language: assignments, deletions, conditionals, loops, returns and raises, without
assignment expressions. Of a value a run knows whether it is `None` and whether it counts as true. A run that raises
has no end, and reading an unbound name raises. Where the value of a part says nothing about the value of the whole,
the part is not looked at, so it may as well name things from outside.
-/

namespace NullContract

inductive Value where
  | none
  | truthy
  | falsy
deriving DecidableEq

namespace Value

def truth : Value → Bool
  | truthy => true
  | none | falsy => false

def ofBool (b : Bool) : Value :=
  if b then truthy else falsy

end Value

def Literal.val (lit : Literal) : Value :=
  if lit = .none then .none else .ofBool lit.truthy

abbrev Store := String → Option Value

def Store.set (σ : Store) (x : String) (v : Option Value) : Store :=
  Function.update σ x v

namespace Expr

def isBuilt : Expr → Bool
  | tuple _ | list _ | binary _ _ _ | form .set _ | form .dict _ | form .listComp _ | form .setComp _
  | form .dictComp _ | form .generator _ | form .lambda _ | form .joinedText _ | form (.unary _) _ => true
  | _ => false

/-- Attributes, subscripts and what is waited for or sent in, which may be anything. Pieces that stand only inside
other expressions count as such too. -/
def isOpen : Expr → Bool
  | keyword _ _ | member _ _ | subscript _ _ | starred _ | form .await _ | form .yield _ | form .yieldFrom _
  | form .unpacking _ | form (.formattedValue _) _ | form (.slice _ _ _) _ | form (.comprehension _) _
  | form .parameters _ | form (.parameter _ _) _ => true
  | _ => false

/-- The outermost node is `None` or has the name of its type: as a name, the name of an attribute, a keyword or a
parameter, or inside a text. -/
def SpellsNone : Expr → Prop
  | literal .none => True
  | literal (.text value) => Text.ofString "None" <:+: value
  | name id | walrus id _ | keyword (some id) _ | member _ id | form (.parameter _ id) _ => id = "NoneType"
  | _ => False

def NamesNone : Expr → Prop
  | literal .none => True
  | name id | walrus id _ => id = "NoneType"
  | _ => False

def MentionsNone (e : Expr) : Prop :=
  ∃ t ∈ e.subterms, t.SpellsNone

def HidesNone (e : Expr) : Prop :=
  e.MentionsNone ∧ ∀ t ∈ e.subterms, ¬ t.NamesNone

mutual
/-- The types in the type tests that the value of an expression may rest on. -/
def testedTypes : Expr → List Expr
  | walrus _ value => value.testedTypes
  | not operand => operand.testedTypes
  | junction _ operands => testedTypesOfList operands
  | cond test body orelse => test.testedTypes ++ body.testedTypes ++ orelse.testedTypes
  | call (name "isinstance") [name _, kinds] _ => [kinds]
  | _ => []

def testedTypesOfList : List Expr → List Expr
  | [] => []
  | e :: rest => e.testedTypes ++ testedTypesOfList rest
end

end Expr

def comparesNone (left : Expr) : List Comparison → List Expr → Prop
  | [op], right :: _ => op ∈ [.is, .eq, .isNot, .notEq] ∧ (left.isNone = true ∨ right.isNone = true)
  | _, _ => False

/-- What is known of the result of a call: that of a builtin is not `None`, and a value that passes a test for a type which
does not mention `None` is not `None`. -/
structure CallGives (σ : Store) (callee : Expr) (args : List Expr) (v : Value) : Prop where
  builtin : ∀ id ∈ nonNullBuiltins, callee = .name id → σ id = none → v ≠ .none
  typeTest : ∀ id kinds, callee = .name "isinstance" → args = [.name id, kinds] → ¬ kinds.MentionsNone →
    v.truth = true → ∃ w, σ id = some w ∧ w ≠ .none

/-- `Yields σ e v`: from the store `σ` the expression may have the value `v`. -/
inductive Yields (σ : Store) : Expr → Value → Prop where
  | literal (lit : Literal) : Yields σ (.literal lit) lit.val
  | name {id : String} {v : Value} (h : σ id = some v) : Yields σ (.name id) v
  | not {e : Expr} {v : Value} (h : Yields σ e v) : Yields σ (.not e) (.ofBool !v.truth)
  | lastOperand {op : Junctor} {e : Expr} {v : Value} (h : Yields σ e v) : Yields σ (.junction op [e]) v
  | decides {op : Junctor} {e e' : Expr} {rest : List Expr} {v : Value} (h : Yields σ e v)
      (hv : v.truth = decide (op = .or)) : Yields σ (.junction op (e :: e' :: rest)) v
  | goesOn {op : Junctor} {e e' : Expr} {rest : List Expr} {v w : Value} (h : Yields σ e w)
      (hw : w.truth = !decide (op = .or)) (hrest : Yields σ (.junction op (e' :: rest)) v) :
      Yields σ (.junction op (e :: e' :: rest)) v
  | same {op : Comparison} {left right : Expr} {rest : List Expr} {a b : Value} (hop : op = .is ∨ op = .eq)
      (hnone : left.isNone = true ∨ right.isNone = true) (hl : Yields σ left a) (hr : Yields σ right b) :
      Yields σ (.compare left [op] (right :: rest)) (.ofBool (a = b))
  | differs {op : Comparison} {left right : Expr} {rest : List Expr} {a b : Value} (hop : op = .isNot ∨ op = .notEq)
      (hnone : left.isNone = true ∨ right.isNone = true) (hl : Yields σ left a) (hr : Yields σ right b) :
      Yields σ (.compare left [op] (right :: rest)) (.ofBool (a ≠ b))
  | compare {left : Expr} {ops : List Comparison} {rights : List Expr} {v : Value}
      (h : ¬ comparesNone left ops rights) (hv : v ≠ .none) : Yields σ (.compare left ops rights) v
  | condTrue {test body orelse : Expr} {v w : Value} (ht : Yields σ test w) (hw : w.truth = true)
      (h : Yields σ body v) : Yields σ (.cond test body orelse) v
  | condFalse {test body orelse : Expr} {v w : Value} (ht : Yields σ test w) (hw : w.truth = false)
      (h : Yields σ orelse v) : Yields σ (.cond test body orelse) v
  | call {callee : Expr} {args keywords : List Expr} {v : Value} (h : CallGives σ callee args v) :
      Yields σ (.call callee args keywords) v
  | built {e : Expr} {v : Value} (h : e.isBuilt = true) (hv : v ≠ .none) : Yields σ e v
  | opens {e : Expr} {v : Value} (h : e.isOpen = true) : Yields σ e v

/-- `Binds e v σ σ'`: assigning `v` to `e` may turn `σ` into `σ'`. The items of a tuple or list take any values, a
starred one a list. -/
inductive Binds : Expr → Value → Store → Store → Prop where
  | name {id : String} {v : Value} {σ : Store} : Binds (.name id) v σ (σ.set id (some v))
  | nil {v : Value} {σ : Store} : Binds (.tuple []) v σ σ
  | cons {e : Expr} {rest : List Expr} {v w : Value} {σ τ σ' : Store} (h : Binds e w σ τ)
      (hrest : Binds (.tuple rest) v τ σ') : Binds (.tuple (e :: rest)) v σ σ'
  | list {items : List Expr} {v : Value} {σ σ' : Store} (h : Binds (.tuple items) v σ σ') :
      Binds (.list items) v σ σ'
  | starred {e : Expr} {v w : Value} {σ σ' : Store} (hw : w ≠ .none) (h : Binds e w σ σ') :
      Binds (.starred e) v σ σ'
  | member {value : Expr} {field : String} {v : Value} {σ : Store} : Binds (.member value field) v σ σ
  | subscript {value index : Expr} {v : Value} {σ : Store} : Binds (.subscript value index) v σ σ

def bindsAll : List Expr → Value → Store → Store → Prop
  | [], _, σ, σ' => σ' = σ
  | target :: rest, v, σ, σ' => ∃ τ, Binds target v σ τ ∧ bindsAll rest v τ σ'

/-- Deleting tuples and lists deletes their items; attributes and subscripts are not part of the store. -/
def unbind (targets : List Expr) (σ : Store) : Store :=
  (targets.flatMap Expr.targetNames).foldl (fun σ id => σ.set id none) σ

/-- How a piece of code may end. A return tells which of the return statements of that piece it is, in the order of
the text, and what it returns. -/
inductive End where
  | next (σ : Store)
  | broke (σ : Store)
  | continued (σ : Store)
  | returned (index : Nat) (σ : Store) (v : Value)

namespace End

def shift (n : Nat) : End → End
  | returned index σ v => returned (n + index) σ v
  | e => e

def isNext : End → Bool
  | next _ => true
  | _ => false

end End

inductive LoopHead where
  | test (e : Expr)
  | each (target : Expr)

namespace LoopHead

inductive Enters : LoopHead → Store → Store → Prop where
  | test {e : Expr} {σ : Store} {v : Value} (h : Yields σ e v) (hv : v.truth = true) : Enters (.test e) σ σ
  | each {target : Expr} {σ σ' : Store} {v : Value} (h : Binds target v σ σ') : Enters (.each target) σ σ'

inductive Leaves : LoopHead → Store → Prop where
  | test {e : Expr} {σ : Store} {v : Value} (h : Yields σ e v) (hv : v.truth = false) : Leaves (.test e) σ
  | each {target : Expr} {σ : Store} : Leaves (.each target) σ

end LoopHead

inductive Code where
  | stmt (s : Stmt)
  | block (b : List Stmt)
  | loop (head : LoopHead) (body orelse : List Stmt)

def Code.sites (guards : List Guard) : Code → List Site
  | stmt s => s.sites guards
  | block b => sitesOfBlock b guards
  | loop _ body orelse => sitesOfBlock body guards ++ sitesOfBlock orelse guards

-- One relation for statements, blocks and loops, so that a proof is one induction on the run.
/-- `Runs c σ e`: from the store `σ` the code `c` may end with `e`. -/
inductive Runs : Code → Store → End → Prop where
  | pass {σ : Store} : Runs (.stmt .pass) σ (.next σ)
  | expr {value : Expr} {σ : Store} : Runs (.stmt (.expr value)) σ (.next σ)
  | assign {targets : List Expr} {value : Expr} {v : Value} {σ σ' : Store} (h : Yields σ value v)
      (ht : bindsAll targets v σ σ') : Runs (.stmt (.assign targets value)) σ (.next σ')
  | declare {target hint : Expr} {σ : Store} : Runs (.stmt (.annAssign target hint none)) σ (.next σ)
  | annAssign {target hint value : Expr} {v : Value} {σ σ' : Store} (h : Yields σ value v)
      (ht : Binds target v σ σ') : Runs (.stmt (.annAssign target hint (some value))) σ (.next σ')
  | augAssign {target value : Expr} {op : BinaryOp} {v : Value} {σ σ' : Store} (hv : v ≠ .none)
      (ht : Binds target v σ σ') : Runs (.stmt (.augAssign target op value)) σ (.next σ')
  | delete {targets : List Expr} {σ : Store} : Runs (.stmt (.delete targets)) σ (.next (unbind targets σ))
  | assert {test : Expr} {message : Option Expr} {v : Value} {σ : Store} (h : Yields σ test v)
      (hv : v.truth = true) : Runs (.stmt (.assert test message)) σ (.next σ)
  | ifTrue {line : Nat} {test : Expr} {body orelse : List Stmt} {v : Value} {σ : Store} {e : End}
      (h : Yields σ test v) (hv : v.truth = true) (hb : Runs (.block body) σ e) :
      Runs (.stmt (.ifElse line test body orelse)) σ e
  | ifFalse {line : Nat} {test : Expr} {body orelse : List Stmt} {v : Value} {σ : Store} {e : End}
      (h : Yields σ test v) (hv : v.truth = false) (ho : Runs (.block orelse) σ e) :
      Runs (.stmt (.ifElse line test body orelse)) σ (e.shift (sitesOfBlock body []).length)
  | whileLoop {test : Expr} {body orelse : List Stmt} {σ : Store} {e : End}
      (h : Runs (.loop (.test test) body orelse) σ e) : Runs (.stmt (.whileLoop test body orelse)) σ e
  | forLoop {isAsync : Bool} {target iter : Expr} {body orelse : List Stmt} {σ : Store} {e : End}
      (h : Runs (.loop (.each target) body orelse) σ e) : Runs (.stmt (.forLoop isAsync target iter body orelse)) σ e
  | breaks {σ : Store} : Runs (.stmt .break) σ (.broke σ)
  | continues {σ : Store} : Runs (.stmt .continue) σ (.continued σ)
  | ret {position : Position} {value : Expr} {v : Value} {σ : Store} (h : Yields σ value v) :
      Runs (.stmt (.ret position (some value))) σ (.returned 0 σ v)
  | retNothing {position : Position} {σ : Store} : Runs (.stmt (.ret position none)) σ (.returned 0 σ .none)
  | nil {σ : Store} : Runs (.block []) σ (.next σ)
  | cons {s : Stmt} {rest : List Stmt} {σ τ : Store} {e : End} (h : Runs (.stmt s) σ (.next τ))
      (hrest : Runs (.block rest) τ e) : Runs (.block (s :: rest)) σ (e.shift (s.sites []).length)
  | leaves {s : Stmt} {rest : List Stmt} {σ : Store} {e : End} (h : Runs (.stmt s) σ e) (he : e.isNext = false) :
      Runs (.block (s :: rest)) σ e
  | round {head : LoopHead} {body orelse : List Stmt} {σ τ σ' : Store} {e e' : End} (henter : head.Enters σ τ)
      (hbody : Runs (.block body) τ e') (he' : e' = .next σ' ∨ e' = .continued σ')
      (hloop : Runs (.loop head body orelse) σ' e) : Runs (.loop head body orelse) σ e
  | exit {head : LoopHead} {body orelse : List Stmt} {σ τ σ' : Store} (henter : head.Enters σ τ)
      (hbody : Runs (.block body) τ (.broke σ')) : Runs (.loop head body orelse) σ (.next σ')
  | returns {head : LoopHead} {body orelse : List Stmt} {σ τ σ' : Store} {index : Nat} {v : Value}
      (henter : head.Enters σ τ) (hbody : Runs (.block body) τ (.returned index σ' v)) :
      Runs (.loop head body orelse) σ (.returned index σ' v)
  | done {head : LoopHead} {body orelse : List Stmt} {σ : Store} {e : End} (hleave : head.Leaves σ)
      (horelse : Runs (.block orelse) σ e) :
      Runs (.loop head body orelse) σ (e.shift (sitesOfBlock body []).length)

namespace Stmt

def expressions : Stmt → List Expr
  | ret _ value => value.toList
  | delete targets => targets
  | assign targets value => value :: targets
  | augAssign target _ value => [target, value]
  | annAssign target hint value => target :: hint :: value.toList
  | forLoop _ target iter _ _ => [target, iter]
  | whileLoop test _ _ => [test]
  | ifElse _ test _ _ => [test]
  | raise cause => cause
  | assert test message => test :: message.toList
  | expr value => [value]
  | function _ _ | classDef _ _ | withBlock _ _ _ | matchCases _ _ | tryBlock _ _ _ _ | imports _ _ | outer _ _
  | .break | .continue | pass => []

def testedTypes : Stmt → List Expr
  | ret _ value | annAssign _ _ value => value.toList.flatMap Expr.testedTypes
  | assign _ value => value.testedTypes
  | whileLoop test _ _ | ifElse _ test _ _ | assert test _ => test.testedTypes
  | _ => []

def inCore : Stmt → Bool
  | ret _ _ | delete _ | assign _ _ | augAssign _ _ _ | annAssign _ _ _ | forLoop _ _ _ _ _ | whileLoop _ _ _
  | ifElse _ _ _ _ | raise _ | assert _ _ | expr _ | .break | .continue | pass => true
  | function _ _ | classDef _ _ | withBlock _ _ _ | matchCases _ _ | tryBlock _ _ _ _ | imports _ _ | outer _ _ => false

def Core (s : Stmt) : Prop :=
  s.inCore = true ∧ ∀ e ∈ s.expressions, e.assigned = []

instance (s : Stmt) : Decidable s.Core :=
  inferInstanceAs (Decidable (_ ∧ _))

end Stmt

def Site.Yields (site : Site) (σ : Store) (v : Value) : Prop :=
  match site.value with
  | none => v = .none
  | some value => NullContract.Yields σ value v

end NullContract
