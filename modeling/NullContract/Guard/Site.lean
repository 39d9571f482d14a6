import NullContract.Guard.NullCheck
import NullContract.Syntax.Stmt

namespace NullContract

inductive Branch where
  | yes
  | no
deriving DecidableEq

structure Guard where
  line : Nat
  test : Expr
  branch : Branch

structure Site where
  position : Position
  value : Option Expr
  guards : List Guard

mutual
/-- The return sites of a statement, in the order of the text. Nested functions and classes have none: a
return in them leaves another function. -/
def Stmt.sites : Stmt → List Guard → List Site
  | .ret position value, guards => [⟨position, value, guards⟩]
  | .forLoop _ _ _ body orelse, guards => sitesOfBlock body guards ++ sitesOfBlock orelse guards
  | .whileLoop _ body orelse, guards => sitesOfBlock body guards ++ sitesOfBlock orelse guards
  | .ifElse line test body orelse, guards =>
    sitesOfBlock body (guards ++ [⟨line, test, .yes⟩]) ++ sitesOfBlock orelse (guards ++ [⟨line, test, .no⟩])
  | .withBlock _ _ body, guards => sitesOfBlock body guards
  | .matchCases _ cases, guards => sitesOfCases cases guards
  | .tryBlock body handlers orelse final, guards =>
    sitesOfBlock body guards ++ (sitesOfHandlers handlers guards ++ sitesOfBlock orelse guards) ++
      sitesOfBlock final guards
  | .function _ _, _ => []
  | .classDef _ _, _ => []
  | .delete _, _ => []
  | .assign _ _, _ => []
  | .augAssign _ _ _, _ => []
  | .annAssign _ _ _, _ => []
  | .raise _, _ => []
  | .assert _ _, _ => []
  | .imports _ _, _ => []
  | .outer _ _, _ => []
  | .expr _, _ => []
  | .break, _ => []
  | .continue, _ => []
  | .pass, _ => []

def sitesOfBlock : List Stmt → List Guard → List Site
  | [], _ => []
  | s :: rest, guards => s.sites guards ++ sitesOfBlock rest guards

def sitesOfHandlers : List Handler → List Guard → List Site
  | [], _ => []
  | .mk _ _ _ body :: rest, guards => sitesOfBlock body guards ++ sitesOfHandlers rest guards

def sitesOfCases : List Case → List Guard → List Site
  | [], _ => []
  | .mk _ _ body :: rest, guards => sitesOfBlock body guards ++ sitesOfCases rest guards
end

def Function.sites (fn : Function) : List Site :=
  sitesOfBlock fn.body []

namespace Guard

def nullCheck? (guard : Guard) : Option NullCheck :=
  guard.test.nullCheck?

def excludes (guard : Guard) (name : String) : Bool :=
  match guard.nullCheck? with
  | some check => check.name = name && (check.assertsNull == decide (guard.branch = .yes))
  | none => false

end Guard

namespace Site

def reachableWhenNonNull (site : Site) (name : String) : Bool :=
  !site.guards.any (·.excludes name)

end Site

end NullContract
