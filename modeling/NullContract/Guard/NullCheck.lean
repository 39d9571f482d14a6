import NullContract.Syntax.Expr

namespace NullContract

/-- A test of one name; `assertsNull` says whether the name is null when the test holds. -/
structure NullCheck where
  name : String
  assertsNull : Bool
deriving DecidableEq

namespace Comparison

def assertsNull? : Comparison → Option Bool
  | is | eq => some true
  | isNot | notEq => some false
  | less | lessEq | greater | greaterEq | isIn | notIn => none

end Comparison

namespace NullCheck

def negate (check : NullCheck) : NullCheck :=
  { check with assertsNull := !check.assertsNull }

def ofComparison? (left : Expr) (op : Comparison) (right : Expr) : Option NullCheck :=
  match op.assertsNull?, left, right with
  | some asserts, .name id, .literal .none => some ⟨id, asserts⟩
  | some asserts, .literal .none, .name id => some ⟨id, asserts⟩
  | _, _, _ => none

def ofCompare? (left : Expr) : List Comparison → List Expr → Option NullCheck
  | [op], right :: _ => ofComparison? left op right
  | _, _ => none

end NullCheck

def Expr.nullCheck? : Expr → Option NullCheck
  | .not operand => operand.nullCheck?.map NullCheck.negate
  | .compare left ops rights => NullCheck.ofCompare? left ops rights
  | _ => none

end NullContract
