import NullContract.Source.Parse

/-!
The rules of the grammar that refer to themselves. Each level of a construct is read with the rules of the
level below it, so that a rule is a plain function of the rules it uses.
-/

namespace NullContract.Source

structure Rules where
  fuel : Nat
  expression : Parse Expr
  disjunction : Parse Expr
  inversion : Parse Expr
  bitOr : Parse Expr
  factor : Parse Expr
  pattern : Parse Pattern
  block : Parse (List Stmt)

def Rules.exhausted : Rules where
  fuel := 0
  expression := failure
  disjunction := failure
  inversion := failure
  bitOr := failure
  factor := failure
  pattern := failure
  block := failure

mutual
def isTarget : Expr → Bool
  | .name _ => true
  | .member _ _ => true
  | .subscript _ _ => true
  | .tuple items => areTargets items
  | .list items => areTargets items
  | _ => false

def areTargets : List Expr → Bool
  | [] => true
  | .starred target :: rest => isTarget target && areTargets rest
  | target :: rest => isTarget target && areTargets rest
end

def isPlace : Expr → Bool
  | .name _ | .member _ _ | .subscript _ _ => true
  | _ => false

mutual
def isDeletable : Expr → Bool
  | .name _ => true
  | .member _ _ => true
  | .subscript _ _ => true
  | .tuple items => areDeletable items
  | .list items => areDeletable items
  | _ => false

def areDeletable : List Expr → Bool
  | [] => true
  | target :: rest => isDeletable target && areDeletable rest
end

def isStarred : Expr → Bool
  | .starred _ => true
  | _ => false

def tupleUnlessSingle : List Expr × Bool → Expr
  | ([e], false) => e
  | (items, _) => .tuple items

end NullContract.Source
