import NullContract.Syntax.Expr

namespace NullContract

/-- A pattern. A `singleton` without a truth value is `None`; a `capture` without a name matches anything. -/
inductive Pattern where
  | value (expr : Expr)
  | singleton (truth : Option Bool)
  | sequence (items : List Pattern)
  | mapping (keys : List Expr) (items : List Pattern) (rest : Option String)
  | classOf (cls : Expr) (items : List Pattern) (attrs : List String) (attrItems : List Pattern)
  | star (name : Option String)
  | capture (name : Option String)
  | naming (inner : Pattern) (name : String)
  | either (alternatives : List Pattern)

namespace Pattern

def irrefutable : Pattern → Bool
  | capture _ => true
  | _ => false

mutual
def captures : Pattern → List String
  | value _ => []
  | singleton _ => []
  | sequence items => capturesOfList items
  | mapping _ items rest => rest.toList ++ capturesOfList items
  | classOf _ items _ attrItems => capturesOfList items ++ capturesOfList attrItems
  | star name => name.toList
  | capture name => name.toList
  | naming inner name => name :: inner.captures
  | either alternatives => capturesOfList alternatives

def capturesOfList : List Pattern → List String
  | [] => []
  | p :: rest => p.captures ++ capturesOfList rest
end

end Pattern

end NullContract
