import NullContract.Syntax.Stmt

/-!
The names that a block of statements can bind or test. Nested functions and classes count only by
their own name, since their bodies are not part of the block's flow.
-/

namespace NullContract

namespace WithItem

def names (item : WithItem) : List String :=
  (item.target.map Expr.names).getD []

end WithItem

mutual
def Stmt.names : Stmt → List String
  | .function header _ => [header.name]
  | .classDef header _ => [header.name]
  | .ret _ value => (value.map Expr.names).getD []
  | .delete targets => targets.flatMap Expr.names
  | .assign targets value => targets.flatMap Expr.names ++ value.names
  | .augAssign target _ value => target.names ++ value.names
  | .annAssign target _ value => target.names ++ (value.map Expr.names).getD []
  | .forLoop _ target _ body orelse => target.names ++ namesOfBlock body ++ namesOfBlock orelse
  | .whileLoop test body orelse => test.names ++ namesOfBlock body ++ namesOfBlock orelse
  | .ifElse _ test body orelse => test.names ++ namesOfBlock body ++ namesOfBlock orelse
  | .withBlock _ items body => items.flatMap WithItem.names ++ namesOfBlock body
  | .matchCases subject cases => subject.names ++ namesOfCases cases
  | .raise _ => []
  | .tryBlock body handlers orelse final =>
    namesOfBlock body ++ namesOfHandlers handlers ++ namesOfBlock orelse ++ namesOfBlock final
  | .assert test _ => test.names
  | .imports _ names => names.map Alias.bound
  | .outer _ _ => []
  | .expr value => value.names
  | .break => []
  | .continue => []
  | .pass => []

def namesOfBlock : List Stmt → List String
  | [] => []
  | s :: rest => s.names ++ namesOfBlock rest

def namesOfHandlers : List Handler → List String
  | [] => []
  | .mk _ _ name body :: rest => name.toList ++ namesOfBlock body ++ namesOfHandlers rest

def namesOfCases : List Case → List String
  | [] => []
  | .mk pattern guard body :: rest =>
    pattern.captures ++ (guard.map Expr.names).getD [] ++ namesOfBlock body ++ namesOfCases rest
end

end NullContract
