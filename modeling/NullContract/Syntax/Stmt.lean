import NullContract.Syntax.Pattern

namespace NullContract

/-- A place in a source text: a line, counted from one, and a column, counted in bytes from zero. -/
structure Position where
  line : Nat
  col : Nat
deriving DecidableEq, Inhabited

structure Span where
  start : Position
  stop : Position
deriving DecidableEq, Inhabited

structure Parameter where
  name : String
  hint : Option Expr

/-- A parameter list. The defaults belong to the last of the positional parameters, and every keyword-only
parameter has an entry among the keyword defaults. -/
structure Signature where
  positionalOnly : List Parameter
  positional : List Parameter
  variadic : Option Parameter
  keywordOnly : List Parameter
  keywordDefaults : List (Option Expr)
  keywordVariadic : Option Parameter
  defaults : List Expr

/-- All of a function but its body. Its first line is that of its first decorator, if it has one, and its
span starts after the decorators. -/
structure Header where
  name : String
  isAsync : Bool
  signature : Signature
  returns : Option Expr
  decorators : List Expr
  firstLine : Nat
  span : Span

structure ClassHeader where
  name : String
  bases : List Expr
  keywords : List Expr
  decorators : List Expr

inductive OuterScope where
  | module
  | enclosing
deriving DecidableEq

structure Alias where
  name : String
  asName : Option String

structure Origin where
  level : Nat
  name : String

structure WithItem where
  context : Expr
  target : Option Expr

mutual
inductive Stmt where
  | function (header : Header) (body : List Stmt)
  | classDef (header : ClassHeader) (body : List Stmt)
  | ret (position : Position) (value : Option Expr)
  | delete (targets : List Expr)
  | assign (targets : List Expr) (value : Expr)
  | augAssign (target : Expr) (op : BinaryOp) (value : Expr)
  | annAssign (target hint : Expr) (value : Option Expr)
  | forLoop (isAsync : Bool) (target iter : Expr) (body orelse : List Stmt)
  | whileLoop (test : Expr) (body orelse : List Stmt)
  | ifElse (line : Nat) (test : Expr) (body orelse : List Stmt)
  | withBlock (isAsync : Bool) (items : List WithItem) (body : List Stmt)
  | matchCases (subject : Expr) (cases : List Case)
  | raise (cause : List Expr)
  | tryBlock (body : List Stmt) (handlers : List Handler) (orelse final : List Stmt)
  | assert (test : Expr) (message : Option Expr)
  | imports (origin : Option Origin) (names : List Alias)
  | outer (scope : OuterScope) (names : List String)
  | expr (value : Expr)
  | break
  | continue
  | pass

inductive Handler where
  | mk (forGroups : Bool) (kind : Option Expr) (name : Option String) (body : List Stmt)

inductive Case where
  | mk (pattern : Pattern) (guard : Option Expr) (body : List Stmt)
end

structure Function where
  header : Header
  body : List Stmt

namespace Alias

def bound (a : Alias) : String :=
  String.ofList ((a.asName.getD a.name).toList.takeWhile (· ≠ '.'))

end Alias

end NullContract
