import NullContract.Decimal.Double
import NullContract.Text.CodePoint

/-!
Expressions of the checked language, as far as nullness can tell them apart. What the analysis takes
apart has a constructor of its own; every other compound expression is a `form` with its parts in
the order in which the grammar lists them.
-/

namespace NullContract

inductive Literal where
  | none
  | bool (value : Bool)
  | int (value : Int)
  | float (value : Double)
  | imaginary (value : Double)
  | text (value : Text)
  | bytes (value : List UInt8)
  | ellipsis
deriving DecidableEq, Inhabited

namespace Literal

def truthy : Literal → Bool
  | none => false
  | bool value => value
  | int value => value ≠ 0
  | float value => !value.isZero
  | imaginary value => !value.isZero
  | text value => !value.isEmpty
  | bytes value => !value.isEmpty
  | ellipsis => true

end Literal

inductive Junctor where
  | and
  | or
deriving DecidableEq

inductive Comparison where
  | is
  | isNot
  | eq
  | notEq
  | less
  | lessEq
  | greater
  | greaterEq
  | isIn
  | notIn
deriving DecidableEq

inductive UnaryOp where
  | plus
  | minus
  | invert
deriving DecidableEq

inductive BinaryOp where
  | add
  | sub
  | mul
  | matMul
  | div
  | floorDiv
  | mod
  | pow
  | shiftLeft
  | shiftRight
  | bitOr
  | bitXor
  | bitAnd
deriving DecidableEq

inductive ParameterKind where
  | positional
  | variadic
  | keywordOnly
  | optionalKeyword
  | keywordVariadic
deriving DecidableEq

/-- Compound forms that the analysis does not take apart, with the pieces of syntax they are made of. The parts of
a dictionary are its keys and then its values; an `unpacking` without parts takes the place of the key of a mapping
that is unpacked. A slice tells which of its three bounds are among its parts, a formatted value what it is converted
by, a parameter its name, and a clause of a comprehension whether it waits for its items. -/
inductive Form where
  | set
  | dict
  | unpacking
  | listComp
  | setComp
  | dictComp
  | generator
  | lambda
  | joinedText
  | unary (op : UnaryOp)
  | formattedValue (conversion : Option Char)
  | await
  | yield
  | yieldFrom
  | slice (lower upper step : Bool)
  | comprehension (isAsync : Bool)
  | parameters
  | parameter (kind : ParameterKind) (name : String)
deriving DecidableEq

namespace Form

def buildsValue : Form → Bool
  | set | dict | listComp | setComp | dictComp | generator | lambda | joinedText | unary _ => true
  | unpacking | formattedValue _ | await | yield | yieldFrom | slice _ _ _ | comprehension _ | parameters
  | parameter _ _ => false

end Form

/-- An expression. A `keyword` stands only among the keywords of a call; it has no name in `**value`. -/
inductive Expr where
  | literal (value : Literal)
  | name (id : String)
  | walrus (target : String) (value : Expr)
  | not (operand : Expr)
  | junction (op : Junctor) (operands : List Expr)
  | compare (left : Expr) (ops : List Comparison) (rights : List Expr)
  | cond (test body orelse : Expr)
  | call (callee : Expr) (args keywords : List Expr)
  | keyword (name : Option String) (value : Expr)
  | member (value : Expr) (field : String)
  | subscript (value index : Expr)
  | starred (value : Expr)
  | tuple (items : List Expr)
  | list (items : List Expr)
  | binary (op : BinaryOp) (left right : Expr)
  | form (kind : Form) (parts : List Expr)
deriving Inhabited

namespace Expr

def isNone : Expr → Bool
  | literal .none => true
  | _ => false

def simpleName? : Expr → Option String
  | name id => some id
  | member _ field => some field
  | _ => none

mutual
def subterms : Expr → List Expr
  | e@(literal _) => [e]
  | e@(name _) => [e]
  | e@(walrus _ value) => e :: value.subterms
  | e@(not operand) => e :: operand.subterms
  | e@(junction _ operands) => e :: subtermsOfList operands
  | e@(compare left _ rights) => e :: (left.subterms ++ subtermsOfList rights)
  | e@(cond test body orelse) => e :: (test.subterms ++ body.subterms ++ orelse.subterms)
  | e@(call callee args keywords) =>
    e :: (callee.subterms ++ subtermsOfList args ++ subtermsOfList keywords)
  | e@(keyword _ value) => e :: value.subterms
  | e@(member value _) => e :: value.subterms
  | e@(subscript value index) => e :: (value.subterms ++ index.subterms)
  | e@(starred value) => e :: value.subterms
  | e@(tuple items) => e :: subtermsOfList items
  | e@(list items) => e :: subtermsOfList items
  | e@(binary _ left right) => e :: (left.subterms ++ right.subterms)
  | e@(form _ parts) => e :: subtermsOfList parts

def subtermsOfList : List Expr → List Expr
  | [] => []
  | e :: rest => e.subterms ++ subtermsOfList rest
end

def headName? : Expr → Option String
  | name id => some id
  | walrus target _ => some target
  | _ => none

def names (e : Expr) : List String :=
  e.subterms.filterMap headName?

def mentionsNone (e : Expr) : Bool :=
  e.subterms.any fun s => s.isNone || s.headName? = some "NoneType"

end Expr

end NullContract
