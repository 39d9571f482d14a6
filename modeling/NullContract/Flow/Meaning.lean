import NullContract.Env
import NullContract.Guard.NullCheck

/-!
The nullness semantics of expressions: the verdict on an expression's value, the states in which it is
true or false, and the assignments it makes on the way. All three are computed together by recursion on
the expression, because a condition may assign and an assignment may depend on a condition.
-/

namespace NullContract

/-- What an expression means for nullness. The bindings are its assignment expressions, level by level of
depth, each with the verdict on the assigned value. -/
structure Meaning where
  value : Env → Nullness
  assume : Bool → Env → State
  bindings : List (List (String × (Env → Nullness)))

def nonNullBuiltins : List String :=
  ["abs", "all", "any", "ascii", "bin", "bool", "bytearray", "bytes",
   "callable", "chr", "complex", "dict", "dir", "divmod", "enumerate",
   "filter", "float", "format", "frozenset", "hash", "hex", "id",
   "int", "isinstance", "issubclass", "iter", "len", "list", "map",
   "object", "oct", "ord", "pow", "range", "repr", "reversed",
   "round", "set", "slice", "sorted", "str", "sum", "tuple", "type",
   "vars", "zip"]

namespace Meaning

def mergeLevels {α : Type} : List (List α) → List (List α) → List (List α)
  | [], ys => ys
  | xs, [] => xs
  | x :: xs, y :: ys => (x ++ y) :: mergeLevels xs ys

def below (children : List Meaning) : List (List (String × (Env → Nullness))) :=
  [] :: children.foldr (fun m levels => mergeLevels m.bindings levels) []

def apply (bindings : List (List (String × (Env → Nullness)))) (env : Env) : Env :=
  bindings.flatten.foldl (fun env binding => env.insert binding.1 (binding.2 env)) env

def assumeAll (truth : Bool) : List Meaning → State → State
  | [], state => state
  | m :: rest, state => assumeAll truth rest (state.bind (m.assume truth))

def assumeFirst (truth : Bool) : List Meaning → State → State
  | [], _ => none
  | m :: rest, state =>
    State.join (state.bind (m.assume truth)) (assumeFirst truth rest (state.bind (m.assume !truth)))

/-- The verdicts on the operands that a chain may yield: it stops at the first operand of truth
`stop`, a true one being non-null, and yields the last operand if none stops it. -/
def chain (stop : Bool) : List Meaning → State → List Nullness
  | _, none => []
  | [], some _ => []
  | [m], some env => [m.value env]
  | m :: rest, some env =>
    let here := if (m.assume stop env).isSome then [if stop then .nonNull else m.value env] else []
    here ++ chain stop rest (m.assume (!stop) env)

def inert (value : Env → Nullness) (children : List Meaning) : Meaning where
  value := value
  assume := fun _ env => some env
  bindings := below children

def literal (lit : Literal) : Meaning where
  value := fun _ => if lit = .none then .null else .nonNull
  assume := fun truth env => if lit.truthy = truth then some env else none
  bindings := below []

/-- A true name is not null; a false one may be anything that is false. -/
def assumeName (id : String) (truth : Bool) (env : Env) : State :=
  if truth then env.refine id .nonNull else some env

def name (id : String) : Meaning where
  value := fun env => env.verdict id
  assume := assumeName id
  bindings := below []

def walrus (target : String) (value : Meaning) : Meaning :=
  let bindings := [(target, value.value)] :: value.bindings
  { value := value.value
    assume := fun truth env => assumeName target truth (apply bindings env)
    bindings := bindings }

def not (operand : Meaning) : Meaning where
  value := fun _ => .nonNull
  assume := fun truth env => operand.assume (!truth) env
  bindings := below [operand]

def junction (op : Junctor) (operands : List Meaning) : Meaning where
  value := fun env => .joinAll (chain (op = .or) operands (some env))
  assume := fun truth env =>
    if decide (op = .and) = truth then assumeAll truth operands (some env)
    else assumeFirst truth operands (some env)
  bindings := below operands

def compare (check : Option NullCheck) (children : List Meaning) : Meaning where
  value := fun _ => .nonNull
  assume := fun truth env =>
    match check with
    | none => some env
    | some check => env.refine check.name (if check.assertsNull = truth then .null else .nonNull)
  bindings := below children

def cond (test body orelse : Meaning) : Meaning where
  value := fun env =>
    .joinAll (((test.assume true env).map body.value).toList ++ ((test.assume false env).map orelse.value).toList)
  assume := fun _ env => some env
  bindings := below [test, body, orelse]

def typeTest? : Expr → List Expr → Option String
  | .name "isinstance", [.name id, kinds] => if kinds.mentionsNone then none else some id
  | _, _ => none

def callValue (callee : Expr) (env : Env) : Nullness :=
  match callee with
  | .name id => if nonNullBuiltins.contains id && !env.contains id then .nonNull else .unknown
  | _ => .unknown

def call (callee : Expr) (args : List Expr) (children : List Meaning) : Meaning where
  value := callValue callee
  assume := fun truth env =>
    match truth, typeTest? callee args with
    | true, some id => env.refine id .nonNull
    | _, _ => some env
  bindings := below children

end Meaning

namespace Expr

mutual
def meaning : Expr → Meaning
  | literal value => .literal value
  | name id => .name id
  | walrus target value => .walrus target value.meaning
  | not operand => .not operand.meaning
  | junction op operands => .junction op (meanings operands)
  | compare left ops rights =>
    .compare (NullCheck.ofCompare? left ops rights) (left.meaning :: meanings rights)
  | cond test body orelse => .cond test.meaning body.meaning orelse.meaning
  | call callee args keywords =>
    .call callee args (callee.meaning :: (meanings args ++ meanings keywords))
  | keyword _ value => .inert (fun _ => .unknown) [value.meaning]
  | member value _ => .inert (fun _ => .unknown) [value.meaning]
  | subscript value index => .inert (fun _ => .unknown) [value.meaning, index.meaning]
  | starred value => .inert (fun _ => .unknown) [value.meaning]
  | tuple items => .inert (fun _ => .nonNull) (meanings items)
  | list items => .inert (fun _ => .nonNull) (meanings items)
  | binary _ left right => .inert (fun _ => .nonNull) [left.meaning, right.meaning]
  | form kind parts =>
    .inert (fun _ => if kind.buildsValue then .nonNull else .unknown) (meanings parts)

def meanings : List Expr → List Meaning
  | [] => []
  | e :: rest => e.meaning :: meanings rest
end

def evaluate (e : Expr) (env : Env) : Nullness :=
  e.meaning.value env

def assume (e : Expr) (truth : Bool) (state : State) : State :=
  state.bind (e.meaning.assume truth)

def effects (e : Expr) (env : Env) : Env :=
  Meaning.apply e.meaning.bindings env

end Expr

end NullContract
