import NullContract.Env
import NullContract.Syntax.Hint
import NullContract.Syntax.Stmt

namespace NullContract

namespace Signature

def positionalDefaults (sig : Signature) : List (Parameter × Option Expr) :=
  let params := sig.positionalOnly ++ sig.positional
  let missing := params.length - sig.defaults.length
  params.zip (List.replicate missing none ++ sig.defaults.map some)

def keywordOnlyDefaults (sig : Signature) : List (Parameter × Option Expr) :=
  sig.keywordOnly.zip sig.keywordDefaults

def names (sig : Signature) : List String :=
  (sig.positionalOnly ++ sig.positional).map (·.name) ++ (sig.variadic.map (·.name)).toList ++
    sig.keywordOnly.map (·.name) ++ (sig.keywordVariadic.map (·.name)).toList

def hints (sig : Signature) : List Expr :=
  (sig.positionalOnly ++ sig.positional ++ sig.variadic.toList ++ sig.keywordOnly ++
    sig.keywordVariadic.toList).filterMap (·.hint)

def hasPositional (sig : Signature) : Bool :=
  !(sig.positionalOnly ++ sig.positional).isEmpty

end Signature

def declaredNullness (read : Reader) (param : Parameter) (default : Option Expr) : Except SourceError Nullness := do
  let admits ← match param.hint with
    | some hint => hint.admitsNone read
    | none => pure false
  return if admits || (default.map Expr.isNone).getD false then .nullable else .unknown

def Signature.declared (read : Reader) (sig : Signature) : Except SourceError (List (String × Nullness)) := do
  let declare := fun (p : Parameter × Option Expr) => return (p.1.name, ← declaredNullness read p.1 p.2)
  let collection := fun (p : Parameter) => (p.name, Nullness.nonNull)
  let positional ← sig.positionalDefaults.mapM declare
  let keywordOnly ← sig.keywordOnlyDefaults.mapM declare
  return positional ++ (sig.variadic.map collection).toList ++
    keywordOnly ++ (sig.keywordVariadic.map collection).toList

namespace Header

def hasDecorator (h : Header) (name : String) : Bool :=
  h.decorators.any fun
    | .call callee _ _ => callee.simpleName? = some name
    | decorator => decorator.simpleName? = some name

def formalParameters (h : Header) (isMethod : Bool) : List String :=
  if isMethod && h.signature.hasPositional && !h.hasDecorator "staticmethod" then h.signature.names.drop 1
  else h.signature.names

end Header

def Function.entry (read : Reader) (fn : Function) (assumptions : Env) : Except SourceError Env := do
  let declared ← fn.header.signature.declared read
  return declared.foldl (fun env p => env.insert p.1 (assumptions[p.1]?.getD p.2)) ∅

end NullContract
