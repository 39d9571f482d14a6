import NullContract.Source.Formatted
import NullContract.Source.Grammar.Rules

namespace NullContract.Source

open Parse

def after {α : Type} (id : String) (p : Parse α) : Parse α := do
  keyword id
  p

def seesClosing : Parse Bool :=
  sees fun
    | .op s => s = ")" || s = "]" || s = "\x7d"
    | _ => false

def startsExpression : TokenKind → Bool
  | .word _ _ | .number _ | .quotation _ => true
  | .keyword k => ["None", "True", "False", "not", "lambda", "await"].contains k
  | .op s => ["(", "[", "\x7b", "-", "+", "~", "..."].contains s
  | _ => false

def startsStarExpression (kind : TokenKind) : Bool :=
  startsExpression kind || isOp "*" kind

namespace Rules

def starExpression (r : Rules) : Parse Expr := do
  if ← acceptOp "*" then return .starred (← r.bitOr)
  r.expression

def starExpressions (r : Rules) : Parse Expr := do
  return tupleUnlessSingle (← commaList r.starExpression (sees startsStarExpression) r.fuel)

def namedExpression (r : Rules) : Parse Expr := do
  if ← seesNameThen ":=" then
    let target ← name
    op ":="
    return .walrus target (← r.expression)
  let e ← r.expression
  guard !(← seesOp ":=")
  return e

def starNamedExpression (r : Rules) : Parse Expr := do
  if ← acceptOp "*" then return .starred (← r.bitOr)
  r.namedExpression

def yieldExpression (r : Rules) : Parse Expr := do
  keyword "yield"
  if ← acceptKeyword "from" then return .form .yieldFrom [← r.expression]
  if ← sees startsStarExpression then return .form .yield [← r.starExpressions]
  return .form .yield []

def assigned (r : Rules) : Parse Expr := do
  if ← seesKeyword "yield" then r.yieldExpression else r.starExpressions

def starTarget (r : Rules) : Parse Expr := do
  let target ← (do
    if ← acceptOp "*" then return .starred (← r.bitOr)
    r.bitOr)
  guard (areTargets [target])
  return target

def loopTargets (r : Rules) : Parse Expr := do
  let more := return !(← seesKeyword "in")
  return tupleUnlessSingle (← commaList r.starTarget more r.fuel)

def seesComprehension : Parse Bool := do
  match (← get).tokens with
  | first :: second :: _ =>
    return isKeyword "for" first.kind || (isKeyword "async" first.kind && isKeyword "for" second.kind)
  | _ => return false

def comprehensionClause (r : Rules) : Parse Expr := do
  let isAsync ← acceptKeyword "async"
  keyword "for"
  let target ← r.loopTargets
  keyword "in"
  let iter ← r.disjunction
  let conditions ← many (after "if" r.disjunction) r.fuel
  return .form (.comprehension isAsync) (target :: iter :: conditions)

def comprehensionClauses (r : Rules) : Parse (List Expr) := do
  let first ← r.comprehensionClause
  return first :: (← many r.comprehensionClause r.fuel)

def parenthesized (r : Rules) : Parse Expr := do
  op "("
  if ← acceptOp ")" then return .tuple []
  if ← seesKeyword "yield" then
    let e ← r.yieldExpression
    op ")"
    return e
  let first ← r.starNamedExpression
  if ← seesComprehension then
    guard !(isStarred first)
    let clauses ← r.comprehensionClauses
    op ")"
    return .form .generator (first :: clauses)
  if ← acceptOp "," then
    if ← acceptOp ")" then return .tuple [first]
    let (rest, _) ← commaList r.starNamedExpression (return !(← seesClosing)) r.fuel
    op ")"
    return .tuple (first :: rest)
  guard !(isStarred first)
  op ")"
  return first

def listDisplay (r : Rules) : Parse Expr := do
  op "["
  if ← acceptOp "]" then return .list []
  let first ← r.starNamedExpression
  if ← seesComprehension then
    guard !(isStarred first)
    let clauses ← r.comprehensionClauses
    op "]"
    return .form .listComp (first :: clauses)
  if ← acceptOp "," then
    if ← acceptOp "]" then return .list [first]
    let (rest, _) ← commaList r.starNamedExpression (return !(← seesClosing)) r.fuel
    op "]"
    return .list (first :: rest)
  op "]"
  return .list [first]

def dictItem (r : Rules) : Parse (Expr × Expr) := do
  if ← acceptOp "**" then return (.form .unpacking [], ← r.bitOr)
  let key ← r.expression
  op ":"
  return (key, ← r.expression)

def dictOf (items : List (Expr × Expr)) : Expr :=
  .form .dict (items.map (·.1) ++ items.map (·.2))

def dictRest (r : Rules) (first : Expr × Expr) : Parse Expr := do
  if ← acceptOp "," then
    if ← acceptOp "\x7d" then return dictOf [first]
    let (rest, _) ← commaList r.dictItem (return !(← seesClosing)) r.fuel
    op "\x7d"
    return dictOf (first :: rest)
  op "\x7d"
  return dictOf [first]

def braced (r : Rules) : Parse Expr := do
  op "\x7b"
  if ← acceptOp "\x7d" then return .form .dict []
  if ← seesOp "**" then
    let first ← r.dictItem
    return ← r.dictRest first
  let starred ← seesOp "*"
  let named ← seesNameThen ":="
  let first ← r.starNamedExpression
  let keyed ← if starred || named then pure false else acceptOp ":"
  if keyed then
    let value ← r.expression
    if ← seesComprehension then
      let clauses ← r.comprehensionClauses
      op "\x7d"
      return .form .dictComp (first :: value :: clauses)
    return ← r.dictRest (first, value)
  if ← seesComprehension then
    guard !(isStarred first)
    let clauses ← r.comprehensionClauses
    op "\x7d"
    return .form .setComp (first :: clauses)
  if ← acceptOp "," then
    if ← acceptOp "\x7d" then return .form .set [first]
    let (rest, _) ← commaList r.starNamedExpression (return !(← seesClosing)) r.fuel
    op "\x7d"
    return .form .set (first :: rest)
  op "\x7d"
  return .form .set [first]

def fieldExpression (r : Rules) (cs : List Char) : Option Expr := do
  let tokens ← tokens 1 ('(' :: cs ++ [')', '\n'])
  let (e, _) ← r.starExpressions.run ⟨tokens, ⟨1, 0⟩⟩
  return e

mutual
def pieceExpr (r : Rules) : Piece → Option Expr
  | .text value => some (.literal (.text value))
  | .field expr conversion format => do
    let value ← r.fieldExpression expr
    let parts ← pieceExprs r format
    return .form (.formattedValue conversion) (value :: if parts.isEmpty then [] else [.form .joinedText parts])

def pieceExprs (r : Rules) : List Piece → Option (List Expr)
  | [] => some []
  | piece :: rest => do return (← pieceExpr r piece) :: (← pieceExprs r rest)
end

def nextQuotation : Parse Quotation := do
  match ← next with
  | .quotation q => return q
  | _ => failure

def partsOf (r : Rules) (q : Quotation) : Option (List Expr) :=
  if q.formatted then do pieceExprs r (← piecesOf q.raw q.body)
  else do return [.literal (.text (← literalText q.raw q.body))]

/-- Adjacent string literals form one. Literals of bytes and of text do not mix, and one formatted literal
makes the whole formatted. -/
def joinQuotations (r : Rules) (qs : List Quotation) : Option Expr :=
  if qs.all (·.bytes) then do
    let parts ← qs.mapM fun q => literalBytes q.raw q.body
    return .literal (.bytes parts.flatten)
  else if qs.any (·.bytes) then none
  else if qs.any (·.formatted) then do return .form .joinedText (← qs.mapM (partsOf r)).flatten
  else do
    let parts ← qs.mapM fun q => literalText q.raw q.body
    return .literal (.text parts.flatten)

def quotations (r : Rules) : Parse Expr := do
  let first ← nextQuotation
  let rest ← many nextQuotation r.fuel
  (joinQuotations r (first :: rest) : Option Expr)

def atom (r : Rules) : Parse Expr := do
  match ← peek with
  | some (.quotation _) => r.quotations
  | some (.op "(") => r.parenthesized
  | some (.op "[") => r.listDisplay
  | some (.op "\x7b") => r.braced
  | _ =>
    match ← next with
    | .word id _ => return .name id
    | .number n => return .literal n.literal
    | .keyword "None" => return .literal .none
    | .keyword "True" => return .literal (.bool true)
    | .keyword "False" => return .literal (.bool false)
    | .op "..." => return .literal .ellipsis
    | _ => failure

def sliceItem (r : Rules) : Parse Expr := do
  if ← acceptOp "*" then return .starred (← r.expression)
  let bound := do
    if (← sees startsExpression) then return [← r.expression] else return []
  let lower ←
    if ← seesOp ":" then pure []
    else if ← seesNameThen ":=" then return ← r.namedExpression
    else do
      let e ← r.expression
      guard !(← seesOp ":=")
      pure [e]
  if ← acceptOp ":" then
    let upper ← bound
    let step ← if ← acceptOp ":" then bound else pure []
    return .form (.slice (!lower.isEmpty) (!upper.isEmpty) (!step.isEmpty)) (lower ++ upper ++ step)
  match lower with
  | [e] => return e
  | _ => failure

def subscriptIndex (r : Rules) : Parse Expr := do
  op "["
  let (items, trailing) ← commaList r.sliceItem (return !(← seesClosing)) r.fuel
  op "]"
  match items with
  | [e] => if trailing || isStarred e then return .tuple [e] else return e
  | items => return .tuple items

inductive Argument where
  | positional (value : Expr)
  | starred (value : Expr)
  | keyword (name : String) (value : Expr)
  | unpacked (value : Expr)

def argument (r : Rules) : Parse Argument := do
  if ← acceptOp "*" then return .starred (← r.expression)
  if ← acceptOp "**" then return .unpacked (← r.expression)
  if ← seesNameThen "=" then
    let id ← name
    op "="
    return .keyword id (← r.expression)
  let e ← r.namedExpression
  guard !(← seesOp "=")
  return .positional e

def orderedFrom (keywords unpacked : Bool) : List Argument → Bool
  | [] => true
  | .positional _ :: rest => !keywords && !unpacked && orderedFrom keywords unpacked rest
  | .starred _ :: rest => !unpacked && orderedFrom keywords unpacked rest
  | .keyword _ _ :: rest => orderedFrom true unpacked rest
  | .unpacked _ :: rest => orderedFrom keywords true rest

def sortArguments (args : List Argument) : List Expr × List Expr :=
  (args.filterMap fun
    | .positional e => some e
    | .starred e => some (.starred e)
    | _ => none,
   args.filterMap fun
    | .keyword id e => some (.keyword (some id) e)
    | .unpacked e => some (.keyword none e)
    | _ => none)

def argumentsFrom (r : Rules) (first : Argument) : Parse (List Expr × List Expr) := do
  let rest ←
    if ← acceptOp "," then
      if ← seesOp ")" then pure []
      else
        let (rest, _) ← commaList r.argument (return !(← seesClosing)) r.fuel
        pure rest
    else pure []
  op ")"
  guard (orderedFrom false false (first :: rest))
  return sortArguments (first :: rest)

def arguments (r : Rules) : Parse (List Expr × List Expr) := do
  if ← acceptOp ")" then return ([], [])
  r.argumentsFrom (← r.argument)

def callArguments (r : Rules) : Parse (List Expr × List Expr) := do
  if ← acceptOp ")" then return ([], [])
  let first ← r.argument
  if ← seesComprehension then
    match first with
    | .positional e =>
      let clauses ← r.comprehensionClauses
      op ")"
      return ([.form .generator (e :: clauses)], [])
    | _ => failure
  r.argumentsFrom first

def trailer (r : Rules) : Parse (Expr → Expr) := do
  if ← acceptOp "." then
    let id ← name
    return fun e => .member e id
  if ← seesOp "[" then
    let index ← r.subscriptIndex
    return fun e => .subscript e index
  op "("
  let (args, keywords) ← r.callArguments
  return fun e => .call e args keywords

def primary (r : Rules) : Parse Expr := do
  let e ← r.atom
  let trailers ← many r.trailer r.fuel
  return trailers.foldl (fun e f => f e) e

def awaited (r : Rules) : Parse Expr := do
  if ← acceptKeyword "await" then return .form .await [← r.primary]
  r.primary

def power (r : Rules) : Parse Expr := do
  let base ← r.awaited
  if ← acceptOp "**" then return .binary .pow base (← r.factor)
  return base

def unaryOp? : TokenKind → Option UnaryOp
  | .op "+" => some .plus
  | .op "-" => some .minus
  | .op "~" => some .invert
  | _ => none

def factorRule (r : Rules) : Parse Expr := do
  match (← peek).bind unaryOp? with
  | some op =>
    let _ ← next
    return .form (.unary op) [← r.factor]
  | none => r.power

def binarySymbols : List (String × BinaryOp) :=
  [("+", .add), ("-", .sub), ("*", .mul), ("@", .matMul), ("/", .div), ("//", .floorDiv), ("%", .mod), ("**", .pow),
   ("<<", .shiftLeft), (">>", .shiftRight), ("|", .bitOr), ("^", .bitXor), ("&", .bitAnd)]

def binaryOperator (symbols : List String) : Parse BinaryOp := do
  match ← next with
  | .op s => if symbols.contains s then (binarySymbols.lookup s : Option BinaryOp) else failure
  | _ => failure

def operation (symbols : List String) (operand : Parse Expr) : Parse (BinaryOp × Expr) := do
  return (← binaryOperator symbols, ← operand)

def leftAssoc (r : Rules) (symbols : List String) (operand : Parse Expr) : Parse Expr := do
  let first ← operand
  let rest ← many (operation symbols operand) r.fuel
  return rest.foldl (fun e (o, right) => .binary o e right) first

def term (r : Rules) : Parse Expr :=
  r.leftAssoc ["*", "/", "//", "%", "@"] r.factorRule

def bitOrRule (r : Rules) : Parse Expr :=
  let sum := r.leftAssoc ["+", "-"] r.term
  let shift := r.leftAssoc ["<<", ">>"] sum
  let bitAnd := r.leftAssoc ["&"] shift
  let bitXor := r.leftAssoc ["^"] bitAnd
  r.leftAssoc ["|"] bitXor

def comparisonOperator : Parse Comparison := do
  match ← next with
  | .op "==" => return .eq
  | .op "!=" => return .notEq
  | .op "<" => return .less
  | .op "<=" => return .lessEq
  | .op ">" => return .greater
  | .op ">=" => return .greaterEq
  | .keyword "in" => return .isIn
  | .keyword "not" =>
    keyword "in"
    return .notIn
  | .keyword "is" => if ← acceptKeyword "not" then return .isNot else return .is
  | _ => failure

def compared (r : Rules) : Parse (Comparison × Expr) := do
  return (← comparisonOperator, ← r.bitOrRule)

def comparison (r : Rules) : Parse Expr := do
  let left ← r.bitOrRule
  let rest ← many r.compared r.fuel
  if rest.isEmpty then return left
  return .compare left (rest.map (·.1)) (rest.map (·.2))

def inversionRule (r : Rules) : Parse Expr := do
  if ← acceptKeyword "not" then return .not (← r.inversion)
  r.comparison

def junctionOf (r : Rules) (junctor : Junctor) (id : String) (operand : Parse Expr) : Parse Expr := do
  let first ← operand
  let rest ← many (after id operand) r.fuel
  if rest.isEmpty then return first
  return .junction junctor (first :: rest)

def disjunctionRule (r : Rules) : Parse Expr :=
  r.junctionOf .or "or" (r.junctionOf .and "and" r.inversionRule)

structure ParamState where
  sig : Signature := ⟨[], [], none, [], [], none, []⟩
  slash : Bool := false
  star : Bool := false

def param (r : Rules) (hinted starred : Bool) : Parse Parameter := do
  let id ← name
  let marked ← if hinted then acceptOp ":" else pure false
  if marked then
    let hint ← if starred then r.starExpression else r.expression
    return ⟨id, some hint⟩
  return ⟨id, none⟩

def paramDefault (r : Rules) : Parse (Option Expr) := do
  if ← acceptOp "=" then return some (← r.expression) else return none

/-- Reads one entry of a parameter list. Positional parameters without a default come before those with
one, and a bare star needs a parameter after it. -/
def paramEntry (r : Rules) (hinted : Bool) (s : ParamState) : Parse ParamState := do
  guard s.sig.keywordVariadic.isNone
  if ← acceptOp "/" then
    guard (!s.slash && !s.star && !s.sig.positional.isEmpty)
    return { s with slash := true, sig := { s.sig with positionalOnly := s.sig.positional, positional := [] } }
  if ← acceptOp "**" then
    let p ← r.param hinted false
    guard !(← seesOp "=")
    return { s with sig := { s.sig with keywordVariadic := some p } }
  if ← acceptOp "*" then
    guard !s.star
    if ← seesOp "," then
      match (← get).tokens with
      | _ :: second :: _ =>
        match second.kind with
        | .word _ _ => return { s with star := true }
        | _ => failure
      | _ => failure
    let p ← r.param hinted true
    guard !(← seesOp "=")
    return { s with star := true, sig := { s.sig with variadic := some p } }
  let p ← r.param hinted false
  let default ← r.paramDefault
  if s.star then
    return { s with sig := { s.sig with
      keywordOnly := s.sig.keywordOnly ++ [p], keywordDefaults := s.sig.keywordDefaults ++ [default] } }
  guard (default.isSome || s.sig.defaults.isEmpty)
  return { s with sig := { s.sig with
    positional := s.sig.positional ++ [p], defaults := s.sig.defaults ++ default.toList } }

def paramList (r : Rules) (hinted : Bool) (closing : String) : (fuel : Nat) → ParamState → Parse Signature
  | 0, _ => failure
  | fuel + 1, s => do
    if ← seesOp closing then return s.sig
    let s ← r.paramEntry hinted s
    if ← acceptOp "," then paramList r hinted closing fuel s
    else
      guard (← seesOp closing)
      return s.sig

def lambdaParameters (sig : Signature) : Expr :=
  let bare := fun (kind : ParameterKind) (p : Parameter) => Expr.form (.parameter kind p.name) []
  let named := fun ((p, default) : Parameter × Option Expr) =>
    bare (if default.isSome then .optionalKeyword else .keywordOnly) p
  .form .parameters ((sig.positionalOnly ++ sig.positional).map (bare .positional) ++
    (sig.variadic.map (bare .variadic)).toList ++ (sig.keywordOnly.zip sig.keywordDefaults).map named ++
    sig.keywordDefaults.filterMap id ++ (sig.keywordVariadic.map (bare .keywordVariadic)).toList ++ sig.defaults)

def lambda (r : Rules) : Parse Expr := do
  keyword "lambda"
  let sig ← r.paramList false ":" r.fuel {}
  op ":"
  return .form .lambda [lambdaParameters sig, ← r.expression]

def conditional (r : Rules) (e : Expr) : Parse Expr := do
  keyword "if"
  let test ← r.disjunctionRule
  keyword "else"
  return .cond test e (← r.expression)

/-- A conditional expression needs both of its words; without the second one the first is left. -/
def expressionRule (r : Rules) : Parse Expr := do
  if ← seesKeyword "lambda" then return ← r.lambda
  let e ← r.disjunctionRule
  r.conditional e <|> return e

end Rules

end NullContract.Source
