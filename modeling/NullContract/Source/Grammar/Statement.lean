import NullContract.Source.Grammar.Pattern

/-!
The grammar of statements. Checks that need more than the shape of the text, such as where a break or a
return may stand, are not made.
-/

namespace NullContract.Source

open Parse

namespace Rules

def augmentedOp? : TokenKind → Option BinaryOp
  | .op s => (binarySymbols.find? fun (symbol, _) => symbol ++ "=" = s).map (·.2)
  | _ => none

def assignChain (r : Rules) : (fuel : Nat) → (targets : List Expr) → Parse Stmt
  | 0, _ => failure
  | fuel + 1, targets => do
    let e ← r.assigned
    if ← acceptOp "=" then
      guard (areTargets [e])
      assignChain r fuel (targets ++ [e])
    else return .assign targets e

/-- Whether a place in parentheses stands at the head of the input and something other than a colon after it. A hint
cannot be given to what starts like that. -/
def opensWithPlace (r : Rules) (input : Input) : Bool :=
  let place : Parse Bool := do
    op "("
    let e ← r.expression
    op ")"
    return isPlace e && !(← seesOp ":")
  (place.run' input).getD false

def expressionStatement (r : Rules) : Parse Stmt := do
  let start ← get
  let e ← r.starExpressions
  if ← acceptOp ":" then
    guard (isPlace e && !r.opensWithPlace start)
    let hint ← r.expression
    if ← acceptOp "=" then return .annAssign e hint (some (← r.assigned))
    return .annAssign e hint none
  if ← acceptOp "=" then
    guard (areTargets [e])
    return ← r.assignChain r.fuel [e]
  match (← peek).bind augmentedOp? with
  | some op =>
    let _ ← next
    guard (isPlace e)
    return .augAssign e op (← r.assigned)
  | none => return .expr e

def returnStatement (r : Rules) : Parse Stmt := do
  let position ← place
  keyword "return"
  if ← sees startsStarExpression then return .ret position (some (← r.starExpressions))
  return .ret position none

def raiseStatement (r : Rules) : Parse Stmt := do
  keyword "raise"
  if ← sees startsExpression then
    let e ← r.expression
    if ← acceptKeyword "from" then return .raise [e, ← r.expression]
    return .raise [e]
  return .raise []

def deleteStatement (r : Rules) : Parse Stmt := do
  keyword "del"
  let (targets, _) ← commaList r.bitOr (sees startsExpression) r.fuel
  guard (areDeletable targets)
  return .delete targets

def assertStatement (r : Rules) : Parse Stmt := do
  keyword "assert"
  let test ← r.expression
  if ← acceptOp "," then return .assert test (some (← r.expression))
  return .assert test none

def scopeStatement (r : Rules) (word : String) (scope : OuterScope) : Parse Stmt := do
  keyword word
  return .outer scope (← commaList1 name r.fuel)

def dottedName (r : Rules) : Parse String := do
  let first ← name
  let rest ← many (do op "."; name) r.fuel
  return ".".intercalate (first :: rest)

def asName : Parse (Option String) := do
  if ← acceptKeyword "as" then return some (← name) else return none

def importStatement (r : Rules) : Parse Stmt := do
  keyword "import"
  return .imports none (← commaList1 (do return ⟨← r.dottedName, ← asName⟩) r.fuel)

def importedNames (r : Rules) : Parse (List Alias) := do
  if ← acceptOp "*" then return [⟨"*", none⟩]
  let one : Parse Alias := do return ⟨← name, ← asName⟩
  if ← acceptOp "(" then
    let (names, _) ← commaList one (return !(← seesClosing)) r.fuel
    op ")"
    return names
  commaList1 one r.fuel

def importFromStatement (r : Rules) : Parse Stmt := do
  keyword "from"
  let dots ← many (do
    if ← acceptOp "..." then return 3
    op "."
    return 1) r.fuel
  let named := !(!dots.isEmpty && (← seesKeyword "import"))
  let id ← if named then r.dottedName else pure ""
  keyword "import"
  return .imports (some ⟨dots.foldl Nat.add 0, id⟩) (← r.importedNames)

def simpleStatement (r : Rules) : Parse Stmt := do
  match ← peek with
  | some (.keyword k) =>
    match k with
    | "return" => r.returnStatement
    | "import" => r.importStatement
    | "from" => r.importFromStatement
    | "raise" => r.raiseStatement
    | "pass" => keyword k; return .pass
    | "break" => keyword k; return .break
    | "continue" => keyword k; return .continue
    | "del" => r.deleteStatement
    | "assert" => r.assertStatement
    | "global" => r.scopeStatement k .module
    | "nonlocal" => r.scopeStatement k .enclosing
    | "yield" => return .expr (← r.yieldExpression)
    | _ => r.expressionStatement
  | _ => r.expressionStatement

def statementLine (r : Rules) : (fuel : Nat) → Parse (List Stmt)
  | 0 => failure
  | fuel + 1 => do
    let first ← r.simpleStatement
    if ← acceptOp ";" then
      let ended ← accept fun
        | .lineEnd => true
        | _ => false
      if ended then return [first]
      return first :: (← statementLine r fuel)
    lineEnd
    return [first]

def elseBlock (r : Rules) : Parse (List Stmt) := do
  if ← acceptKeyword "else" then
    op ":"
    r.block
  else return []

def ifStatement (r : Rules) (word : String) : (fuel : Nat) → Parse Stmt
  | 0 => failure
  | fuel + 1 => do
    let position ← place
    keyword word
    let test ← r.namedExpression
    op ":"
    let body ← r.block
    if ← seesKeyword "elif" then
      return .ifElse position.line test body [← ifStatement r "elif" fuel]
    return .ifElse position.line test body (← r.elseBlock)

def whileStatement (r : Rules) : Parse Stmt := do
  keyword "while"
  let test ← r.namedExpression
  op ":"
  let body ← r.block
  return .whileLoop test body (← r.elseBlock)

def forStatement (r : Rules) (isAsync : Bool) : Parse Stmt := do
  keyword "for"
  let target ← r.loopTargets
  keyword "in"
  let iter ← r.starExpressions
  op ":"
  let body ← r.block
  return .forLoop isAsync target iter body (← r.elseBlock)

def withItem (r : Rules) : Parse WithItem := do
  let context ← r.expression
  if ← acceptKeyword "as" then return ⟨context, some (← r.starTarget)⟩
  return ⟨context, none⟩

def withItems (r : Rules) : Parse (List WithItem) :=
  (do
    op "("
    let (items, _) ← commaList r.withItem (return !(← seesClosing)) r.fuel
    op ")"
    op ":"
    return items) <|> (do
    let items ← commaList1 r.withItem r.fuel
    op ":"
    return items)

def withStatement (r : Rules) (isAsync : Bool) : Parse Stmt := do
  keyword "with"
  let items ← r.withItems
  return .withBlock isAsync items (← r.block)

def handler (r : Rules) (group : Bool) : Parse Handler := do
  keyword "except"
  if group then op "*"
  let kind ← if group || (← sees startsExpression) then do pure (some (← r.expression)) else pure none
  let id ← if kind.isSome then asName else pure none
  op ":"
  return .mk group kind id (← r.block)

def finallyBlock (r : Rules) : Parse (List Stmt) := do
  keyword "finally"
  op ":"
  r.block

def tryStatement (r : Rules) : Parse Stmt := do
  keyword "try"
  op ":"
  let body ← r.block
  if ← seesKeyword "finally" then return .tryBlock body [] [] (← r.finallyBlock)
  let group := match (← get).tokens with
    | _ :: second :: _ => isOp "*" second.kind
    | _ => false
  let first ← r.handler group
  let rest ← many (r.handler group) r.fuel
  let orelse ← r.elseBlock
  let final ← if ← seesKeyword "finally" then r.finallyBlock else pure []
  return .tryBlock body (first :: rest) orelse final

def matchSubject (r : Rules) : Parse Expr := do
  let more := return !(← seesOp ":")
  let (items, trailing) ← commaList r.starNamedExpression more r.fuel
  match items, trailing with
  | [e], false =>
    guard !(isStarred e)
    return e
  | items, _ => return .tuple items

def matchCase (r : Rules) : Parse Case := do
  softKeyword "case"
  let pattern ← r.casePattern
  let test ← if ← acceptKeyword "if" then do pure (some (← r.namedExpression)) else pure none
  op ":"
  return .mk pattern test (← r.block)

def isIndent : TokenKind → Bool
  | .indent => true
  | _ => false

def isDedent : TokenKind → Bool
  | .dedent => true
  | _ => false

def matchStatement (r : Rules) : Parse Stmt := do
  softKeyword "match"
  let subject ← r.matchSubject
  op ":"
  lineEnd
  expect isIndent
  let first ← r.matchCase
  let rest ← many r.matchCase r.fuel
  expect isDedent
  return .matchCases subject (first :: rest)

def functionStatement (r : Rules) (isAsync : Bool) (decorators : List Expr) (firstLine : Nat) (start : Position) :
    Parse Stmt := do
  keyword "def"
  let id ← name
  op "("
  let sig ← r.paramList true ")" r.fuel {}
  op ")"
  let returns ← if ← acceptOp "->" then do pure (some (← r.expression)) else pure none
  op ":"
  let body ← r.block
  return .function ⟨id, isAsync, sig, returns, decorators, firstLine, ⟨start, (← get).last⟩⟩ body

def classStatement (r : Rules) (decorators : List Expr) : Parse Stmt := do
  keyword "class"
  let id ← name
  let (bases, keywords) ← if ← acceptOp "(" then r.arguments else pure ([], [])
  op ":"
  return .classDef ⟨id, bases, keywords, decorators⟩ (← r.block)

def asyncStatement (r : Rules) (decorators : List Expr) (firstLine : Nat) : Parse Stmt := do
  let start ← place
  keyword "async"
  if ← seesKeyword "def" then return ← r.functionStatement true decorators firstLine start
  guard decorators.isEmpty
  if ← seesKeyword "for" then r.forStatement true else r.withStatement true

def decorator (r : Rules) : Parse Expr := do
  op "@"
  let e ← r.namedExpression
  lineEnd
  return e

def decorated (r : Rules) : Parse Stmt := do
  let firstLine := (← place).line
  let first ← r.decorator
  let decorators := first :: (← many r.decorator r.fuel)
  if ← seesKeyword "class" then return ← r.classStatement decorators
  if ← seesKeyword "async" then return ← r.asyncStatement decorators firstLine
  r.functionStatement false decorators firstLine (← place)

def statement (r : Rules) : Parse (List Stmt) := do
  match ← peek with
  | some (.keyword k) =>
    match k with
    | "if" => return [← r.ifStatement "if" r.fuel]
    | "while" => return [← r.whileStatement]
    | "for" => return [← r.forStatement false]
    | "with" => return [← r.withStatement false]
    | "try" => return [← r.tryStatement]
    | "def" =>
      let start ← place
      return [← r.functionStatement false [] start.line start]
    | "class" => return [← r.classStatement []]
    | "async" => return [← r.asyncStatement [] (← place).line]
    | _ => r.statementLine r.fuel
  | some (.op "@") => return [← r.decorated]
  | some (.word "match" true) => (do return [← r.matchStatement]) <|> r.statementLine r.fuel
  | _ => r.statementLine r.fuel

def statements (r : Rules) : Parse (List Stmt) := do
  let first ← r.statement
  return first ++ (← many r.statement r.fuel).flatten

def blockRule (r : Rules) : Parse (List Stmt) := do
  let ended ← accept fun
    | .lineEnd => true
    | _ => false
  if ended then
    expect isIndent
    let body ← r.statements
    expect isDedent
    return body
  r.statementLine r.fuel

end Rules

def rules : (level : Nat) → Rules
  | 0 => .exhausted
  | level + 1 =>
    { fuel := level + 1
      expression := fun input => (rules level).expressionRule input
      disjunction := fun input => (rules level).disjunctionRule input
      inversion := fun input => (rules level).inversionRule input
      bitOr := fun input => (rules level).bitOrRule input
      factor := fun input => (rules level).factorRule input
      pattern := fun input => (rules level).patternRule input
      block := fun input => (rules level).blockRule input }

end NullContract.Source
