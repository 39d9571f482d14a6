import NullContract.Source.Grammar.Expression

namespace NullContract.Source

open Parse

namespace Rules

def captureTarget : Parse String := do
  guard !(← sees (isSoftKeyword "_"))
  let id ← name
  guard !(← sees fun
    | .op s => s = "." || s = "(" || s = "="
    | _ => false)
  return id

def numberPattern : Parse Expr := do
  let negative ← acceptOp "-"
  let wrap := fun (e : Expr) => if negative then Expr.form (.unary .minus) [e] else e
  match ← next with
  | .number n =>
    let real := wrap (.literal n.literal)
    if ← sees fun kind => isOp "+" kind || isOp "-" kind then
      let op := if ← acceptOp "+" then BinaryOp.add else BinaryOp.sub
      if op = .sub then Parse.op "-"
      match n, ← next with
      | .imaginary _, _ => failure
      | _, .number (.imaginary m) => return .binary op real (.literal (.imaginary m))
      | _, _ => failure
    return real
  | _ => failure

def dotted (fuel : Nat) : Parse Expr := do
  let first ← name
  let rest ← many (do op "."; name) fuel
  return rest.foldl .member (.name first)

def isDotted : Expr → Bool
  | .member _ _ => true
  | _ => false

def mappingKey (r : Rules) : Parse Expr := do
  match ← peek with
  | some (.quotation _) => r.quotations
  | some (.number _) | some (.op "-") => numberPattern
  | some (.keyword _) =>
    match ← next with
    | .keyword "None" => return .literal .none
    | .keyword "True" => return .literal (.bool true)
    | .keyword "False" => return .literal (.bool false)
    | _ => failure
  | _ =>
    let e ← dotted r.fuel
    guard (isDotted e)
    return e

def sequenceItem (r : Rules) : Parse Pattern := do
  if ← acceptOp "*" then
    (do return .star (some (← captureTarget))) <|> (do softKeyword "_"; return .star none)
  else r.pattern

def isStar : Pattern → Bool
  | .star _ => true
  | _ => false

def mappingItem (r : Rules) : Parse (Option (Expr × Pattern) × Option String) := do
  if ← acceptOp "**" then return (none, some (← captureTarget))
  let key ← r.mappingKey
  op ":"
  return (some (key, ← r.pattern), none)

def restIsLast {α : Type} : List (α × Option String) → Bool
  | [] => true
  | [_] => true
  | (_, none) :: rest => restIsLast rest
  | (_, some _) :: _ :: _ => false

def mappingPattern (r : Rules) : Parse Pattern := do
  op "\x7b"
  if ← acceptOp "\x7d" then return .mapping [] [] none
  let (items, _) ← commaList r.mappingItem (return !(← seesClosing)) r.fuel
  op "\x7d"
  guard (restIsLast items)
  let pairs := items.filterMap (·.1)
  return .mapping (pairs.map (·.1)) (pairs.map (·.2)) (items.findSome? (·.2))

def classItem (r : Rules) : Parse (Option String × Pattern) := do
  if ← seesNameThen "=" then
    let attr ← name
    op "="
    return (some attr, ← r.pattern)
  return (none, ← r.pattern)

def positionalFirst : List (Option String × Pattern) → Bool
  | [] => true
  | (none, _) :: rest => positionalFirst rest
  | (some _, _) :: rest => rest.all (·.1.isSome)

def classPattern (r : Rules) (cls : Expr) : Parse Pattern := do
  op "("
  if ← acceptOp ")" then return .classOf cls [] [] []
  let (items, _) ← commaList r.classItem (return !(← seesClosing)) r.fuel
  op ")"
  guard (positionalFirst items)
  let named := items.filter (·.1.isSome)
  return .classOf cls ((items.filter (·.1.isNone)).map (·.2)) (named.filterMap (·.1)) (named.map (·.2))

def namePattern (r : Rules) : Parse Pattern :=
  (do softKeyword "_"; return .capture none) <|> (do
    let e ← dotted r.fuel
    if ← seesOp "(" then return ← r.classPattern e
    guard !(← seesOp "=")
    match e with
    | .name id => return .capture (some id)
    | e => return .value e)

def bracketPattern (r : Rules) : Parse Pattern := do
  if ← acceptOp "[" then
    if ← acceptOp "]" then return .sequence []
    let (items, _) ← commaList r.sequenceItem (return !(← seesClosing)) r.fuel
    op "]"
    return .sequence items
  op "("
  if ← acceptOp ")" then return .sequence []
  let (items, trailing) ← commaList r.sequenceItem (return !(← seesClosing)) r.fuel
  op ")"
  match items, trailing with
  | [item], false =>
    guard !(isStar item)
    return item
  | items, _ => return .sequence items

def closedPattern (r : Rules) : Parse Pattern := do
  match ← peek with
  | some (.quotation _) => return .value (← r.quotations)
  | some (.number _) | some (.op "-") => return .value (← numberPattern)
  | some (.op "\x7b") => r.mappingPattern
  | some (.op _) => r.bracketPattern
  | some (.keyword _) =>
    match ← next with
    | .keyword "None" => return .singleton none
    | .keyword "True" => return .singleton (some true)
    | .keyword "False" => return .singleton (some false)
    | _ => failure
  | _ => r.namePattern

def patternRule (r : Rules) : Parse Pattern := do
  let first ← r.closedPattern
  let rest ← many (do op "|"; r.closedPattern) r.fuel
  let p := if rest.isEmpty then first else .either (first :: rest)
  if ← acceptKeyword "as" then return .naming p (← captureTarget)
  return p

def casePattern (r : Rules) : Parse Pattern := do
  let more := sees fun
    | .op s => s ≠ ":"
    | .keyword k => k ≠ "if"
    | _ => true
  let (items, trailing) ← commaList r.sequenceItem more r.fuel
  match items, trailing with
  | [item], false =>
    guard !(isStar item)
    return item
  | items, _ => return .sequence items

end Rules

end NullContract.Source
