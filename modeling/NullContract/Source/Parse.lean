import NullContract.Source.Token

namespace NullContract.Source

structure Input where
  tokens : List Token
  last : Position

abbrev Parse := StateT Input Option

namespace Parse

def peek : Parse (Option TokenKind) := do
  return (← get).tokens.head?.map (·.kind)

def place : Parse Position := do
  return ((← get).tokens.head?.map (·.start)).getD ⟨0, 0⟩

def isLayout : TokenKind → Bool
  | .lineEnd | .indent | .dedent | .textEnd => true
  | _ => false

def next : Parse TokenKind := fun input =>
  match input.tokens with
  | [] => none
  | token :: rest =>
    let last := if isLayout token.kind then input.last else token.stop
    some (token.kind, ⟨rest, last⟩)

def isOp (symbol : String) : TokenKind → Bool
  | .op s => s = symbol
  | _ => false

def isKeyword (id : String) : TokenKind → Bool
  | .keyword k => k = id
  | _ => false

def sees (p : TokenKind → Bool) : Parse Bool := do
  return ((← peek).map p).getD false

def seesOp (symbol : String) : Parse Bool :=
  sees (isOp symbol)

def seesKeyword (id : String) : Parse Bool :=
  sees (isKeyword id)

def accept (p : TokenKind → Bool) : Parse Bool := do
  if ← sees p then
    let _ ← next
    return true
  else return false

def acceptOp (symbol : String) : Parse Bool :=
  accept (isOp symbol)

def acceptKeyword (id : String) : Parse Bool :=
  accept (isKeyword id)

def expect (p : TokenKind → Bool) : Parse Unit := do
  guard (← accept p)

def op (symbol : String) : Parse Unit :=
  expect (isOp symbol)

def keyword (id : String) : Parse Unit :=
  expect (isKeyword id)

def lineEnd : Parse Unit :=
  expect fun
    | .lineEnd => true
    | _ => false

def name : Parse String := do
  match ← next with
  | .word id _ => return id
  | _ => failure

def isSoftKeyword (id : String) : TokenKind → Bool
  | .word w plain => plain && w = id
  | _ => false

def softKeyword (id : String) : Parse Unit :=
  expect (isSoftKeyword id)

def seesNameThen (symbol : String) : Parse Bool := do
  match (← get).tokens with
  | first :: second :: _ =>
    match first.kind with
    | .word _ _ => return isOp symbol second.kind
    | _ => return false
  | _ => return false

def many {α : Type} (p : Parse α) : (fuel : Nat) → Parse (List α)
  | 0 => return []
  | fuel + 1 => (do
    let first ← p
    return first :: (← many p fuel)) <|> return []

/-- Reads items with commas between them; `more` tells after a comma whether another item follows. Gives the
items and whether the last comma ends the list. -/
def commaList {α : Type} (p : Parse α) (more : Parse Bool) : (fuel : Nat) → Parse (List α × Bool)
  | 0 => failure
  | fuel + 1 => do
    let first ← p
    if ← acceptOp "," then
      if ← more then
        let (rest, trailing) ← commaList p more fuel
        return (first :: rest, trailing)
      else return ([first], true)
    else return ([first], false)

def commaList1 {α : Type} (p : Parse α) (fuel : Nat) : Parse (List α) := do
  let (items, trailing) ← commaList p (return true) fuel
  guard !trailing
  return items

end Parse

end NullContract.Source
