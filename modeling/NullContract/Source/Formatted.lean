import NullContract.Source.Escape

namespace NullContract.Source

inductive Piece where
  | text (value : Text)
  | field (expr : List Char) (conversion : Option Char) (format : List Piece)

/-- Text up to the next brace that opens or closes a field. Outside of formats a doubled brace is text and a
single closing one is a fault. An escape protects its character unless that is a brace; the braces of a character
name are part of the escape. -/
def scanText (raw inFormat : Bool) : (fuel : Nat) → List Char → Option (List Char × List Char)
  | _, [] => some ([], [])
  | 0, _ :: _ => none
  | fuel + 1, c :: rest =>
    let brace := fun (lead : List Char) (b : Char) (rest : List Char) =>
      if !inFormat && rest.head? = some b then
        (scanText raw inFormat fuel (rest.drop 1)).map fun (text, rest) => (lead ++ b :: text, rest)
      else if !inFormat && b = '\x7d' then none
      else some (lead, b :: rest)
    let keep := fun (cs : List Char) (rest : List Char) =>
      (scanText raw inFormat fuel rest).map fun (text, rest) => (cs ++ text, rest)
    if !raw && c = '\\' then
      match rest with
      | [] => keep [c] rest
      | 'N' :: '\x7b' :: more =>
        let name := more.takeWhile (· ≠ '\x7d')
        keep (c :: 'N' :: '\x7b' :: name ++ (more.drop name.length).take 1) (more.drop (name.length + 1))
      | d :: more => if d = '\x7b' || d = '\x7d' then brace [c] d more else keep [c, d] more
    else if c = '\x7b' || c = '\x7d' then brace [] c rest
    else keep [c] rest

def matches_ (opening closing : Char) : Bool :=
  (opening = '(' && closing = ')') || (opening = '[' && closing = ']') || (opening = '\x7b' && closing = '\x7d')

/-- The expression of a field: everything up to a mark of the field that stands outside of brackets and
strings. `skip` characters are taken as they are. -/
def scanExpr (skip : Nat) (quote : Option (Char × Bool)) (stack : List Char) :
    List Char → Option (List Char × List Char)
  | [] => none
  | c :: rest =>
    let keep := fun (skip : Nat) (quote : Option (Char × Bool)) (stack : List Char) =>
      (scanExpr skip quote stack rest).map fun (expr, rest) => (c :: expr, rest)
    if c = '\\' then none
    else if skip > 0 then keep (skip - 1) quote stack
    else
      match quote with
      | some (q, long) =>
        if c ≠ q then keep 0 quote stack
        else if !long then keep 0 none stack
        else if rest.take 2 = [q, q] then keep 2 none stack
        else keep 0 quote stack
      | none =>
        if c = '\'' || c = '"' then
          if rest.take 2 = [c, c] then keep 2 (some (c, true)) stack else keep 0 (some (c, false)) stack
        else if c = '(' || c = '[' || c = '\x7b' then
          if stack.length ≥ 200 then none else keep 0 none (c :: stack)
        else if c = '#' then none
        else if stack.isEmpty && ['!', ':', '\x7d', '=', '<', '>'].contains c then
          if rest.head? = some '=' && ['!', '=', '<', '>'].contains c then keep 1 none stack
          else if c = '<' || c = '>' then keep 0 none stack
          else some ([], c :: rest)
        else if c = ')' || c = ']' || c = '\x7d' then
          match stack with
          | opening :: stack => if matches_ opening c then keep 0 none stack else none
          | [] => none
        else keep 0 none stack

def isSpace (c : Char) : Bool :=
  c = ' ' || (0x09 ≤ c.toNat && c.toNat ≤ 0x0D)

def readDocumenting : List Char → List Char × List Char
  | '=' :: rest => ('=' :: rest.takeWhile isSpace, rest.dropWhile isSpace)
  | rest => ([], rest)

def readConversion : List Char → Option (Option Char × List Char)
  | '!' :: c :: rest => if c = 's' || c = 'r' || c = 'a' then some (some c, rest) else none
  | ['!'] => none
  | rest => some (none, rest)

def divide (raw : Bool) : (fuel level : Nat) → List Char → Option (List Piece × List Char)
  | 0, _, _ => none
  | fuel + 1, level, cs => do
    let (text, rest) ← scanText raw (level > 0) (cs.length + 1) cs
    let text ← literalText raw text
    let lead := if text.isEmpty then [] else [.text text]
    match rest with
    | '\x7b' :: rest =>
      guard (level < 2)
      let (expr, rest) ← scanExpr 0 none [] rest
      guard !(expr.all fun c => c = ' ' || c = '\t' || c = '\n' || c = '\x0c')
      let (mark, rest) := readDocumenting rest
      let (conversion, rest) ← readConversion rest
      let (format, rest) ← match rest with
        | ':' :: rest => (divide raw fuel (level + 1) rest).map fun (format, rest) => (some format, rest)
        | rest => some (none, rest)
      let document := if mark.isEmpty then [] else [.text (.ofChars (expr ++ mark))]
      let conversion := if !mark.isEmpty && format.isNone then conversion.or (some 'r') else conversion
      match rest with
      | '\x7d' :: rest =>
        let (pieces, rest) ← divide raw fuel level rest
        return (lead ++ document ++ .field expr conversion (format.getD []) :: pieces, rest)
      | _ => none
    | rest => return (lead, rest)

def piecesOf (raw : Bool) (body : List Char) : Option (List Piece) := do
  let (pieces, rest) ← divide raw (body.length + 1) 0 body
  guard rest.isEmpty
  return pieces

end NullContract.Source
