import NullContract.Json.Basic
import NullContract.Text.Ranges

namespace NullContract.Json

namespace Reader

def isBlankChar (c : Char) : Bool :=
  c = ' ' || c = '\t' || c = '\n' || c = '\r'

def skipBlanks (cs : List Char) : List Char :=
  cs.dropWhile isBlankChar

def unit? : List Char → Option (Nat × List Char)
  | a :: b :: c :: d :: rest =>
    if [a, b, c, d].all fun x => (Ranges.hexDigit? x).isSome then some (Ranges.hexNumber [a, b, c, d], rest)
    else none
  | _ => none

def paired? (high : Nat) (rest : List Char) : Option (CodePoint × List Char) :=
  match rest with
  | '\\' :: 'u' :: rest =>
    match unit? rest with
    | some (low, rest) =>
      if 0xD800 ≤ high && high < 0xDC00 && 0xDC00 ≤ low && low < 0xE000 then
        (CodePoint.ofNat? (0x10000 + (high - 0xD800) * 0x400 + (low - 0xDC00))).map (·, rest)
      else none
    | none => none
  | _ => none

def escape? : Char → Option Char
  | '"' => some '"'
  | '\\' => some '\\'
  | '/' => some '/'
  | 'b' => some '\x08'
  | 'f' => some '\x0c'
  | 'n' => some '\n'
  | 'r' => some '\r'
  | 't' => some '\t'
  | _ => none

def readText : (fuel : Nat) → List Char → Option (Text × List Char)
  | 0, _ => none
  | _ + 1, [] => none
  | _ + 1, '"' :: rest => some ([], rest)
  | fuel + 1, '\\' :: 'u' :: rest => do
    let (high, rest) ← unit? rest
    let (point, rest) ← (paired? high rest).or ((CodePoint.ofNat? high).map (·, rest))
    let (text, rest) ← readText fuel rest
    return (point :: text, rest)
  | fuel + 1, '\\' :: c :: rest => do
    let c ← escape? c
    let (text, rest) ← readText fuel rest
    return (.char c :: text, rest)
  | fuel + 1, c :: rest => do
    if c.toNat < 0x20 || c = '\\' then none
    let (text, rest) ← readText fuel rest
    return (.char c :: text, rest)

def marked (mark : List Char → Option (List Char × List Char)) (cs : List Char) : List Char × List Char :=
  match mark cs with
  | none => ([], cs)
  | some (lead, rest) =>
    match rest.span Char.isDigit with
    | ([], _) => ([], cs)
    | (digits, rest) => (lead ++ digits, rest)

def pointMark : List Char → Option (List Char × List Char)
  | '.' :: rest => some (['.'], rest)
  | _ => none

def exponentMark : List Char → Option (List Char × List Char)
  | e :: sign :: rest =>
    if e = 'e' || e = 'E' then
      if sign = '+' || sign = '-' then some ([e, sign], rest) else some ([e], sign :: rest)
    else none
  | _ => none

def wholeDigits : List Char → List Char × List Char
  | '0' :: rest => (['0'], rest)
  | cs => cs.span Char.isDigit

def readUnsigned (negative : Bool) (cs : List Char) : Option (Json × List Char) :=
  let (whole, rest) := wholeDigits cs
  if whole.isEmpty then none
  else
    let (fraction, rest) := marked pointMark rest
    let (exponent, rest) := marked exponentMark rest
    if fraction.isEmpty && exponent.isEmpty then
      let n := whole.foldl (fun n c => 10 * n + (c.toNat - '0'.toNat)) 0
      some (.int (if negative then -(n : Int) else n), rest)
    else
      let digits := whole ++ fraction ++ exponent
      some (.decimal (String.ofList (if negative then '-' :: digits else digits)), rest)

def after? (word : String) (cs : List Char) : Option (List Char) :=
  if word.toList.isPrefixOf cs then some (cs.drop word.length) else none

def words : List (String × Json) :=
  [("null", .null), ("true", .bool true), ("false", .bool false), ("NaN", .decimal "NaN"),
   ("Infinity", .decimal "Infinity"), ("-Infinity", .decimal "-Infinity")]

def readAtom (cs : List Char) : Option (Json × List Char) :=
  match words.findSome? fun (word, value) => (after? word cs).map (value, ·) with
  | some found => some found
  | none =>
    match cs with
    | '-' :: rest => readUnsigned true rest
    | _ => readUnsigned false cs

mutual
def readValue : (fuel : Nat) → List Char → Option (Json × List Char)
  | 0, _ => none
  | fuel + 1, '"' :: rest => do
    let (text, rest) ← readText fuel rest
    return (.str text, rest)
  | fuel + 1, '[' :: rest =>
    match skipBlanks rest with
    | ']' :: rest => some (.arr [], rest)
    | rest => do
      let (items, rest) ← readItems fuel rest
      return (.arr items, rest)
  | fuel + 1, '\x7b' :: rest =>
    match skipBlanks rest with
    | '\x7d' :: rest => some (.obj [], rest)
    | rest => do
      let (fields, rest) ← readFields fuel rest
      return (.obj fields, rest)
  | _ + 1, cs => readAtom cs

def readItems : (fuel : Nat) → List Char → Option (List Json × List Char)
  | 0, _ => none
  | fuel + 1, cs => do
    let (item, rest) ← readValue fuel cs
    match skipBlanks rest with
    | ']' :: rest => return ([item], rest)
    | ',' :: rest =>
      let (items, rest) ← readItems fuel (skipBlanks rest)
      return (item :: items, rest)
    | _ => none

def readFields : (fuel : Nat) → List Char → Option (List (Text × Json) × List Char)
  | 0, _ => none
  | fuel + 1, '"' :: cs => do
    let (name, rest) ← readText fuel cs
    match skipBlanks rest with
    | ':' :: rest =>
      let (value, rest) ← readValue fuel (skipBlanks rest)
      let field := (name, value)
      match skipBlanks rest with
      | '\x7d' :: rest => return ([field], rest)
      | ',' :: rest =>
        let (fields, rest) ← readFields fuel (skipBlanks rest)
        return (field :: fields, rest)
      | _ => none
    | _ => none
  | _ + 1, _ => none
end

end Reader

/-- Reads a text that holds one value. Every step of the reader takes a character, so their number bounds
the steps. -/
def read? (text : String) : Option Json :=
  let cs := text.toList
  match Reader.readValue (cs.length + 2) (Reader.skipBlanks cs) with
  | some (value, rest) => if (Reader.skipBlanks rest).isEmpty then some value else none
  | none => none

end NullContract.Json
