import NullContract.Decimal.Double
import NullContract.Text.Blank
import NullContract.Text.Digit

namespace NullContract.Double

def readDigits : List Char → List Char × List Char
  | c :: '_' :: d :: rest =>
    if c.isDigit && d.isDigit then
      let (digits, rest) := readDigits (d :: rest)
      (c :: digits, rest)
    else if c.isDigit then ([c], '_' :: d :: rest)
    else ([], c :: '_' :: d :: rest)
  | c :: rest =>
    if c.isDigit then
      let (digits, rest) := readDigits rest
      (c :: digits, rest)
    else ([], c :: rest)
  | [] => ([], [])

def digitsValue (digits : List Char) : Nat :=
  digits.foldl (fun n c => 10 * n + (c.toNat - '0'.toNat)) 0

def readSign : List Char → Bool × List Char
  | '-' :: rest => (true, rest)
  | '+' :: rest => (false, rest)
  | rest => (false, rest)

def readPower : List Char → Option Int
  | [] => some 0
  | e :: rest =>
    if e = 'e' || e = 'E' then
      let (negative, rest) := readSign rest
      match readDigits rest with
      | ([], _) => none
      | (digits, []) => some (if negative then -(digitsValue digits : Int) else digitsValue digits)
      | _ => none
    else none

def readUnsigned (negative : Bool) (cs : List Char) : Option Double := do
  let (whole, rest) := readDigits cs
  let (fraction, rest) := match rest with
    | '.' :: rest => readDigits rest
    | rest => ([], rest)
  guard !(whole ++ fraction).isEmpty
  return ofDecimal negative (digitsValue (whole ++ fraction)) ((← readPower rest) - (fraction.length : Int))

def isPadding (c : Char) : Bool :=
  c = ' ' || (0x09 ≤ c.toNat && c.toNat ≤ 0x0D)

def plainChar (c : Char) : Char :=
  match digitValue? c with
  | some value => Char.ofNat ('0'.toNat + value)
  | none => if c.toNat ≥ 0x80 && isBlank c then ' ' else c

def ofText? (text : String) : Option Double :=
  let cs := text.toList.map plainChar
  let cs := ((cs.dropWhile isPadding).reverse.dropWhile isPadding).reverse
  let (negative, rest) := readSign cs
  let word := String.ofList (rest.map Char.toLower)
  if word = "inf" || word = "infinity" then some (infinite negative)
  else if word = "nan" then some nan
  else readUnsigned negative rest

end NullContract.Double
