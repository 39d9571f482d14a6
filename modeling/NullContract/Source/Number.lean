import NullContract.Syntax.Expr
import NullContract.Text.Ranges

namespace NullContract.Source

inductive Number where
  | int (value : Nat)
  | float (value : Double)
  | imaginary (value : Double)

def Number.literal : Number → Literal
  | int value => .int value
  | float value => .float value
  | imaginary value => .imaginary value

def isHexDigit (c : Char) : Bool :=
  c.isDigit || ('a' ≤ c && c ≤ 'f') || ('A' ≤ c && c ≤ 'F')

/-- Characters that would continue a name: every character beyond ASCII counts until names are checked. -/
def continuesName (c : Char) : Bool :=
  c.isAlphanum || c = '_' || c.toNat ≥ 0x80

def digits (isDigit : Char → Bool) : List Char → Option (List Char × List Char)
  | '_' :: c :: rest =>
    if isDigit c then (digits isDigit rest).map fun (ds, rest) => (c :: ds, rest) else none
  | ['_'] => none
  | c :: rest =>
    if isDigit c then (digits isDigit rest).map fun (ds, rest) => (c :: ds, rest) else some ([], c :: rest)
  | [] => some ([], [])

def decimalDigits : List Char → Option (List Char × List Char)
  | c :: rest => if c.isDigit then digits Char.isDigit (c :: rest) else some ([], c :: rest)
  | [] => some ([], [])

def decimalValue (ds : List Char) : Nat :=
  ds.foldl (fun n c => 10 * n + (c.toNat - '0'.toNat)) 0

def startsWord : List Char → List Char → Bool
  | [], [] => true
  | [], c :: _ => !continuesName c
  | w :: ws, c :: cs => w = c && startsWord ws cs
  | _ :: _, [] => false

/-- Whether a number may end in front of the text: a name must not follow directly, except for the keywords
that can follow an operand. -/
def endsNumber : List Char → Bool
  | [] => true
  | 'a' :: rest => startsWord ['n', 'd'] rest
  | 'e' :: rest => startsWord ['l', 's', 'e'] rest
  | 'f' :: rest => startsWord ['o', 'r'] rest
  | 'i' :: c :: _ => c = 'f' || c = 'n' || c = 's'
  | 'o' :: rest => startsWord ['r'] rest
  | 'n' :: rest => startsWord ['o', 't'] rest
  | c :: _ => !continuesName c

def readBased (base : Nat) (isDigit : Char → Bool) (cs : List Char) : Option (Number × List Char) := do
  let (ds, rest) ← digits isDigit cs
  guard (!ds.isEmpty && endsNumber rest)
  guard !(rest.head?.map Char.isDigit).getD false
  return (.int (ds.foldl (fun n c => base * n + (Ranges.hexDigit? c).getD 0) 0), rest)

def readExponent : List Char → Option (Option Int × List Char)
  | e :: rest =>
    if e = 'e' || e = 'E' then
      match rest with
      | '+' :: rest => do
        let (ds, rest) ← decimalDigits rest
        guard !ds.isEmpty
        return (some (decimalValue ds), rest)
      | '-' :: rest => do
        let (ds, rest) ← decimalDigits rest
        guard !ds.isEmpty
        return (some (-(decimalValue ds : Int)), rest)
      | rest => do
        let (ds, after) ← decimalDigits rest
        if ds.isEmpty then
          guard (endsNumber (e :: rest))
          return (none, e :: rest)
        else return (some (decimalValue ds), after)
    else some (none, e :: rest)
  | [] => some (none, [])

def readSuffix (imaginary real : Number) : List Char → Option (Number × List Char)
  | 'j' :: rest | 'J' :: rest => if endsNumber rest then some (imaginary, rest) else none
  | rest => if endsNumber rest then some (real, rest) else none

def maxIntegerDigits : Nat := 4300

def formsInteger (whole : List Char) : Bool :=
  if whole.head? = some '0' then whole.all (· = '0') else whole.length ≤ maxIntegerDigits

/-- In front of `else`, digits that start with a zero are taken for a number whose exponent is missing. -/
def isPadded (whole rest : List Char) : Bool :=
  whole.head? = some '0' && !formsInteger whole && rest.head? = some 'e'

def readFraction (whole : List Char) (cs : List Char) : Option (Number × List Char) := do
  let (fraction, rest) ← match cs with
    | '.' :: rest => (decimalDigits rest).map fun (ds, rest) => (some ds, rest)
    | rest => some (none, rest)
  let (exponent, rest) ← readExponent rest
  let value := decimalValue (whole ++ fraction.getD [])
  let float := Double.ofDecimal false value (exponent.getD 0 - ((fraction.getD []).length : Int))
  if fraction.isNone && exponent.isNone && !isPadded whole rest then
    guard (rest.head? = some 'j' || rest.head? = some 'J' || formsInteger whole)
    readSuffix (.imaginary float) (.int value) rest
  else readSuffix (.imaginary float) (.float float) rest

def readNumber : List Char → Option (Number × List Char)
  | '0' :: 'x' :: rest | '0' :: 'X' :: rest => readBased 16 isHexDigit rest
  | '0' :: 'o' :: rest | '0' :: 'O' :: rest => readBased 8 (fun c => '0' ≤ c && c ≤ '7') rest
  | '0' :: 'b' :: rest | '0' :: 'B' :: rest => readBased 2 (fun c => c = '0' || c = '1') rest
  | '.' :: rest => readFraction [] ('.' :: rest)
  | cs => do
    let (whole, rest) ← decimalDigits cs
    readFraction whole rest

end NullContract.Source
