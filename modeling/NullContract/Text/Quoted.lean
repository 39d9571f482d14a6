import NullContract.Text.CodePoint
import NullContract.Text.Printable

namespace NullContract

def hexDigits : (width : Nat) → Nat → List Char
  | 0, _ => []
  | width + 1, n => hexDigits width (n / 16) ++ [Nat.digitChar (n % 16)]

def quoteChar (mark : Char) (c : Char) : List Char :=
  if c = mark || c = '\\' then ['\\', c]
  else if c = '\n' then ['\\', 'n']
  else if c = '\r' then ['\\', 'r']
  else if c = '\t' then ['\\', 't']
  else if isPrintable c then [c]
  else if c.toNat < 0x100 then '\\' :: 'x' :: hexDigits 2 c.toNat
  else if c.toNat < 0x10000 then '\\' :: 'u' :: hexDigits 4 c.toNat
  else '\\' :: 'U' :: hexDigits 8 c.toNat

def quotePoint (mark : Char) : CodePoint → List Char
  | .char c => quoteChar mark c
  | p@(.surrogate _) => '\\' :: 'u' :: hexDigits 4 p.toNat

def quoted (t : Text) : String :=
  let mark := if t.contains (.char '\'') && !t.contains (.char '"') then '"' else '\''
  String.ofList (mark :: t.flatMap (quotePoint mark) ++ [mark])

end NullContract
