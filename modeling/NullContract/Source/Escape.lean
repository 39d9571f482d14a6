import NullContract.Text.CharName
import NullContract.Text.CodePoint
import NullContract.Text.Ranges

namespace NullContract.Source

def hexEscape? (width : Nat) (cs : List Char) : Option (CodePoint × List Char) := do
  let digits := cs.take width
  guard (digits.length = width && digits.all fun c => (Ranges.hexDigit? c).isSome)
  return (← CodePoint.ofNat? (Ranges.hexNumber digits), cs.drop width)

def letterEscape? : Char → Option Char
  | '\\' => some '\\'
  | '\'' => some '\''
  | '"' => some '"'
  | 'a' => some '\x07'
  | 'b' => some '\x08'
  | 'f' => some '\x0c'
  | 'n' => some '\n'
  | 'r' => some '\r'
  | 't' => some '\t'
  | 'v' => some '\x0b'
  | _ => none

def isOctalDigit (c : Char) : Bool :=
  '0' ≤ c && c ≤ '7'

def octalEscape? (bytes : Bool) (c : Char) (rest : List Char) : Option (CodePoint × List Char) := do
  let more := (rest.take 2).takeWhile isOctalDigit
  let n := (c :: more).foldl (fun n d => 8 * n + (d.toNat - '0'.toNat)) 0
  return (← CodePoint.ofNat? (if bytes then n % 256 else n), rest.drop more.length)

def namedEscape? : List Char → Option (CodePoint × List Char)
  | '\x7b' :: rest => do
    let name := rest.takeWhile (· ≠ '\x7d')
    guard (rest.length > name.length)
    return (.char (← charNamed? name), rest.drop (name.length + 1))
  | _ => none

/-- Reads one escape after its backslash: what it stands for and the rest. A backslash that starts no escape
stands for itself. Code points and names are escapes of text, not of bytes. -/
def readEscape (bytes : Bool) : List Char → Option (Text × List Char)
  | [] => some ([.char '\\'], [])
  | '\n' :: rest => some ([], rest)
  | c :: rest =>
    let one := fun (p : CodePoint × List Char) => ([p.1], p.2)
    match letterEscape? c with
    | some d => some ([.char d], rest)
    | none =>
      if isOctalDigit c then (octalEscape? bytes c rest).map one
      else if c = 'x' then (hexEscape? 2 rest).map one
      else if c = 'u' && !bytes then (hexEscape? 4 rest).map one
      else if c = 'U' && !bytes then (hexEscape? 8 rest).map one
      else if c = 'N' && !bytes then (namedEscape? rest).map one
      else some ([.char '\\', .char c], rest)

def unescape (bytes : Bool) : (fuel : Nat) → List Char → Option Text
  | _, [] => some []
  | 0, _ :: _ => none
  | fuel + 1, '\\' :: rest => do
    let (points, rest) ← readEscape bytes rest
    return points ++ (← unescape bytes fuel rest)
  | fuel + 1, c :: rest => do
    return .char c :: (← unescape bytes fuel rest)

def literalText (raw : Bool) (body : List Char) : Option Text :=
  if raw then some (.ofChars body) else unescape false body.length body

def literalBytes (raw : Bool) (body : List Char) : Option (List UInt8) := do
  guard (body.all fun c => c.toNat < 0x80)
  let points ← if raw then some (.ofChars body) else unescape true body.length body
  return points.map fun p => p.toNat.toUInt8

end NullContract.Source
