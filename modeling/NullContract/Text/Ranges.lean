import NullContract.Text.Split

namespace NullContract

abbrev Ranges := Array (Nat × Nat)

namespace Ranges

def searchWithin (ranges : Ranges) (n : Nat) : (fuel low high : Nat) → Bool
  | 0, _, _ => false
  | fuel + 1, low, high =>
    if low ≥ high then false
    else
      let middle := (low + high) / 2
      match ranges[middle]? with
      | none => false
      | some (first, last) =>
        if n < first then searchWithin ranges n fuel low middle
        else if n > last then searchWithin ranges n fuel (middle + 1) high
        else true

def contains (ranges : Ranges) (c : Char) : Bool :=
  searchWithin ranges c.toNat (ranges.size + 1) 0 ranges.size

def hexDigit? (c : Char) : Option Nat :=
  if '0' ≤ c && c ≤ '9' then some (c.toNat - '0'.toNat)
  else if 'a' ≤ c && c ≤ 'f' then some (c.toNat - 'a'.toNat + 10)
  else if 'A' ≤ c && c ≤ 'F' then some (c.toNat - 'A'.toNat + 10)
  else none

def hexNumber (digits : List Char) : Nat :=
  digits.foldl (fun n c => 16 * n + (hexDigit? c).getD 0) 0

/-- Reads one range, such as `41-5a` or `aa`. -/
def readRange (word : List Char) : Nat × Nat :=
  match pieces '-' word with
  | [first, last] => (hexNumber first, hexNumber last)
  | _ => (hexNumber word, hexNumber word)

def ofText (text : String) : Ranges :=
  let words := pieces ' ' (text.toList.map fun c => if c = '\n' then ' ' else c)
  ((words.filter fun word => !word.isEmpty).map readRange).toArray

end Ranges

end NullContract
