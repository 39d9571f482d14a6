import NullContract.Text.Ranges

namespace NullContract.Normal

structure Row where
  first : Nat
  last : Nat
  value : List Nat

abbrev Table := Array Row

namespace Table

def searchWithin (table : Table) (n : Nat) : (fuel low high : Nat) → Option Row
  | 0, _, _ => none
  | fuel + 1, low, high =>
    if low ≥ high then none
    else
      let middle := (low + high) / 2
      match table[middle]? with
      | none => none
      | some row =>
        if n < row.first then searchWithin table n fuel low middle
        else if n > row.last then searchWithin table n fuel (middle + 1) high
        else some row

def find? (table : Table) (n : Nat) : Option Row :=
  searchWithin table n (table.size + 1) 0 table.size

/-- Reads one row, such as `41-5a:61` or `fb01:66.69`. -/
def readRow (word : List Char) : Row :=
  let value := ((pieces ':' word)[1]?).getD []
  let (first, last) := Ranges.readRange ((pieces ':' word).headD [])
  ⟨first, last, (pieces '.' value).map Ranges.hexNumber⟩

def ofText (text : String) : Table :=
  let words := pieces ' ' (text.toList.map fun c => if c = '\n' then ' ' else c)
  ((words.filter fun word => !word.isEmpty).map readRow).toArray

end Table

end NullContract.Normal
