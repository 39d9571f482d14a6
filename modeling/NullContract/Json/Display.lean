import NullContract.Decimal.Reading
import NullContract.Json.Basic
import NullContract.Text.Quoted

namespace NullContract.Json

def displayDecimal (text : String) : String :=
  ((Double.ofText? text).map Double.text).getD text

mutual
def displayNested : Json → String
  | null => "None"
  | bool true => "True"
  | bool false => "False"
  | int n => toString n
  | decimal text => displayDecimal text
  | str s => quoted s
  | arr items => "[" ++ ", ".intercalate (displayItems items) ++ "]"
  | obj fields => "\x7b" ++ ", ".intercalate (displayFields fields) ++ "\x7d"

def displayItems : List Json → List String
  | [] => []
  | item :: rest => displayNested item :: displayItems rest

def displayFields : List (Text × Json) → List String
  | [] => []
  | (name, value) :: rest => (quoted name ++ ": " ++ displayNested value) :: displayFields rest
end

def display : Json → Text
  | str s => s
  | value => displayNested value

def truthy : Json → Bool
  | null => false
  | bool b => b
  | int n => n ≠ 0
  | decimal text => ((Double.ofText? text).map fun x => !x.isZero).getD true
  | str s => !s.isEmpty
  | arr items => !items.isEmpty
  | obj fields => !fields.isEmpty

end NullContract.Json
