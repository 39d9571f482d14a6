import NullContract.Text.CodePoint

/-!
JSON values. Objects keep the order of their fields. Strings are sequences of code points, as an escape may name a
surrogate that has no partner.
-/

namespace NullContract

/-- A JSON value. A number that is not an integer is kept as it is written. -/
inductive Json where
  | null
  | bool (value : Bool)
  | int (value : Int)
  | decimal (text : String)
  | str (value : Text)
  | arr (items : List Json)
  | obj (fields : List (Text × Json))
deriving Inhabited

namespace Json

def field? (name : Text) : Json → Option Json
  | obj fields => fields.reverse.lookup name
  | _ => none

def items : Option Json → List Json
  | some (arr items) => items
  | _ => []

def isTrue : Option Json → Bool
  | some (bool value) => value
  | _ => false

def isText (text : Text) : Option Json → Bool
  | some (str value) => value = text
  | _ => false

mutual
def encodable : Json → Bool
  | str t => t.toString?.isSome
  | arr items => encodableItems items
  | obj fields => encodableFields fields
  | _ => true

def encodableItems : List Json → Bool
  | [] => true
  | item :: rest => item.encodable && encodableItems rest

def encodableFields : List (Text × Json) → Bool
  | [] => true
  | (name, value) :: rest => name.toString?.isSome && value.encodable && encodableFields rest
end

def ofText? : Option Text → Json
  | some t => str t
  | none => null

def ofStr? (s : Option String) : Json :=
  ofText? (s.map Text.ofString)

def ofNat (n : Nat) : Json :=
  int n

def strs (l : List Text) : Json :=
  arr (l.map str)

end Json

end NullContract
