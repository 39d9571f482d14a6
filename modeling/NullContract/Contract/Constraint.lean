import NullContract.Nullness
import NullContract.Text.CodePoint

namespace NullContract

inductive Constraint where
  | any
  | null
  | nonNull
  | isTrue
  | isFalse
deriving DecidableEq

namespace Constraint

def text : Constraint → String
  | any => "_"
  | null => "null"
  | nonNull => "!null"
  | isTrue => "true"
  | isFalse => "false"

def ofText? (word : Text) : Option Constraint :=
  [any, null, nonNull, isTrue, isFalse].find? fun constraint => Text.ofString constraint.text = word

def checkable : Constraint → Bool
  | any | null | nonNull => true
  | isTrue | isFalse => false

def assumption? : Constraint → Option Nullness
  | null => some .null
  | nonNull => some .nonNull
  | any | isTrue | isFalse => none

end Constraint

end NullContract
