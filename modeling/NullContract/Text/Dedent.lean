import NullContract.Text.Split

namespace NullContract

def isIndentChar (c : Char) : Bool :=
  c = ' ' || c = '\t'

def commonStart : List Char → List Char → List Char
  | a :: as, b :: bs => if a = b then a :: commonStart as bs else []
  | _, _ => []

def margin (lines : List (List Char)) : List Char :=
  match (lines.filter fun line => !line.isEmpty).map (·.takeWhile isIndentChar) with
  | [] => []
  | first :: rest => rest.foldl commonStart first

def dedent (text : List Char) : List Char :=
  let lines := (pieces '\n' text).map fun line => if line.all isIndentChar then [] else line
  ['\n'].intercalate (lines.map (·.drop (margin lines).length))

end NullContract
