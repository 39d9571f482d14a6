namespace NullContract

def pieces {α : Type} [DecidableEq α] (sep : α) : List α → List (List α)
  | [] => [[]]
  | x :: xs =>
    if x = sep then [] :: pieces sep xs
    else
      match pieces sep xs with
      | [] => [[x]]
      | piece :: rest => (x :: piece) :: rest

def splitText (sep : Char) (s : String) : List String :=
  (pieces sep s.toList).map String.ofList

end NullContract
