import NullContract.Text.CodePoint

namespace NullContract

/-- White space in the sense of Unicode, with the four information separators. -/
def isBlank (c : Char) : Bool :=
  let n := c.toNat
  (0x09 ≤ n && n ≤ 0x0D) || (0x1C ≤ n && n ≤ 0x20) || n == 0x85 || n == 0xA0 || n == 0x1680 ||
    (0x2000 ≤ n && n ≤ 0x200A) || n == 0x2028 || n == 0x2029 || n == 0x202F || n == 0x205F || n == 0x3000

def CodePoint.isBlank : CodePoint → Bool
  | char c => NullContract.isBlank c
  | surrogate _ => false

def stripBy {α : Type} (blank : α → Bool) (items : List α) : List α :=
  ((items.dropWhile blank).reverse.dropWhile blank).reverse

def Text.strip (t : Text) : Text :=
  stripBy CodePoint.isBlank t

def strip (s : String) : String :=
  String.ofList (stripBy isBlank s.toList)

end NullContract
