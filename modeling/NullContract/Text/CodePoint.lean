/-!
Texts as string literals hold them. A literal can name a surrogate, which is a code point and no character, so
a text is a sequence of code points and not always a string.
-/

namespace NullContract

/-- A code point: a character, or one of the surrogates `U+D800` to `U+DFFF`, counted from zero. -/
inductive CodePoint where
  | char (c : Char)
  | surrogate (index : Fin 0x800)
deriving DecidableEq, Inhabited

namespace CodePoint

def toNat : CodePoint → Nat
  | char c => c.toNat
  | surrogate index => 0xD800 + index

def ofNat? (n : Nat) : Option CodePoint :=
  if h : 0xD800 ≤ n ∧ n < 0xE000 then some (surrogate ⟨n - 0xD800, by omega⟩)
  else if n < 0x110000 then some (char (Char.ofNat n))
  else none

def char? : CodePoint → Option Char
  | char c => some c
  | surrogate _ => none

end CodePoint

abbrev Text := List CodePoint

namespace Text

def ofChars (cs : List Char) : Text :=
  cs.map .char

def ofString (s : String) : Text :=
  ofChars s.toList

instance : Coe String Text := ⟨ofString⟩

def chars? (t : Text) : Option (List Char) :=
  t.mapM CodePoint.char?

def toString? (t : Text) : Option String :=
  t.chars?.map String.ofList

def intercalate (between : Text) (texts : List Text) : Text :=
  (texts.intersperse between).flatten

end Text

end NullContract
