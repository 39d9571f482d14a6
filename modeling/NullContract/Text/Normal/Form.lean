import NullContract.Text.Normal.Combining
import NullContract.Text.Normal.Composition
import NullContract.Text.Normal.Decomposition

/-!
Normal form of names: characters that are variants of one another become the same, and a letter and its marks
become one character where there is one (the form NFKC).
-/

namespace NullContract.Normal

def leadBase : Nat := 0x1100
def vowelBase : Nat := 0x1161
def trailBase : Nat := 0x11A7
def syllableBase : Nat := 0xAC00
def leadCount : Nat := 19
def vowelCount : Nat := 21
def trailCount : Nat := 28

def syllableParts? (n : Nat) : Option (List Nat) :=
  let index := n - syllableBase
  if n < syllableBase || index ≥ leadCount * vowelCount * trailCount then none
  else
    let lead := leadBase + index / (vowelCount * trailCount)
    let vowel := vowelBase + index / trailCount % vowelCount
    let trail := index % trailCount
    some (if trail = 0 then [lead, vowel] else [lead, vowel, trailBase + trail])

def syllable? (a b : Nat) : Option Nat :=
  if leadBase ≤ a && a < leadBase + leadCount && vowelBase ≤ b && b < vowelBase + vowelCount then
    some (syllableBase + ((a - leadBase) * vowelCount + (b - vowelBase)) * trailCount)
  else if syllableBase ≤ a && a < syllableBase + leadCount * vowelCount * trailCount &&
      (a - syllableBase) % trailCount = 0 && trailBase < b && b < trailBase + trailCount then
    some (a + (b - trailBase))
  else none

def decomposeChar (c : Char) : List Char :=
  if c.toNat < 0x80 then [c]
  else
    match syllableParts? c.toNat with
    | some parts => parts.map Char.ofNat
    | none =>
      match decompositions.find? c.toNat with
      | some row =>
        match row.value with
        | [n] => [Char.ofNat (n + (c.toNat - row.first))]
        | list => list.map Char.ofNat
      | none => [c]

def insertMark (c : Char) : List Char → List Char
  | [] => [c]
  | d :: rest =>
    if combiningClass c < combiningClass d then c :: d :: rest else d :: insertMark c rest

def orderMarks (marks : List Char) : List Char → List Char
  | [] => marks
  | c :: rest =>
    if combiningClass c = 0 then marks ++ c :: orderMarks [] rest else orderMarks (insertMark c marks) rest

def composite? (first second : Char) : Option Char :=
  match syllable? first.toNat second.toNat with
  | some n => some (Char.ofNat n)
  | none => listedComposite? first second

/-- Composes a letter with what follows it. `kept` are the marks that did not compose, the last one first; a
mark behind one of the same or a higher class does not compose. -/
def composeFrom (letter : Char) (kept : List Char) : List Char → List Char
  | [] => letter :: kept.reverse
  | c :: rest =>
    let blocked := match kept with
      | [] => false
      | last :: _ => combiningClass last ≥ combiningClass c
    match if blocked then none else composite? letter c with
    | some composed => composeFrom composed kept rest
    | none =>
      if combiningClass c = 0 then letter :: kept.reverse ++ composeFrom c [] rest
      else composeFrom letter (c :: kept) rest

def compose : List Char → List Char
  | [] => []
  | c :: rest => if combiningClass c = 0 then composeFrom c [] rest else c :: compose rest

def normalForm (cs : List Char) : List Char :=
  if cs.all fun c => c.toNat < 0x80 then cs else compose (orderMarks [] (cs.flatMap decomposeChar))

end NullContract.Normal
