import NullContract.Text.CharName.Abugidas
import NullContract.Text.CharName.Aliases
import NullContract.Text.CharName.Alphabets
import NullContract.Text.CharName.AncientScripts
import NullContract.Text.CharName.BrahmicScripts
import NullContract.Text.CharName.Cuneiform
import NullContract.Text.CharName.EastAsian
import NullContract.Text.CharName.Hieroglyphs
import NullContract.Text.CharName.Mathematics
import NullContract.Text.CharName.Pictographs
import NullContract.Text.CharName.SiblingScripts
import NullContract.Text.CharName.Signs
import NullContract.Text.Ranges

/-!
The names of characters. Most names stand in tables, in the order of the code points. An entry starts with a small
letter that tells how many words it shares with the entry before it (`a` for none), followed by its other words with
`_` between them. A code point that does not follow the one before it stands in front of its entry, in hexadecimal
and after a colon. Blanks do not count. Ideographs and Hangul syllables have names that follow from their code points.
-/

namespace NullContract.CharName

/-- The state of a search in a table: the code point and the words of the entry that is being read, the last word
reversed, the number that is being read instead, and what has been found. -/
structure Search where
  target : List (List Char)
  code : Nat := 0
  words : List (List Char) := []
  word : List Char := []
  number : Option Nat := none
  found : Option Nat := none

namespace Search

def name (s : Search) : List (List Char) :=
  s.words ++ [s.word.reverse]

def close (s : Search) : Search :=
  if s.number.isNone && s.name = s.target then { s with found := some s.code } else s

def start (s : Search) (shared : Nat) : Search :=
  let words := s.name.take shared
  match s.number with
  | some code => { s with code := code, words := words, word := [], number := none }
  | none => { s.close with code := s.code + 1, words := words, word := [] }

def step (s : Search) (c : Char) : Search :=
  if c = ' ' || c = '\n' then s
  else if 'a' ≤ c && c ≤ 'z' then s.start (c.toNat - 'a'.toNat)
  else if c = ':' then { s.close with number := some 0 }
  else
    match s.number with
    | some n => { s with number := some (16 * n + (Ranges.hexDigit? c).getD 0) }
    | none => if c = '_' then { s with words := s.name, word := [] } else { s with word := c :: s.word }

end Search

def findIn (target : List (List Char)) (table : String) : Option Nat :=
  (table.toList.foldl Search.step { target := target }).close.found

def tables : List String :=
  [alphabetsNames, abugidasNames, signsNames, eastAsianNames, ancientScriptsNames, brahmicScriptsNames,
   cuneiformNames, hieroglyphsNames, siblingScriptsNames, mathematicsNames, pictographsNames, aliasNames]

def after? (word : String) (name : List Char) : Option (List Char) :=
  if word.toList.isPrefixOf name then some (name.drop word.length) else none

def isUpperHexDigit (c : Char) : Bool :=
  c.isDigit || ('A' ≤ c && c ≤ 'F')

def withinAny (ranges : List (Nat × Nat)) (n : Nat) : Bool :=
  ranges.any fun (first, last) => first ≤ n && n ≤ last

def unifiedIdeographs : List (Nat × Nat) :=
  [(0x3400, 0x4DBF), (0x4E00, 0x9FFF), (0x20000, 0x2A6DF), (0x2A700, 0x2B738), (0x2B740, 0x2B81D), (0x2B820, 0x2CEA1),
   (0x2CEB0, 0x2EBE0), (0x30000, 0x3134A)]

def unifiedIdeograph? (digits : List Char) : Option Nat := do
  guard ((digits.length = 4 || digits.length = 5) && digits.all isUpperHexDigit)
  let n := Ranges.hexNumber digits
  guard (withinAny unifiedIdeographs n)
  return n

def series : List (String × List (Nat × Nat)) :=
  [("CJK COMPATIBILITY IDEOGRAPH-", [(0xF900, 0xFA6D), (0xFA70, 0xFAD9), (0x2F800, 0x2FA1D)]),
   ("KHITAN SMALL SCRIPT CHARACTER-", [(0x18B00, 0x18CD5)]),
   ("NUSHU CHARACTER-", [(0x1B170, 0x1B2FB)])]

def inSeries? (name : List Char) : Option Nat :=
  series.findSome? fun (lead, ranges) => do
    let digits ← after? lead name
    guard (digits.all isUpperHexDigit)
    let n := Ranges.hexNumber digits
    guard (withinAny ranges n && digits.length = (if n < 0x10000 then 4 else 5))
    return n

def initials : List String :=
  ["G", "GG", "N", "D", "DD", "R", "M", "B", "BB", "S", "SS", "", "J", "JJ", "C", "K", "T", "P", "H"]

def vowels : List String :=
  ["A", "AE", "YA", "YAE", "EO", "E", "YEO", "YE", "O", "WA", "WAE", "OE", "YO", "U", "WEO", "WE", "WI", "YU", "EU",
   "YI", "I"]

def finals : List String :=
  ["", "G", "GG", "GS", "N", "NJ", "NH", "D", "L", "LG", "LM", "LB", "LS", "LT", "LP", "LH", "M", "B", "BS", "S", "SS",
   "NG", "J", "C", "K", "T", "P", "H"]

def longestPart? (parts : List String) (cs : List Char) : Option (Nat × List Char) :=
  let best := parts.zipIdx.foldl (fun best (part, index) =>
    if part.toList.isPrefixOf cs then
      match best with
      | some (longest, _) => if part.length > String.length longest then some (part, index) else best
      | none => some (part, index)
    else best) (none : Option (String × Nat))
  best.map fun (part, index) => (index, cs.drop part.length)

def syllable? (cs : List Char) : Option Nat := do
  let (initial, rest) ← longestPart? initials cs
  let (vowel, rest) ← longestPart? vowels rest
  let (final, rest) ← longestPart? finals rest
  guard rest.isEmpty
  return 0xAC00 + (initial * vowels.length + vowel) * finals.length + final

end NullContract.CharName

namespace NullContract

/-- The character with a name. The case of letters counts only in the names of unified ideographs and of Hangul
syllables. -/
def charNamed? (name : List Char) : Option Char :=
  let code? :=
    match CharName.after? "HANGUL SYLLABLE " name, CharName.after? "CJK UNIFIED IDEOGRAPH-" name with
    | some rest, _ => CharName.syllable? rest
    | none, some rest => CharName.unifiedIdeograph? rest
    | none, none =>
      let upper := name.map Char.toUpper
      if name.isEmpty then none
      else (CharName.inSeries? upper).or (CharName.tables.findSome? (CharName.findIn (pieces ' ' upper)))
  code?.map Char.ofNat

end NullContract
