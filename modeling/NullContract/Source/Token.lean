import NullContract.Source.Number
import NullContract.Syntax.Stmt
import NullContract.Text.Identifier
import NullContract.Text.Normal.Form

/-!
Tokens of a source text, with the indentation of lines as tokens of its own. Inside brackets line ends and
indentation do not count.
-/

namespace NullContract.Source

structure Quotation where
  bytes : Bool := false
  raw : Bool := false
  formatted : Bool := false
  body : List Char := []

/-- What a token is. A word is `plain` if the text spells it as it is, which words that are keywords in some places
have to be. -/
inductive TokenKind where
  | word (id : String) (plain : Bool)
  | keyword (id : String)
  | number (value : Number)
  | quotation (value : Quotation)
  | op (symbol : String)
  | lineEnd
  | indent
  | dedent
  | textEnd

structure Token where
  kind : TokenKind
  start : Position
  stop : Position

def keywords : List String :=
  ["False", "None", "True", "and", "as", "assert", "async", "await", "break", "class", "continue", "def",
   "del", "elif", "else", "except", "finally", "for", "from", "global", "if", "import", "in", "is",
   "lambda", "nonlocal", "not", "or", "pass", "raise", "return", "try", "while", "with", "yield"]

def symbols : List (List Char) :=
  ["**=", "//=", ">>=", "<<=", "...",
   "!=", "%=", "&=", "**", "*=", "+=", "-=", "->", "//", "/=", ":=", "<<", "<=", "==", ">=", ">>", "@=",
   "^=", "|=",
   "(", ")", "[", "]", "\x7b", "\x7d", ",", ":", ".", ";", "@", "=", "+", "-", "*", "/", "%", "&", "|", "^",
   "~", "<", ">"].map String.toList

def advance (p : Position) (cs : List Char) : Position :=
  cs.foldl (fun p c => if c = '\n' then ⟨p.line + 1, 0⟩ else ⟨p.line, p.col + c.utf8Size⟩) p

def readMarks (count : Nat) : Quotation → List Char → Option (Quotation × Nat × List Char)
  | q, c :: rest =>
    if c = '\'' || c = '"' then some (q, count, c :: rest)
    else
      let fresh := !q.bytes && !q.formatted
      match c.toLower with
      | 'b' => if fresh then readMarks (count + 1) { q with bytes := true } rest else none
      | 'f' => if fresh then readMarks (count + 1) { q with formatted := true } rest else none
      | 'r' => if !q.raw then readMarks (count + 1) { q with raw := true } rest else none
      | 'u' =>
        match rest with
        | d :: _ => if fresh && !q.raw && (d = '\'' || d = '"') then some (q, count + 1, rest) else none
        | [] => none
      | _ => none
  | _, [] => none

def readBody (quote : Char) (long : Bool) : List Char → Option (List Char)
  | [] => none
  | '\\' :: c :: rest => (readBody quote long rest).map fun body => '\\' :: c :: body
  | c :: rest =>
    if c = quote && (!long || rest.take 2 = [quote, quote]) then some []
    else if c = '\n' && !long then none
    else (readBody quote long rest).map fun body => c :: body

/-- Reads the string literal at the head of the text, if there is one, with its length. The inner result is
missing if the literal has no end. -/
def readQuotation? (cs : List Char) : Option (Option (Quotation × Nat)) := do
  let (marks, count, rest) ← readMarks 0 {} cs
  match rest with
  | quote :: rest =>
    let long := rest.take 2 = [quote, quote]
    let size := if long then 3 else 1
    return (readBody quote long (rest.drop (size - 1))).map fun body =>
      ({ marks with body := body }, count + 2 * size + body.length)
  | [] => none

/-- Reads a name or keyword, with its length. Characters beyond ASCII must form an identifier, and names that
have one normal form are the same name. -/
def readWord (cs : List Char) : Option (TokenKind × Nat) :=
  let word := cs.takeWhile continuesName
  let id := String.ofList word
  if keywords.contains id then some (.keyword id, word.length)
  else if (word.head?.map isIdentifierStart).getD false && word.all isIdentifierPart then
    let normal := Normal.normalForm word
    some (.word (String.ofList normal) (normal = word), word.length)
  else none

def readToken? (cs : List Char) : Option (TokenKind × Nat) :=
  match readQuotation? cs with
  | some result => result.map fun (q, length) => (.quotation q, length)
  | none =>
    match cs with
    | [] => none
    | c :: rest =>
      if c.isDigit || (c = '.' && (rest.head?.map Char.isDigit).getD false) then
        let window := cs.takeWhile fun c => continuesName c || c = '.' || c = '+' || c = '-'
        (readNumber window).map fun (n, rest) => (.number n, window.length - rest.length)
      else if continuesName c then readWord cs
      else
        (symbols.find? (·.isPrefixOf cs)).map fun symbol => (.op (String.ofList symbol), symbol.length)

/-- How far a line is indented: the column with tabs of eight, the column with tabs of one, and the column
of the first backslash that continues the blank start of the line. -/
structure Indentation where
  col : Nat := 0
  alt : Nat := 0
  continued : Nat := 0

def measure (i : Indentation) (p : Position) : List Char → Option (Indentation × Position × List Char)
  | ' ' :: rest => measure { i with col := i.col + 1, alt := i.alt + 1 } ⟨p.line, p.col + 1⟩ rest
  | '\t' :: rest =>
    measure { i with col := (i.col / 8 + 1) * 8, alt := i.alt + 1 } ⟨p.line, p.col + 1⟩ rest
  | '\x0c' :: rest => measure { i with col := 0, alt := 0 } ⟨p.line, p.col + 1⟩ rest
  | '\\' :: '\n' :: c :: rest =>
    measure { i with continued := if i.continued = 0 then i.col else i.continued } ⟨p.line + 1, 0⟩ (c :: rest)
  | '\\' :: _ => none
  | rest => some (i, p, rest)

def maxIndents : Nat := 100

def maxBrackets : Nat := 200

/-- The levels of indentation after a line, innermost first, with the number of levels that it closes, or
`none` in the second part if it opens one. Columns have to agree for both widths of tabs. -/
def adjust (col alt : Nat) : (levels : List (Nat × Nat)) → (closed : Nat) → Option (List (Nat × Nat) × Option Nat)
  | [], _ => none
  | (top, altTop) :: below, closed =>
    if col = top then if alt = altTop then some ((top, altTop) :: below, some closed) else none
    else if col > top then
      if closed = 0 && below.length + 2 ≤ maxIndents && alt > altTop then
        some ((col, alt) :: (top, altTop) :: below, none)
      else none
    else adjust col alt below (closed + 1)

structure LexState where
  levels : List (Nat × Nat) := [(0, 0)]
  brackets : List String := []
  atLineStart : Bool := true

def LexState.track (s : LexState) (symbol : String) : Option LexState :=
  if symbol = "(" || symbol = "[" || symbol = "\x7b" then
    if s.brackets.length ≥ maxBrackets then none else some { s with brackets := symbol :: s.brackets }
  else if symbol = ")" || symbol = "]" || symbol = "\x7d" then
    match s.brackets with
    | opening :: rest =>
      if [opening, symbol] = ["(", ")"] || [opening, symbol] = ["[", "]"] || [opening, symbol] = ["\x7b", "\x7d"]
      then some { s with brackets := rest }
      else none
    | [] => none
  else some s

def layout (p : Position) : Option Nat → List Token
  | none => [⟨.indent, p, p⟩]
  | some closed => List.replicate closed ⟨.dedent, p, p⟩

/-- Reads all tokens, newest first. Every step but those at the start of a line reads a character. -/
def lex : (fuel : Nat) → LexState → Position → List Char → List Token → Option (List Token)
  | 0, _, _, _, _ => none
  | fuel + 1, s, p, cs, acc =>
    if s.atLineStart && s.brackets.isEmpty then do
      let (i, p, rest) ← measure {} p cs
      match rest with
      | '#' :: _ =>
        let after := rest.dropWhile (· ≠ '\n')
        match after with
        | '\n' :: after => lex fuel s ⟨p.line + 1, 0⟩ after acc
        | _ => lex fuel { s with atLineStart := false } p [] acc
      | '\n' :: after => lex fuel s ⟨p.line + 1, 0⟩ after acc
      | _ =>
        let col := if i.continued = 0 then i.col else i.continued
        let alt := if i.continued = 0 then i.alt else i.continued
        let (levels, change) ← adjust col alt s.levels 0
        lex fuel { s with levels := levels, atLineStart := false } p rest (layout p change ++ acc)
    else
      match cs with
      | [] => if s.brackets.isEmpty then some (⟨.textEnd, p, p⟩ :: acc) else none
      | ' ' :: rest | '\t' :: rest | '\x0c' :: rest => lex fuel s ⟨p.line, p.col + 1⟩ rest acc
      | '#' :: _ =>
        let (comment, rest) := cs.span (· ≠ '\n')
        lex fuel s (advance p comment) rest acc
      | '\n' :: rest =>
        let next : Position := ⟨p.line + 1, 0⟩
        if s.brackets.isEmpty then
          lex fuel { s with atLineStart := true } next rest (⟨.lineEnd, p, ⟨p.line, p.col + 1⟩⟩ :: acc)
        else lex fuel s next rest acc
      | '\\' :: rest =>
        match rest with
        | '\n' :: c :: rest => lex fuel s ⟨p.line + 1, 0⟩ (c :: rest) acc
        | _ => none
      | _ => do
        let (kind, length) ← readToken? cs
        let stop := advance p (cs.take length)
        let s ← match kind with
          | .op symbol => s.track symbol
          | _ => some s
        lex fuel s stop (cs.drop length) (⟨kind, p, stop⟩ :: acc)

def tokens (firstLine : Nat) (cs : List Char) : Option (List Token) :=
  (lex (2 * cs.length + 4) {} ⟨firstLine, 0⟩ cs []).map List.reverse

end NullContract.Source
