import NullContract.Syntax.Stmt

/-!
Lines of a source text. A line ends at a line feed, at a carriage return or at the pair of both; a form
feed does not end a line.
-/

namespace NullContract.Source

def unifyLineEnds : List Char → List Char
  | [] => []
  | '\r' :: '\n' :: rest => '\n' :: unifyLineEnds rest
  | '\r' :: rest => '\n' :: unifyLineEnds rest
  | c :: rest => c :: unifyLineEnds rest

def linesOf : List Char → List (List Char)
  | [] => []
  | '\r' :: '\n' :: rest => ['\r', '\n'] :: linesOf rest
  | '\r' :: rest => ['\r'] :: linesOf rest
  | '\n' :: rest => ['\n'] :: linesOf rest
  | c :: rest =>
    match linesOf rest with
    | [] => [[c]]
    | line :: lines => (c :: line) :: lines

def dropBytes : Nat → List Char → List Char
  | 0, cs => cs
  | _, [] => []
  | n + 1, c :: cs => dropBytes (n + 1 - c.utf8Size) cs

def takeBytes : Nat → List Char → List Char
  | 0, _ => []
  | _, [] => []
  | n + 1, c :: cs => c :: takeBytes (n + 1 - c.utf8Size) cs

def segment (source : String) (span : Span) : String :=
  let lines := linesOf source.toList
  let from_ := span.start.line - 1
  let until_ := span.stop.line - 1
  let first := (lines[from_]?).getD []
  if from_ = until_ then
    String.ofList (takeBytes (span.stop.col - span.start.col) (dropBytes span.start.col first))
  else
    let between := (lines.drop (from_ + 1)).take (until_ - from_ - 1)
    let last := takeBytes span.stop.col ((lines[until_]?).getD [])
    String.ofList (dropBytes span.start.col first ++ between.flatten ++ last)

end NullContract.Source
