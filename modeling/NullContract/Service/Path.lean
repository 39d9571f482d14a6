import NullContract.Text.Ranges

namespace NullContract.Service

def pathPart (address : List Char) : List Char :=
  let isEnd := fun (c : Char) => c = '?' || c = '#'
  let rest := match address with
    | '/' :: '/' :: rest => rest.dropWhile fun c => c ≠ '/' && !isEnd c
    | rest => rest
  rest.takeWhile fun c => !isEnd c

def followDots (segments : List (List Char)) : List (List Char) :=
  segments.foldl (fun path segment =>
    if segment = ['.'] then path
    else if segment = ['.', '.'] then if path = [[]] then path else path.dropLast
    else path ++ [segment]) []

/-- Replaces the characters that are written by their codes. Codes beyond ASCII are left, as no path of the service
has such characters. -/
def unquote : List Char → List Char
  | '%' :: a :: b :: rest =>
    let code := Ranges.hexNumber [a, b]
    if (Ranges.hexDigit? a).isSome && (Ranges.hexDigit? b).isSome && code < 0x80 then Char.ofNat code :: unquote rest
    else '%' :: unquote (a :: b :: rest)
  | c :: rest => c :: unquote rest
  | [] => []

/-- The path that a request is for. Codes are replaced on both sides of the connection, and slashes at the end make no
difference. -/
def requestPath (address : String) : String :=
  let path := '/' :: (pathPart address.toList).dropWhile (· = '/')
  let path := (followDots (pieces '/' path)).intersperse ['/'] |>.flatten
  let path := unquote (unquote path)
  let trimmed := (path.reverse.dropWhile (· = '/')).reverse
  if trimmed.isEmpty then "/" else String.ofList trimmed

end NullContract.Service
