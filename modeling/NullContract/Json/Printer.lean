import NullContract.Decimal.Double
import NullContract.Json.Basic
import NullContract.Text.Quoted

namespace NullContract.Json

def unitEscape (n : Nat) : List Char :=
  '\\' :: 'u' :: hexDigits 4 n

def escapeChar (c : Char) : List Char :=
  if c = '"' || c = '\\' then ['\\', c]
  else if c = '\n' then ['\\', 'n']
  else if c = '\r' then ['\\', 'r']
  else if c = '\t' then ['\\', 't']
  else if c = '\x08' then ['\\', 'b']
  else if c = '\x0c' then ['\\', 'f']
  else if 0x20 ≤ c.toNat && c.toNat < 0x7F then [c]
  else if c.toNat < 0x10000 then unitEscape c.toNat
  else
    let n := c.toNat - 0x10000
    unitEscape (0xD800 + n / 0x400) ++ unitEscape (0xDC00 + n % 0x400)

def escapePoint : CodePoint → List Char
  | .char c => escapeChar c
  | p@(.surrogate _) => unitEscape p.toNat

def renderStr (t : Text) : String :=
  String.ofList ('"' :: t.flatMap escapePoint ++ ['"'])

def lead (indent : Option String) (depth : Nat) : String :=
  match indent with
  | none => ""
  | some margin => "\n" ++ String.join (List.replicate depth margin)

def enclose (indent : Option String) (depth : Nat) (opening closing : String) (items : List String) : String :=
  if items.isEmpty then opening ++ closing
  else
    let comma := if indent.isSome then "," else ", "
    opening ++ comma.intercalate (items.map (lead indent (depth + 1) ++ ·)) ++ lead indent depth ++ closing

mutual
def renderAt (indent : Option String) (depth : Nat) : Json → String
  | null => "null"
  | bool true => "true"
  | bool false => "false"
  | int n => toString n
  | decimal text => text
  | str s => renderStr s
  | arr items => enclose indent depth "[" "]" (renderItems indent (depth + 1) items)
  | obj fields => enclose indent depth "\x7b" "\x7d" (renderFields indent (depth + 1) fields)

def renderItems (indent : Option String) (depth : Nat) : List Json → List String
  | [] => []
  | item :: rest => renderAt indent depth item :: renderItems indent depth rest

def renderFields (indent : Option String) (depth : Nat) : List (Text × Json) → List String
  | [] => []
  | (name, value) :: rest =>
    (renderStr name ++ ": " ++ renderAt indent depth value) :: renderFields indent depth rest
end

def render (indent : Option String) (value : Json) : String :=
  renderAt indent 0 value

def blanks (width : Nat) : String :=
  String.ofList (List.replicate width ' ')

def ofDouble (x : Double) : Json :=
  decimal (x.textWith "Infinity" "NaN")

end NullContract.Json
