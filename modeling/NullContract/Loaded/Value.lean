import NullContract.Json.Printer
import NullContract.Syntax.Hint
import NullContract.Syntax.Stmt

/-!
The values that the names of a loaded module have, as far as the arguments of contracts can depend on them. What
cannot be told without running the functions of the module is `unknown`.
-/

namespace NullContract.Loaded

inductive Fault where
  | source (error : SourceError)
  | unboundName
  | unboundLocal
  | wrongType
  | wrongValue
  | noMember
  | noModule
  | noImport
  | noIndex
  | noKey
  | divisionByZero
  | overflow
  | failedAssertion
  | tooDeep
  | unfinished
  | raised (name : String)
deriving DecidableEq

/-- A value. The package of the decorator has a module of its own that holds the decorator; a call of the decorator
gives a marker, which marks the function it is applied to. Functions are known by their number, so that a mark shows
under every name of a function. -/
inductive Value where
  | null
  | bool (value : Bool)
  | int (value : Int)
  | float (value : Double)
  | text (value : Text)
  | bytes (value : List UInt8)
  | list (items : List Value)
  | tuple (items : List Value)
  | dict (entries : List (Value × Value))
  | generated (items : List Value)
  | package
  | packageModule
  | decorator
  | marker (contract pure : Value)
  | function (index : Nat)
  | classObject (members : List (String × Value))
  | staticMethod (function : Value)
  | builtin (name : String)
  | method (receiver : Value) (name : String)
  | unknown
deriving Inhabited

inductive Number where
  | int (value : Int)
  | float (value : Double)

namespace Number

def toDouble : Number → Double
  | int n => .ofInt n
  | float x => x

def compare? : Number → Number → Option Ordering
  | int n, int m => some (compare n m)
  | int n, float y => Double.compareInt? n y
  | float x, int m => (Double.compareInt? m x).map Ordering.swap
  | float x, float y => x.compare? y

end Number

namespace Value

def ofLiteral : Literal → Value
  | .none => null
  | .bool b => bool b
  | .int n => int n
  | .float x => float x
  | .imaginary _ => unknown
  | .text t => text t
  | .bytes b => bytes b
  | .ellipsis => unknown

def ofString (s : String) : Value :=
  text (.ofString s)

def number? : Value → Option Number
  | bool b => some (.int (if b then 1 else 0))
  | int n => some (.int n)
  | float x => some (.float x)
  | _ => none

def truthy : Value → Bool
  | null => false
  | bool b => b
  | int n => n ≠ 0
  | float x => !x.isZero
  | text t => !t.isEmpty
  | bytes b => !b.isEmpty
  | list items => !items.isEmpty
  | tuple items => !items.isEmpty
  | dict entries => !entries.isEmpty
  | _ => true

def isExtensible : Value → Bool
  | classObject _ | builtin _ | unknown => true
  | _ => false

def isUnknown : Value → Bool
  | unknown => true
  | _ => false

mutual
def equal? : Value → Value → Option Bool
  | unknown, _ => none
  | _, unknown => none
  | text t, text u => some (t = u)
  | bytes a, bytes b => some (a = b)
  | null, null => some true
  | list a, list b => equalItems? a b
  | tuple a, tuple b => equalItems? a b
  | dict a, dict b => if a.length = b.length then equalEntries? a b else some false
  | function i, function j => some (i = j)
  | builtin a, builtin b => some (a = b)
  | a, b =>
    match a.number?, b.number? with
    | some n, some m => some (n.compare? m = some .eq)
    | _, _ => some false

def equalItems? : List Value → List Value → Option Bool
  | [], [] => some true
  | a :: as, b :: bs => do if ← equal? a b then equalItems? as bs else return false
  | _, _ => some false

def equalEntries? : List (Value × Value) → List (Value × Value) → Option Bool
  | [], _ => some true
  | (k, v) :: rest, others => do
    if ← entryIn? k v others then equalEntries? rest others else return false

def entryIn? (k v : Value) : List (Value × Value) → Option Bool
  | [] => some false
  | (l, w) :: rest => do
    if ← equal? k l then equal? v w else entryIn? k v rest
end

def lookup? (key : Value) : List (Value × Value) → Option Value
  | [] => none
  | (k, v) :: rest => if equal? key k = some true then some v else lookup? key rest

def insertEntry (key value : Value) : List (Value × Value) → List (Value × Value)
  | [] => [(key, value)]
  | (k, v) :: rest => if equal? key k = some true then (k, value) :: rest else (k, v) :: insertEntry key value rest

mutual
def shown? : Value → Option String
  | null => some "None"
  | bool true => some "True"
  | bool false => some "False"
  | int n => some (toString n)
  | float x => some x.text
  | text t => some (quoted t)
  | list items => do return "[" ++ ", ".intercalate (← shownItems? items) ++ "]"
  | tuple items => do
    let shown ← shownItems? items
    return "(" ++ ", ".intercalate shown ++ (if shown.length = 1 then ",)" else ")")
  | dict entries => do return "\x7b" ++ ", ".intercalate (← shownEntries? entries) ++ "\x7d"
  | _ => none

def shownItems? : List Value → Option (List String)
  | [] => some []
  | item :: rest => do return (← item.shown?) :: (← shownItems? rest)

def shownEntries? : List (Value × Value) → Option (List String)
  | [] => some []
  | (k, v) :: rest => do return ((← k.shown?) ++ ": " ++ (← v.shown?)) :: (← shownEntries? rest)
end

def text? : Value → Option Text
  | text t => some t
  | value => value.shown?.map Text.ofString

def jsonKey : Value → Text
  | text t => t
  | null => "null"
  | bool true => "true"
  | bool false => "false"
  | value => value.shown?.getD ""

mutual
def toJson : Value → Json
  | bool b => .bool b
  | int n => .int n
  | float x => .ofDouble x
  | text t => .str t
  | list items => .arr (itemsJson items)
  | tuple items => .arr (itemsJson items)
  | dict entries => .obj (entriesJson entries)
  | _ => .null

def itemsJson : List Value → List Json
  | [] => []
  | item :: rest => item.toJson :: itemsJson rest

def entriesJson : List (Value × Value) → List (Text × Json)
  | [] => []
  | (k, v) :: rest => (k.jsonKey, v.toJson) :: entriesJson rest
end

end Value

end NullContract.Loaded
