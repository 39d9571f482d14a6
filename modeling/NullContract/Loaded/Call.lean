import NullContract.Decimal.Reading
import NullContract.Loaded.Operator
import NullContract.Text.Blank

/-!
Calls of builtin functions and of the methods of texts. What is not told here has an unknown result.
-/

namespace NullContract.Loaded

/-- The arguments of a call. They are not `complete` if some of them cannot be told. -/
structure Arguments where
  positional : List Value := []
  named : List (String × Value) := []
  complete : Bool := true

def builtinNames : List String :=
  ["abs", "aiter", "all", "anext", "any", "ascii", "bin", "bool", "breakpoint", "bytearray", "bytes", "callable", "chr",
   "classmethod", "compile", "complex", "copyright", "credits", "delattr", "dict", "dir", "divmod", "enumerate", "eval",
   "exec", "exit", "filter", "float", "format", "frozenset", "getattr", "globals", "hasattr", "hash", "help", "hex",
   "id", "input", "int", "isinstance", "issubclass", "iter", "len", "license", "list", "locals", "map", "max",
   "memoryview", "min", "next", "object", "oct", "open", "ord", "pow", "print", "property", "quit", "range", "repr",
   "reversed", "round", "set", "setattr", "slice", "sorted", "staticmethod", "str", "sum", "super", "tuple", "type",
   "vars", "zip", "Ellipsis", "NotImplemented",
   "ArithmeticError", "AssertionError", "AttributeError", "BaseException", "BaseExceptionGroup", "BlockingIOError",
   "BrokenPipeError", "BufferError", "BytesWarning", "ChildProcessError", "ConnectionAbortedError", "ConnectionError",
   "ConnectionRefusedError", "ConnectionResetError", "DeprecationWarning", "EOFError", "EncodingWarning",
   "EnvironmentError", "Exception", "ExceptionGroup", "FileExistsError", "FileNotFoundError", "FloatingPointError",
   "FutureWarning", "GeneratorExit", "IOError", "ImportError", "ImportWarning", "IndentationError", "IndexError",
   "InterruptedError", "IsADirectoryError", "KeyError", "KeyboardInterrupt", "LookupError", "MemoryError",
   "ModuleNotFoundError", "NameError", "NotADirectoryError", "NotImplementedError", "OSError", "OverflowError",
   "PendingDeprecationWarning", "PermissionError", "ProcessLookupError", "RecursionError", "ReferenceError",
   "ResourceWarning", "RuntimeError", "RuntimeWarning", "StopAsyncIteration", "StopIteration", "SyntaxError",
   "SyntaxWarning", "SystemError", "SystemExit", "TabError", "TimeoutError", "TypeError", "UnboundLocalError",
   "UnicodeDecodeError", "UnicodeEncodeError", "UnicodeError", "UnicodeTranslateError", "UnicodeWarning", "UserWarning",
   "ValueError", "Warning", "ZeroDivisionError"]

def moduleNames : List String :=
  ["__builtins__", "__build_class__", "__cached__", "__debug__", "__doc__", "__file__", "__import__", "__loader__",
   "__package__", "__spec__", "__annotations__"]

def stripStart (dropped : CodePoint → Bool) (t : Text) : Text :=
  t.dropWhile dropped

def stripEnd (dropped : CodePoint → Bool) (t : Text) : Text :=
  (t.reverse.dropWhile dropped).reverse

def replaceAll (part replacement : Text) : (fuel : Nat) → Text → Text
  | 0, t => t
  | _, [] => []
  | fuel + 1, p :: rest =>
    if part.isPrefixOf (p :: rest) then replacement ++ replaceAll part replacement fuel ((p :: rest).drop part.length)
    else p :: replaceAll part replacement fuel rest

def splitAll (part : Text) : (fuel : Nat) → (before : Text) → Text → List Text
  | 0, before, t => [before.reverse ++ t]
  | _, before, [] => [before.reverse]
  | fuel + 1, before, p :: rest =>
    if part.isPrefixOf (p :: rest) then before.reverse :: splitAll part fuel [] ((p :: rest).drop part.length)
    else splitAll part fuel (p :: before) rest

def place? (part : Text) : Text → Option Nat
  | [] => if part.isEmpty then some 0 else none
  | p :: rest => if part.isPrefixOf (p :: rest) then some 0 else (place? part rest).map (· + 1)

def splitBlanks (t : Text) : List Text :=
  let (current, parts) := t.foldr (fun p (current, parts) =>
    if p.isBlank then if current.isEmpty then ([], parts) else ([], current :: parts)
    else (p :: current, parts)) (([] : Text), ([] : List Text))
  if current.isEmpty then parts else current :: parts

def isAsciiPoint (p : CodePoint) : Bool :=
  p.toNat < 0x80

def mapChars (f : Char → Char) (t : Text) : Text :=
  t.map fun
    | .char c => .char (f c)
    | p => p

def readPlace? (place : List Char) : Option (List Char × Bool) :=
  match place.span (· ≠ '!') with
  | (name, []) => some (name, false)
  | (name, ['!', 'r']) => some (name, true)
  | (name, ['!', 's']) => some (name, false)
  | _ => none

def placeValue (args : Arguments) (auto : Nat) (name : List Char) : Except Fault Value :=
  let byIndex := fun (index : Nat) =>
    match args.positional[index]? with
    | some value => Except.ok value
    | none => .error .noIndex
  if name.isEmpty then byIndex auto
  else if name.all Char.isDigit then byIndex (name.foldl (fun n c => 10 * n + (c.toNat - '0'.toNat)) 0)
  else if name.any fun c => c = '.' || c = '[' then .ok .unknown
  else
    match args.named.lookup (String.ofList name) with
    | some value => .ok value
    | none => .error .noKey

def fillBraces (args : Arguments) : (fuel auto : Nat) → Text → Except Fault Value
  | 0, _, _ => .ok .unknown
  | _, _, [] => .ok (.text [])
  | fuel + 1, auto, p :: rest =>
    let put := fun (t : Text) (auto : Nat) (rest : Text) => do
      match ← fillBraces args fuel auto rest with
      | .text u => .ok (.text (t ++ u))
      | other => .ok other
    if p = .char '\x7b' then
      if rest.head? = some p then put [p] auto (rest.drop 1)
      else
        let place := rest.takeWhile (· ≠ .char '\x7d')
        if place.length = rest.length then .error .wrongValue
        else
          match (Text.chars? place).bind readPlace? with
          | some (name, asQuoted) => do
            if name.contains ':' || name.contains '\x7b' then return .unknown
            let value ← placeValue args auto name
            match if asQuoted then value.shown?.map Text.ofString else value.text? with
            | some t => put t (if name.isEmpty then auto + 1 else auto) (rest.drop (place.length + 1))
            | none => return .unknown
          | none => .ok .unknown
    else if p = .char '\x7d' then
      if rest.head? = some p then put [p] auto (rest.drop 1) else .error .wrongValue
    else put [p] auto rest

def textsOf? (items : List Value) : Option (List Text) :=
  items.mapM fun
    | .text t => some t
    | _ => none

def textMethod (t : Text) (name : String) (args : Arguments) : Except Fault Value :=
  match name, args.positional with
  | "join", [items] => do
    match ← items.items? with
    | some items =>
      if items.any Value.isUnknown then return .unknown
      match textsOf? items with
      | some texts => return .text (Text.intercalate t texts)
      | none => throw .wrongType
    | none => return .unknown
  | "strip", [] => .ok (.text t.strip)
  | "lstrip", [] => .ok (.text (stripStart CodePoint.isBlank t))
  | "rstrip", [] => .ok (.text (stripEnd CodePoint.isBlank t))
  | "strip", [.text u] => .ok (.text (stripEnd u.contains (stripStart u.contains t)))
  | "lstrip", [.text u] => .ok (.text (stripStart u.contains t))
  | "rstrip", [.text u] => .ok (.text (stripEnd u.contains t))
  | "upper", [] => .ok (if t.all isAsciiPoint then .text (mapChars Char.toUpper t) else .unknown)
  | "lower", [] => .ok (if t.all isAsciiPoint then .text (mapChars Char.toLower t) else .unknown)
  | "replace", [.text u, .text v] => .ok (if u.isEmpty then .unknown else .text (replaceAll u v t.length t))
  | "split", [] => .ok (.list ((splitBlanks t).map .text))
  | "find", [.text u] => .ok (.int (((place? u t).map Int.ofNat).getD (-1)))
  | "index", [.text u] =>
    match place? u t with
    | some n => .ok (.int n)
    | none => .error .wrongValue
  | "count", [.text u] => .ok (if u.isEmpty then .int (t.length + 1) else .int ((splitAll u t.length [] t).length - 1))
  | "split", [.text u] =>
    if u.isEmpty then .error .wrongValue else .ok (.list ((splitAll u t.length [] t).map .text))
  | "removeprefix", [.text u] => .ok (.text (if u.isPrefixOf t then t.drop u.length else t))
  | "removesuffix", [.text u] =>
    .ok (.text (if u.reverse.isPrefixOf t.reverse then t.take (t.length - u.length) else t))
  | "startswith", [.text u] => .ok (.bool (u.isPrefixOf t))
  | "endswith", [.text u] => .ok (.bool (u.reverse.isPrefixOf t.reverse))
  | "format", _ => fillBraces args (t.length + 1) 0 t
  | _, _ => .ok .unknown

def callMethod (receiver : Value) (name : String) (args : Arguments) : Except Fault Value :=
  match receiver, name, args.positional with
  | .text t, name, _ => textMethod t name args
  | .dict entries, "get", [key] => .ok ((Value.lookup? key entries).getD .null)
  | .dict entries, "get", [key, default] => .ok ((Value.lookup? key entries).getD default)
  | .dict entries, "keys", [] => .ok (.list (entries.map (·.1)))
  | .dict entries, "values", [] => .ok (.list (entries.map (·.2)))
  | _, _, _ => .ok .unknown

def entriesOf (pairs : List Value) : Except Fault Value := do
  let entries ← pairs.foldlM (fun entries pair => do
    match ← pair.items? with
    | some [key, value] => return Value.insertEntry key value entries
    | some _ => throw .wrongValue
    | none => throw .wrongType) []
  return .dict entries

def digitsOf? (digits : List Nat) : (afterDigit : Bool) → List Char → Option (List Nat)
  | afterDigit, [] => if afterDigit then some digits.reverse else none
  | afterDigit, c :: rest =>
    if c = '_' then if afterDigit then digitsOf? digits false rest else none
    else
      match digitValue? c with
      | some d => digitsOf? (d :: digits) true rest
      | none => none

def integerOf? (t : Text) : Option Int := do
  let cs ← t.strip.chars?
  let (negative, cs) := match cs with
    | '-' :: rest => (true, rest)
    | '+' :: rest => (false, rest)
    | rest => (false, rest)
  let digits ← digitsOf? [] false cs
  let n : Nat := digits.foldl (fun n d => 10 * n + d) 0
  return if negative then -(n : Int) else n

def withItems (value : Value) (f : List Value → Except Fault Value) : Except Fault Value := do
  match ← value.items? with
  | some items => if items.any Value.isUnknown then return .unknown else f items
  | none => return .unknown

def extreme (before : Ordering → Bool) : List Value → Except Fault Value
  | [] => .error .wrongValue
  | first :: rest => rest.foldlM (fun best value => do
      return if ((← Value.order value best).map before).getD false then value else best) first

def insertInOrder (value : Value) : List Value → Except Fault (List Value)
  | [] => .ok [value]
  | other :: rest => do
    if (← Value.order other value) = some .gt then return value :: other :: rest
    return other :: (← insertInOrder value rest)

def zipped : (fuel : Nat) → List (List Value) → List Value
  | 0, _ => []
  | fuel + 1, lists =>
    match lists.mapM List.head? with
    | some (value :: values) => .tuple (value :: values) :: zipped fuel (lists.map (·.drop 1))
    | _ => []

def callBuiltin (name : String) (args : Arguments) : Except Fault Value :=
  match name, args.positional, args.named with
  | "str", [], [] => .ok (.text [])
  | "str", [value], [] => .ok ((value.text?.map Value.text).getD .unknown)
  | "repr", [value], [] => .ok ((value.shown?.map Value.ofString).getD .unknown)
  | "bool", [], [] => .ok (.bool false)
  | "bool", [value], [] => .ok (.bool value.truthy)
  | "int", [], [] => .ok (.int 0)
  | "int", [.bool b], [] => .ok (.int (if b then 1 else 0))
  | "int", [.int n], [] => .ok (.int n)
  | "int", [.text t], [] =>
    match integerOf? t with
    | some n => .ok (.int n)
    | none => .error .wrongValue
  | "float", [.int n], [] => .ok (.float (.ofInt n))
  | "float", [.text t], [] =>
    match t.toString?.bind Double.ofText? with
    | some x => .ok (.float x)
    | none => .error .wrongValue
  | "float", [.float x], [] => .ok (.float x)
  | "abs", [.int n], [] => .ok (.int n.natAbs)
  | "abs", [.float x], [] => .ok (.float (if x.isNegative then x.neg else x))
  | "ord", [.text [p]], [] => .ok (.int p.toNat)
  | "chr", [.int n], [] =>
    match if n < 0 then none else CodePoint.ofNat? n.toNat with
    | some p => .ok (.text [p])
    | none => .error .wrongValue
  | "divmod", [a, b], [] => do return .tuple [← a.binary .floorDiv b, ← a.binary .mod b]
  | "pow", [a, b], [] => a.binary .pow b
  | "any", [value], [] => withItems value fun items => .ok (.bool (items.any Value.truthy))
  | "all", [value], [] => withItems value fun items => .ok (.bool (items.all Value.truthy))
  | "sum", [value], [] => withItems value fun items => items.foldlM (fun total item => total.binary .add item) (.int 0)
  | "max", [value], [] => withItems value (extreme Ordering.isGT)
  | "min", [value], [] => withItems value (extreme Ordering.isLT)
  | "max", values@(_ :: _ :: _), [] => extreme Ordering.isGT values
  | "min", values@(_ :: _ :: _), [] => extreme Ordering.isLT values
  | "sorted", [value], [] => withItems value fun items => do
    return .list (← items.foldlM (fun sorted item => insertInOrder item sorted) [])
  | "reversed", [value], [] => withItems value fun items => .ok (.generated items.reverse)
  | "enumerate", [value], [] => withItems value fun items =>
    .ok (.generated (items.zipIdx.map fun (item, i) => .tuple [.int i, item]))
  | "zip", values, [] => do
    match (← values.mapM Value.items?).mapM id with
    | some lists => return .generated (zipped ((lists.head?.map List.length).getD 0) lists)
    | none => return .unknown
  | "len", [value], [] => do
    match ← value.items? with
    | some items => return .int items.length
    | none => return .unknown
  | "list", [], [] => .ok (.list [])
  | "list", [value], [] => do return ((← value.items?).map Value.list).getD .unknown
  | "tuple", [], [] => .ok (.tuple [])
  | "tuple", [value], [] => do return ((← value.items?).map Value.tuple).getD .unknown
  | "dict", [], named => .ok (.dict (named.map fun (name, value) => (.ofString name, value)))
  | "dict", [.dict entries], named =>
    .ok (.dict (named.foldl (fun entries (name, value) => Value.insertEntry (.ofString name) value entries) entries))
  | "dict", [value], [] => do
    match ← value.items? with
    | some items => entriesOf items
    | none => return .unknown
  | "range", [.int n], [] =>
    .ok (if n.toNat > maxLength then .unknown else .list ((List.range n.toNat).map fun (i : Nat) => .int i))
  | "staticmethod", [value], [] => .ok (.staticMethod value)
  | "print", _, _ => .ok .null
  | _, _, _ => .ok .unknown

end NullContract.Loaded
