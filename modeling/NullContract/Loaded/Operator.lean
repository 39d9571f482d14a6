import NullContract.Loaded.Value

namespace NullContract.Loaded

namespace Number

def value : Number → Value
  | int n => .int n
  | float x => .float x

def divideInts (n m : Int) : Except Fault Value :=
  if m = 0 then .error .divisionByZero
  else
    match Double.ofRatio ((n < 0) != (m < 0)) n.natAbs m.natAbs with
    | .infinite _ => .error .overflow
    | x => .ok (.float x)

def divide : Number → Number → Except Fault Value
  | int n, int m => divideInts n m
  | a, b => if b.toDouble.isZero then .error .divisionByZero else .ok (.float (a.toDouble.div b.toDouble))

def maxExponent : Nat := 4096

def power : Number → Number → Except Fault Value
  | int n, int m =>
    if m.natAbs > maxExponent then .ok .unknown
    else if m ≥ 0 then .ok (.int (n.pow m.natAbs))
    else divideInts 1 (n.pow m.natAbs)
  | _, _ => .ok .unknown

def onInts (f : Int → Int → Except Fault Value) : Number → Number → Except Fault Value
  | int n, int m => f n m
  | _, _ => .error .wrongType

def onWhole (f : Int → Int → Int) : Number → Number → Except Fault Value
  | int n, int m => if m = 0 then .error .divisionByZero else .ok (.int (f n m))
  | _, b => if b.toDouble.isZero then .error .divisionByZero else .ok .unknown

/-- The bits of two integers combined one by one, with the sign bits counted as bits that go on for ever. -/
def bitwise (f : Bool → Bool → Bool) (n m : Int) : Int :=
  let width := Nat.log2 n.natAbs + Nat.log2 m.natAbs + 2
  let bit := fun (n : Int) (i : Nat) => (n >>> i) % 2 = 1
  let low := (List.range width).foldl (fun (total : Int) i => if f (bit n i) (bit m i) then total + Int.pow 2 i else total) 0
  if f (n < 0) (m < 0) then low - Int.pow 2 width else low

def shift (left : Bool) (n m : Int) : Except Fault Value :=
  if m < 0 then .error .wrongValue
  else if left then if m.natAbs > maxExponent then .ok .unknown else .ok (.int (n * Int.pow 2 m.natAbs))
  else .ok (.int (n >>> m.natAbs))

def arithmetic (op : BinaryOp) (a b : Number) : Except Fault Value :=
  let both := fun (f : Int → Int → Int) (g : Double → Double → Double) =>
    match a, b with
    | int n, int m => Except.ok (.int (f n m))
    | a, b => .ok (.float (g a.toDouble b.toDouble))
  match op with
  | .add => both (· + ·) Double.add
  | .sub => both (· - ·) Double.sub
  | .mul => both (· * ·) Double.mul
  | .div => divide a b
  | .floorDiv => onWhole Int.fdiv a b
  | .mod => onWhole Int.fmod a b
  | .pow => power a b
  | .shiftLeft => onInts (shift true) a b
  | .shiftRight => onInts (shift false) a b
  | .bitOr => onInts (fun n m => .ok (.int (bitwise (· || ·) n m))) a b
  | .bitXor => onInts (fun n m => .ok (.int (bitwise (· != ·) n m))) a b
  | .bitAnd => onInts (fun n m => .ok (.int (bitwise (· && ·) n m))) a b
  | .matMul => .error .wrongType

end Number

def maxLength : Nat := 100000

def repeated {α : Type} (make : List α → Value) (items : List α) (count : Int) : Value :=
  if items.length * count.toNat > maxLength then .unknown
  else make (List.replicate count.toNat items).flatten

def fillPercent : Text → List Value → Except Fault Value
  | [], [] => .ok (.text [])
  | [], _ :: _ => .error .wrongType
  | .char '%' :: .char c :: rest, values =>
    let put := fun (shown : Option Text) (values : List Value) => do
      match shown, ← fillPercent rest values with
      | some t, .text u => .ok (.text (t ++ u))
      | _, _ => .ok .unknown
    match c, values with
    | '%', values => put (some "%") values
    | 's', value :: values => put value.text? values
    | 'r', value :: values => put (value.shown?.map Text.ofString) values
    | 'd', .int n :: values => put (some (toString n)) values
    | 'd', .bool b :: values => put (some (if b then "1" else "0")) values
    | 'd', .text _ :: _ => .error .wrongType
    | 's', [] | 'r', [] | 'd', [] => .error .wrongType
    | _, _ => .ok .unknown
  | [.char '%'], _ => .error .wrongValue
  | p :: rest, values => do
    match ← fillPercent rest values with
    | .text t => .ok (.text (p :: t))
    | other => .ok other

namespace Value

def isType : Value → Bool
  | classObject _ => true
  | builtin _ => true
  | _ => false

def binary (op : BinaryOp) (a b : Value) : Except Fault Value :=
  match op, a, b with
  | _, unknown, _ | _, _, unknown => .ok unknown
  | .add, text t, text u => .ok (text (t ++ u))
  | .add, bytes t, bytes u => .ok (bytes (t ++ u))
  | .add, list t, list u => .ok (list (t ++ u))
  | .add, tuple t, tuple u => .ok (tuple (t ++ u))
  | .mod, text t, tuple values => fillPercent t values
  | .mod, text _, dict _ => .ok unknown
  | .mod, text t, value => fillPercent t [value]
  | .bitOr, dict t, dict u => .ok (dict (u.foldl (fun entries (k, v) => insertEntry k v entries) t))
  | .bitAnd, bool x, bool y => .ok (bool (x && y))
  | .bitOr, bool x, bool y => .ok (bool (x || y))
  | .bitXor, bool x, bool y => .ok (bool (x != y))
  | op, a, b =>
    match a.number?, b.number? with
    | some n, some m => n.arithmetic op m
    | none, some (.int n) => if op = .mul then times a n else .error .wrongType
    | some (.int n), none => if op = .mul then times b n else .error .wrongType
    | _, _ => if op = .bitOr && (a.isType || b.isType) then .ok unknown else .error .wrongType
where
  times : Value → Int → Except Fault Value
    | text t, n => .ok (repeated text t n)
    | bytes t, n => .ok (repeated bytes t n)
    | list t, n => .ok (repeated list t n)
    | tuple t, n => .ok (repeated tuple t n)
    | _, _ => .error .wrongType

def unary (op : UnaryOp) (a : Value) : Except Fault Value :=
  match op, a with
  | _, unknown => .ok unknown
  | .minus, float x => .ok (float x.neg)
  | .plus, float x => .ok (float x)
  | .invert, float _ => .error .wrongType
  | op, a =>
    match a.number? with
    | some (.int n) => .ok (int (match op with | .minus => -n | .plus => n | .invert => -n - 1))
    | _ => .error .wrongType

def compareTexts : Text → Text → Ordering
  | [], [] => .eq
  | [], _ :: _ => .lt
  | _ :: _, [] => .gt
  | p :: ps, q :: qs => (compare p.toNat q.toNat).then (compareTexts ps qs)

mutual
/-- How two values compare; the inner result is missing if one of them is no number. -/
def order : Value → Value → Except Fault (Option Ordering)
  | text t, text u => .ok (some (compareTexts t u))
  | list a, list b => orderItems a b
  | tuple a, tuple b => orderItems a b
  | a, b =>
    match a.number?, b.number? with
    | some n, some m => .ok (n.compare? m)
    | _, _ => .error .wrongType

def orderItems : List Value → List Value → Except Fault (Option Ordering)
  | [], [] => .ok (some .eq)
  | [], _ :: _ => .ok (some .lt)
  | _ :: _, [] => .ok (some .gt)
  | a :: as, b :: bs =>
    match equal? a b with
    | some true => orderItems as bs
    | _ => order a b
end

def occursIn (part : Text) : Text → Bool
  | [] => part.isEmpty
  | p :: rest => part.isPrefixOf (p :: rest) || occursIn part rest

def among? (value : Value) (items : List Value) : Option Bool :=
  if items.any fun item => equal? value item = some true then some true
  else if items.any fun item => (equal? value item).isNone then none
  else some false

def contains (container item : Value) : Except Fault (Option Bool) :=
  match container, item with
  | unknown, _ => .ok none
  | text t, text u => .ok (some (occursIn u t))
  | text _, unknown => .ok none
  | list items, item => .ok (among? item items)
  | tuple items, item => .ok (among? item items)
  | dict entries, item => .ok (among? item (entries.map (·.1)))
  | _, _ => .error .wrongType

def identical? : Value → Value → Option Bool
  | unknown, _ => none
  | _, unknown => none
  | null, null => some true
  | null, _ => some false
  | _, null => some false
  | bool a, bool b => some (a = b)
  | function i, function j => some (i = j)
  | _, _ => none

def relate (op : Comparison) (a b : Value) : Except Fault Value :=
  let known := fun (answer : Option Bool) => (answer.map bool).getD unknown
  let ordered := fun (p : Ordering → Bool) => do
    if a.isUnknown || b.isUnknown then return unknown
    return bool (((← order a b).map p).getD false)
  match op with
  | .is => .ok (known (identical? a b))
  | .isNot => .ok (known ((identical? a b).map (!·)))
  | .eq => .ok (known (equal? a b))
  | .notEq => .ok (known ((equal? a b).map (!·)))
  | .less => ordered Ordering.isLT
  | .lessEq => ordered Ordering.isLE
  | .greater => ordered Ordering.isGT
  | .greaterEq => ordered Ordering.isGE
  | .isIn => do return known (← contains b a)
  | .notIn => do return known ((← contains b a).map (!·))

def place? (length : Nat) (index : Int) : Option Nat :=
  let place := if index < 0 then index + length else index
  if 0 ≤ place && place < length then some place.toNat else none

def itemAt {α : Type} (items : List α) (index : Int) : Except Fault α :=
  match (place? items.length index).bind (items[·]?) with
  | some item => .ok item
  | none => .error .noIndex

def item : Value → Value → Except Fault Value
  | dict entries, key =>
    if key.isUnknown then .ok unknown
    else
      match lookup? key entries with
      | some value => .ok value
      | none => .error .noKey
  | container, index =>
    match container, index.number? with
    | text t, some (.int n) => do return text [← itemAt t n]
    | bytes b, some (.int n) => do return int (← itemAt b n).toNat
    | list items, some (.int n) => itemAt items n
    | tuple items, some (.int n) => itemAt items n
    | text _, _ | bytes _, _ | list _, _ | tuple _, _ => if index.isUnknown then .ok unknown else .error .wrongType
    | null, _ | bool _, _ | int _, _ | float _, _ | function _, _ => .error .wrongType
    | _, _ => .ok unknown

def clamp (length : Nat) (low high : Int) (bound : Int) : Int :=
  let place := if bound < 0 then bound + length else bound
  max low (min high place)

def slicePlaces (length : Nat) (lower upper : Option Int) (step : Int) : List Nat :=
  let size : Int := length
  if step > 0 then
    let first := (lower.map (clamp length 0 size)).getD 0
    let last := (upper.map (clamp length 0 size)).getD size
    (List.range length).filter fun i => first ≤ i && (i : Int) < last && ((i : Int) - first) % step = 0
  else
    let first := (lower.map (clamp length (-1) (size - 1))).getD (size - 1)
    let last := (upper.map (clamp length (-1) (size - 1))).getD (-1)
    (List.range length).reverse.filter fun i => (i : Int) ≤ first && last < i && (first - i) % (-step) = 0

def sliceOf {α : Type} (items : List α) (lower upper : Option Int) (step : Int) : List α :=
  (slicePlaces items.length lower upper step).filterMap (items[·]?)

def bound : Value → Except Fault (Option Int)
  | null => .ok none
  | value =>
    match value.number? with
    | some (.int n) => .ok (some n)
    | _ => .error .wrongType

def slice (container lower upper step : Value) : Except Fault Value := do
  if [container, lower, upper, step].any isUnknown then return unknown
  let lower ← bound lower
  let upper ← bound upper
  let step := (← bound step).getD 1
  if step = 0 then throw .wrongValue
  match container with
  | text t => return text (sliceOf t lower upper step)
  | bytes b => return bytes (sliceOf b lower upper step)
  | list items => return list (sliceOf items lower upper step)
  | tuple items => return tuple (sliceOf items lower upper step)
  | _ => throw .wrongType

def items? : Value → Except Fault (Option (List Value))
  | text t => .ok (some (t.map fun p => text [p]))
  | bytes b => .ok (some (b.map fun n => int n.toNat))
  | list items => .ok (some items)
  | tuple items => .ok (some items)
  | dict entries => .ok (some (entries.map (·.1)))
  | generated items => .ok (some items)
  | null | bool _ | int _ | float _ | function _ => .error .wrongType
  | _ => .ok none

end Value

end NullContract.Loaded
