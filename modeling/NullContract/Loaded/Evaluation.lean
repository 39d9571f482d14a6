import NullContract.Loaded.Session

namespace NullContract.Loaded

def packageName : String := "nullpact_decorators"

def decoratorNames : List String := ["contract", "Contract"]

def isReserved (id : String) : Bool :=
  "__".toList.isPrefixOf id.toList

def memberAmong (members : List (String × Value)) (field : String) : Except Fault Value :=
  match members.lookup field with
  | some (.staticMethod value) => .ok value
  | some value => .ok value
  | none => if isReserved field then .ok .unknown else .error .noMember

def decoratorMembers : List (String × Value) :=
  [("contract", .decorator), ("Contract", .decorator), ("__all__", .list (decoratorNames.map .ofString))]

def packageMembers : List (String × Value) :=
  decoratorMembers ++ [("decorators", .packageModule), ("__version__", .ofString "0.1.0")]

def packageModuleMembers : List (String × Value) :=
  decoratorMembers ++ [("Callable", .unknown), ("TypeVar", .unknown), ("F", .unknown)]

def functionMembers (f : Definition) : List (String × Value) :=
  let name := ((splitText '.' f.qualname).getLast?).getD ""
  [("__name__", .ofString name), ("__qualname__", .ofString f.qualname)] ++
    (f.contract.map fun value => ("__contract__", value)).toList ++
    (f.pure.map fun value => ("__contract_pure__", value)).toList

def markNames : List String := ["__contract__", "__contract_pure__"]

def memberValue (value : Value) (field : String) : Load Value := do
  match value with
  | .package => fromExcept (memberAmong packageMembers field)
  | .packageModule => fromExcept (memberAmong packageModuleMembers field)
  | .classObject members => fromExcept (memberAmong members field)
  | .function index =>
    match (← get).functions[index]? with
    | some f =>
      let members := functionMembers f
      if markNames.contains field && (members.lookup field).isNone then throw .noMember
      fromExcept (memberAmong members field)
    | none => return .unknown
  | .null => if isReserved field then return .unknown else throw .noMember
  | .text _ | .dict _ => return .method value field
  | _ => return .unknown

def functionIndex? : Value → Option Nat
  | .function index => some index
  | _ => none

/-- Sets a member of a value. Only the marks of functions are kept. -/
def setMember (object : Value) (field : String) (value : Value) : Load Unit :=
  match functionIndex? object with
  | some index => modify fun s => { s with
      functions := s.functions.modify index fun f =>
        if field = "__contract__" then { f with contract := some value }
        else if field = "__contract_pure__" then { f with pure := some value }
        else f }
  | none => return ()

def markerOf (args : Arguments) : Except Fault Value :=
  if !args.complete then .ok (.marker .unknown .unknown)
  else
    match args.positional with
    | _ :: _ :: _ :: _ => .error .wrongType
    | positional =>
      let names := ["value", "pure"]
      let free := names.drop positional.length
      if args.named.all fun (name, _) => free.contains name then
        let given := fun (index : Nat) (name : String) => positional[index]?.or (args.named.lookup name)
        .ok (.marker ((given 0 "value").getD (.text [])) ((given 1 "pure").getD (.bool false)))
      else .error .wrongType

def markValue (contract pure value : Value) : Load Value := do
  match value with
  | .function index =>
    modify fun s => { s with
      functions := s.functions.modify index fun f => { f with contract := some contract, pure := some pure } }
    return value
  | .null | .bool _ | .int _ | .float _ | .text _ | .bytes _ | .list _ | .tuple _ | .dict _ => throw .noMember
  | _ => return value

abbrev Caller := Nat → Arguments → Load Value

def memberName? : Value → Option String
  | .text t => t.toString?
  | _ => none

def callOnMembers (name : String) (args : Arguments) : Load Value := do
  match name, args.positional with
  | "getattr", [value, field] =>
    match memberName? field with
    | some field => memberValue value field
    | none => throw .wrongType
  | "getattr", [value, field, default] =>
    match memberName? field with
    | some field => tryCatch (memberValue value field) fun fault => if fault = .noMember then return default else throw fault
    | none => throw .wrongType
  | "hasattr", [value, field] =>
    match memberName? field with
    | some field =>
      tryCatch (do
        let _ ← memberValue value field
        return .bool true) fun fault => if fault = .noMember then return .bool false else throw fault
    | none => throw .wrongType
  | "setattr", [value, field, content] =>
    match memberName? field with
    | some field => do
      setMember value field content
      return .null
    | none => throw .wrongType
  | _, _ => if args.positional.any Value.isUnknown then return .unknown else fromExcept (callBuiltin name args)

def callValue (call : Caller) (callee : Value) (args : Arguments) : Load Value := do
  match callee with
  | .decorator => fromExcept (markerOf args)
  | .marker contract pure =>
    match args.positional, args.named with
    | [value], [] => markValue contract pure value
    | [], [("func", value)] => markValue contract pure value
    | _, _ => if args.complete then throw .wrongType else return .unknown
  | .function index => if args.complete then call index args else return .unknown
  | .builtin name => if args.complete then callOnMembers name args else return .unknown
  | .method receiver name => if args.complete then fromExcept (callMethod receiver name args) else return .unknown
  | .null | .bool _ | .int _ | .float _ | .text _ | .bytes _ | .list _ | .tuple _ | .dict _ | .package
  | .packageModule => throw .wrongType
  | _ => return .unknown

def addUnpacked (args : Arguments) (entries : List (Value × Value)) : Except Fault Arguments :=
  entries.foldlM (fun args (key, value) =>
    match key with
    | .text t =>
      match t.toString? with
      | some name =>
        if (args.named.lookup name).isSome then .error .wrongType
        else .ok { args with named := args.named ++ [(name, value)] }
      | none => .error .wrongType
    | _ => .error .wrongType) args

def formattedText? (conversion : Option Char) (value : Value) : Option Text :=
  match conversion with
  | none | some 's' => value.text?
  | some 'r' => value.shown?.map Text.ofString
  | some _ => none

def isUnpacking : Expr → Bool
  | .form .unpacking _ => true
  | _ => false

def dictOf (keys : List Expr) (keyValues values : List Value) : Except Fault Value := do
  let entries ← (keys.zip (keyValues.zip values)).foldlM (fun entries (key, keyValue, value) =>
    if isUnpacking key then
      match value with
      | .dict more => .ok (more.foldl (fun entries (k, v) => Value.insertEntry k v entries) entries)
      | _ => .error .wrongType
    else
      match keyValue with
      | .list _ | .dict _ => .error .wrongType
      | _ => .ok (Value.insertEntry keyValue value entries)) []
  return .dict entries

def sliceBounds (lower upper step : Bool) (parts : List Value) : Value × Value × Value :=
  let first := if lower then parts.head?.getD .null else .null
  let parts := parts.drop (if lower then 1 else 0)
  let second := if upper then parts.head?.getD .null else .null
  let parts := parts.drop (if upper then 1 else 0)
  (first, second, if step then parts.head?.getD .null else .null)

def formValue (kind : Form) (parts : List Expr) (values : List Value) : Load Value := do
  match kind with
  | .dict =>
    let count := parts.length / 2
    if (values.drop count).any Value.isUnknown then return .unknown
    fromExcept (dictOf (parts.take count) (values.take count) (values.drop count))
  | .unary op =>
    match values with
    | [value] => fromExcept (value.unary op)
    | _ => return .unknown
  | .formattedValue conversion =>
    match values with
    | [value] => return ((formattedText? conversion value).map Value.text).getD .unknown
    | _ => return .unknown
  | .joinedText =>
    match textsOf? values with
    | some texts => return .text texts.flatten
    | none => return .unknown
  | _ => return .unknown

def evaluatesParts : Form → Bool
  | .set | .dict | .joinedText | .unary _ | .formattedValue _ | .slice _ _ _ => true
  | _ => false

def lambdaIntake (parts : List Expr) (defaults keywordDefaults : List Value) : Intake :=
  let named := fun (kind : ParameterKind) => parts.filterMap fun
    | .form (.parameter own name) _ => if own = kind then some name else none
    | _ => none
  let positional := named .positional
  let optional := positional.drop (positional.length - defaults.length)
  { positional := positional
    variadic := (named .variadic).head?
    keywordOnly := named .keywordOnly ++ named .optionalKeyword
    keywordVariadic := (named .keywordVariadic).head?
    defaults := optional.zip defaults ++ (named .optionalKeyword).zip keywordDefaults }

def comprehensionFrame (parts : List Expr) : Load Frame := do
  return { kind := .comprehension, parent := (← get).current, own := clauseTargets parts }

def isOptionalKeyword : Expr → Bool
  | .form (.parameter .optionalKeyword _) _ => true
  | _ => false

def setItem (id : String) (index value : Value) : Load Unit := do
  match ← nameValue id with
  | .dict entries => bindName id (.dict (Value.insertEntry index value entries))
  | .list _ => bindName id .unknown
  | _ => return ()

def collected (parts : List (Load Value)) : Load (Option (List Value)) := do
  match ← parts.mapM id with
  | [value] => return some [value]
  | values => return some [.tuple values]

def gather (enter : Value → Load Unit) (test : Load Bool) (body : Load (Option (List Value))) :
    List Value → Load (Option (List Value))
  | [] => return some []
  | value :: rest => do
    enter value
    let own ← if ← test then body else pure (some [])
    match own, ← gather enter test body rest with
    | some own, some more => return some (own ++ more)
    | _, _ => return none

section

variable (call : Caller)

mutual
def evaluate : Expr → Load Value
  | .literal value => return .ofLiteral value
  | .name id => nameValue id
  | .walrus target value => do
    let value ← evaluate value
    bindName target value
    return value
  | .not operand => do
    let value ← evaluate operand
    return if value.isUnknown then .unknown else .bool !value.truthy
  | .junction op operands => evaluateJunction op operands
  | .compare left ops rights => do evaluateChain (← evaluate left) ops rights
  | .cond test body orelse => do
    let test ← evaluate test
    if test.isUnknown then return .unknown
    if test.truthy then evaluate body else evaluate orelse
  | .call callee args keywords => do
    let callee ← evaluate callee
    let args ← evaluateArguments {} args
    callValue call callee (← evaluateKeywords args keywords)
  | .keyword _ value => evaluate value
  | .member value field => do memberValue (← evaluate value) field
  | .subscript value (.form (.slice lower upper step) parts) => do
    let value ← evaluate value
    let (first, second, third) := sliceBounds lower upper step (← evaluateAll parts)
    fromExcept (value.slice first second third)
  | .subscript value index => do
    let value ← evaluate value
    fromExcept (value.item (← evaluate index))
  | .starred value => evaluate value
  | .tuple items => do
    let args ← evaluateArguments {} items
    return if args.complete then .tuple args.positional else .unknown
  | .list items => do
    let args ← evaluateArguments {} items
    return if args.complete then .list args.positional else .unknown
  | .binary op left right => do
    let left ← evaluate left
    fromExcept (left.binary op (← evaluate right))
  | .form kind parts =>
    match kind with
    | .lambda => evaluateLambda parts
    | .listComp => do
      match ← evaluateComprehension [] parts with
      | some items => return .list items
      | none => return .unknown
    | .generator => do
      match ← evaluateComprehension [] parts with
      | some items => return .generated items
      | none => return .unknown
    | .setComp => do
      let _ ← evaluateComprehension [] parts
      return .unknown
    | .dictComp => do
      match ← evaluateComprehension [] parts with
      | some items => fromExcept (entriesOf items)
      | none => return .unknown
    | .unpacking => return .null
    | .await | .yield | .yieldFrom | .comprehension _ | .parameters | .parameter _ _ => return .unknown
    | _ => do formValue kind parts (← evaluateAll parts)

def evaluateAll : List Expr → Load (List Value)
  | [] => return []
  | e :: rest => do
    let value ← evaluate e
    return value :: (← evaluateAll rest)

def evaluateJunction (op : Junctor) : List Expr → Load Value
  | [] => return .unknown
  | [e] => evaluate e
  | e :: rest => do
    let value ← evaluate e
    if value.isUnknown then return .unknown
    if value.truthy = decide (op = .or) then return value
    evaluateJunction op rest

def evaluateChain (left : Value) : List Comparison → List Expr → Load Value
  | op :: ops, e :: rest => do
    let right ← evaluate e
    let answer ← fromExcept (left.relate op right)
    if rest.isEmpty || answer.isUnknown || !answer.truthy then return answer
    evaluateChain right ops rest
  | _, _ => return .unknown

def evaluateArguments (args : Arguments) : List Expr → Load Arguments
  | [] => return args
  | .starred e :: rest => do
    match ← fromExcept (← evaluate e).items? with
    | some items => evaluateArguments { args with positional := args.positional ++ items } rest
    | none => evaluateArguments { args with complete := false } rest
  | e :: rest => do
    let value ← evaluate e
    evaluateArguments { args with positional := args.positional ++ [value] } rest

def evaluateKeywords (args : Arguments) : List Expr → Load Arguments
  | [] => return args
  | .keyword (some name) e :: rest => do
    let value ← evaluate e
    if (args.named.lookup name).isSome then throw .wrongType
    evaluateKeywords { args with named := args.named ++ [(name, value)] } rest
  | .keyword none e :: rest => do
    match ← evaluate e with
    | .dict entries => do evaluateKeywords (← fromExcept (addUnpacked args entries)) rest
    | .unknown => evaluateKeywords { args with complete := false } rest
    | _ => throw .wrongType
  | _ :: rest => evaluateKeywords args rest

def evaluateLambda : List Expr → Load Value
  | [.form .parameters parts, body] => do
    let values ← evaluateDefaults parts
    let optional := (parts.filter isOptionalKeyword).length
    newFunction none "<lambda>" (lambdaIntake parts (values.drop optional) (values.take optional)) (.value body)
  | _ => return .unknown

def evaluateDefaults : List Expr → Load (List Value)
  | [] => return []
  | .form (.parameter _ _) _ :: rest => evaluateDefaults rest
  | e :: rest => do
    let value ← evaluate e
    return value :: (← evaluateDefaults rest)

/-- The items of a comprehension, from those of its parts that make an item and from its clauses. What the first
clause runs over is evaluated outside of the comprehension. -/
def evaluateComprehension (parts : List (Load Value)) : List Expr → Load (Option (List Value))
  | .form (.comprehension _) clause :: rest => do
    let frame ← comprehensionFrame (.form (.comprehension false) clause :: rest)
    let items ← evaluateSecond clause
    let (items, _) ← inFrame frame (← get).scopes
      (evaluateClause items clause (evaluateClauses (collected parts) rest))
    return items
  | e :: rest => evaluateComprehension (parts ++ [evaluate e]) rest
  | [] => return none

def evaluateClauses (body : Load (Option (List Value))) : List Expr → Load (Option (List Value))
  | [] => body
  | .form (.comprehension _) clause :: rest => do
    evaluateClause (← evaluateSecond clause) clause (evaluateClauses body rest)
  | _ => return none

def evaluateSecond : List Expr → Load (Option (List Value))
  | _ :: iter :: _ => do fromExcept (← evaluate iter).items?
  | _ => return none

def evaluateClause (items : Option (List Value)) : List Expr → Load (Option (List Value)) → Load (Option (List Value))
  | target :: _ :: conditions, body =>
    match items with
    | some items => gather (fun value => assign value target) (holdsAll conditions) body items
    | none => return none
  | _, _ => return none

def holdsAll : List Expr → Load Bool
  | [] => return true
  | e :: rest => do if (← evaluate e).truthy then holdsAll rest else return false

def assign (value : Value) : Expr → Load Unit
  | .name id => bindName id value
  | .tuple items => do assignItems (← fromExcept value.items?) items
  | .list items => do assignItems (← fromExcept value.items?) items
  | .starred target => assign value target
  | .member object field => do setMember (← evaluate object) field value
  | .subscript (.name id) index => do setItem id (← evaluate index) value
  | _ => return ()

def assignItems (values : Option (List Value)) : List Expr → Load Unit
  | [] =>
    match values with
    | some (_ :: _) => throw .wrongValue
    | _ => return ()
  | .starred target :: rest =>
    match values with
    | some values => do
      if values.length < rest.length then throw .wrongValue
      let count := values.length - rest.length
      assign (.list (values.take count)) target
      assignItems (some (values.drop count)) rest
    | none => do
      assign .unknown target
      assignItems none rest
  | target :: rest =>
    match values with
    | some [] => throw .wrongValue
    | some (value :: more) => do
      assign value target
      assignItems (some more) rest
    | none => do
      assign .unknown target
      assignItems none rest
end

end

end NullContract.Loaded
