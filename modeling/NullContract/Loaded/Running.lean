import NullContract.Loaded.Importing

namespace NullContract.Loaded

namespace Fault

def className : Fault → String
  | source .malformed => "SyntaxError"
  | source .nulCharacter => "ValueError"
  | source .surrogate => "UnicodeEncodeError"
  | unboundName => "NameError"
  | unboundLocal => "UnboundLocalError"
  | wrongType => "TypeError"
  | wrongValue => "ValueError"
  | noMember => "AttributeError"
  | noModule => "ModuleNotFoundError"
  | noImport => "ImportError"
  | noIndex => "IndexError"
  | noKey => "KeyError"
  | divisionByZero => "ZeroDivisionError"
  | overflow => "OverflowError"
  | failedAssertion => "AssertionError"
  | tooDeep => "RecursionError"
  | unfinished => "TokenError"
  | raised name => name

def families : List (String × String) :=
  [("UnboundLocalError", "NameError"), ("ModuleNotFoundError", "ImportError"), ("IndexError", "LookupError"), ("KeyError", "LookupError"),
   ("ZeroDivisionError", "ArithmeticError"), ("OverflowError", "ArithmeticError"), ("UnicodeEncodeError", "ValueError"),
   ("FileNotFoundError", "OSError"), ("NotImplementedError", "RuntimeError"), ("RecursionError", "RuntimeError")]

def isA (fault : Fault) (name : String) : Bool :=
  let own := fault.className
  let escaping := ["SystemExit", "KeyboardInterrupt", "GeneratorExit"].contains own
  name = own || name = "BaseException" || (name = "Exception" && !escaping) || families.contains (own, name)

end Fault

def handles (fault : Fault) : Option Expr → Bool
  | none => true
  | some (.name id) => fault.isA id
  | some (.tuple items) => items.any fun
    | .name id => fault.isA id
    | _ => false
  | some _ => false

inductive Flow where
  | next
  | broke
  | continued
  | returned (value : Value)

def loopOver (enter : Value → Load Unit) (body : Load Flow) : List Value → Load (Option Flow)
  | [] => return none
  | value :: rest => do
    enter value
    match ← body with
    | .broke => return some .next
    | .returned value => return some (.returned value)
    | .next | .continued => loopOver enter body rest

def maxRounds : Nat := 10000

def loopWhile (test : Load Value) (body : Load Flow) : (fuel : Nat) → Load (Option Flow)
  | 0 => return none
  | fuel + 1 => do
    let value ← test
    if value.isUnknown || !value.truthy then return none
    match ← body with
    | .broke => return some .next
    | .returned value => return some (.returned value)
    | .next | .continued => loopWhile test body fuel

def raisedName : List Expr → String
  | .name id :: _ => id
  | .call (.name id) _ _ :: _ => id
  | _ => "RuntimeError"

def attempt (body : Load Flow) : Load (Except Fault Flow) :=
  tryCatch (do return .ok (← body)) fun fault => return .error fault

def intakeOf (sig : Signature) (defaults : List Value) (keywordDefaults : List (Option Value)) : Intake :=
  let names := (sig.positionalOnly ++ sig.positional).map (·.name)
  let keywordOnly := sig.keywordOnly.map (·.name)
  { positionalOnly := sig.positionalOnly.map (·.name)
    positional := sig.positional.map (·.name)
    variadic := sig.variadic.map (·.name)
    keywordOnly := keywordOnly
    keywordVariadic := sig.keywordVariadic.map (·.name)
    defaults := (names.drop (names.length - defaults.length)).zip defaults ++
      (keywordOnly.zip keywordDefaults).filterMap fun (name, value) => value.map (name, ·) }

def callFrame (f : Definition) (members : Members) : Frame :=
  let mentioned := match f.body with
    | .block statements => blockMentions statements
    | .value result => mentions result
  let ofModule := mentioned.filterMap (Mention.outerName? .module)
  let ofEnclosing := mentioned.filterMap (Mention.outerName? .enclosing)
  { kind := .function
    parent := f.parent
    own := (members.keys ++ mentioned.filterMap Mention.boundName?).filter fun id =>
      !ofModule.contains id && !ofEnclosing.contains id
    ofModule := ofModule
    ofEnclosing := ofEnclosing
    members := members }

section

variable (call : Caller)

def evaluateHints (header : Header) : Load Unit := do
  if (← get).lateHints then return ()
  let _ ← evaluateAll call (header.signature.hints ++ header.returns.toList)

def evaluateOptional : List (Option Expr) → Load (List (Option Value))
  | [] => return []
  | none :: rest => do return none :: (← evaluateOptional rest)
  | some e :: rest => do
    let value ← evaluate call e
    return some value :: (← evaluateOptional rest)

def decorate (decorators : List Value) (value : Value) : Load Value :=
  decorators.reverse.foldlM (fun value wrap => callValue call wrap { positional := [value] }) value

def runFunction (header : Header) (body : List Stmt) : Load Unit := do
  let decorators ← evaluateAll call header.decorators
  let defaults ← evaluateAll call header.signature.defaults
  let keywordDefaults ← evaluateOptional call header.signature.keywordDefaults
  evaluateHints call header
  let intake := intakeOf header.signature defaults keywordDefaults
  let function ← newFunction (some ⟨header, body⟩) header.name intake (.block body)
  bindName header.name (← decorate call decorators function)

def runClass (header : ClassHeader) (body : Load Flow) : Load Unit := do
  let decorators ← evaluateAll call header.decorators
  let bases ← evaluateArguments call {} header.bases
  let bases ← evaluateKeywords call bases header.keywords
  let outer ← get
  let frame : Frame := { kind := .classBody, parent := outer.current }
  let (_, members) ← inFrame frame (outer.scopes ++ [header.name]) body
  if bases.positional.any fun base => !base.isExtensible then throw .wrongType
  bindName header.name (← decorate call decorators (.classObject members.toList))

mutual
/-- The names that a pattern binds to parts of a value, if it matches. Instances of classes are not told apart. -/
def matchValue (value : Value) : Pattern → Load (Option (List (String × Value)))
  | .value e => do
    let other ← evaluate call e
    return if value.equal? other = some true then some [] else none
  | .singleton truth =>
    match truth, value with
    | none, .null => return some []
    | some a, .bool b => return if a = b then some [] else none
    | _, _ => return none
  | .sequence items =>
    match value with
    | .list values | .tuple values => matchItems values items
    | _ => return none
  | .mapping keys items rest =>
    match value with
    | .dict entries => do
      let keys ← evaluateAll call keys
      let found := keys.filterMap fun key => Value.lookup? key entries
      if found.length = keys.length then
        let others := entries.filter fun (key, _) => !keys.any fun own => own.equal? key = some true
        return (← matchItems found items).map fun names => names ++ rest.toList.map fun name => (name, .dict others)
      else return none
    | _ => return none
  | .classOf _ _ _ _ => return none
  | .star name => return some (name.toList.map fun name => (name, value))
  | .capture name => return some (name.toList.map fun name => (name, value))
  | .naming inner name => do return (← matchValue value inner).map fun names => names ++ [(name, value)]
  | .either alternatives => matchAny value alternatives

def matchItems (values : List Value) : List Pattern → Load (Option (List (String × Value)))
  | [] => return if values.isEmpty then some [] else none
  | .star name :: rest => do
    if values.length < rest.length then return none
    let count := values.length - rest.length
    let own := name.toList.map fun name => (name, Value.list (values.take count))
    return (← matchItems (values.drop count) rest).map fun names => own ++ names
  | pattern :: rest =>
    match values with
    | [] => return none
    | value :: more => do
      match ← matchValue value pattern with
      | some own => return (← matchItems more rest).map fun names => own ++ names
      | none => return none

def matchAny (value : Value) : List Pattern → Load (Option (List (String × Value)))
  | [] => return none
  | pattern :: rest => do
    match ← matchValue value pattern with
    | some names => return some names
    | none => matchAny value rest
end

mutual
def run : Stmt → Load Flow
  | .function header body => do
    runFunction call header body
    return .next
  | .classDef header body => do
    runClass call header (runBlock body)
    return .next
  | .imports none names => do
    names.forM importModule
    return .next
  | .imports (some origin) names => do
    importFrom origin names
    return .next
  | .assign targets value => do
    let value ← evaluate call value
    targets.forM (assign call value)
    return .next
  | .augAssign target op value => do
    let old ← evaluate call target
    let value ← evaluate call value
    assign call (← fromExcept (old.binary op value)) target
    return .next
  | .annAssign target hint value => do
    match value with
    | some value => do assign call (← evaluate call value) target
    | none => pure ()
    let s ← get
    if !s.lateHints && !(s.current.bind (s.frames[·]?)).any (·.kind = .function) then
      let _ ← evaluate call hint
    return .next
  | .delete targets => do
    targets.forM fun
      | .name id => deleteName id
      | _ => return ()
    return .next
  | .ifElse _ test body orelse => do
    if (← evaluate call test).truthy then runBlock body else runBlock orelse
  | .forLoop _ target iter body orelse => do
    match ← fromExcept (← evaluate call iter).items? with
    | some items =>
      match ← loopOver (fun value => assign call value target) (runBlock body) items with
      | some flow => return flow
      | none => runBlock orelse
    | none => return .next
  | .whileLoop test body orelse => do
    match ← loopWhile (evaluate call test) (runBlock body) maxRounds with
    | some flow => return flow
    | none => runBlock orelse
  | .withBlock _ items body => do
    for item in items do
      let _ ← evaluate call item.context
      (item.target.toList).forM (assign call .unknown)
    runBlock body
  | .tryBlock body handlers orelse final => do
    let result ← attempt do
      match ← attempt (runBlock body) with
      | .ok .next => runBlock orelse
      | .ok flow => return flow
      | .error fault => runHandlers fault handlers
    match ← runBlock final with
    | .next => fromExcept result
    | flow => return flow
  | .raise cause => throw (.raised (raisedName cause))
  | .assert test _ => do
    let value ← evaluate call test
    if !value.truthy then throw .failedAssertion
    return .next
  | .expr value => do
    let _ ← evaluate call value
    return .next
  | .matchCases subject cases => do runCases (← evaluate call subject) cases
  | .ret _ value => do
    match value with
    | some value => return .returned (← evaluate call value)
    | none => return .returned .null
  | .break => return .broke
  | .continue => return .continued
  | .outer _ _ => return .next
  | .pass => return .next

def runBlock : List Stmt → Load Flow
  | [] => return .next
  | statement :: rest => do
    match ← run statement with
    | .next => runBlock rest
    | flow => return flow

def runHandlers (fault : Fault) : List Handler → Load Flow
  | [] => throw fault
  | .mk _ kind name body :: rest =>
    if handles fault kind then do
      (name.toList).forM fun id => bindName id .unknown
      let flow ← runBlock body
      (name.toList).forM fun id => tryCatch (deleteName id) fun _ => return ()
      return flow
    else runHandlers fault rest

def runCases (value : Value) : List Case → Load Flow
  | [] => return .next
  | .mk pattern guard body :: rest => do
    match ← matchValue call value pattern with
    | some names =>
      names.forM fun (name, value) => bindName name value
      let test ← match guard with
        | some test => evaluate call test
        | none => pure (.bool true)
      if test.truthy then runBlock body else runCases value rest
    | none => runCases value rest
end

end

def maxCalls : Nat := 900

def isDeferred (f : Definition) : Bool :=
  f.function.any (·.header.isAsync) ||
    match f.body with
    | .block statements => (ownExprsOfBlock statements).any yields
    | .value result => yields result

def callFunction : (depth : Nat) → Caller
  | 0, _, _ => throw .tooDeep
  | depth + 1, index, args => do
    match (← get).functions[index]? with
    | none => return .unknown
    | some f => do
      let members ← fromExcept (f.intake.fill args)
      if isDeferred f then return .unknown
      let body : Load Flow := match f.body with
        | .block statements => runBlock (callFunction depth) statements
        | .value result => do return .returned (← evaluate (callFunction depth) result)
      match (← inFrame (callFrame f members) [f.qualname, "<locals>"] body).1 with
      | .returned value => return value
      | _ => return .null

def load (module : List Stmt) : Except Fault Session :=
  if isLoadable module then
    match (runBlock (callFunction maxCalls) module).run.run {} with
    | (.ok _, session) => .ok session
    | (.error fault, _) => .error fault
  else .error (.source .malformed)

end NullContract.Loaded
