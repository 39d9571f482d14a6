import NullContract.Loaded.Placement.Pattern

namespace NullContract.Loaded

mutual
def ownExprs : Stmt → List Expr
  | .function header _ =>
    header.decorators ++ header.signature.defaults ++ header.signature.keywordDefaults.filterMap id ++
      header.signature.hints ++ header.returns.toList
  | .classDef header _ => header.decorators ++ header.bases ++ header.keywords
  | .ret _ value => value.toList
  | .delete targets => targets
  | .assign targets value => value :: targets
  | .augAssign target _ value => [target, value]
  | .annAssign target hint value => target :: hint :: value.toList
  | .forLoop _ target iter body orelse => target :: iter :: (ownExprsOfBlock body ++ ownExprsOfBlock orelse)
  | .whileLoop test body orelse => test :: (ownExprsOfBlock body ++ ownExprsOfBlock orelse)
  | .ifElse _ test body orelse => test :: (ownExprsOfBlock body ++ ownExprsOfBlock orelse)
  | .withBlock _ items body => items.flatMap (fun item => item.context :: item.target.toList) ++ ownExprsOfBlock body
  | .matchCases subject cases => subject :: ownExprsOfCases cases
  | .raise cause => cause
  | .tryBlock body handlers orelse final =>
    ownExprsOfBlock body ++ ownExprsOfHandlers handlers ++ ownExprsOfBlock orelse ++ ownExprsOfBlock final
  | .assert test message => test :: message.toList
  | .expr value => [value]
  | .imports _ _ | .outer _ _ | .break | .continue | .pass => []

def ownExprsOfBlock : List Stmt → List Expr
  | [] => []
  | s :: rest => ownExprs s ++ ownExprsOfBlock rest

def ownExprsOfHandlers : List Handler → List Expr
  | [] => []
  | .mk _ kind _ body :: rest => kind.toList ++ ownExprsOfBlock body ++ ownExprsOfHandlers rest

def ownExprsOfCases : List Case → List Expr
  | [] => []
  | .mk _ guard body :: rest => guard.toList ++ ownExprsOfBlock body ++ ownExprsOfCases rest
end

/-- Where a statement stands. A handler for groups cannot be left by a jump: not by a return, and not by a break that
leaves a loop around it. `depth` counts the blocks around the statement that have to be left in order, and `lateHints`
says whether hints are left alone. -/
structure Spot where
  scope : Scope
  lateHints : Bool
  generates : Bool := false
  inLoop : Bool := false
  inGroup : Bool := false
  inInnerGroup : Bool := false
  depth : Nat := 0

def maxDepth : Nat := 20

namespace Spot

def deeper (s : Spot) (levels : Nat) : Spot :=
  { s with depth := s.depth + levels }

def loop (s : Spot) : Spot :=
  { s.deeper 1 with inLoop := true, inInnerGroup := false }

def handler (s : Spot) (forGroups : Bool) : Spot :=
  if forGroups then { s.deeper 2 with inGroup := true, inInnerGroup := true } else s.deeper 2

def function (s : Spot) (isAsync generates : Bool) : Spot :=
  { scope := .function isAsync, lateHints := s.lateHints, generates := generates }

def classBody (s : Spot) : Spot :=
  { scope := .classBody, lateHints := s.lateHints }

def fits (s : Spot) : Bool :=
  s.depth ≤ maxDepth

def isAsync (s : Spot) : Bool :=
  s.scope = .function true

def admitsReturn (s : Spot) (value : Option Expr) : Bool :=
  !s.inGroup &&
    match s.scope with
    | .function isAsync => !(isAsync && s.generates && value.isSome)
    | _ => false

def admitsJump (s : Spot) : Bool :=
  s.inLoop && !s.inInnerGroup

def admits (s : Spot) (e : Expr) : Bool :=
  placed s.scope false e

def admitsAll (s : Spot) (es : List Expr) : Bool :=
  es.all s.admits

def admitsHint (s : Spot) : Expr → Bool
  | .starred e => s.admitsHint e
  | e => if s.lateHints then !isActive e else s.admits e

def admitsOwnHint (s : Spot) (hint : Expr) : Bool :=
  match s.scope with
  | .function _ => !s.lateHints || !isActive hint
  | _ => s.admitsHint hint

def admitsTarget (s : Spot) (target : Expr) : Bool :=
  placedTarget s.scope false target

def admitsSignature (s : Spot) (sig : Signature) : Bool :=
  areFresh sig.names && s.admitsAll sig.defaults && s.admitsAll (sig.keywordDefaults.filterMap id) &&
    sig.hints.all s.admitsHint

def admitsItem (s : Spot) (item : WithItem) : Bool :=
  s.admits item.context && item.target.all s.admitsTarget

def admitsImport (s : Spot) (a : Alias) : Bool :=
  if a.name = "*" then s.scope = .module else !isConstantName a.bound

end Spot

def areOrderedHandlers : List Handler → Bool
  | [] => true
  | .mk _ kind _ _ :: rest => (kind.isSome || rest.isEmpty) && areOrderedHandlers rest

mutual
def placedStatement (s : Spot) : Stmt → Bool
  | .function header body =>
    !isConstantName header.name && s.admitsAll header.decorators && s.admitsSignature header.signature &&
      header.returns.all s.admitsHint && placedBlock (s.function header.isAsync ((ownExprsOfBlock body).any yields)) body
  | .classDef header body =>
    !isConstantName header.name && s.admitsAll header.decorators && placedItems s.scope false header.bases &&
      s.admitsAll header.keywords && areFresh (keywordNames header.keywords) && placedBlock s.classBody body
  | .ret _ value => s.admitsReturn value && value.all s.admits
  | .delete targets => placedDeletions s.scope targets
  | .assign targets value => s.admits value && targets.all s.admitsTarget
  | .augAssign target _ value =>
    s.admits value &&
      match target with
      | .member object _ => s.admits object
      | target => s.admitsTarget target
  | .annAssign target hint value => value.all s.admits && s.admitsTarget target && s.admitsOwnHint hint
  | .forLoop isAsync target iter body orelse =>
    (!isAsync || s.isAsync) && s.loop.fits && s.admits iter && s.admitsTarget target && placedBlock s.loop body &&
      placedBlock s orelse
  | .whileLoop test body orelse =>
    s.loop.fits && s.admits test && placedBlock s.loop body && placedBlock s orelse
  | .ifElse _ test body orelse => s.admits test && placedBlock s body && placedBlock s orelse
  | .withBlock isAsync items body =>
    let inner := s.deeper items.length
    (!isAsync || s.isAsync) && inner.fits && items.all s.admitsItem && placedBlock inner body
  | .matchCases subject cases =>
    s.admits subject &&
      areOrderedPatterns (cases.map fun | .mk pattern guard _ => (pattern, guard.isSome)) && placedCases s cases
  | .raise cause => s.admitsAll cause
  | .tryBlock body handlers orelse final =>
    let inner := if final.isEmpty then s else s.deeper 1
    let guarded := if handlers.isEmpty then inner else inner.deeper 1
    guarded.fits && areOrderedHandlers handlers && placedBlock guarded body && placedBlock inner orelse &&
      placedHandlers inner handlers && placedBlock inner final
  | .assert test message => s.admits test && message.all s.admits
  | .imports _ names => names.all s.admitsImport
  | .expr value => s.admits value
  | .break | .continue => s.admitsJump
  | .outer _ _ | .pass => true

def placedBlock (s : Spot) : List Stmt → Bool
  | [] => true
  | statement :: rest => placedStatement s statement && placedBlock s rest

def placedHandlers (s : Spot) : List Handler → Bool
  | [] => true
  | .mk forGroups kind name body :: rest =>
    (s.handler forGroups).fits && kind.all s.admits && !name.any isConstantName &&
      placedBlock (s.handler forGroups) body && placedHandlers s rest

def placedCases (s : Spot) : List Case → Bool
  | [] => true
  | .mk _ guard body :: rest => guard.all s.admits && placedBlock s body && placedCases s rest
end

def features : List String :=
  ["nested_scopes", "generators", "division", "absolute_import", "with_statement", "print_function", "unicode_literals",
   "barry_as_FLUFL", "generator_stop", "annotations"]

def askedFeatures? : Stmt → Option (List String)
  | .imports (some origin) names => if origin.name = "__future__" then some (names.map (·.name)) else none
  | _ => none

def isPlainText : Stmt → Bool
  | .expr (.literal (.text _)) => true
  | _ => false

def leadingFeatures : List Stmt → List String × List Stmt
  | [] => ([], [])
  | s :: rest =>
    match askedFeatures? s with
    | some names =>
      let (more, others) := leadingFeatures rest
      (names ++ more, others)
    | none => if isPlainText s then leadingFeatures rest else ([], s :: rest)

mutual
def asksFeatures : Stmt → Bool
  | s@(.imports _ _) => (askedFeatures? s).isSome
  | .function _ body => blockAsksFeatures body
  | .classDef _ body => blockAsksFeatures body
  | .forLoop _ _ _ body orelse => blockAsksFeatures body || blockAsksFeatures orelse
  | .whileLoop _ body orelse => blockAsksFeatures body || blockAsksFeatures orelse
  | .ifElse _ _ body orelse => blockAsksFeatures body || blockAsksFeatures orelse
  | .withBlock _ _ body => blockAsksFeatures body
  | .matchCases _ cases => casesAskFeatures cases
  | .tryBlock body handlers orelse final =>
    blockAsksFeatures body || handlersAskFeatures handlers || blockAsksFeatures orelse || blockAsksFeatures final
  | _ => false

def blockAsksFeatures : List Stmt → Bool
  | [] => false
  | s :: rest => asksFeatures s || blockAsksFeatures rest

def handlersAskFeatures : List Handler → Bool
  | [] => false
  | .mk _ _ _ body :: rest => blockAsksFeatures body || handlersAskFeatures rest

def casesAskFeatures : List Case → Bool
  | [] => false
  | .mk _ _ body :: rest => blockAsksFeatures body || casesAskFeatures rest
end

def placedModule (module : List Stmt) : Bool :=
  let (asked, others) := leadingFeatures module
  asked.all features.contains && !blockAsksFeatures others &&
    placedBlock { scope := .module, lateHints := asked.contains "annotations" } module

end NullContract.Loaded
