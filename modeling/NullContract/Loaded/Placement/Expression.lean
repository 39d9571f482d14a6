import NullContract.Syntax.Signature

/-!
Where expressions may stand. The grammar admits them anywhere, but a module is loaded only if a value is yielded in a
function, a star stands before an item of a list, and so on.
-/

namespace NullContract.Loaded

/-- The scope that an expression stands in. That of a comprehension knows the variables of the comprehensions around
it, and whether they stand in the body of a class. -/
inductive Scope where
  | module
  | classBody
  | function (isAsync : Bool)
  | lambda
  | comprehension (inClass : Bool) (targets : List String)
deriving DecidableEq

namespace Scope

def enter (targets : List String) : Scope → Scope
  | comprehension inClass outer => comprehension inClass (outer ++ targets)
  | classBody => comprehension true targets
  | _ => comprehension false targets

def admitsAwait : Scope → Bool
  | function isAsync => isAsync
  | comprehension _ _ => true
  | _ => false

def admitsYield : Scope → Bool
  | function _ | lambda => true
  | _ => false

def admitsYieldFrom : Scope → Bool
  | function isAsync => !isAsync
  | lambda => true
  | _ => false

/-- In a comprehension a name is bound outside of it, where its variables and classes are out of reach. -/
def admitsWalrus (target : String) : Scope → Bool
  | comprehension inClass targets => !inClass && !targets.contains target
  | _ => true

end Scope

def isConstantName (id : String) : Bool :=
  id = "__debug__"

mutual
/-- Whether a value is waited for in the scope of an expression. A comprehension that waits does so where it stands,
unless it is a generator. -/
def waits : Expr → Bool
  | .literal _ | .name _ => false
  | .walrus _ value => waits value
  | .not operand => waits operand
  | .junction _ operands => waitsAny operands
  | .compare left _ rights => waits left || waitsAny rights
  | .cond test body orelse => waits test || waits body || waits orelse
  | .call callee args keywords => waits callee || waitsAny args || waitsAny keywords
  | .keyword _ value => waits value
  | .member value _ => waits value
  | .subscript value index => waits value || waits index
  | .starred value => waits value
  | .tuple items => waitsAny items
  | .list items => waitsAny items
  | .binary _ left right => waits left || waits right
  | .form kind parts =>
    match kind with
    | .await => true
    | .lambda => waitsFirst parts
    | .generator => waitsBefore parts
    | .listComp | .setComp | .dictComp => waitsBefore parts || waitsInside true parts
    | _ => waitsAny parts

def waitsAny : List Expr → Bool
  | [] => false
  | e :: rest => waits e || waitsAny rest

def waitsFirst : List Expr → Bool
  | [] => false
  | e :: _ => waits e

def waitsBefore : List Expr → Bool
  | [] => false
  | .form (.comprehension _) parts :: _ => waitsSecond parts
  | _ :: rest => waitsBefore rest

def waitsSecond : List Expr → Bool
  | _ :: iter :: _ => waits iter
  | _ => false

def waitsInside (first : Bool) : List Expr → Bool
  | [] => false
  | .form (.comprehension isAsync) parts :: rest =>
    isAsync || waitsClause first parts || waitsInside false rest
  | e :: rest => waits e || waitsInside first rest

def waitsClause (first : Bool) : List Expr → Bool
  | target :: iter :: conditions => waits target || (!first && waits iter) || waitsAny conditions
  | _ => false
end

mutual
def yields : Expr → Bool
  | .literal _ | .name _ => false
  | .walrus _ value => yields value
  | .not operand => yields operand
  | .junction _ operands => yieldsAny operands
  | .compare left _ rights => yields left || yieldsAny rights
  | .cond test body orelse => yields test || yields body || yields orelse
  | .call callee args keywords => yields callee || yieldsAny args || yieldsAny keywords
  | .keyword _ value => yields value
  | .member value _ => yields value
  | .subscript value index => yields value || yields index
  | .starred value => yields value
  | .tuple items => yieldsAny items
  | .list items => yieldsAny items
  | .binary _ left right => yields left || yields right
  | .form kind parts =>
    match kind with
    | .yield | .yieldFrom => true
    | .lambda => yieldsFirst parts
    | _ => yieldsAny parts

def yieldsAny : List Expr → Bool
  | [] => false
  | e :: rest => yields e || yieldsAny rest

def yieldsFirst : List Expr → Bool
  | [] => false
  | e :: _ => yields e
end

def isActive (e : Expr) : Bool :=
  e.subterms.any fun
    | .walrus _ _ | .form .await _ | .form .yield _ | .form .yieldFrom _ => true
    | _ => false

def parameterNames (parts : List Expr) : List String :=
  parts.filterMap fun
    | .form (.parameter _ name) _ => some name
    | _ => none

def areFresh (names : List String) : Bool :=
  names.eraseDups.length = names.length && !names.any isConstantName

def keywordNames (keywords : List Expr) : List String :=
  keywords.filterMap fun
    | .keyword name _ => name
    | _ => none

def clauseTargets (parts : List Expr) : List String :=
  parts.flatMap fun
    | .form (.comprehension _) (target :: _) => target.names
    | _ => []

def isStarredItem : Expr → Bool
  | .starred _ => true
  | _ => false

def maxBeforeStar : Nat := 255

def hasOneStar (items : List Expr) : Bool :=
  (items.filter isStarredItem).length ≤ 1 &&
    (!items.any isStarredItem || (items.takeWhile fun e => !isStarredItem e).length ≤ maxBeforeStar)

mutual
/-- Whether an expression may stand in a scope. `inIter` says whether it is part of what a comprehension runs over. -/
def placed (s : Scope) (inIter : Bool) : Expr → Bool
  | .literal _ | .name _ => true
  | .walrus target value =>
    !isConstantName target && !inIter && s.admitsWalrus target && placed s inIter value
  | .not operand => placed s inIter operand
  | .junction _ operands => placedAll s inIter operands
  | .compare left _ rights => placed s inIter left && placedAll s inIter rights
  | .cond test body orelse => placed s inIter test && placed s inIter body && placed s inIter orelse
  | .call callee args keywords =>
    placed s inIter callee && placedItems s inIter args && placedAll s inIter keywords && areFresh (keywordNames keywords)
  | .keyword _ value => placed s inIter value
  | .member value _ => placed s inIter value
  | .subscript value index => placed s inIter value && placed s inIter index
  | .starred _ => false
  | .tuple items => placedItems s inIter items
  | .list items => placedItems s inIter items
  | .binary _ left right => placed s inIter left && placed s inIter right
  | .form kind parts =>
    match kind with
    | .set => placedItems s inIter parts
    | .await => s.admitsAwait && placedAll s inIter parts
    | .yield => s.admitsYield && placedAll s inIter parts
    | .yieldFrom => s.admitsYieldFrom && placedAll s inIter parts
    | .lambda => placedLambda s inIter parts
    | .parameters => areFresh (parameterNames parts) && placedAll s inIter parts
    | .generator => placedParts s (s.enter (clauseTargets parts)) inIter true parts
    | .listComp | .setComp | .dictComp =>
      (s.admitsAwait || !waitsInside true parts) &&
        placedParts s (s.enter (clauseTargets parts)) inIter true parts
    | _ => placedAll s inIter parts

def placedAll (s : Scope) (inIter : Bool) : List Expr → Bool
  | [] => true
  | e :: rest => placed s inIter e && placedAll s inIter rest

def placedItems (s : Scope) (inIter : Bool) : List Expr → Bool
  | [] => true
  | .starred e :: rest => placed s inIter e && placedItems s inIter rest
  | e :: rest => placed s inIter e && placedItems s inIter rest

def placedLambda (s : Scope) (inIter : Bool) : List Expr → Bool
  | [] => true
  | [e] => placed .lambda inIter e
  | e :: rest => placed s inIter e && placedLambda s inIter rest

def placedParts (outer inner : Scope) (inIter first : Bool) : List Expr → Bool
  | [] => true
  | .form (.comprehension _) parts :: rest =>
    placedClause outer inner inIter first parts && placedParts outer inner inIter false rest
  | e :: rest => placed inner inIter e && placedParts outer inner inIter first rest

def placedClause (outer inner : Scope) (inIter first : Bool) : List Expr → Bool
  | target :: iter :: conditions =>
    placedTarget inner inIter target && placed (if first then outer else inner) true iter &&
      placedAll inner inIter conditions
  | _ => true

def placedTarget (s : Scope) (inIter : Bool) : Expr → Bool
  | .name id => !isConstantName id
  | .member value field => placed s inIter value && !isConstantName field
  | .subscript value index => placed s inIter value && placed s inIter index
  | .tuple items => hasOneStar items && placedTargets s inIter items
  | .list items => hasOneStar items && placedTargets s inIter items
  | _ => false

def placedTargets (s : Scope) (inIter : Bool) : List Expr → Bool
  | [] => true
  | .starred e :: rest => placedTarget s inIter e && placedTargets s inIter rest
  | e :: rest => placedTarget s inIter e && placedTargets s inIter rest
end

mutual
def placedDeletion (s : Scope) : Expr → Bool
  | .name id => !isConstantName id
  | .member value _ => placed s false value
  | .subscript value index => placed s false value && placed s false index
  | .tuple items => placedDeletions s items
  | .list items => placedDeletions s items
  | _ => false

def placedDeletions (s : Scope) : List Expr → Bool
  | [] => true
  | e :: rest => placedDeletion s e && placedDeletions s rest
end

end NullContract.Loaded
