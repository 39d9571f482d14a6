import NullContract.Flow.Meaning
import NullContract.Flow.Outcome
import NullContract.Syntax.Names

/-!
The forward nullness analysis of statements. An unreachable state stays unreachable through every
statement, so a block is analysed in one pass over all of its branches.
-/

namespace NullContract

mutual
/-- Binds the names of an assignment target. The items of a tuple or list may hold anything; a starred
target always holds a list. -/
def Expr.bind : Expr → Nullness → Env → Env
  | .name id, value, env => env.insert id value
  | .tuple items, _, env => bindItems items env
  | .list items, _, env => bindItems items env
  | .starred target, _, env => target.bind .nonNull env
  | _, _, env => env

def bindItems : List Expr → Env → Env
  | [], env => env
  | target :: rest, env => bindItems rest (target.bind .unknown env)
end

def assignTo (targets : List Expr) (value : Expr) (env : Env) : Env :=
  let env := value.effects env
  let verdict := value.evaluate env
  targets.foldl (fun env target => target.bind verdict env) env

def forget (env : Env) : Expr → Env
  | .name id => env.erase id
  | _ => env

def bindItem (env : Env) (item : WithItem) : Env :=
  match item.target with
  | some target => target.bind .unknown env
  | none => env

/-- The number of rounds after which a loop head that only grows must be stable: each name that the loop
or its entry state knows can grow twice. -/
def loopFuel (names : List String) : State → Nat
  | none => 0
  | some env => 2 * (env.size + names.length)

def handlerEntry (entry : State) (body : Outcome) : State :=
  entry.join body.raised

def finalEntry (out handlerIn : State) : State :=
  if out.isSome then out else handlerIn

def matchPattern (subject : Expr) (pattern : Pattern) (state : State) : State :=
  match pattern, subject with
  | .singleton truth, .name id => state.refine id (if truth.isNone then .null else .nonNull)
  | _, _ => state.map fun env => env.bindAll pattern.captures .unknown

def caseEntry (subject : Expr) (pattern : Pattern) (guard : Option Expr) (state : State) : State :=
  let matched := matchPattern subject pattern state
  match guard with
  | some test => test.assume true matched
  | none => matched

def exhaustive (cases : List Case) : Bool :=
  cases.any fun
    | .mk pattern none _ => pattern.irrefutable
    | .mk _ (some _) _ => false

mutual
def Stmt.exec : Stmt → State → Outcome
  | .function header _, state => { next := state.map (·.insert header.name .nonNull) }
  | .classDef header _, state => { next := state.map (·.insert header.name .nonNull) }
  | .ret _ value, state =>
    { next := none
      returned := [state.map fun env => (value.map (·.effects env)).getD env] }
  | .delete targets, state => { next := state.map (targets.foldl forget ·) }
  | .assign targets value, state => { next := state.map (assignTo targets value) }
  | .augAssign target _ value, state =>
    { next := state.map fun env => target.bind .nonNull (value.effects env) }
  | .annAssign target _ value, state =>
    match value with
    | some value => { next := state.map (assignTo [target] value) }
    | none => { next := state }
  | .forLoop isAsync target iter body orelse, state =>
    let fuel := loopFuel (Stmt.forLoop isAsync target iter body orelse).names state
    let (head, last) := iterate (fun head => execBlock body (head.map (target.bind .unknown))) fuel state
    last.afterLoop (execBlock orelse head)
  | .whileLoop test body orelse, state =>
    let fuel := loopFuel (Stmt.whileLoop test body orelse).names state
    let (head, last) := iterate (fun head => execBlock body (test.assume true head)) fuel state
    last.afterLoop (execBlock orelse (test.assume false head))
  | .ifElse _ test body orelse, state =>
    let state := state.map test.effects
    (execBlock body (test.assume true state)).merge (execBlock orelse (test.assume false state))
  | .withBlock _ items body, state => execBlock body (state.map (items.foldl bindItem ·))
  | .matchCases subject cases, state =>
    let out := execCases subject cases state
    if exhaustive cases then out else { out with next := out.next.join state }
  | .raise _, _ => { next := none }
  | .tryBlock body handlers orelse final, state =>
    let body := execBlock body state
    let handlerIn := handlerEntry state body
    let out := body.followedBy ((execHandlers handlers handlerIn).merge (execBlock orelse body.next))
    let last := execBlock final (finalEntry out.next handlerIn)
    { out.merge last with next := out.next.bind fun _ => last.next }
  | .assert test _, state => { next := test.assume true state }
  | .imports _ names, state => { next := state.map (·.bindAll (names.map Alias.bound) .nonNull) }
  | .outer _ _, state => { next := state }
  | .expr value, state => { next := state.map value.effects }
  | .break, state => { next := none, broke := state }
  | .continue, state => { next := none, continued := state }
  | .pass, state => { next := state }

def execBlock : List Stmt → State → Outcome
  | [], state => { next := state }
  | s :: rest, state =>
    let out := s.exec state
    out.cons (execBlock rest out.next)

def execHandlers : List Handler → State → Outcome
  | [], _ => { next := none }
  | .mk _ _ name body :: rest, state =>
    (execBlock body (state.map (·.bindAll name.toList .nonNull))).merge (execHandlers rest state)

def execCases (subject : Expr) : List Case → State → Outcome
  | [], _ => { next := none }
  | .mk pattern guard body :: rest, state =>
    (execBlock body (caseEntry subject pattern guard state)).merge (execCases subject rest state)
end

def Function.returnStates (fn : Function) (entry : Env) : List State :=
  (execBlock fn.body (some entry)).returned

end NullContract
