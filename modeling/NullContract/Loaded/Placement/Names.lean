import NullContract.Loaded.Placement.Statement

/-!
The names that a scope takes from outside. A scope says so before it does anything else with such a name, and a name
of an enclosing function has to be bound there.
-/

namespace NullContract.Loaded

inductive Mention where
  | read (name : String)
  | bound (name : String)
  | imported (name : String)
  | hinted (name : String)
  | outer (scope : OuterScope) (name : String)
deriving DecidableEq

namespace Mention

def boundName? : Mention → Option String
  | bound name | imported name | hinted name => some name
  | read _ | outer _ _ => none

def outerName? (scope : OuterScope) : Mention → Option String
  | outer own name => if own = scope then some name else none
  | _ => none

def isBinding : Mention → Bool
  | bound _ => true
  | _ => false

end Mention

mutual
/-- What an expression does with the names of its scope. A comprehension has a scope of its own, but binds names
outside of it. -/
def mentions : Expr → List Mention
  | .literal _ => []
  | .name id => [.read id]
  | .walrus target value => mentions value ++ [.bound target]
  | .not operand => mentions operand
  | .junction _ operands => mentionsOf operands
  | .compare left _ rights => mentions left ++ mentionsOf rights
  | .cond test body orelse => mentions test ++ mentions body ++ mentions orelse
  | .call callee args keywords => mentions callee ++ mentionsOf args ++ mentionsOf keywords
  | .keyword _ value => mentions value
  | .member value _ => mentions value
  | .subscript value index => mentions value ++ mentions index
  | .starred value => mentions value
  | .tuple items => mentionsOf items
  | .list items => mentionsOf items
  | .binary _ left right => mentions left ++ mentions right
  | .form kind parts =>
    match kind with
    | .lambda => mentionsOfFirst parts
    | .listComp | .setComp | .dictComp | .generator => mentionsOfParts true parts
    | _ => mentionsOf parts

def mentionsOf : List Expr → List Mention
  | [] => []
  | e :: rest => mentions e ++ mentionsOf rest

def mentionsOfFirst : List Expr → List Mention
  | [] => []
  | e :: _ => mentions e

def mentionsOfParts (first : Bool) : List Expr → List Mention
  | [] => []
  | .form (.comprehension _) parts :: rest => mentionsOfClause first parts ++ mentionsOfParts false rest
  | e :: rest => (mentions e).filter Mention.isBinding ++ mentionsOfParts first rest

def mentionsOfClause (first : Bool) : List Expr → List Mention
  | _ :: iter :: conditions =>
    (if first then mentions iter else (mentions iter).filter Mention.isBinding) ++ (mentionsOf conditions).filter Mention.isBinding
  | _ => []
end

mutual
def targetMentions : Expr → List Mention
  | .name id => [.bound id]
  | .tuple items => targetMentionsOf items
  | .list items => targetMentionsOf items
  | .starred target => targetMentions target
  | e => mentions e

def targetMentionsOf : List Expr → List Mention
  | [] => []
  | e :: rest => targetMentions e ++ targetMentionsOf rest
end

def hintedMentions : Expr → List Mention
  | .name id => [.hinted id]
  | e => targetMentions e

mutual
def statementMentions : Stmt → List Mention
  | s@(.function header _) => .bound header.name :: mentionsOf (ownExprs s)
  | s@(.classDef header _) => .bound header.name :: mentionsOf (ownExprs s)
  | .ret _ value => mentionsOf value.toList
  | .delete targets => targetMentionsOf targets
  | .assign targets value => targetMentionsOf targets ++ mentions value
  | .augAssign target _ value => targetMentions target ++ mentions value
  | .annAssign target hint value => hintedMentions target ++ mentions hint ++ mentionsOf value.toList
  | .forLoop _ target iter body orelse =>
    targetMentions target ++ mentions iter ++ blockMentions body ++ blockMentions orelse
  | .whileLoop test body orelse => mentions test ++ blockMentions body ++ blockMentions orelse
  | .ifElse _ test body orelse => mentions test ++ blockMentions body ++ blockMentions orelse
  | .withBlock _ items body =>
    items.flatMap (fun item => mentions item.context ++ targetMentionsOf item.target.toList) ++ blockMentions body
  | .matchCases subject cases => mentions subject ++ caseMentions cases
  | .raise cause => mentionsOf cause
  | .tryBlock body handlers orelse final =>
    blockMentions body ++ blockMentions orelse ++ handlerMentions handlers ++ blockMentions final
  | .assert test message => mentions test ++ mentionsOf message.toList
  | .imports _ names => names.map fun a => .imported a.bound
  | .outer scope names => names.map (.outer scope)
  | .expr value => mentions value
  | .break | .continue | .pass => []

def blockMentions : List Stmt → List Mention
  | [] => []
  | s :: rest => statementMentions s ++ blockMentions rest

def handlerMentions : List Handler → List Mention
  | [] => []
  | .mk _ kind name body :: rest =>
    mentionsOf kind.toList ++ name.toList.map .bound ++ blockMentions body ++ handlerMentions rest

def caseMentions : List Case → List Mention
  | [] => []
  | .mk pattern guard body :: rest =>
    pattern.captures.map .bound ++ mentionsOf guard.toList ++ blockMentions body ++ caseMentions rest
end

/-- Whether the names from outside are declared as such before anything is done with them. `known` are the names that
something was done with, `declared` those from outside. An import does not count. -/
def declaresInTime (isModule : Bool) : (known declared : List String) → List Mention → Bool
  | _, _, [] => true
  | known, declared, m :: rest =>
    match m with
    | .read id | .bound id => declaresInTime isModule (id :: known) declared rest
    | .imported _ => declaresInTime isModule known declared rest
    | .hinted id => (isModule || !declared.contains id) && declaresInTime isModule (id :: known) declared rest
    | .outer _ id => !known.contains id && declaresInTime isModule known (id :: declared) rest

def findsNames (enclosing : List String) (mentions : List Mention) : Bool :=
  let ofModule := mentions.filterMap (Mention.outerName? .module)
  (mentions.filterMap (Mention.outerName? .enclosing)).all fun id => enclosing.contains id && !ofModule.contains id

def visibleNames (enclosing params : List String) (mentions : List Mention) : List String :=
  let ofModule := mentions.filterMap (Mention.outerName? .module)
  (enclosing ++ params ++ mentions.filterMap Mention.boundName?).filter fun id => !ofModule.contains id

mutual
def scopedStatement (enclosing : List String) : Stmt → Bool
  | .function header body =>
    let params := header.signature.names
    let own := blockMentions body
    declaresInTime false params [] own && findsNames enclosing own &&
      scopedBlock (visibleNames enclosing params own) body
  | .classDef _ body =>
    let own := blockMentions body
    declaresInTime false [] [] own && findsNames enclosing own && scopedBlock ("__class__" :: enclosing) body
  | .forLoop _ _ _ body orelse => scopedBlock enclosing body && scopedBlock enclosing orelse
  | .whileLoop _ body orelse => scopedBlock enclosing body && scopedBlock enclosing orelse
  | .ifElse _ _ body orelse => scopedBlock enclosing body && scopedBlock enclosing orelse
  | .withBlock _ _ body => scopedBlock enclosing body
  | .matchCases _ cases => scopedCases enclosing cases
  | .tryBlock body handlers orelse final =>
    scopedBlock enclosing body && scopedHandlers enclosing handlers && scopedBlock enclosing orelse &&
      scopedBlock enclosing final
  | _ => true

def scopedBlock (enclosing : List String) : List Stmt → Bool
  | [] => true
  | s :: rest => scopedStatement enclosing s && scopedBlock enclosing rest

def scopedHandlers (enclosing : List String) : List Handler → Bool
  | [] => true
  | .mk _ _ _ body :: rest => scopedBlock enclosing body && scopedHandlers enclosing rest

def scopedCases (enclosing : List String) : List Case → Bool
  | [] => true
  | .mk _ _ body :: rest => scopedBlock enclosing body && scopedCases enclosing rest
end

def scopedModule (module : List Stmt) : Bool :=
  let own := blockMentions module
  declaresInTime true [] [] own && findsNames [] own && scopedBlock [] module

def isLoadable (module : List Stmt) : Bool :=
  placedModule module && scopedModule module

end NullContract.Loaded
