import NullContract.Source.Grammar.Statement
import NullContract.Source.Lines
import NullContract.Syntax.Hint

namespace NullContract.Source

open Parse

/-- Enough levels for the constructs of a text: each level has a character of its own. -/
def levels (cs : List Char) : Nat :=
  2 * cs.length + 8

def textEnd : Parse Unit :=
  expect fun
    | .textEnd => true
    | _ => false

def moduleRule (r : Rules) : Parse (List Stmt) := do
  let body ← many r.statement r.fuel
  textEnd
  return body.flatten

def soleExpression (r : Rules) : Parse Expr := do
  let e := tupleUnlessSingle (← commaList r.expression (sees startsExpression) r.fuel)
  let _ ← many lineEnd r.fuel
  textEnd
  return e

def readBy {α : Type} (rule : Rules → Parse α) (firstLine : Nat) (source cs : List Char) : Except SourceError α :=
  if source.contains '\x00' then .error .nulCharacter
  else
    let result := do
      let tokens ← tokens firstLine cs
      (rule (rules (levels cs))).run ⟨tokens, ⟨firstLine, 0⟩⟩
    match result with
    | some (a, _) => .ok a
    | none => .error .malformed

/-- The lines of a module, with a line end added to the last one unless it has a single character for it. A pair of
carriage return and line feed at the end counts as none, so that an empty line follows it. -/
def closedLines (cs : List Char) : List Char :=
  match cs.reverse with
  | '\n' :: '\r' :: _ => unifyLineEnds cs ++ ['\n']
  | '\n' :: _ | '\r' :: _ => unifyLineEnds cs
  | _ => unifyLineEnds cs ++ ['\n']

def readModuleFrom (firstLine : Nat) (source : String) : Except SourceError (List Stmt) :=
  readBy moduleRule firstLine source.toList (closedLines source.toList)

def readModule (source : String) : Except SourceError (List Stmt) :=
  readModuleFrom 1 source

def readExpression (text : Text) : Except SourceError Expr :=
  match text.chars? with
  | some cs => readBy soleExpression 1 cs (unifyLineEnds cs)
  | none => .error .surrogate

end NullContract.Source
