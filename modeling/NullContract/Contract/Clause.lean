import NullContract.Contract.Constraint
import NullContract.Text.Blank
import NullContract.Text.Split

/-!
Contract text: clauses separated by `;`, each of the form `antecedent -> consequent`, with the tokens of
the antecedent separated by `,`.
-/

namespace NullContract

def dropTrailingEmpty (parts : List Text) : List Text :=
  (parts.reverse.dropWhile List.isEmpty).reverse

/-- The clauses of a contract. A `;` at the end adds no clause, and an empty contract has none. -/
def clauses (contract : Text) : List Text :=
  dropTrailingEmpty (pieces (.char ';') contract)

inductive ClauseFault where
  | noArrow
  | manyArrows
deriving DecidableEq

namespace ClauseFault

def detail : ClauseFault → String
  | noArrow => "missing '->'"
  | manyArrows => "more than one '->'"

end ClauseFault

structure ClauseError where
  clause : Text
  fault : ClauseFault
deriving DecidableEq

namespace ClauseError

def message (e : ClauseError) : Text :=
  "unparseable clause: " ++ e.clause ++ " (" ++ e.fault.detail ++ ")"

end ClauseError

def cutArrow : Text → Option (Text × Text)
  | [] => none
  | .char '-' :: .char '>' :: rest => some ([], rest)
  | c :: rest => (cutArrow rest).map fun (before, after) => (c :: before, after)

def antecedentTokens (antecedent : Text) : List Text :=
  if antecedent.strip = [] then [] else (pieces (.char ',') antecedent).map Text.strip

structure Binding where
  tokens : List Text
  consequent : Text
deriving DecidableEq

def bindClause (clause : Text) : Except ClauseError Binding :=
  match cutArrow clause with
  | none => .error ⟨clause.strip, .noArrow⟩
  | some (antecedent, consequent) =>
    if (cutArrow consequent).isSome then .error ⟨clause.strip, .manyArrows⟩
    else .ok ⟨antecedentTokens antecedent, consequent.strip⟩

def readToken (token : Text) : Option Constraint :=
  Constraint.ofText? token.strip

/-- A clause that could be divided, with the constraints it states. Tokens outside the vocabulary are kept
as `unknownTokens`; the consequent is `none` if it is outside the vocabulary. -/
structure Clause where
  text : Text
  binding : Binding
  antecedent : List Constraint
  consequent : Option Constraint
  unknownTokens : List Text
deriving DecidableEq

def readClause (clause : Text) : Except ClauseError Clause := do
  let binding ← bindClause clause
  return {
    text := clause.strip
    binding := binding
    antecedent := binding.tokens.filterMap readToken
    consequent := readToken binding.consequent
    unknownTokens := binding.tokens.filter fun token => (readToken token).isNone }

namespace Clause

def valid (c : Clause) : Bool :=
  c.unknownTokens.isEmpty

def checkable (c : Clause) : Bool :=
  c.valid && c.antecedent.all Constraint.checkable && c.consequent = some .nonNull

def deepCheckable (c : Clause) (enabled : Bool) : Bool :=
  enabled && c.checkable

end Clause

def nonNullPositions (antecedent : List Constraint) : List Nat :=
  (antecedent.zipIdx.filter (·.1 = .nonNull)).map (·.2)

end NullContract
