import NullContract.Contract.Clause

namespace NullContract

inductive ContractFault where
  | clause (error : ClauseError)
  | arity (tokens parameters : Nat)
  | unknownToken (token : Text)
deriving DecidableEq

def ContractFault.message : ContractFault → Text
  | clause error => error.message
  | arity tokens parameters =>
    "Antecedent has " ++ toString tokens ++ " value constraint(s) but " ++ toString parameters ++
      " parameter(s) were given"
  | unknownToken token => "Unknown value constraint: " ++ token

/-- Why a body is not checked against a contract although nothing is wrong with it. -/
inductive ContractLimit where
  | clauseCount (count : Nat)
  | notCheckable
deriving DecidableEq

def ContractLimit.message : ContractLimit → Text
  | clauseCount count =>
    "Contract has " ++ toString count ++ " clauses; only single-clause contracts are checked"
  | notCheckable =>
    "Contract is valid but its body cannot be checked (antecedent must use _, null, !null and the consequent must be !null)"

structure Validation where
  faults : List ContractFault := []
  limits : List ContractLimit := []
  checkable : Bool := false
deriving DecidableEq

namespace Validation

def valid (v : Validation) : Bool :=
  v.faults.isEmpty

def deepCheckable (v : Validation) : Bool :=
  v.valid && v.checkable

end Validation

def Clause.faults (c : Clause) (parameters : Nat) : List ContractFault :=
  (if c.binding.tokens.length ≠ parameters then [.arity c.binding.tokens.length parameters] else []) ++
    c.unknownTokens.map .unknownToken

def validateClause (clause : Text) (parameters : Nat) : Validation :=
  match readClause clause with
  | .error e => { faults := [.clause e] }
  | .ok c =>
    { faults := c.faults parameters
      limits := if c.valid && !c.checkable then [.notCheckable] else []
      checkable := c.checkable }

def validateContract (contract : Text) (parameters : List String) : Validation :=
  match clauses contract with
  | [clause] => validateClause clause parameters.length
  | list => { limits := [.clauseCount list.length] }

end NullContract
