import NullContract.Contract.Clause
import NullContract.Guard.Site

namespace NullContract

structure Location where
  filename : String
  position : Position
deriving DecidableEq, Inhabited

namespace Location

def text (l : Location) : String :=
  l.filename ++ ":" ++ toString l.position.line ++ ":" ++ toString (l.position.col + 1)

end Location

inductive DiagnosticKind where
  | invalidContract
  | violation
deriving DecidableEq

namespace DiagnosticKind

def text : DiagnosticKind → String
  | invalidContract => "ANNOTATION_VALUE_INVALID"
  | violation => "CONTRACT_VIOLATION"

end DiagnosticKind

structure Diagnostic where
  kind : DiagnosticKind
  message : Text
  location : Location
  function : Option String := none
  contract : Option Text := none
deriving DecidableEq

namespace Diagnostic

def text (d : Diagnostic) : Text :=
  d.location.text ++ ": [" ++ d.kind.text ++ "] " ++ d.message

end Diagnostic

structure Subject where
  name : String
  qualname : String
  contract : Option Text
  parameters : List String
  location : Location

inductive Finding where
  | unknownConstraint (clause token : Text)
  | unparseable (clause : Text)
  | arityMismatch (clause : Text) (count : Nat)
  | violation (position : Position) (antecedent : List Constraint)

def contractHelp : String :=
  "https://www.jetbrains.com/help/idea/contract-annotations.html"

namespace Finding

def kind : Finding → DiagnosticKind
  | unknownConstraint _ _ | unparseable _ | arityMismatch _ _ => .invalidContract
  | violation _ _ => .violation

def location (subject : Subject) : Finding → Location
  | violation position _ => { subject.location with position := position }
  | unknownConstraint _ _ | unparseable _ | arityMismatch _ _ => subject.location

def clauseFault (subject : Subject) (clause : Text) : Text :=
  "Invalid @contract annotation detected for function " ++ subject.qualname ++
    ". It contains the following unparseable clause: " ++ clause ++ " "

def circumstance (parameters : List String) (antecedent : List Constraint) : String :=
  match nonNullPositions antecedent with
  | [position] =>
    match parameters[position]? with
    | some parameter => "when parameter " ++ parameter ++ " is non-null."
    | none => "when the contract preconditions are true."
  | _ => "when the contract preconditions are true."

def message (subject : Subject) : Finding → Text
  | unknownConstraint clause token =>
    clauseFault subject clause ++ "(unknown value constraint: " ++ token ++ ", see " ++ contractHelp ++ ")."
  | unparseable clause => clauseFault subject clause ++ "(see " ++ contractHelp ++ ")."
  | arityMismatch clause count =>
    clauseFault subject clause ++ "(incorrect number of arguments in the clause's antecedent [" ++
      toString count ++ "], should be the same as the number of arguments for the function [" ++
      toString subject.parameters.length ++ "])."
  | violation _ antecedent =>
    "Function " ++ subject.name ++ " has @contract(" ++ subject.contract.getD "None" ++
      "), but this appears to be violated, as a nullable value may be returned " ++
      circumstance subject.parameters antecedent

def diagnostic (subject : Subject) (finding : Finding) : Diagnostic where
  kind := finding.kind
  message := finding.message subject
  location := finding.location subject
  function := some subject.qualname
  contract := subject.contract

end Finding

end NullContract
