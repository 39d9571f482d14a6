import NullContract.Check.Diagnostic
import NullContract.Check.Oracle
import NullContract.Text.Quoted

/-!
Checking one function against its contract. The contract text is always validated; the body is checked if
deep checking is on and the contract is a single clause that speaks of nullness and promises a non-null
result.
-/

namespace NullContract

structure Candidate where
  subject : Subject
  function : Function
  source : String

inductive CheckState where
  | notAContract
  | invalidShape
  | tokenInvalid
  | unsupported
  | done
deriving DecidableEq

namespace CheckState

def text : CheckState → String
  | notAContract => "not_a_contract_method"
  | invalidShape => "parsed_invalid_shape"
  | tokenInvalid => "token_invalid"
  | unsupported => "unsupported_but_valid"
  | done => "done"

end CheckState

inductive LogEntry where
  | skipped (qualname : String) (clauses : Nat)
  | notDeepChecked (qualname : String) (contract : Text)
  | deepChecking (qualname : String)
  | unreachable (qualname : String) (line : Nat) (verdict : Nullness) (clause : Text)
  | finished (qualname : String)

namespace LogEntry

def message : LogEntry → String
  | skipped qualname clauses => qualname ++ ": " ++ toString clauses ++ " clauses, skipping"
  | notDeepChecked qualname contract => qualname ++ ": contract " ++ quoted contract ++ " not deep-checked"
  | deepChecking qualname => qualname ++ ": deep_checking"
  | unreachable qualname line verdict clause =>
    qualname ++ ":" ++ toString line ++ ": " ++ verdict.text ++ " return unreachable under " ++ quoted clause
  | finished qualname => qualname ++ ": done"

end LogEntry

structure BodyCheck where
  assumptions : Env
  verdicts : List (Site × Nullness)

structure Checked where
  state : CheckState
  diagnostics : List Diagnostic := []
  log : List LogEntry := []
  body : Option BodyCheck := none

def assumptions (antecedent : List Constraint) (parameters : List String) : Env :=
  (antecedent.zip parameters).foldl
    (fun env (constraint, parameter) =>
      match constraint.assumption? with
      | some verdict => env.insert parameter verdict
      | none => env) ∅

def Site.reachableUnder (site : Site) (antecedent : List Constraint) (parameters : List String) : Bool :=
  (antecedent.zip parameters).all fun (constraint, parameter) =>
    constraint ≠ .nonNull || site.reachableWhenNonNull parameter

abbrev Reachability := Site → List Constraint → List String → Bool

def BodyCheck.violations (body : BodyCheck) (reachable : Site → Bool) : List Site :=
  (body.verdicts.filter fun (site, verdict) => verdict.mayBeNull && reachable site).map (·.1)

def BodyCheck.exempt (body : BodyCheck) (reachable : Site → Bool) : List (Site × Nullness) :=
  body.verdicts.filter fun (site, verdict) => verdict.mayBeNull && !reachable site

def clauseFindings (clause : Clause) (parameters : List String) : List Finding :=
  let arity :=
    if clause.binding.tokens.length = parameters.length then []
    else [.arityMismatch clause.text clause.binding.tokens.length]
  arity ++ clause.unknownTokens.map (.unknownConstraint clause.text)

def checkBody (oracle : Oracle) (reachability : Reachability) (c : Candidate) (clause : Clause) :
    Except SourceError Checked := do
  let assumed := assumptions clause.antecedent c.subject.parameters
  let body : BodyCheck := ⟨assumed, ← oracle.verdicts c.function assumed⟩
  let reachable := fun site => reachability site clause.antecedent c.subject.parameters
  let violations := body.violations reachable
  let exempt := body.exempt reachable
  return {
    state := .done
    diagnostics := violations.map fun site =>
      Finding.diagnostic c.subject (.violation site.position clause.antecedent)
    log := .deepChecking c.subject.qualname ::
      (exempt.map fun (site, verdict) =>
        .unreachable c.subject.qualname site.position.line verdict clause.text) ++
      [.finished c.subject.qualname]
    body := some body }

def checkClause (oracle : Oracle) (reachability : Reachability) (deep : Bool) (c : Candidate)
    (contract clause : Text) : Except SourceError Checked :=
  match readClause clause with
  | .error e =>
    .ok { state := .tokenInvalid, diagnostics := [Finding.diagnostic c.subject (.unparseable e.clause)] }
  | .ok clause =>
    let findings := (clauseFindings clause c.subject.parameters).map (Finding.diagnostic c.subject)
    if !clause.valid then .ok { state := .tokenInvalid, diagnostics := findings }
    else if !clause.deepCheckable deep then
      .ok {
        state := .unsupported
        diagnostics := findings
        log := [.notDeepChecked c.subject.qualname contract] }
    else (checkBody oracle reachability c clause).map fun checked =>
      { checked with diagnostics := findings ++ checked.diagnostics }

/-- Checks a function against its contract. Contracts of several clauses are accepted as they are. -/
def checkBy (oracle : Oracle) (reachability : Reachability) (deep : Bool) (c : Candidate) :
    Except SourceError Checked :=
  match c.subject.contract with
  | none => .ok { state := .notAContract }
  | some contract =>
    match clauses contract with
    | [clause] => checkClause oracle reachability deep c contract clause.strip
    | several =>
      .ok { state := .invalidShape, log := [.skipped c.subject.qualname several.length] }

def check (oracle : Oracle) (deep : Bool) (c : Candidate) : Except SourceError Checked :=
  checkBy oracle Site.reachableUnder deep c

end NullContract
