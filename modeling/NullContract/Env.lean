import Std.Data.ExtTreeMap
import NullContract.Nullness

/-!
Environments map names to verdicts, and a state is an environment or the mark that a point cannot be
reached. Joining two states keeps the names of both; a name that only one of them has counts as
unknown in the other.
-/

namespace NullContract

abbrev Env := Std.ExtTreeMap String Nullness

namespace Env

def verdict (env : Env) (name : String) : Nullness :=
  env[name]?.getD .unknown

def join (a b : Env) : Env :=
  (a ∪ b).map fun name _ => (a.verdict name).join (b.verdict name)

def refine (env : Env) (name : String) (required : Nullness) : Option Env :=
  match required, env.verdict name with
  | .null, .nonNull => none
  | .nonNull, .null => none
  | _, _ => some (env.insert name required)

def bindAll (env : Env) (names : List String) (verdict : Nullness) : Env :=
  names.foldl (fun env name => env.insert name verdict) env

end Env

/-- An environment, or `none` at a point that cannot be reached. -/
abbrev State := Option Env

namespace State

def join : State → State → State
  | none, b => b
  | a, none => a
  | some a, some b => some (a.join b)

def joinAll (states : List State) : State :=
  states.foldl join none

def refine (state : State) (name : String) (required : Nullness) : State :=
  state.bind fun env => env.refine name required

end State

end NullContract
