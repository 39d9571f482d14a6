import NullContract.Flow.Exec
import NullContract.Guard.Site
import NullContract.Syntax.Signature

namespace NullContract

abbrev Oracle := Function → Env → Nat → Site → Except SourceError Nullness

/-- The verdict on what a site returns from a state. A site that cannot be reached returns nothing, and a bare
return gives null. -/
def Site.verdict (site : Site) : State → Nullness
  | none => .nonNull
  | some env =>
    match site.value with
    | none => .null
    | some value => value.evaluate env

def flowOracle (read : Reader) : Oracle :=
  fun fn assumptions index site => do
    let entry ← fn.entry read assumptions
    return site.verdict ((fn.returnStates entry)[index]?.getD none)

def Oracle.verdicts (oracle : Oracle) (fn : Function) (assumptions : Env) :
    Except SourceError (List (Site × Nullness)) :=
  fn.sites.zipIdx.mapM fun (site, index) => return (site, ← oracle fn assumptions index site)

end NullContract
