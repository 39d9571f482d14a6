import NullContract.Syntax.Expr

namespace NullContract

/-- Why a source text cannot be read: it is not in the language, it holds a NUL character, or it holds a surrogate
and so is no string of characters. -/
inductive SourceError where
  | malformed
  | nulCharacter
  | surrogate
deriving DecidableEq

abbrev Reader := Text → Except SourceError Expr

mutual
def Expr.admitsNoneBy (quoted : Text → Except SourceError Bool) : Expr → Except SourceError Bool
  | .literal .none => .ok true
  | .literal (.text text) => quoted text
  | .binary .bitOr left right => do
    if ← left.admitsNoneBy quoted then return true
    right.admitsNoneBy quoted
  | .subscript head (.tuple members) =>
    if head.simpleName? = some "Optional" then .ok true
    else if head.simpleName? = some "Union" then anyAdmitsNoneBy quoted members
    else .ok false
  | .subscript head member =>
    if head.simpleName? = some "Optional" then .ok true
    else if head.simpleName? = some "Union" then member.admitsNoneBy quoted
    else .ok false
  | _ => .ok false

def anyAdmitsNoneBy (quoted : Text → Except SourceError Bool) : List Expr → Except SourceError Bool
  | [] => .ok false
  | member :: rest => do
    if ← member.admitsNoneBy quoted then return true
    anyAdmitsNoneBy quoted rest
end

/-- Reads a quoted hint through at most `fuel` levels of quoting. Text that is not an expression admits
nothing. -/
def quotedAdmitsNone (read : Reader) : (fuel : Nat) → Text → Except SourceError Bool
  | 0, _ => .ok false
  | fuel + 1, text =>
    match read text with
    | .ok hint => hint.admitsNoneBy (quotedAdmitsNone read fuel)
    | .error .malformed => .ok false
    | .error e => .error e

/-- Whether a hint admits `None`. A string is longer than the strings quoted in it, so its length
bounds the levels of quoting. -/
def Expr.admitsNone (read : Reader) (hint : Expr) : Except SourceError Bool :=
  hint.admitsNoneBy fun text => quotedAdmitsNone read (text.length + 1) text

end NullContract
