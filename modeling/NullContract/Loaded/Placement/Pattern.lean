import NullContract.Loaded.Placement.Expression
import NullContract.Loaded.Value

namespace NullContract.Loaded

def literalValue? : Expr → Option Value
  | .literal value => some (.ofLiteral value)
  | .form (.unary .minus) [.literal (.int n)] => some (.int (-n))
  | .form (.unary .minus) [.literal (.float x)] => some (.float x.neg)
  | _ => none

def isTestable : Expr → Bool
  | .literal _ | .member _ _ | .form (.unary _) _ | .binary _ _ _ => true
  | _ => false

def haveDistinctKeys (keys : List Expr) : Bool :=
  let values := keys.filterMap literalValue?
  values.zipIdx.all fun (v, i) => !(values.drop (i + 1)).any fun w => v.equal? w = some true

def isStarPattern : Pattern → Bool
  | .star _ => true
  | _ => false

def freshNames? (names : List String) : Option (List String) :=
  if areFresh names then some names else none

mutual
def patternNames? (mayTakeAll : Bool) : Pattern → Option (List String)
  | .value e => if isTestable e then some [] else none
  | .singleton _ => some []
  | .sequence items =>
    if (items.filter isStarPattern).length ≤ 1 then patternNamesOf? items else none
  | .mapping keys items rest =>
    if keys.all isTestable && haveDistinctKeys keys then
      (patternNamesOf? items).bind fun names => freshNames? (names ++ rest.toList)
    else none
  | .classOf _ items attrs attrItems =>
    if areFresh attrs then do freshNames? ((← patternNamesOf? items) ++ (← patternNamesOf? attrItems)) else none
  | .star name => freshNames? name.toList
  | .capture name => if mayTakeAll then freshNames? name.toList else none
  | .naming inner name => (patternNames? mayTakeAll inner).bind fun names => freshNames? (names ++ [name])
  | .either alternatives => alternativeNames? mayTakeAll none alternatives

def patternNamesOf? : List Pattern → Option (List String)
  | [] => some []
  | p :: rest => do freshNames? ((← patternNames? true p) ++ (← patternNamesOf? rest))

def alternativeNames? (mayTakeAll : Bool) (names : Option (List String)) : List Pattern → Option (List String)
  | [] => some (names.getD [])
  | p :: rest => do
    let own ← patternNames? (mayTakeAll && rest.isEmpty) p
    match names with
    | some others =>
      if own.length = others.length && own.all others.contains then alternativeNames? mayTakeAll names rest else none
    | none => alternativeNames? mayTakeAll (some own) rest
end

def areOrderedPatterns : List (Pattern × Bool) → Bool
  | [] => true
  | (pattern, hasGuard) :: rest =>
    (patternNames? (hasGuard || rest.isEmpty) pattern).isSome && areOrderedPatterns rest

end NullContract.Loaded
