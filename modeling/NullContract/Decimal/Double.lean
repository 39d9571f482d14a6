import NullContract.Decimal.Shortest

/-!
Doubles with their signs, infinities and the value that is no number, and the arithmetic on them. Every result is
the double nearest to the exact one.
-/

namespace NullContract

inductive Double where
  | finite (negative : Bool) (magnitude : Magnitude)
  | infinite (negative : Bool)
  | nan
deriving DecidableEq, Inhabited

namespace Double

def zero : Double :=
  finite false .zero

def ofRatio (negative : Bool) (num den : Nat) : Double :=
  let magnitude := Magnitude.ofRatio num den
  if magnitude.exponent > 971 then infinite negative else finite negative magnitude

/-- The double nearest to `digits * 10 ^ exponent`. Numbers that are far too large or too small are not computed. -/
def ofDecimal (negative : Bool) (digits : Nat) (exponent : Int) : Double :=
  let size : Int := (Nat.toDigits 10 digits).length + exponent
  if digits = 0 || size < -400 then finite negative .zero
  else if size > 400 then infinite negative
  else
    let (num, den) := scaleRatio digits 1 10 exponent
    ofRatio negative num den

def ofInt (n : Int) : Double :=
  ofRatio (n < 0) n.natAbs 1

def isNegative : Double → Bool
  | finite negative _ => negative
  | infinite negative => negative
  | nan => false

def isZero : Double → Bool
  | finite _ magnitude => magnitude.mantissa = 0
  | _ => false

def neg : Double → Double
  | finite negative magnitude => finite (!negative) magnitude
  | infinite negative => infinite (!negative)
  | nan => nan

def ratio? : Double → Option (Int × Nat)
  | finite negative magnitude =>
    let (num, den) := magnitude.ratio
    some (if negative then -(num : Int) else num, den)
  | _ => none

/-- The double nearest to a fraction; `negative` is the sign of a zero. -/
def ofSigned (negative : Bool) (num : Int) (den : Nat) : Double :=
  if num = 0 then finite negative .zero else ofRatio (num < 0) num.natAbs den

def add : Double → Double → Double
  | nan, _ => nan
  | _, nan => nan
  | infinite a, infinite b => if a = b then infinite a else nan
  | infinite a, _ => infinite a
  | _, infinite b => infinite b
  | x@(finite a _), y@(finite b _) =>
    match x.ratio?, y.ratio? with
    | some (n, d), some (m, e) => ofSigned (a && b) (n * e + m * d) (d * e)
    | _, _ => nan

def sub (x y : Double) : Double :=
  x.add y.neg

def mul : Double → Double → Double
  | nan, _ => nan
  | _, nan => nan
  | infinite a, y => if y.isZero then nan else infinite (a != y.isNegative)
  | x, infinite b => if x.isZero then nan else infinite (x.isNegative != b)
  | x@(finite a _), y@(finite b _) =>
    match x.ratio?, y.ratio? with
    | some (n, d), some (m, e) => ofSigned (a != b) (n * m) (d * e)
    | _, _ => nan

def div : Double → Double → Double
  | nan, _ => nan
  | _, nan => nan
  | infinite _, infinite _ => nan
  | infinite a, y => infinite (a != y.isNegative)
  | x, infinite b => finite (x.isNegative != b) .zero
  | x@(finite a _), y@(finite b _) =>
    match x.ratio?, y.ratio? with
    | some (n, d), some (m, e) => ofSigned (a != b) (n * e * m.sign) (d * m.natAbs)
    | _, _ => nan

def compare? : Double → Double → Option Ordering
  | nan, _ => none
  | _, nan => none
  | infinite a, infinite b => some (if a = b then .eq else if a then .lt else .gt)
  | infinite a, _ => some (if a then .lt else .gt)
  | _, infinite b => some (if b then .gt else .lt)
  | x, y =>
    match x.ratio?, y.ratio? with
    | some (n, d), some (m, e) => some (compare (n * e) (m * d))
    | _, _ => none

def compareInt? (n : Int) : Double → Option Ordering
  | nan => none
  | infinite negative => some (if negative then .gt else .lt)
  | x => x.ratio?.map fun (m, d) => compare (n * d) m

def toInt? (x : Double) : Option Int :=
  match x.ratio? with
  | some (num, den) => if num % den = 0 then some (num / den) else none
  | none => none

def roundPlaces (places : Nat) : Double → Double
  | finite negative magnitude => finite negative (magnitude.roundPlaces places)
  | x => x

def textWith (infinity noNumber : String) : Double → String
  | finite negative magnitude => (if negative then "-" else "") ++ magnitude.text
  | infinite negative => (if negative then "-" else "") ++ infinity
  | nan => noNumber

def text : Double → String :=
  textWith "inf" "nan"

end Double

end NullContract
