import NullContract.Decimal.Magnitude

/-!
The decimal text of a double: the fewest digits that read back as the same double.
-/

namespace NullContract.Magnitude

structure Decimal where
  digits : Nat
  exponent : Int

def lessRatio (a b : Nat × Nat) : Bool :=
  a.1 * b.2 < b.1 * a.2

/-- The ends of the interval of numbers that round to a double, as fractions. Below a power of two the
doubles are twice as dense. -/
def interval (x : Magnitude) : (Nat × Nat) × (Nat × Nat) :=
  let low :=
    if x.mantissa = Nat.pow 2 52 && x.exponent > -1074 then scaleRatio (4 * x.mantissa - 1) 1 2 (x.exponent - 2)
    else scaleRatio (2 * x.mantissa - 1) 1 2 (x.exponent - 1)
  (low, scaleRatio (2 * x.mantissa + 1) 1 2 (x.exponent - 1))

def roundsTo (x : Magnitude) (value : Nat × Nat) : Bool :=
  let (low, high) := x.interval
  if x.mantissa % 2 = 0 then !lessRatio value low && !lessRatio high value
  else lessRatio low value && lessRatio value high

def order (value : Nat × Nat) : Int :=
  let estimate : Int := ((Nat.toDigits 10 value.1).length : Int) - ((Nat.toDigits 10 value.2).length : Int)
  if lessRatio value (scaleRatio 1 1 10 estimate) then estimate - 1 else estimate

def neighbour? (x : Magnitude) (exponent : Int) : Option Decimal :=
  let (num, den) := x.ratio
  let (n, d) := scaleRatio num den 10 (-exponent)
  let below := n / d
  let lowOk := x.roundsTo (scaleRatio below 1 10 exponent)
  let highOk := x.roundsTo (scaleRatio (below + 1) 1 10 exponent)
  let nearer := if 2 * (n % d) > d || (2 * (n % d) = d && below % 2 = 1) then below + 1 else below
  if lowOk && highOk then some ⟨nearer, exponent⟩
  else if lowOk then some ⟨below, exponent⟩
  else if highOk then some ⟨below + 1, exponent⟩
  else none

def shortestFrom (x : Magnitude) (order : Int) : (fuel : Nat) → (count : Nat) → Decimal
  | 0, _ => ⟨x.mantissa, 0⟩
  | fuel + 1, count =>
    match x.neighbour? (order - (count : Int) + 1) with
    | some decimal => decimal
    | none => shortestFrom x order fuel (count + 1)

def shortest (x : Magnitude) : List Char × Int :=
  let decimal := x.shortestFrom (order x.ratio) 18 1
  let digits := Nat.toDigits 10 decimal.digits
  let point := (digits.length : Int) + decimal.exponent
  let trimmed := (digits.reverse.dropWhile (· = '0')).reverse
  (trimmed, point)

/-- The text of a double: positional from `0.0001` up to sixteen digits before the point, and with an
exponent of at least two digits otherwise. -/
def text (x : Magnitude) : String :=
  if x.mantissa = 0 then "0.0"
  else
    let (digits, point) := x.shortest
    if -4 < point && point ≤ 16 then
      if point ≤ 0 then "0." ++ String.ofList (List.replicate (-point).toNat '0' ++ digits)
      else
        let whole := digits.take point.toNat
        let zeros := List.replicate (point.toNat - digits.length) '0'
        let fraction := digits.drop point.toNat
        String.ofList (whole ++ zeros) ++ "." ++ (if fraction.isEmpty then "0" else String.ofList fraction)
    else
      let exponent := point - 1
      let size := Nat.toDigits 10 exponent.natAbs
      let padded := if size.length < 2 then '0' :: size else size
      String.ofList (digits.take 1) ++ (if digits.length > 1 then "." ++ String.ofList (digits.drop 1) else "") ++
        "e" ++ (if exponent < 0 then "-" else "+") ++ String.ofList padded

end NullContract.Magnitude
