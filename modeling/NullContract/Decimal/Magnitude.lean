namespace NullContract

/-- The number `mantissa * 2 ^ exponent`, with a mantissa of at most 53 bits and an exponent of at least
-1074. -/
structure Magnitude where
  mantissa : Nat
  exponent : Int
deriving DecidableEq, Inhabited

def roundDiv (num den : Nat) : Nat :=
  let q := num / den
  let r := num % den
  if 2 * r > den || (2 * r = den && q % 2 = 1) then q + 1 else q

def scaleRatio (num den base : Nat) : Int → Nat × Nat
  | .ofNat k => (num * base.pow k, den)
  | .negSucc k => (num, den * base.pow (k + 1))

namespace Magnitude

def zero : Magnitude := ⟨0, -1074⟩

def ratio (x : Magnitude) : Nat × Nat :=
  scaleRatio x.mantissa 1 2 x.exponent

def ofRatio (num den : Nat) : Magnitude :=
  if num = 0 then zero
  else
    let magnitude : Int := (Nat.log2 num : Int) - (Nat.log2 den : Int)
    let attempt := fun (exponent : Int) =>
      let (n, d) := scaleRatio num den 2 (-exponent)
      roundDiv n d
    let exponent := max (-1074) (magnitude - 53)
    let m := attempt exponent
    if m < Nat.pow 2 53 then ⟨m, exponent⟩
    else
      let m := attempt (exponent + 1)
      if m < Nat.pow 2 53 then ⟨m, exponent + 1⟩ else ⟨m / 2, exponent + 2⟩

def roundPlaces (places : Nat) (x : Magnitude) : Magnitude :=
  let (num, den) := x.ratio
  ofRatio (roundDiv (num * Nat.pow 10 places) den) (Nat.pow 10 places)

end Magnitude

end NullContract
