import LinkMeter.Number.Shortest

/-! # Floating-point numbers with a given number of digits

A number is written with as many significant digits as are asked for, a half going to the even neighbour: with an
exponent, or with whichever of point and exponent is shorter. -/

namespace LinkMeter.Binary64

/-- The first `count` significant digits of a positive number of steps, rounded, and the place of the leading one. -/
def significant (count steps : Nat) : Text × Int :=
  let lead := Rounding.leadingPlace steps unit
  let place := lead - (count - 1 : Nat)
  let n := Rounding.halfEven (steps * Nat.pow 10 (-place).toNat) (unit * Nat.pow 10 place.toNat)
  if Nat.pow 10 count ≤ n then (Text.ofNat (n / 10), lead + 1) else (Text.ofNat n, lead)

/-- The digits that a number can have from its leading one on; what follows are zeros, since no number has more than 309
digits before the point. -/
def mostDigits : Nat := 309 + lastPlace

/-- The first `count` significant digits of a number of steps; those of zero are zeros in the place of the ones. -/
def digitsOf (count steps : Nat) : Text × Int :=
  if steps = 0 then (List.replicate count 48, 0)
  else
    let (digits, place) := significant (min count mostDigits) steps
    (digits ++ List.replicate (count - mostDigits) 48, place)

/-- An exponent of ten, of two digits or more. -/
def exponentText (place : Int) : Text := .cat [if place < 0 then "e-" else "e+", .padded 2 place.natAbs]

/-- Digits with a point behind the first one, and an exponent. -/
def withExponent (always : Bool) (digits : Text) (place : Int) : Text :=
  .cat [pointed always (digits.take 1) (digits.drop 1), exponentText place]

/-- Digits with the point where the place of the leading one puts it. -/
def positional (always : Bool) (digits : Text) (place : Int) : Text :=
  if 0 ≤ place then pointed always (digits.take (place.toNat + 1)) (digits.drop (place.toNat + 1))
  else pointed always "0" (List.replicate (-place - 1).toNat 48 ++ digits)

/-- The number with an exponent and `places` digits after the point. -/
def toScientific (places : Nat) (always : Bool) : Binary64 → Text
  | nan => "nan"
  | infinite s => .cat [signText s, "inf"]
  | finite s steps =>
    let (digits, place) := digitsOf (places + 1) steps
    .cat [signText s, withExponent always digits place]

/-- The number in at most `count` significant digits, and at least one. It has an exponent when it is below 10^-4 or has
more digits before the point than are shown. Zeros at the end are left out, unless `full` asks for them. -/
def toGeneral (count : Nat) (full : Bool) : Binary64 → Text
  | nan => "nan"
  | infinite s => .cat [signText s, "inf"]
  | finite s steps =>
    let count := max 1 count
    let (digits, place) := digitsOf count steps
    let exponent := place < -4 ∨ (count : Int) ≤ place
    let shown := if full then digits
      else
        let kept := stripZeros digits
        kept ++ List.replicate ((if exponent then 1 else (place + 1).toNat) - kept.length) 48
    .cat [signText s, if exponent then withExponent full shown place else positional full shown place]

example : toScientific 6 false (ofRatio false 12345678 1000) = "1.234568e+04" := by decide +kernel

example : toGeneral 6 false (ofRatio false 1 10000) = "0.0001" ∧ toGeneral 6 false (finite true 0) = "-0" ∧
    toGeneral 6 false (ofRatio false 1000000 1) = "1e+06" ∧ toGeneral 3 true (ofRatio false 1 2) = "0.500" := by
  decide +kernel

end LinkMeter.Binary64
