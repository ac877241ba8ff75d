import LinkMeter.Number.Binary64

/-! # Floating-point numbers as text

The shortest decimal that reads back as the number, and the decimal with a fixed number of places. -/

namespace LinkMeter.Binary64

/-- The steps nearest to `digits * 10 ^ place`. -/
def stepsOfDecimal (digits : Nat) (place : Int) : Nat :=
  roundSteps (digits * Nat.pow 10 place.toNat * unit) (Nat.pow 10 (-place).toNat)

/-- The decimal with its last digit at `place` that reads back as `steps`: of the two neighbours on that grid the nearer
one, an even one when both are equally near. -/
def decimalAt? (steps : Nat) (place : Int) : Option Nat :=
  let num := steps * Nat.pow 10 (-place).toNat
  let den := unit * Nat.pow 10 place.toNat
  let nearest := Rounding.halfEven num den
  let other := if nearest * den ≤ num then nearest + 1 else nearest - 1
  if stepsOfDecimal nearest place = steps then some nearest
  else if stepsOfDecimal other place = steps then some other
  else none

/-- The digits and the last place of the shortest decimal that reads back as a positive number of steps. -/
def shortest (steps : Nat) : Nat × Int :=
  let lead := Rounding.leadingPlace steps unit
  let places := (List.range 17).map fun (n : Nat) => lead - n
  (places.findSome? fun place => (decimalAt? steps place).map (·, place)).getD
    (Rounding.halfEven (steps * Nat.pow 10 (16 - lead).toNat) (unit * Nat.pow 10 (lead - 16).toNat), lead - 16)

/-- The digits without the zeros at their end. -/
def stripZeros (digits : Text) : Text := (digits.reverse.dropWhile (· == 48)).reverse

/-- Digits with the point before all of them at `point = 0`. It is written out when the leading digit stands for 10^-4
to 10^15, otherwise an exponent of two digits or more follows. -/
def layout (digits : Text) (point : Int) : Text :=
  let zeros (n : Nat) : Text := List.replicate n 48
  if point < -3 ∨ 16 < point then
    let exponent := point - 1
    .cat [digits.take 1, if digits.length = 1 then [] else 46 :: digits.drop 1, if exponent < 0 then "e-" else "e+",
      .padded 2 exponent.natAbs]
  else if point ≤ 0 then .cat ["0.", zeros (-point).toNat, digits]
  else if digits.length ≤ point.toNat then .cat [digits, zeros (point.toNat - digits.length), ".0"]
  else .cat [digits.take point.toNat, ".", digits.drop point.toNat]

/-- The minus sign of a negative number. -/
def signText (negative : Bool) : Text := if negative then [45] else []

/-- The number as the shortest text that reads back as the same number. -/
def toText : Binary64 → Text
  | nan => "nan"
  | infinite s => .cat [signText s, "inf"]
  | finite s 0 => .cat [signText s, "0.0"]
  | finite s steps =>
    let (digits, place) := shortest steps
    let shown := Text.ofNat digits
    .cat [signText s, layout (stripZeros shown) (shown.length + place)]

/-- The digits before and after a point. Without digits after it there is no point, unless it is to be shown anyway. -/
def pointed (always : Bool) (whole decimals : Text) : Text :=
  if decimals.isEmpty && !always then whole else .cat [whole, ".", decimals]

/-- A natural number counted in units of `10 ^ -places`, with the point in its place. -/
def withPoint (always : Bool) (places n : Nat) : Text :=
  let digits := Text.padded (places + 1) n
  let whole := digits.length - places
  pointed always (digits.take whole) (digits.drop whole)

/-- The places behind the point that a number can have digits in; what follows are zeros, since a step is a multiple of
`10 ^ -1074`. -/
def lastPlace : Nat := 1074

/-- The number with `places` digits after the point; a half goes to the even neighbour. -/
def toFixed (places : Nat) (always : Bool := false) : Binary64 → Text
  | nan => "nan"
  | infinite s => .cat [signText s, "inf"]
  | finite s steps =>
    let computed := min places lastPlace
    let n := Rounding.halfEven (steps * Nat.pow 10 computed) unit
    .cat [signText s, withPoint (always || computed < places) computed n, List.replicate (places - computed) 48]

example : toText (ofRatio false 3 10) = "0.3" := by decide +kernel

example : toText (finite false 1) = "5e-324" := by decide +kernel

example : (toFixed 1080 false (finite false 1)).drop 1075 = "5000000" := by decide +kernel

example : toText (ofRatio true (Nat.pow 10 16) 1) = "-1e+16" := by decide +kernel

end LinkMeter.Binary64
