import LinkMeter.Number.Shortest

/-! # Decimal quotients

A quotient in decimal arithmetic of 28 significant digits: it is rounded first to 28 digits, a half going to the even
neighbour, and then to a fixed number of places, a half going away from zero. -/

namespace LinkMeter.Decimal

/-- The significant digits of a quotient, and the most that a rounded value may have. -/
def precision : Nat := 28

/-- The quotient of two natural numbers in 28 significant digits, as digits and the place of the last one. -/
def quotient (num den : Nat) : Nat × Int :=
  if num = 0 then (0, 0)
  else
    let place := Rounding.leadingPlace num den - (precision - 1 : Nat)
    (Rounding.halfEven (num * Nat.pow 10 (-place).toNat) (den * Nat.pow 10 place.toNat), place)

/-- A decimal rounded to `places` digits after the point, counted in units of `10 ^ -places`. -/
def toPlaces (places : Nat) (digits : Nat) (place : Int) : Nat :=
  let shift := place + places
  Rounding.halfUp (digits * Nat.pow 10 shift.toNat) (Nat.pow 10 (-shift).toNat)

/-- `num / den` with `places` digits after the point. A value of more than 28 digits is a fault. -/
def fixed (places : Nat) (num : Int) (den : Nat) : Except Fault Text :=
  let (digits, place) := quotient num.natAbs den
  let units := toPlaces places digits place
  if precision < Rounding.digitCount units then .error .tooManyDigits
  else .ok (.cat [Binary64.signText (num < 0), Binary64.withPoint false places units])

example : (fixed 1 1250 1000).toOption = some "1.3" ∧ (fixed 2 (-4) 8000).toOption = some "-0.00" := by
  decide +kernel

end LinkMeter.Decimal
