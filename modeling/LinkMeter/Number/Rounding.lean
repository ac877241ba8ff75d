import LinkMeter.Text.Basic

/-! # Rounding quotients

A quotient of natural numbers is rounded to a whole number with a half going to the even neighbour or up, and the place
of its leading decimal digit is found by comparison, without logarithms. -/

namespace LinkMeter.Rounding

/-- The whole number nearest to `num / den`; a half goes to the even neighbour. -/
def halfEven (num den : Nat) : Nat :=
  if 2 * (num % den) < den then num / den
  else if den < 2 * (num % den) then num / den + 1
  else num / den + num / den % 2

/-- The whole number nearest to `num / den`; a half goes up. -/
def halfUp (num den : Nat) : Nat := (2 * num + den) / (2 * den)

/-- The number of decimal digits, which are taken off eighteen at a time, at most `fuel` times. -/
def digitCountFrom (n : Nat) : (fuel : Nat) → Nat
  | 0 => (Nat.toDigits 10 n).length
  | fuel + 1 => if n < Nat.pow 10 18 then (Nat.toDigits 10 n).length
    else digitCountFrom (n / Nat.pow 10 18) fuel + 18

/-- The number of decimal digits; zero has one. -/
def digitCount (n : Nat) : Nat := digitCountFrom n n.log2

/-- The place of the leading digit of a positive quotient: the `e` with `10 ^ e ≤ num / den < 10 ^ (e + 1)`. -/
def leadingPlace (num den : Nat) : Int :=
  let e : Int := digitCount num - digitCount den
  if den * Nat.pow 10 e.toNat ≤ num * Nat.pow 10 (-e).toNat then e else e - 1

example : halfEven 5 2 = 2 ∧ halfEven 7 2 = 4 ∧ halfUp 5 2 = 3 ∧ halfUp 4 3 = 1 := by decide

example : leadingPlace 999 1 = 2 ∧ leadingPlace 1000 1 = 3 ∧ leadingPlace 1 8 = -1 := by decide

end LinkMeter.Rounding
