import LinkMeter.Proofs.Number.Rounding

/-! # Integers among the numbers

A number that stands for an integer has whole steps; zero stands for itself with either sign. The difference of two such
numbers is exact as long as it has no more than 53 bits, and they are compared as their integers are. -/

namespace LinkMeter.Binary64

/-- The number stands for the integer. -/
def IsInteger (x : Binary64) (n : Int) : Prop := ∃ negative steps, x = finite negative steps ∧ signed negative steps = n * unit

section IsInteger
variable {x y : Binary64} {m n : Int}

theorem IsInteger.unique (hm : x.IsInteger m) (hn : x.IsInteger n) : m = n := by
  obtain ⟨s, a, rfl, ha⟩ := hm
  obtain ⟨t, b, hxy, hb⟩ := hn
  cases hxy
  have hunit : (unit : Int) ≠ 0 := Int.natCast_ne_zero.mpr (Nat.ne_of_gt unit_pos)
  exact Int.eq_of_mul_eq_mul_right hunit (ha.symm.trans hb)

theorem isInteger_zero : zero.IsInteger 0 := ⟨false, 0, rfl, by rw [Int.zero_mul]; rfl⟩

/-- The steps of an integer, with its sign. -/
theorem isInteger_ofSteps (n : Int) : (finite (n < 0) (n.natAbs * unit)).IsInteger n := by
  refine ⟨_, _, rfl, ?_⟩
  unfold signed
  rw [Int.natCast_mul]
  rcases Int.lt_or_le n 0 with hneg | hpos
  · rw [decide_eq_true hneg, if_pos rfl, Int.ofNat_natAbs_of_nonpos (Int.le_of_lt hneg), Int.neg_mul, Int.neg_neg]
  · rw [decide_eq_false (Int.not_lt.mpr hpos), if_neg Bool.false_ne_true, Int.natAbs_of_nonneg hpos]

theorem signed_mul_unit (negative : Bool) (n : Nat) : signed negative (n * unit) = signed negative n * unit := by
  cases negative with
  | false => exact Int.natCast_mul n unit
  | true =>
    rw [signed_negative, signed_negative, Int.natCast_mul, Int.neg_mul]

theorem isInteger_ofRatio (negative : Bool) {n : Nat} (h : n < Nat.pow 2 53) :
    (ofRatio negative n 1).IsInteger (signed negative n) := by
  rw [ofRatio_one negative h]
  exact ⟨negative, n * unit, rfl, signed_mul_unit negative n⟩

theorem signed_not (negative : Bool) (steps : Nat) : signed (!negative) steps = -signed negative steps := by
  cases negative with
  | false => rfl
  | true => exact (Int.neg_neg _).symm

/-- The difference of two integers is exact up to 53 bits. -/
theorem IsInteger.sub (hx : x.IsInteger m) (hy : y.IsInteger n) (h : (m - n).natAbs < Nat.pow 2 53) :
    (x.sub y).IsInteger (m - n) := by
  obtain ⟨s, a, rfl, ha⟩ := hx
  obtain ⟨t, b, rfl, hb⟩ := hy
  have htotal : signed s a + signed (!t) b = (m - n) * unit := by
    rw [signed_not, ha, hb, Int.sub_mul, Int.sub_eq_add_neg]
  unfold Binary64.sub neg add
  dsimp only
  rw [htotal]
  split
  · rename_i hzero
    exact ⟨_, 0, rfl, by rw [hzero]; cases (s && !t) <;> rfl⟩
  · have hnatAbs : ((m - n) * unit).natAbs = (m - n).natAbs * unit := by rw [Int.natAbs_mul, Int.natAbs_natCast]
    have hsign : decide ((m - n) * (unit : Int) < 0) = decide (m - n < 0) := by
      refine decide_eq_decide.mpr ⟨fun hneg => ?_, fun hneg => ?_⟩
      · exact Int.not_le.mp fun hpos => Int.not_le.mpr hneg (Int.mul_nonneg hpos (Int.natCast_nonneg _))
      · exact Int.mul_neg_of_neg_of_pos hneg (Int.natCast_pos.mpr unit_pos)
    rw [hnatAbs, hsign]
    show (ofRatio (m - n < 0) (m - n).natAbs 1).IsInteger (m - n)
    rw [ofRatio_one _ h]
    exact isInteger_ofSteps (m - n)

theorem IsInteger.lt_steps_iff (hx : x.IsInteger n) (steps : Nat) :
    x.lt (finite false steps) = true ↔ n * unit < (steps : Int) := by
  obtain ⟨s, a, rfl, ha⟩ := hx
  rw [lt_finite, decide_eq_true_eq, ha, signed_positive]

end IsInteger

end LinkMeter.Binary64
