import LinkMeter.Proofs.Number.Rounding

/-! # Integers that are too large

An integer has a number next to it if its magnitude is below the middle between the greatest number and 2^1024, and from
there on it has none (`ofInt_eq_error_iff`). The exponents are variables until the end, so that no power is written out. -/

namespace LinkMeter

namespace Rounding

theorem halfEven_lt {a num den : Nat} (hden : 0 < den) (h : 2 * num + den < 2 * (a * den)) : halfEven num den < a := by
  have hdivmod := Nat.div_add_mod num den
  rcases Nat.lt_trichotomy (num / den + 1) a with hlt | heq | hgt
  · unfold halfEven
    split
    · omega
    · split <;> omega
  · -- Less than half is left over.
    have hproduct : a * den = den * (num / den) + den := by
      rw [← heq, Nat.add_mul, Nat.one_mul, Nat.mul_comm]
    unfold halfEven
    rw [if_pos (by omega)]
    omega
  · have hle : a * den ≤ den * (num / den) := by
      rw [Nat.mul_comm]
      exact Nat.mul_le_mul_left den (Nat.le_of_lt_succ hgt)
    omega

theorem le_halfEven_of_even {a num den : Nat} (hden : 0 < den) (ha : a % 2 = 0) (h : 2 * (a * den) ≤ 2 * num + den) :
    a ≤ halfEven num den := by
  have hdivmod := Nat.div_add_mod num den
  have hmod := Nat.mod_lt num hden
  rcases Nat.lt_trichotomy (num / den + 1) a with hlt | heq | hgt
  · have hle : den * (num / den) + 2 * den ≤ a * den := by
      have hstep : (num / den + 2) * den ≤ a * den := Nat.mul_le_mul_right den hlt
      rwa [Nat.add_mul, Nat.mul_comm (num / den)] at hstep
    omega
  · -- At least half is left over, and the quotient is odd.
    have hproduct : a * den = den * (num / den) + den := by
      rw [← heq, Nat.add_mul, Nat.one_mul, Nat.mul_comm]
    unfold halfEven
    rw [if_neg (by omega)]
    split <;> omega
  · have hle : a ≤ num / den := Nat.le_of_lt_succ hgt
    unfold halfEven
    split
    · exact hle
    · split <;> omega

end Rounding

namespace Binary64

theorem pow_two_mul (k l : Nat) : Nat.pow 2 k * Nat.pow 2 l = Nat.pow 2 (k + l) := (Nat.pow_add 2 k l).symm

theorem pow_two_le {k l : Nat} (h : k ≤ l) : Nat.pow 2 k ≤ Nat.pow 2 l := Nat.pow_le_pow_right Nat.two_pos h

/-- Steps that are nearer to a power of two from below than to the last number before it are rounded up to it. -/
theorem roundSteps_lt {m k : Nat} (h : m + Nat.pow 2 k < Nat.pow 2 (k + 54)) : roundSteps m 1 < Nat.pow 2 (k + 54) := by
  have hlog : m.log2 < k + 54 := by
    rcases Nat.eq_zero_or_pos m with rfl | hpos
    · rw [Nat.log2_zero]
      exact Nat.succ_pos _
    · exact (Nat.log2_lt (Nat.ne_of_gt hpos)).mpr (Nat.lt_of_le_of_lt (Nat.le_add_right _ _) h)
  unfold roundSteps
  dsimp only
  rw [Nat.div_one, Nat.one_mul]
  have hpos : 0 < Nat.pow 2 (m.log2 - 52) := Nat.two_pow_pos _
  have hspare : Nat.pow 2 (m.log2 - 52) ≤ Nat.pow 2 (k + 1) := pow_two_le (by omega)
  have hdouble : Nat.pow 2 (k + 1) = Nat.pow 2 k * 2 := Nat.pow_succ 2 k
  have hmost : Nat.pow 2 (k + 54 - (m.log2 - 52)) * Nat.pow 2 (m.log2 - 52) = Nat.pow 2 (k + 54) := by
    rw [pow_two_mul, Nat.sub_add_cancel (by omega)]
  rw [← hmost] at h ⊢
  refine Nat.mul_lt_mul_of_pos_right (Rounding.halfEven_lt hpos ?_) hpos
  omega

theorem le_roundSteps {m k : Nat} (h : Nat.pow 2 (k + 54) ≤ m + Nat.pow 2 k) : Nat.pow 2 (k + 54) ≤ roundSteps m 1 := by
  have hhalf : Nat.pow 2 (k + 53) ≤ m := by
    have hdouble : Nat.pow 2 (k + 54) = Nat.pow 2 (k + 53) * 2 := Nat.pow_succ 2 (k + 53)
    have hsmall : Nat.pow 2 k ≤ Nat.pow 2 (k + 53) := pow_two_le (Nat.le_add_right _ _)
    omega
  have hpos : m ≠ 0 := Nat.ne_of_gt (Nat.lt_of_lt_of_le (Nat.two_pow_pos _) hhalf)
  have hlog : k + 53 ≤ m.log2 := (Nat.le_log2 hpos).mpr hhalf
  unfold roundSteps
  dsimp only
  rw [Nat.div_one, Nat.one_mul]
  have hspare : 0 < Nat.pow 2 (m.log2 - 52) := Nat.two_pow_pos _
  rcases Nat.eq_or_lt_of_le hlog with heq | hlt
  · -- The power is an even multiple of the steps that are left out, so the middle is rounded up to it.
    have hexponent : m.log2 - 52 = k + 1 := by omega
    have hmost : Nat.pow 2 53 * Nat.pow 2 (k + 1) = Nat.pow 2 (k + 54) := by
      rw [pow_two_mul, Nat.add_comm 53, Nat.add_assoc]
    have hdouble : Nat.pow 2 (k + 1) = Nat.pow 2 k * 2 := Nat.pow_succ 2 k
    rw [hexponent] at hspare ⊢
    rw [← hmost] at h ⊢
    refine Nat.mul_le_mul_right _ (Rounding.le_halfEven_of_even hspare (by decide) ?_)
    generalize Nat.pow 2 53 * Nat.pow 2 (k + 1) = most at h ⊢
    omega
  · have hmost : Nat.pow 2 52 * Nat.pow 2 (m.log2 - 52) = Nat.pow 2 m.log2 := by
      rw [pow_two_mul, Nat.add_sub_cancel' (by omega)]
    calc
      Nat.pow 2 (k + 54) ≤ Nat.pow 2 m.log2 := pow_two_le hlt
      _ = Nat.pow 2 52 * Nat.pow 2 (m.log2 - 52) := hmost.symm
      _ ≤ _ := Nat.mul_le_mul_right _ (Rounding.le_halfEven hspare (by rw [hmost]; exact Nat.log2_self_le hpos))

/-- The middle between the greatest number and 2^1024. -/
def overflow : Nat := Nat.pow 2 1024 - Nat.pow 2 970

theorem bound_and_overflow : ∃ k, bound = Nat.pow 2 (k + 54) ∧ bound = overflow * unit + Nat.pow 2 k := by
  have hpowers : ∀ high low p middle, high = low + 54 → middle = Nat.pow 2 high - Nat.pow 2 low →
      ∃ k, Nat.pow 2 (p + high) = Nat.pow 2 (k + 54) ∧ Nat.pow 2 (p + high) = middle * Nat.pow 2 p + Nat.pow 2 k := by
    rintro high low p middle rfl rfl
    have hle : Nat.pow 2 (low + p) ≤ Nat.pow 2 (low + 54 + p) := pow_two_le (by omega)
    refine ⟨low + p, congrArg (Nat.pow 2) (by omega), ?_⟩
    rw [Nat.sub_mul, pow_two_mul, pow_two_mul, Nat.sub_add_cancel hle, Nat.add_comm p]
  obtain ⟨k, htop, hmiddle⟩ := hpowers 1024 970 places overflow rfl overflow.eq_1
  unfold bound unit
  exact ⟨k, by rw [htop], by rw [hmiddle]⟩

theorem orFault_infinite (e : Fault) (negative : Bool) : (infinite negative).orFault e = .error e := rfl

theorem ofInt_of_lt {n : Int} (h : n.natAbs < overflow) : ∃ x, ofInt n = .ok x := by
  obtain ⟨k, hbound, hoverflow⟩ := bound_and_overflow
  have hsteps : n.natAbs * unit + Nat.pow 2 k < bound := by
    rw [hoverflow]
    exact Nat.add_lt_add_right (Nat.mul_lt_mul_of_pos_right h unit_pos) _
  rw [hbound] at hsteps
  have hrounded := roundSteps_lt hsteps
  rw [← hbound] at hrounded
  refine ⟨finite (n < 0) (roundSteps (n.natAbs * unit) 1), ?_⟩
  unfold ofInt ofRatio rounded
  dsimp only
  rw [if_pos hrounded, orFault_finite]

theorem ofInt_of_le {n : Int} (h : overflow ≤ n.natAbs) : ofInt n = .error .integerTooLarge := by
  obtain ⟨k, hbound, hoverflow⟩ := bound_and_overflow
  have hsteps : bound ≤ n.natAbs * unit + Nat.pow 2 k := by
    rw [hoverflow]
    exact Nat.add_le_add_right (Nat.mul_le_mul_right unit h) _
  rw [hbound] at hsteps
  have hrounded := le_roundSteps hsteps
  rw [← hbound] at hrounded
  have hnot : ¬ roundSteps (n.natAbs * unit) 1 < bound := Nat.not_lt.mpr hrounded
  unfold ofInt ofRatio rounded
  dsimp only
  rw [if_neg hnot, orFault_infinite]

/-- An integer has a number next to it just if its magnitude is below the middle between the greatest number and 2^1024. -/
theorem ofInt_eq_error_iff (n : Int) : ofInt n = .error .integerTooLarge ↔ overflow ≤ n.natAbs := by
  refine ⟨fun h => Nat.le_of_not_lt fun hlt => ?_, ofInt_of_le⟩
  obtain ⟨x, hx⟩ := ofInt_of_lt hlt
  rw [hx] at h
  cases h

end Binary64
end LinkMeter
