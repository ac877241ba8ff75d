import LinkMeter.Proofs.Number.Overflow
import Mathlib.Tactic.Linarith
import Mathlib.Tactic.Ring

/-! # How far rounding goes

A quotient of at least 2^52 steps is rounded by at most one part in 2^53. Roundings on the way from one number to another
add up, so a few of them leave the numbers as near to each other as a few such parts. -/

namespace LinkMeter

namespace Rounding

theorem halfEven_near (num : Nat) {den : Nat} (hden : 0 < den) :
    2 * (halfEven num den * den) ≤ 2 * num + den ∧ 2 * num ≤ 2 * (halfEven num den * den) + den := by
  have hdivmod := Nat.div_add_mod num den
  have hmod := Nat.mod_lt num hden
  have hup : (num / den + 1) * den = den * (num / den) + den := by rw [Nat.add_mul, Nat.one_mul, Nat.mul_comm]
  unfold halfEven
  split
  · rw [Nat.mul_comm (num / den) den]
    omega
  · split
    · rw [hup]
      omega
    · -- The middle: it does not matter to which side it goes.
      rcases Nat.mod_two_eq_zero_or_one (num / den) with heven | hodd
      · rw [heven, Nat.add_zero, Nat.mul_comm (num / den) den]
        omega
      · rw [hodd, hup]
        omega

end Rounding

namespace Binary64

/-- A number differs from the exact one next to it by at most one of as many parts. -/
def parts : Nat := Nat.pow 2 53

/-- The numbers are as near as `k` roundings leave them: each is at most `(1 + 1 / parts) ^ k` times the other. -/
def Near (k a b : Nat) : Prop :=
  Nat.pow parts k * a ≤ Nat.pow (parts + 1) k * b ∧ Nat.pow parts k * b ≤ Nat.pow (parts + 1) k * a

namespace Near
variable {k l a b c : Nat}

theorem symm (h : Near k a b) : Near k b a := ⟨h.2, h.1⟩

theorem mul_right (h : Near k a b) (c : Nat) : Near k (a * c) (b * c) := by
  unfold Near
  rw [← Nat.mul_assoc, ← Nat.mul_assoc, ← Nat.mul_assoc, ← Nat.mul_assoc]
  exact ⟨Nat.mul_le_mul_right c h.1, Nat.mul_le_mul_right c h.2⟩

theorem of_mul_right (hc : 0 < c) (h : Near k (a * c) (b * c)) : Near k a b := by
  unfold Near at h
  rw [← Nat.mul_assoc, ← Nat.mul_assoc, ← Nat.mul_assoc, ← Nat.mul_assoc] at h
  exact ⟨Nat.le_of_mul_le_mul_right h.1 hc, Nat.le_of_mul_le_mul_right h.2 hc⟩

theorem le_trans {n m : Nat} (hab : Nat.pow n k * a ≤ Nat.pow m k * b) (hbc : Nat.pow n l * b ≤ Nat.pow m l * c) :
    Nat.pow n (k + l) * a ≤ Nat.pow m (k + l) * c := by
  have hpow : ∀ p, Nat.pow p (k + l) = Nat.pow p l * Nat.pow p k := fun p => by
    rw [Nat.mul_comm]
    exact Nat.pow_add p k l
  calc
    Nat.pow n (k + l) * a = Nat.pow n l * (Nat.pow n k * a) := by rw [hpow, Nat.mul_assoc]
    _ ≤ Nat.pow n l * (Nat.pow m k * b) := Nat.mul_le_mul_left _ hab
    _ = Nat.pow m k * (Nat.pow n l * b) := Nat.mul_left_comm _ _ _
    _ ≤ Nat.pow m k * (Nat.pow m l * c) := Nat.mul_le_mul_left _ hbc
    _ = Nat.pow m (k + l) * c := by rw [hpow, ← Nat.mul_assoc, Nat.mul_comm (Nat.pow m k)]

/-- Roundings one after the other add up. -/
theorem trans (hab : Near k a b) (hbc : Near l b c) : Near (k + l) a c := by
  refine ⟨le_trans hab.1 hbc.1, ?_⟩
  rw [Nat.add_comm k l]
  exact le_trans hbc.2 hab.2

theorem le_pow_mul (h : Near k a b) : a ≤ Nat.pow 2 k * b := by
  have hpos : 0 < parts := Nat.two_pow_pos 53
  have hdouble : Nat.pow (parts * 2) k = Nat.pow parts k * Nat.pow 2 k := Nat.mul_pow parts 2 k
  have hpow : Nat.pow (parts + 1) k ≤ Nat.pow parts k * Nat.pow 2 k := by
    rw [← hdouble]
    exact Nat.pow_le_pow_left (by omega) k
  refine Nat.le_of_mul_le_mul_left ?_ (Nat.pow_pos hpos : 0 < Nat.pow parts k)
  calc
    Nat.pow parts k * a ≤ Nat.pow (parts + 1) k * b := h.1
    _ ≤ Nat.pow parts k * Nat.pow 2 k * b := Nat.mul_le_mul_right b hpow
    _ = Nat.pow parts k * (Nat.pow 2 k * b) := Nat.mul_assoc _ _ _

/-- Three roundings move a number by at most one part in 2^51. -/
theorem of_three (h : Near 3 a b) : Nat.pow 2 51 * a ≤ (Nat.pow 2 51 + 1) * b := by
  have hthree : ∀ n, Nat.pow n 3 = n * n * n := fun n => by
    show 1 * n * n * n = n * n * n
    rw [Nat.one_mul]
  have hparts : parts = 4 * Nat.pow 2 51 := rfl
  have hpos : 0 < Nat.pow 2 51 := Nat.two_pow_pos 51
  have hle := h.1
  rw [hthree, hthree, hparts] at hle
  generalize Nat.pow 2 51 = s at hle hpos ⊢
  have hcube : s * ((4 * s + 1) * (4 * s + 1) * (4 * s + 1)) ≤ (s + 1) * (4 * s * (4 * s) * (4 * s)) := by
    nlinarith [Nat.mul_pos hpos hpos, Nat.mul_pos (Nat.mul_pos hpos hpos) hpos]
  refine Nat.le_of_mul_le_mul_left ?_ (by positivity : 0 < 4 * s * (4 * s) * (4 * s))
  calc
    4 * s * (4 * s) * (4 * s) * (s * a) = s * (4 * s * (4 * s) * (4 * s) * a) := by ring
    _ ≤ s * ((4 * s + 1) * (4 * s + 1) * (4 * s + 1) * b) := Nat.mul_le_mul_left s hle
    _ = s * ((4 * s + 1) * (4 * s + 1) * (4 * s + 1)) * b := by ring
    _ ≤ (s + 1) * (4 * s * (4 * s) * (4 * s)) * b := Nat.mul_le_mul_right b hcube
    _ = 4 * s * (4 * s) * (4 * s) * ((s + 1) * b) := by ring

/-- Two roundings do not move a number below 2^53 as far as the next but one. -/
theorem lt_of_two (h : Near 2 a b) (hb : b < parts) : a < b + 2 := by
  have htwo : ∀ n, Nat.pow n 2 = n * n := fun n => by
    show 1 * n * n = n * n
    rw [Nat.one_mul]
  have hle := h.1
  rw [htwo, htwo] at hle
  generalize parts = n at hle hb
  by_contra hfar
  have hmore : n * n * (b + 2) ≤ n * n * a := Nat.mul_le_mul_left _ (Nat.not_lt.mp hfar)
  nlinarith

end Near

/-- A quotient of no steps or of many is rounded by at most one part. -/
theorem roundSteps_near {num den : Nat} (hden : 0 < den) (h : num = 0 ∨ Nat.pow 2 52 * den ≤ num) :
    Near 1 (roundSteps num den * den) num := by
  have hone : ∀ n, Nat.pow n 1 = n := fun n => Nat.one_mul n
  unfold Near
  rw [hone, hone]
  unfold roundSteps
  dsimp only
  rcases h with rfl | hlarge
  · have hzero : Rounding.halfEven 0 (den * Nat.pow 2 ((0 / den).log2 - 52)) = 0 :=
      Nat.le_zero.mp (Rounding.halfEven_le (Nat.mul_pos hden (Nat.two_pow_pos _)) (Nat.zero_le _))
    rw [hzero, Nat.zero_mul, Nat.zero_mul]
    exact ⟨Nat.le_refl _, Nat.le_refl _⟩
  · have hquotient : Nat.pow 2 52 ≤ num / den := (Nat.le_div_iff_mul_le hden).mpr hlarge
    have hne : num / den ≠ 0 := Nat.ne_of_gt (Nat.lt_of_lt_of_le (Nat.two_pow_pos 52) hquotient)
    have hlog : 52 ≤ (num / den).log2 := (Nat.le_log2 hne).mpr hquotient
    have hmost : Nat.pow 2 52 * Nat.pow 2 ((num / den).log2 - 52) ≤ num / den := by
      rw [pow_two_mul, Nat.add_sub_cancel' hlog]
      exact Nat.log2_self_le hne
    have hspare : 0 < Nat.pow 2 ((num / den).log2 - 52) := Nat.two_pow_pos _
    generalize Nat.pow 2 ((num / den).log2 - 52) = spare at hmost hspare ⊢
    have hpos : 0 < den * spare := Nat.mul_pos hden hspare
    have hscale : Nat.pow 2 52 * (den * spare) ≤ num := calc
      Nat.pow 2 52 * (den * spare) = Nat.pow 2 52 * spare * den := by rw [Nat.mul_comm den, Nat.mul_assoc]
      _ ≤ num / den * den := Nat.mul_le_mul_right den hmost
      _ ≤ num := Nat.div_mul_le_self num den
    have hrounded : Nat.pow 2 52 * (den * spare) ≤ Rounding.halfEven num (den * spare) * (den * spare) :=
      Nat.mul_le_mul_right _ (Rounding.le_halfEven hpos hscale)
    obtain ⟨habove, hbelow⟩ := Rounding.halfEven_near num hpos
    have hswap : Rounding.halfEven num (den * spare) * spare * den = Rounding.halfEven num (den * spare) * (den * spare) := by
      rw [Nat.mul_assoc, Nat.mul_comm spare]
    have hparts : parts = 2 * Nat.pow 2 52 := rfl
    rw [hswap, hparts]
    generalize Rounding.halfEven num (den * spare) * (den * spare) = rounded at habove hbelow hrounded ⊢
    generalize den * spare = step at habove hbelow hscale hrounded
    generalize Nat.pow 2 52 = half at hscale hrounded ⊢
    have hup := Nat.mul_le_mul_left half habove
    have hdown := Nat.mul_le_mul_left half hbelow
    constructor <;> linarith

end Binary64
end LinkMeter
