import LinkMeter.Number.Basic

/-! # Rounding to few bits

A quotient between two multiples of a power of two stays between them when it is rounded, as long as they have few enough
bits to be numbers themselves. So a small integer has a number of its own, and a product of numbers lies between the
products of their bounds, and natural numbers below 2^53 are added and subtracted without rounding. -/

namespace LinkMeter

namespace Rounding

theorem le_halfEven {a num den : Nat} (hden : 0 < den) (h : a * den ≤ num) : a ≤ halfEven num den := by
  have ha : a ≤ num / den := (Nat.le_div_iff_mul_le hden).mpr h
  unfold halfEven
  split
  · exact ha
  · split <;> omega

theorem halfEven_le {a num den : Nat} (hden : 0 < den) (h : num ≤ a * den) : halfEven num den ≤ a := by
  have hdivmod := Nat.div_add_mod num den
  have hmod := Nat.mod_lt num hden
  rcases Nat.lt_or_ge (num / den) a with hlt | hge
  · -- Below the bound, rounding up goes no further than to the bound.
    unfold halfEven
    split
    · omega
    · split <;> omega
  · -- At the bound nothing is left over, so nothing is rounded up.
    have hexact : num % den = 0 := by
      have hle : den * a ≤ den * (num / den) := Nat.mul_le_mul_left den hge
      rw [Nat.mul_comm a den] at h
      omega
    have hquotient : num / den ≤ a := Nat.div_le_of_le_mul (by rw [Nat.mul_comm]; exact h)
    unfold halfEven
    rw [hexact, if_pos (by omega)]
    exact hquotient

end Rounding

namespace Binary64

theorem mul_pow_two_lt {bits high k l : Nat} (hhigh : high < Nat.pow 2 bits) (hl : bits + k ≤ l) :
    high * Nat.pow 2 k < Nat.pow 2 l := calc
  high * Nat.pow 2 k < Nat.pow 2 bits * Nat.pow 2 k := Nat.mul_lt_mul_of_pos_right hhigh (Nat.two_pow_pos k)
  _ = Nat.pow 2 (bits + k) := (Nat.pow_add 2 bits k).symm
  _ ≤ Nat.pow 2 l := Nat.pow_le_pow_right Nat.two_pos hl

/-- The steps that are left out below 53 bits divide one, up to a magnitude of 53 bits. -/
theorem spare_dvd {q high k : Nat} (hq : q ≤ high * Nat.pow 2 k) (hhigh : high < Nat.pow 2 53) :
    Nat.pow 2 (q.log2 - 52) ∣ Nat.pow 2 k := by
  refine Nat.pow_dvd_pow 2 ?_
  rcases Nat.eq_zero_or_pos q with rfl | hpos
  · rw [Nat.log2_zero, Nat.zero_sub]
    exact Nat.zero_le k
  · have hbound : q < Nat.pow 2 (53 + k) := Nat.lt_of_le_of_lt hq (mul_pow_two_lt hhigh (Nat.le_refl _))
    have hlog := (Nat.log2_lt (Nat.ne_of_gt hpos)).mpr hbound
    omega

theorem mul_unit_lt_bound {bits high : Nat} (h : high < Nat.pow 2 bits) (hbits : bits ≤ 1024) : high * unit < bound := by
  unfold unit bound
  exact mul_pow_two_lt h (by omega)

theorem rounded_of_lt (negative : Bool) {num den : Nat} (h : roundSteps num den < bound) :
    rounded negative num den = finite negative (roundSteps num den) := by
  unfold rounded
  dsimp only
  rw [if_pos h]

/-- A quotient between two multiples of a power of two that have at most 53 bits is rounded to a number between them. -/
theorem roundSteps_mem_pow {k num den low high : Nat} (hden : 0 < den) (hlow : low * Nat.pow 2 k * den ≤ num)
    (hhigh : num ≤ high * Nat.pow 2 k * den) (hbits : high < Nat.pow 2 53) :
    low * Nat.pow 2 k ≤ roundSteps num den ∧ roundSteps num den ≤ high * Nat.pow 2 k := by
  have hq : num / den ≤ high * Nat.pow 2 k := Nat.div_le_of_le_mul (by rw [Nat.mul_comm]; exact hhigh)
  obtain ⟨l, hl⟩ : Nat.pow 2 ((num / den).log2 - 52) ∣ Nat.pow 2 k := spare_dvd hq hbits
  unfold roundSteps
  dsimp only
  have hspare : 0 < Nat.pow 2 ((num / den).log2 - 52) := Nat.two_pow_pos _
  generalize Nat.pow 2 ((num / den).log2 - 52) = spare at hl hspare ⊢
  generalize Nat.pow 2 k = power at hlow hhigh hl ⊢
  have hmultiple : ∀ a, a * power = a * l * spare := by
    intro a
    rw [hl, Nat.mul_assoc, Nat.mul_comm l]
  have hscaled : ∀ a, a * power * den = a * l * (den * spare) := by
    intro a
    rw [hmultiple, Nat.mul_assoc (a * l), Nat.mul_comm den]
  have hpos : 0 < den * spare := Nat.mul_pos hden hspare
  rw [hscaled] at hlow hhigh
  rw [hmultiple, hmultiple]
  refine ⟨?_, ?_⟩
  · exact Nat.mul_le_mul_right spare (Rounding.le_halfEven hpos hlow)
  · exact Nat.mul_le_mul_right spare (Rounding.halfEven_le hpos hhigh)

/-- A quotient between two integers of at most 53 bits is rounded to a number between them. -/
theorem roundSteps_mem {num den low high : Nat} (hden : 0 < den) (hlow : low * unit * den ≤ num)
    (hhigh : num ≤ high * unit * den) (hbits : high < Nat.pow 2 53) :
    low * unit ≤ roundSteps num den ∧ roundSteps num den ≤ high * unit := by
  unfold unit at hlow hhigh ⊢
  exact roundSteps_mem_pow hden hlow hhigh hbits

theorem rounded_mem (negative : Bool) {num den low high : Nat} (hden : 0 < den) (hlow : low * unit * den ≤ num)
    (hhigh : num ≤ high * unit * den) (hbits : high < Nat.pow 2 53) :
    ∃ steps, rounded negative num den = finite negative steps ∧ low * unit ≤ steps ∧ steps ≤ high * unit := by
  obtain ⟨hl, hh⟩ := roundSteps_mem hden hlow hhigh hbits
  exact ⟨roundSteps num den, rounded_of_lt negative (Nat.lt_of_le_of_lt hh (mul_unit_lt_bound hbits (by decide))), hl, hh⟩

/-- An integer of at most 53 bits is a number. -/
theorem ofRatio_one (negative : Bool) {n : Nat} (h : n < Nat.pow 2 53) : ofRatio negative n 1 = finite negative (n * unit) := by
  have hexact : n * unit * 1 = n * unit := Nat.mul_one _
  obtain ⟨steps, hsteps, hl, hh⟩ := rounded_mem negative Nat.one_pos (Nat.le_of_eq hexact) (Nat.le_of_eq hexact.symm) h
  unfold ofRatio
  rw [hsteps, Nat.le_antisymm hh hl]

theorem orFault_finite (e : Fault) (negative : Bool) (steps : Nat) :
    (finite negative steps).orFault e = .ok (finite negative steps) := rfl

theorem ofInt_natCast {n : Nat} (h : n < Nat.pow 2 53) : ofInt n = .ok (finite false (n * unit)) := by
  unfold ofInt
  rw [Int.natAbs_natCast, decide_eq_false (Int.not_lt.mpr (Int.natCast_nonneg n)), ofRatio_one false h]
  exact orFault_finite _ _ _

theorem mul_finite (s t : Bool) (m n : Nat) : (finite s m).mul (finite t n) = rounded (s != t) (m * n) unit := by
  unfold mul
  rfl

theorem div_finite (s t : Bool) (m : Nat) {n : Nat} (h : 0 < n) :
    (finite s m).div (finite t n) = .ok (rounded (s != t) (m * unit) n) := by
  obtain ⟨n, rfl⟩ := Nat.exists_eq_succ_of_ne_zero (Nat.ne_of_gt h)
  rfl

theorem div_of_lt {m n : Nat} (h : 0 < n) (hbound : roundSteps (m * unit) n < bound) :
    (finite false m).div (finite false n) = .ok (finite false (roundSteps (m * unit) n)) := by
  rw [div_finite _ _ _ h, bne_self_eq_false, rounded_of_lt false hbound]

theorem trunc_finite (negative : Bool) (steps : Nat) :
    (finite negative steps).trunc = .ok (finite negative steps).whole := rfl

theorem whole_finite (steps : Nat) : (finite false steps).whole = (steps / unit : Nat) := rfl

theorem steps_mem {low high : Nat} {x : Binary64} (hpos : 0 < low) (hl : intLe low x = true)
    (hh : x.leInt high = true) : ∃ steps, x = finite false steps ∧ low * unit ≤ steps ∧ steps ≤ high * unit := by
  match x with
  | nan => exact absurd hl Bool.false_ne_true
  | infinite true => exact absurd hl Bool.false_ne_true
  | infinite false => exact absurd hh Bool.false_ne_true
  | finite negative steps =>
    unfold intLe at hl
    unfold leInt at hh
    have hl := of_decide_eq_true hl
    have hh := of_decide_eq_true hh
    have hone := unit_pos
    generalize unit = one at hl hh hone ⊢
    rw [← Int.natCast_mul] at hl hh
    have hlow : 0 < low * one := Nat.mul_pos hpos hone
    unfold signed at hl hh
    cases negative with
    | true =>
      rw [if_pos rfl] at hl
      omega
    | false =>
      rw [if_neg Bool.false_ne_true] at hl hh
      exact ⟨steps, rfl, Int.ofNat_le.mp hl, Int.ofNat_le.mp hh⟩

/-- The product of a number between two integers with an integer lies between their products. -/
theorem whole_mul_mem {low high n : Nat} {x : Binary64} (hpos : 0 < low) (hl : intLe low x = true)
    (hh : x.leInt high = true) (hbits : high * n < Nat.pow 2 53) (hn : n < Nat.pow 2 53) :
    (low * n : Nat) ≤ (x.mul (ofRatio false n 1)).whole ∧ (x.mul (ofRatio false n 1)).whole ≤ (high * n : Nat) := by
  obtain ⟨m, rfl, hlow, hhigh⟩ := steps_mem hpos hl hh
  have hscaled : ∀ a, a * n * unit * unit = a * unit * (n * unit) := by
    intro a
    rw [Nat.mul_right_comm a n unit, Nat.mul_assoc (a * unit)]
  have hbelow : low * n * unit * unit ≤ m * (n * unit) := by
    rw [hscaled]
    exact Nat.mul_le_mul_right _ hlow
  have habove : m * (n * unit) ≤ high * n * unit * unit := by
    rw [hscaled]
    exact Nat.mul_le_mul_right _ hhigh
  obtain ⟨steps, hsteps, hbelow, habove⟩ := rounded_mem false unit_pos hbelow habove hbits
  rw [ofRatio_one false hn, mul_finite, bne_self_eq_false, hsteps, whole_finite]
  refine ⟨Int.ofNat_le.mpr ?_, Int.ofNat_le.mpr ?_⟩
  · exact (Nat.le_div_iff_mul_le unit_pos).mpr hbelow
  · refine Nat.div_le_of_le_mul ?_
    rw [Nat.mul_comm]
    exact habove

/-! ## Natural numbers -/

/-- A natural number in whole steps. Rounding leaves it alone below 2^53. -/
def ofNat (n : Nat) : Binary64 := finite false (n * unit)

section OfNat
variable {m n : Nat}

theorem ofNat_injective (h : ofNat m = ofNat n) : m = n := by
  unfold ofNat at h
  exact Nat.eq_of_mul_eq_mul_right unit_pos (finite.inj h).2

theorem signed_positive (steps : Nat) : signed false steps = steps := rfl

theorem signed_negative (steps : Nat) : signed true steps = -(steps : Int) := rfl

theorem le_finite (s t : Bool) (a b : Nat) : (finite s a).le (finite t b) = decide (signed s a ≤ signed t b) := by
  unfold le
  rfl

theorem lt_finite (s t : Bool) (a b : Nat) : (finite s a).lt (finite t b) = decide (signed s a < signed t b) := by
  unfold lt
  rfl

theorem whole_ofNat : (ofNat n).whole = n := by
  unfold ofNat
  rw [whole_finite, Nat.mul_div_cancel _ unit_pos]

theorem le_ofNat : (ofNat m).le (ofNat n) = true ↔ m ≤ n := by
  unfold ofNat
  rw [le_finite, signed_positive, signed_positive, decide_eq_true_eq, Int.ofNat_le]
  exact Nat.mul_le_mul_right_iff unit_pos

theorem rounded_ofNat (h : n < Nat.pow 2 53) : rounded false (n * unit) 1 = ofNat n := ofRatio_one false h

/-- A sum whose steps make up a natural number is that number. -/
theorem add_of_steps {s t : Bool} {a b : Nat} (hsteps : signed s a + signed t b = (n * unit : Nat))
    (hzero : (s && t) = false) (hn : n < Nat.pow 2 53) : (finite s a).add (finite t b) = ofNat n := by
  unfold add
  dsimp only
  rw [hsteps, hzero]
  split
  · rename_i hnone
    unfold ofNat
    rw [Int.natCast_eq_zero.mp hnone]
  · rw [decide_eq_false (Int.not_lt.mpr (Int.natCast_nonneg _)), Int.natAbs_natCast]
    exact rounded_ofNat hn

theorem add_ofNat (h : m + n < Nat.pow 2 53) : (ofNat m).add (ofNat n) = ofNat (m + n) := by
  refine add_of_steps ?_ rfl h
  rw [signed_positive, signed_positive, Nat.add_mul, Int.natCast_add]

theorem sub_ofNat (hle : n ≤ m) (h : m < Nat.pow 2 53) : (ofNat m).sub (ofNat n) = ofNat (m - n) := by
  have hsteps : n * unit ≤ m * unit := Nat.mul_le_mul_right unit hle
  refine add_of_steps ?_ rfl (Nat.lt_of_le_of_lt (Nat.sub_le m n) h)
  rw [Bool.not_false, signed_positive, signed_negative, Nat.sub_mul, Int.natCast_sub hsteps, Int.sub_eq_add_neg]

end OfNat

end Binary64
end LinkMeter
