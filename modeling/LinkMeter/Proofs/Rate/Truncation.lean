import LinkMeter.Proofs.Number.Nearness
import LinkMeter.Rate.Sampler

/-! # How exact a rate is

A rate is three quotients one after the other, each of them rounded, and then truncated. The roundings add up to less than
one part in 2^51, so a truncated rate is the exact one unless a whole number is that near. Where the exact rate is a whole
number, the rate can be one less. -/

namespace LinkMeter.Rate.Sampler

open Binary64

/-! ## The three quotients -/

/-- The steps of the seconds in `elapsed` milliseconds. -/
def secondsSteps (elapsed : Nat) : Nat := roundSteps (elapsed * unit * unit) (1000 * unit)

/-- The steps of the kilobits in a number of bits. -/
def kilobitsSteps (bits : Nat) : Nat := roundSteps (bits * unit) 1000

/-- The steps of the rate before it is truncated. -/
def rateSteps (bits elapsed : Nat) : Nat := roundSteps (kilobitsSteps bits * unit) (secondsSteps elapsed)

theorem pow_le_unit : Nat.pow 2 120 ≤ unit := by
  unfold unit
  exact pow_two_le (by decide)

section Steps
variable {bits elapsed : Nat}

theorem near_seconds (hpos : 0 < elapsed) : Near 1 (secondsSteps elapsed * 1000) (elapsed * unit) := by
  have hunit := pow_le_unit
  have hnear : Near 1 (secondsSteps elapsed * (1000 * unit)) (elapsed * unit * unit) := by
    refine roundSteps_near (Nat.mul_pos (by decide) unit_pos) (.inr ?_)
    rw [← Nat.mul_assoc]
    exact Nat.mul_le_mul_right unit (Nat.le_trans (Nat.le_trans (by decide) hunit) (Nat.le_mul_of_pos_left unit hpos))
  rw [← Nat.mul_assoc] at hnear
  exact hnear.of_mul_right unit_pos

theorem near_kilobits (bits : Nat) : Near 1 (kilobitsSteps bits * 1000) (bits * unit) := by
  refine roundSteps_near (by decide) ?_
  rcases Nat.eq_zero_or_pos bits with rfl | hpos
  · exact .inl (Nat.zero_mul unit)
  · exact .inr (Nat.le_trans (Nat.le_trans (by decide) pow_le_unit) (Nat.le_mul_of_pos_left unit hpos))

theorem secondsSteps_pos (hpos : 0 < elapsed) : 0 < secondsSteps elapsed := by
  have hle := (near_seconds hpos).symm.le_pow_mul
  have hsteps : 0 < elapsed * unit := Nat.mul_pos hpos unit_pos
  refine Nat.pos_of_ne_zero fun hzero => ?_
  rw [hzero, Nat.zero_mul, Nat.mul_zero] at hle
  exact absurd hle (Nat.not_le.mpr hsteps)

theorem kilobitsSteps_zero : kilobitsSteps 0 = 0 := by
  have hle := (near_kilobits 0).le_pow_mul
  rw [Nat.zero_mul, Nat.mul_zero] at hle
  omega

/-- There are many more steps in the kilobits than seconds, so that nothing is lost at the lower end. -/
theorem secondsSteps_le (hbits : 0 < bits) (hpos : 0 < elapsed) (helapsed : elapsed < Nat.pow 2 53) :
    Nat.pow 2 52 * secondsSteps elapsed ≤ kilobitsSteps bits * unit := by
  have hseconds : secondsSteps elapsed ≤ Nat.pow 2 54 * unit := calc
    secondsSteps elapsed ≤ secondsSteps elapsed * 1000 := Nat.le_mul_of_pos_right _ (by decide)
    _ ≤ 2 * (elapsed * unit) := (near_seconds hpos).le_pow_mul
    _ = 2 * elapsed * unit := (Nat.mul_assoc _ _ _).symm
    _ ≤ Nat.pow 2 54 * unit := Nat.mul_le_mul_right unit (Nat.mul_le_mul_left 2 (Nat.le_of_lt helapsed))
  have hkilobits : Nat.pow 2 106 ≤ kilobitsSteps bits := by
    refine Nat.le_of_mul_le_mul_right (c := 2000) ?_ (by decide)
    calc
      Nat.pow 2 106 * 2000 ≤ Nat.pow 2 120 := by decide
      _ ≤ unit := pow_le_unit
      _ ≤ bits * unit := Nat.le_mul_of_pos_left unit hbits
      _ ≤ 2 * (kilobitsSteps bits * 1000) := (near_kilobits bits).symm.le_pow_mul
      _ = kilobitsSteps bits * 2000 := by omega
  calc
    Nat.pow 2 52 * secondsSteps elapsed ≤ Nat.pow 2 52 * (Nat.pow 2 54 * unit) := Nat.mul_le_mul_left _ hseconds
    _ = Nat.pow 2 106 * unit := by rw [← Nat.mul_assoc, pow_two_mul]
    _ ≤ kilobitsSteps bits * unit := Nat.mul_le_mul_right unit hkilobits

theorem near_quotient (bits : Nat) (hpos : 0 < elapsed) (helapsed : elapsed < Nat.pow 2 53) :
    Near 1 (rateSteps bits elapsed * secondsSteps elapsed) (kilobitsSteps bits * unit) := by
  refine roundSteps_near (secondsSteps_pos hpos) ?_
  rcases Nat.eq_zero_or_pos bits with rfl | hbits
  · exact .inl (by rw [kilobitsSteps_zero, Nat.zero_mul])
  · exact .inr (secondsSteps_le hbits hpos helapsed)

/-- The rate before it is truncated is three roundings away from the exact one. -/
theorem near_rate (bits : Nat) (hpos : 0 < elapsed) (helapsed : elapsed < Nat.pow 2 53) :
    Near 3 (rateSteps bits elapsed * elapsed) (bits * unit) := by
  have hquotient := (near_quotient bits hpos helapsed).mul_right (1000 * (elapsed * unit))
  have hkilobits := (near_kilobits bits).mul_right (unit * (elapsed * unit))
  have hseconds := (near_seconds hpos).symm.mul_right (bits * unit * unit)
  have hfactor : 0 < secondsSteps elapsed * 1000 * unit :=
    Nat.mul_pos (Nat.mul_pos (secondsSteps_pos hpos) (by decide)) unit_pos
  refine .of_mul_right hfactor ?_
  generalize unit = one at *
  rw [show kilobitsSteps bits * one * (1000 * (elapsed * one)) = kilobitsSteps bits * 1000 * (one * (elapsed * one)) by ring]
    at hquotient
  rw [show bits * one * (one * (elapsed * one)) = elapsed * one * (bits * one * one) by ring] at hkilobits
  rw [show rateSteps bits elapsed * elapsed * (secondsSteps elapsed * 1000 * one) =
      rateSteps bits elapsed * secondsSteps elapsed * (1000 * (elapsed * one)) by ring,
    show bits * one * (secondsSteps elapsed * 1000 * one) = secondsSteps elapsed * 1000 * (bits * one * one) by ring]
  exact (hquotient.trans hkilobits).trans hseconds

/-! ## The rate -/

theorem lt_bound_of_near {k steps factor n : Nat} (h : Near k (steps * factor) (n * unit)) (hfactor : 0 < factor)
    (hn : n < Nat.pow 2 53) (hk : k ≤ 3) : steps < bound := by
  have hbits : Nat.pow 2 k * n < Nat.pow 2 (k + 53) := by
    rw [← pow_two_mul]
    exact Nat.mul_lt_mul_of_pos_left hn (Nat.two_pow_pos k)
  calc
    steps ≤ steps * factor := Nat.le_mul_of_pos_right steps hfactor
    _ ≤ Nat.pow 2 k * (n * unit) := h.le_pow_mul
    _ = Nat.pow 2 k * n * unit := (Nat.mul_assoc _ _ _).symm
    _ < bound := mul_unit_lt_bound hbits (by omega)

theorem ofQuotient_bits {bytes : Nat} (h : kilobitsSteps (8 * bytes) < bound) :
    ofQuotient ((bytes : Int) * 8) 1000 = .ok (finite false (kilobitsSteps (8 * bytes))) := by
  have hbits : (bytes : Int) * 8 = (8 * bytes : Nat) := by omega
  unfold ofQuotient ofRatio
  rw [hbits, Int.natAbs_natCast, decide_eq_false (Int.not_lt.mpr (Int.natCast_nonneg _)), rounded_of_lt false h]
  exact orFault_finite _ _ _

theorem kbps_of_quotients {bytes : Int} {milliseconds seconds kilobits : Binary64} {steps : Nat}
    (hseconds : milliseconds.div (ofRatio false 1000 1) = .ok seconds)
    (hkilobits : ofQuotient (bytes * 8) 1000 = .ok kilobits)
    (hrate : kilobits.div seconds = .ok (finite false steps)) :
    kbps bytes milliseconds = .ok (steps / unit : Nat) := by
  unfold kbps
  rw [hseconds, hkilobits]
  show kilobits.div seconds >>= trunc = _
  rw [hrate, ← whole_finite]
  exact trunc_finite false steps

theorem kbps_eq {bytes : Nat} (hbytes : 8 * bytes < Nat.pow 2 53) (hpos : 0 < elapsed) (helapsed : elapsed < Nat.pow 2 53) :
    kbps bytes (ofNat elapsed) = .ok (rateSteps (8 * bytes) elapsed / unit : Nat) := by
  have hseconds := lt_bound_of_near (near_seconds hpos) (by decide) helapsed (by decide)
  have hkilobits := lt_bound_of_near (near_kilobits (8 * bytes)) (by decide) hbytes (by decide)
  have hrate := lt_bound_of_near (near_rate (8 * bytes) hpos helapsed) hpos hbytes (by decide)
  have hdivided : (ofNat elapsed).div (ofRatio false 1000 1) = .ok (finite false (secondsSteps elapsed)) := by
    unfold secondsSteps at hseconds ⊢
    rw [ofRatio_one false (by decide)]
    unfold ofNat
    rw [div_of_lt (Nat.mul_pos (by decide) unit_pos) hseconds]
  refine kbps_of_quotients hdivided (ofQuotient_bits hkilobits) ?_
  unfold rateSteps at hrate ⊢
  rw [div_of_lt (secondsSteps_pos hpos) hrate]

/-! ## The truncated rate -/

/-- A truncated rate is that of a number within one part in 2^51 of the exact one. -/
theorem rate_near (bits : Nat) (hpos : 0 < elapsed) (helapsed : elapsed < Nat.pow 2 53) :
    Nat.pow 2 51 * (rateSteps bits elapsed / unit * elapsed) ≤ (Nat.pow 2 51 + 1) * bits ∧
      Nat.pow 2 51 * bits < (Nat.pow 2 51 + 1) * ((rateSteps bits elapsed / unit + 1) * elapsed) := by
  have hnear := near_rate bits hpos helapsed
  have habove := hnear.of_three
  have hbelow := hnear.symm.of_three
  have hfloor := Nat.div_mul_le_self (rateSteps bits elapsed) unit
  have hceil := Nat.lt_div_mul_add (a := rateSteps bits elapsed) unit_pos
  have hunit := unit_pos
  generalize rateSteps bits elapsed / unit = rate at *
  generalize rateSteps bits elapsed = steps at *
  generalize unit = one at *
  generalize Nat.pow 2 51 = most at *
  constructor
  · refine Nat.le_of_mul_le_mul_right ?_ hunit
    calc
      most * (rate * elapsed) * one = most * (rate * one * elapsed) := by ring
      _ ≤ most * (steps * elapsed) := Nat.mul_le_mul_left _ (Nat.mul_le_mul_right _ hfloor)
      _ ≤ (most + 1) * (bits * one) := habove
      _ = (most + 1) * bits * one := by ring
  · refine Nat.lt_of_mul_lt_mul_right (a := one) ?_
    calc
      most * bits * one = most * (bits * one) := by ring
      _ ≤ (most + 1) * (steps * elapsed) := hbelow
      _ < (most + 1) * ((rate * one + one) * elapsed) :=
        Nat.mul_lt_mul_of_pos_left (Nat.mul_lt_mul_of_pos_right hceil hpos) (Nat.succ_pos most)
      _ = (most + 1) * ((rate + 1) * elapsed) * one := by ring

end Steps

/-! ## Quarters of a second -/

section Quarters
variable {bits quarters : Nat}

theorem unit_quarters : ∃ k, unit = 4 * Nat.pow 2 k := by
  have hpow : ∀ p, 2 ≤ p → ∃ k, Nat.pow 2 p = 4 * Nat.pow 2 k := fun p hp =>
    ⟨p - 2, by rw [show 4 = Nat.pow 2 2 from rfl, pow_two_mul, Nat.add_sub_cancel' hp]⟩
  unfold unit
  exact hpow places (by decide)

/-- Quarters of a second are a number of seconds without rounding. -/
theorem secondsSteps_quarters {k : Nat} (hk : unit = 4 * Nat.pow 2 k) (hquarters : quarters < Nat.pow 2 53) :
    secondsSteps (250 * quarters) = quarters * Nat.pow 2 k := by
  have hexact : quarters * Nat.pow 2 k * (1000 * unit) = 250 * quarters * unit * unit := by
    rw [hk]
    ring
  obtain ⟨hlow, hhigh⟩ := roundSteps_mem_pow (Nat.mul_pos (by decide) unit_pos) (Nat.le_of_eq hexact)
    (Nat.le_of_eq hexact.symm) hquarters
  exact Nat.le_antisymm hhigh hlow

/-- The rate before it is truncated lies between the whole numbers next to the exact one, both included. -/
theorem rateSteps_mem (hpos : 0 < quarters) (hbits : bits < Nat.pow 2 53) (hquarters : 250 * quarters < Nat.pow 2 53) :
    bits / (250 * quarters) * unit ≤ rateSteps bits (250 * quarters) ∧
      rateSteps bits (250 * quarters) ≤ (bits / (250 * quarters) + 1) * unit := by
  obtain ⟨k, hk⟩ := unit_quarters
  have hfloor : bits / (250 * quarters) * (250 * quarters) ≤ bits := Nat.div_mul_le_self bits _
  have hceil : bits < (bits / (250 * quarters) + 1) * (250 * quarters) :=
    (Nat.div_lt_iff_lt_mul (Nat.mul_pos (by decide) hpos)).mp (Nat.lt_succ_self _)
  have hseconds := secondsSteps_quarters hk (Nat.lt_of_le_of_lt (Nat.le_mul_of_pos_left _ (by decide)) hquarters)
  generalize bits / (250 * quarters) = rate at hfloor hceil ⊢
  have hfew : (rate + 1) * quarters < Nat.pow 2 53 := by linarith
  have hscale : ∀ n, n * quarters * Nat.pow 2 k * 1000 = n * (250 * quarters) * unit := by
    intro n
    rw [hk]
    ring
  have hkilobits : rate * quarters * Nat.pow 2 k ≤ kilobitsSteps bits ∧
      kilobitsSteps bits ≤ (rate + 1) * quarters * Nat.pow 2 k := by
    refine roundSteps_mem_pow (by decide) ?_ ?_ hfew
    · rw [hscale]
      exact Nat.mul_le_mul_right unit hfloor
    · rw [hscale]
      exact Nat.mul_le_mul_right unit (Nat.le_of_lt hceil)
  have hwhole : ∀ n, n * unit * (quarters * Nat.pow 2 k) = n * quarters * Nat.pow 2 k * unit := fun n => by ring
  unfold rateSteps
  rw [hseconds]
  refine roundSteps_mem (Nat.mul_pos hpos (Nat.two_pow_pos k)) ?_ ?_
    (Nat.lt_of_le_of_lt (Nat.le_mul_of_pos_right _ hpos) hfew)
  · rw [hwhole]
    exact Nat.mul_le_mul_right unit hkilobits.1
  · rw [hwhole]
    exact Nat.mul_le_mul_right unit hkilobits.2

theorem near_rate_quarters (bits : Nat) (hpos : 0 < quarters) (hquarters : 250 * quarters < Nat.pow 2 53) :
    Near 2 (rateSteps bits (250 * quarters) * (250 * quarters)) (bits * unit) := by
  obtain ⟨k, hk⟩ := unit_quarters
  have hseconds := secondsSteps_quarters hk (Nat.lt_of_le_of_lt (Nat.le_mul_of_pos_left _ (by decide)) hquarters)
  have hexact : secondsSteps (250 * quarters) * 1000 = 250 * quarters * unit := by
    rw [hseconds, hk]
    ring
  have hquotient := (near_quotient bits (Nat.mul_pos (by decide) hpos) hquarters).mul_right 1000
  have hkilobits := (near_kilobits bits).mul_right unit
  have hleft : rateSteps bits (250 * quarters) * secondsSteps (250 * quarters) * 1000 =
      rateSteps bits (250 * quarters) * (250 * quarters) * unit := by
    rw [Nat.mul_assoc, hexact, ← Nat.mul_assoc]
  have hright : kilobitsSteps bits * unit * 1000 = kilobitsSteps bits * 1000 * unit := Nat.mul_right_comm _ _ _
  rw [hleft, hright] at hquotient
  have htotal := hquotient.trans hkilobits
  exact htotal.of_mul_right unit_pos

/-- Over quarters of a second no rate is moved to the other side of a whole number. -/
theorem rate_quarters (heven : bits % 2 = 0) (hpos : 0 < quarters) (hbits : bits < Nat.pow 2 53)
    (hquarters : 250 * quarters < Nat.pow 2 53) : rateSteps bits (250 * quarters) / unit = bits / (250 * quarters) := by
  obtain ⟨hlow, hhigh⟩ := rateSteps_mem hpos hbits hquarters
  have hnear := near_rate_quarters bits hpos hquarters
  refine Nat.div_eq_of_lt_le hlow (Nat.lt_of_le_of_ne hhigh fun hnext => ?_)
  -- The next whole number is two bits away at least, which is further than two roundings go.
  rw [hnext, Nat.mul_right_comm] at hnear
  have hclose := (hnear.of_mul_right unit_pos).lt_of_two hbits
  have hceil : bits < (bits / (250 * quarters) + 1) * (250 * quarters) :=
    (Nat.div_lt_iff_lt_mul (Nat.mul_pos (by decide) hpos)).mp (Nat.lt_succ_self _)
  have hmultiple : (bits / (250 * quarters) + 1) * (250 * quarters) = 2 * ((bits / (250 * quarters) + 1) * (125 * quarters)) := by
    ring
  omega

end Quarters

/-! ## The rate that is shown -/

/-- The rate over a time is the exact one truncated, up to one part in 2^51 before it is truncated. Below 2^51 bits it can
only be one too small, and only where the exact rate is a whole number; over quarters of a second it is never wrong. -/
theorem kbps_near {bytes elapsed : Nat} (hbytes : 8 * bytes < Nat.pow 2 53) (hpos : 0 < elapsed)
    (helapsed : elapsed < Nat.pow 2 53) :
    ∃ rate : Nat, kbps bytes (ofNat elapsed) = .ok rate ∧
      Nat.pow 2 51 * (rate * elapsed) ≤ (Nat.pow 2 51 + 1) * (8 * bytes) ∧
      Nat.pow 2 51 * (8 * bytes) < (Nat.pow 2 51 + 1) * ((rate + 1) * elapsed) ∧
      (8 * bytes < Nat.pow 2 51 →
        rate = 8 * bytes / elapsed ∨ elapsed ∣ 8 * bytes ∧ rate + 1 = 8 * bytes / elapsed) ∧
      (250 ∣ elapsed → rate = 8 * bytes / elapsed) := by
  obtain ⟨habove, hbelow⟩ := rate_near (8 * bytes) hpos helapsed
  refine ⟨_, kbps_eq hbytes hpos helapsed, habove, hbelow, fun hfew => ?_, fun hdvd => ?_⟩
  · generalize rateSteps (8 * bytes) elapsed / unit = rate at habove hbelow ⊢
    have hlow : rate * elapsed ≤ 8 * bytes := by
      by_contra hmore
      nlinarith
    have hhigh : 8 * bytes ≤ (rate + 1) * elapsed := by
      by_contra hless
      nlinarith
    rcases Nat.eq_or_lt_of_le hhigh with hnext | hless
    · exact .inr ⟨⟨rate + 1, by rw [hnext, Nat.mul_comm]⟩, by rw [hnext, Nat.mul_div_cancel _ hpos]⟩
    · exact .inl (Nat.div_eq_of_lt_le hlow hless).symm
  · obtain ⟨quarters, rfl⟩ := hdvd
    exact rate_quarters (by omega) (Nat.pos_of_mul_pos_left hpos) hbytes helapsed

/-- The most bytes over the shortest of these times. -/
theorem kbps_most : 8 * (Nat.pow 2 50 - 1) < Nat.pow 2 53 ∧ 0 < 250 ∧ 250 < Nat.pow 2 53 ∧
    kbps (Nat.pow 2 50 - 1 : Nat) (ofNat 250) = .ok (8 * (Nat.pow 2 50 - 1) / 250 : Nat) := by
  have hbytes : 8 * (Nat.pow 2 50 - 1) < Nat.pow 2 53 := by decide
  obtain ⟨rate, hrate, -, -, -, hquarters⟩ := kbps_near hbytes (by decide : 0 < 250) (by decide)
  exact ⟨hbytes, by decide, by decide, hquarters (Nat.dvd_refl 250) ▸ hrate⟩

/-- Six hundred bytes in 1600 milliseconds are three kilobits per second, of which two are left. -/
theorem kbps_whole_lost : 8 * 600 < Nat.pow 2 53 ∧ 0 < 1600 ∧ 1600 < Nat.pow 2 53 ∧ 8 * 600 / 1600 = 3 ∧
    kbps 600 (ofNat 1600) = .ok 2 := by
  decide +kernel

end LinkMeter.Rate.Sampler
