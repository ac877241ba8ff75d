import LinkMeter.Number.Decimal
import LinkMeter.Proofs.Json.Digits

/-! # Decimal quotients that are exact

A quotient that has at most 28 digits is not rounded when it is taken, so it is rounded only once, to its places. A
natural number with a point in its digits is written with its whole part in front of the point. -/

namespace LinkMeter

/-! ## Digits -/

namespace Text

theorem length_ofNat_le_iff {n k : Nat} (hk : 0 < k) : (ofNat n).length ≤ k ↔ n < Nat.pow 10 k := by
  unfold ofNat
  rw [List.length_map]
  exact Nat.length_toDigits_le_iff (by decide) hk

theorem ofNat_of_lt {n : Nat} (h : n < 10) : ofNat n = [48 + n] := by
  unfold ofNat
  rw [Nat.toDigits_of_lt_base h, List.map_singleton, Nat.toNat_digitChar_of_lt_ten h]

theorem ofNat_of_le {n : Nat} (h : 10 ≤ n) : ofNat n = ofNat (n / 10) ++ [48 + n % 10] := by
  unfold ofNat
  rw [Nat.toDigits_of_base_le (by decide) h, List.map_append, List.map_singleton,
    Nat.toNat_digitChar_of_lt_ten (Nat.mod_lt n (by decide))]

theorem padded_eq (width n : Nat) :
    padded width n = List.replicate (width - (ofNat n).length) 48 ++ ofNat n := rfl

theorem padded_one (n : Nat) : padded 1 n = ofNat n := by
  have hpos : 1 ≤ (ofNat n).length := by
    unfold ofNat
    rw [List.length_map]
    exact Nat.length_toDigits_pos
  rw [padded_eq, Nat.sub_eq_zero_of_le hpos, List.replicate_zero, List.nil_append]

/-- The last digit stands behind the digits of a tenth of the number. -/
theorem padded_succ (width n : Nat) : padded (width + 2) n = padded (width + 1) (n / 10) ++ [48 + n % 10] := by
  rw [padded_eq, padded_eq]
  rcases Nat.lt_or_ge n 10 with hlt | hge
  · rw [Nat.div_eq_of_lt hlt, Nat.mod_eq_of_lt hlt, ofNat_of_lt hlt, ofNat_of_lt (by decide : 0 < 10)]
    rw [List.length_singleton, List.length_singleton, Nat.add_succ_sub_one, Nat.add_sub_cancel, List.replicate_succ']
  · have hzeros : width + 2 - ((ofNat (n / 10)).length + 1) = width + 1 - (ofNat (n / 10)).length := by omega
    rw [ofNat_of_le hge, List.length_append, List.length_singleton, hzeros, List.append_assoc]

theorem length_padded {width n : Nat} (hwidth : 0 < width) (h : n < Nat.pow 10 width) : (padded width n).length = width := by
  have hdigits : (ofNat n).length ≤ width := (length_ofNat_le_iff hwidth).mpr h
  rw [padded_eq, List.length_append, List.length_replicate, Nat.sub_add_cancel hdigits]

/-- The decimals of a number have all their places. -/
theorem length_padded_mod (places n : Nat) : (padded (places + 1) (n % Nat.pow 10 (places + 1))).length = places + 1 :=
  length_padded (Nat.succ_pos places) (Nat.mod_lt n (Nat.pow_pos (by decide)))

theorem mem_padded {width n : Nat} {c : CodePoint} (h : c ∈ padded width n) : 48 ≤ c ∧ c ≤ 57 := by
  rcases List.mem_append.mp h with hzero | hdigit
  · rw [List.eq_of_mem_replicate hzero]
    decide
  · exact Binary64.mem_ofNat hdigit

/-- Division splits the last digits of a number from the others. -/
theorem padded_split (places n : Nat) :
    padded (places + 2) n = ofNat (n / Nat.pow 10 (places + 1)) ++ padded (places + 1) (n % Nat.pow 10 (places + 1)) := by
  induction places generalizing n with
  | zero =>
    have hdigit : ofNat (n % 10) = [48 + n % 10] := ofNat_of_lt (Nat.mod_lt n (by decide))
    rw [padded_succ, padded_one, padded_one]
    exact congrArg (ofNat (n / 10) ++ ·) hdigit.symm
  | succ places ih =>
    have hpow : Nat.pow 10 (places + 2) = 10 * Nat.pow 10 (places + 1) := Nat.mul_comm _ _
    have hfront : n / 10 / Nat.pow 10 (places + 1) = n / Nat.pow 10 (places + 2) := by
      rw [hpow, Nat.div_div_eq_div_mul]
    have hmiddle : n / 10 % Nat.pow 10 (places + 1) = n % Nat.pow 10 (places + 2) / 10 := by
      rw [hpow, Nat.mod_mul_right_div_self]
    have hlast : n % 10 = n % Nat.pow 10 (places + 2) % 10 := by
      rw [hpow, Nat.mod_mul_right_mod]
    rw [padded_succ, ih, hfront, hmiddle, hlast, List.append_assoc, ← padded_succ]

end Text

/-! ## The place of the leading digit -/

namespace Rounding

theorem pow_ten_zero : Nat.pow 10 0 = 1 := rfl

theorem length_toDigits_div {k n : Nat} (h : Nat.pow 10 k ≤ n) :
    (Nat.toDigits 10 (n / Nat.pow 10 k)).length + k = (Nat.toDigits 10 n).length := by
  induction k generalizing n with
  | zero => rw [pow_ten_zero, Nat.div_one, Nat.add_zero]
  | succ k ih =>
    have hpow : Nat.pow 10 (k + 1) = 10 * Nat.pow 10 k := Nat.mul_comm _ _
    have hpos : 0 < Nat.pow 10 k := Nat.pow_pos (by decide)
    have hbase : 10 ≤ n := by omega
    have htenth : Nat.pow 10 k ≤ n / 10 := by omega
    rw [Nat.toDigits_of_base_le (by decide) hbase, List.length_append, List.length_singleton, ← ih htenth, hpow,
      Nat.div_div_eq_div_mul, Nat.add_assoc]

theorem digitCountFrom_eq (n fuel : Nat) : digitCountFrom n fuel = (Nat.toDigits 10 n).length := by
  induction fuel generalizing n with
  | zero => rfl
  | succ fuel ih =>
    rw [digitCountFrom]
    split
    · rfl
    · next hlarge => rw [ih, length_toDigits_div (Nat.not_lt.mp hlarge)]

theorem digitCount_le_iff {n k : Nat} (hk : 0 < k) : digitCount n ≤ k ↔ n < Nat.pow 10 k := by
  unfold digitCount
  rw [digitCountFrom_eq]
  exact Nat.length_toDigits_le_iff (by decide) hk

theorem digitCount_pos (n : Nat) : 0 < digitCount n := by
  unfold digitCount
  rw [digitCountFrom_eq]
  exact Nat.length_toDigits_pos

theorem lt_pow_digitCount (n : Nat) : n < Nat.pow 10 (digitCount n) :=
  (digitCount_le_iff (digitCount_pos n)).mp (Nat.le_refl _)

/-- The leading digit of a quotient below `10 ^ k` stands further down than `k`. -/
theorem leadingPlace_lt {num den k : Nat} (h : num < den * Nat.pow 10 k) : leadingPlace num den < k := by
  unfold leadingPlace
  dsimp only
  split
  · next hle =>
    refine Int.not_le.mp fun hk => ?_
    have hup : (-((digitCount num : Int) - digitCount den)).toNat = 0 := by omega
    have hplaces : k ≤ ((digitCount num : Int) - digitCount den).toNat := by omega
    have hpow : Nat.pow 10 k ≤ Nat.pow 10 ((digitCount num : Int) - digitCount den).toNat :=
      Nat.pow_le_pow_right (by decide) hplaces
    rw [hup, pow_ten_zero, Nat.mul_one] at hle
    exact absurd (Nat.le_trans (Nat.mul_le_mul_left den hpow) hle) (Nat.not_le.mpr h)
  · refine Int.not_le.mp fun hk => ?_
    -- The dividend then has more than `k` digits more than the divisor.
    have hdigits : digitCount den + k < digitCount num := by omega
    have hlarge : Nat.pow 10 (digitCount den + k) ≤ num := by
      have hpos : 0 < digitCount den + k := Nat.add_pos_left (digitCount_pos den) k
      exact Nat.not_lt.mp fun hlt => Nat.not_lt.mpr ((digitCount_le_iff hpos).mpr hlt) hdigits
    have hsmall : den * Nat.pow 10 k < Nat.pow 10 (digitCount den + k) := by
      rw [show Nat.pow 10 (digitCount den + k) = Nat.pow 10 (digitCount den) * Nat.pow 10 k from Nat.pow_add 10 _ _]
      exact Nat.mul_lt_mul_of_pos_right (lt_pow_digitCount den) (Nat.pow_pos (by decide))
    omega

/-! ## Halves -/

theorem halfEven_of_dvd {num den : Nat} (hden : 0 < den) (h : den ∣ num) : halfEven num den * den = num := by
  unfold halfEven
  rw [Nat.mod_eq_zero_of_dvd h, if_pos (by omega), Nat.div_mul_cancel h]

theorem halfUp_mul (num den : Nat) {factor : Nat} (h : 0 < factor) : halfUp (num * factor) (den * factor) = halfUp num den := by
  unfold halfUp
  rw [← Nat.mul_assoc, ← Nat.mul_assoc, ← Nat.add_mul, Nat.mul_div_mul_right _ _ h]

end Rounding

/-! ## Rounding once -/

namespace Decimal

theorem pow_ten_mul (k l : Nat) : Nat.pow 10 k * Nat.pow 10 l = Nat.pow 10 (k + l) := (Nat.pow_add 10 k l).symm

/-- The quotient is not rounded: its digits, up to the last of its places, make up `num / den`. -/
def IsExact (num den : Nat) : Prop :=
  ∃ places : Nat, (quotient num den).2 = -(places : Int) ∧ (quotient num den).1 * den = num * Nat.pow 10 places

section Exact
variable {num den : Nat}

theorem quotient_of_pos (h : 0 < num) : quotient num den =
    let place := Rounding.leadingPlace num den - (precision - 1 : Nat)
    (Rounding.halfEven (num * Nat.pow 10 (-place).toNat) (den * Nat.pow 10 place.toNat), place) := by
  unfold quotient
  exact if_neg (Nat.ne_of_gt h)

/-- A quotient that needs so few decimals that its digits are at most 28 is exact. -/
theorem isExact_of_lt (factor decimals : Nat) (hfactor : den * factor = Nat.pow 10 decimals)
    (hdecimals : decimals < precision) (h : num * factor < Nat.pow 10 precision) : IsExact num den := by
  have hten : 0 < den * factor := by
    rw [hfactor]
    exact Nat.pow_pos (by decide)
  have hden : 0 < den := Nat.pos_of_mul_pos_right hten
  rcases Nat.eq_zero_or_pos num with rfl | hnum
  · exact ⟨0, rfl, by rw [Nat.zero_mul]; exact Nat.zero_mul den⟩
  · have hsmall : num < den * Nat.pow 10 (precision - decimals) := by
      refine Nat.lt_of_mul_lt_mul_right (a := factor) ?_
      rwa [Nat.mul_right_comm, hfactor, pow_ten_mul, Nat.add_sub_cancel' (Nat.le_of_lt hdecimals)]
    have hlead := Rounding.leadingPlace_lt hsmall
    obtain ⟨places, hplaces⟩ : ∃ places : Nat, Rounding.leadingPlace num den - (precision - 1 : Nat) = -(places : Int) := by
      exact ⟨(-(Rounding.leadingPlace num den - (precision - 1 : Nat))).toNat, by omega⟩
    have hmore : decimals ≤ places := by omega
    have hdvd : den ∣ num * Nat.pow 10 places := by
      refine Nat.dvd_mul_left_of_dvd ?_ num
      refine Nat.dvd_trans (Nat.dvd_mul_right den factor) ?_
      rw [hfactor]
      exact Nat.pow_dvd_pow 10 hmore
    refine ⟨places, ?_, ?_⟩
    · rw [quotient_of_pos hnum]
      exact hplaces
    · rw [quotient_of_pos hnum, hplaces]
      dsimp only
      rw [Int.neg_neg, Int.toNat_natCast, Int.toNat_neg_natCast, Rounding.pow_ten_zero, Nat.mul_one]
      exact Rounding.halfEven_of_dvd hden hdvd

/-- Rounding the digits of an exact quotient is rounding the quotient itself. -/
theorem toPlaces_of_exact (places : Nat) (hden : 0 < den) (h : IsExact num den) :
    toPlaces places (quotient num den).1 (quotient num den).2 = Rounding.halfUp (num * Nat.pow 10 places) den := by
  obtain ⟨last, hlast, hexact⟩ := h
  have hup : (-(last : Int) + places).toNat = places - last := by omega
  have hdown : (-(-(last : Int) + places)).toNat = last - places := by omega
  have hpow : Nat.pow 10 last * Nat.pow 10 (places - last) = Nat.pow 10 places * Nat.pow 10 (last - places) := by
    rw [pow_ten_mul, pow_ten_mul]
    exact congrArg (Nat.pow 10) (by omega)
  have hscale : (quotient num den).1 * Nat.pow 10 (places - last) * den = num * Nat.pow 10 places * Nat.pow 10 (last - places) := by
    rw [Nat.mul_right_comm, hexact, Nat.mul_assoc, hpow, Nat.mul_assoc]
  unfold toPlaces
  dsimp only
  rw [hlast, hup, hdown, ← Rounding.halfUp_mul _ _ hden, hscale, Nat.mul_comm (Nat.pow 10 (last - places)) den]
  exact Rounding.halfUp_mul _ _ (Nat.pow_pos (by decide))

end Exact

/-! ## Plain digits -/

/-- A natural number counted in units of `10 ^ -places`: its whole part, and behind a point the rest in `places` digits. -/
def plain (places n : Nat) : Text :=
  if places = 0 then .ofNat n
  else .cat [.ofNat (n / Nat.pow 10 places), ".", .padded places (n % Nat.pow 10 places)]

theorem pointed_nil (whole : Text) : Binary64.pointed false whole [] = whole := rfl

theorem pointed_of_ne_nil {whole decimals : Text} (h : decimals ≠ []) :
    Binary64.pointed false whole decimals = .cat [whole, ".", decimals] := by
  unfold Binary64.pointed
  rw [List.isEmpty_eq_false_iff.mpr h, Bool.false_and]
  exact if_neg Bool.false_ne_true

theorem withPoint_eq_plain (places n : Nat) : Binary64.withPoint false places n = plain places n := by
  unfold Binary64.withPoint plain
  dsimp only
  cases places with
  | zero =>
    rw [Text.padded_one, Nat.sub_zero, List.take_length, List.drop_length, if_pos rfl, pointed_nil]
  | succ places =>
    have hlength := Text.length_padded_mod places n
    have hdecimals : Text.padded (places + 1) (n % Nat.pow 10 (places + 1)) ≠ [] :=
      List.length_pos_iff.mp (by rw [hlength]; exact Nat.succ_pos places)
    rw [Text.padded_split, List.length_append, hlength, Nat.add_sub_cancel, List.take_left, List.drop_left,
      pointed_of_ne_nil hdecimals, if_neg (Nat.succ_ne_zero places)]

/-- An exact quotient is rounded once, and written in plain digits if they are few enough. -/
theorem fixed_of_exact {num den : Nat} (places : Nat) (hden : 0 < den) (h : IsExact num den)
    (hdigits : Rounding.halfUp (num * Nat.pow 10 places) den < Nat.pow 10 precision) :
    fixed places num den = .ok (plain places (Rounding.halfUp (num * Nat.pow 10 places) den)) := by
  have hfew : ¬ precision < Rounding.digitCount (Rounding.halfUp (num * Nat.pow 10 places) den) :=
    Nat.not_lt.mpr ((Rounding.digitCount_le_iff (by decide)).mpr hdigits)
  unfold fixed
  dsimp only
  rw [Int.natAbs_natCast, toPlaces_of_exact places hden h, if_neg hfew,
    decide_eq_false (Int.not_lt.mpr (Int.natCast_nonneg num)), withPoint_eq_plain]
  exact congrArg Except.ok (List.append_nil _)

end Decimal
end LinkMeter
