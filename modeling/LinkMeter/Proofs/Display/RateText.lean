import LinkMeter.Display.RateText
import LinkMeter.Proofs.Number.Decimal
import LinkMeter.Proofs.Text.Lines
import Mathlib.Algebra.Order.Field.Rat
import Mathlib.Tactic.Positivity

/-! # Rates in their units

A rate in a unit is written in plain digits, on one line. Below `8 * 10 ^ 25` kilobits per second it is rounded once, so
what is shown is the exact rate to its places, and a higher rate is never shown as a lower number. -/

namespace LinkMeter

/-! ## Numbers on a line -/

namespace Text

theorem ofNat_ne_nil (n : Nat) : ofNat n ≠ [] := by
  unfold ofNat
  exact fun h => Nat.toDigits_ne_nil (List.map_eq_nil_iff.mp h)

theorem isLine_ofNat (n : Nat) : IsLine (ofNat n) :=
  .of_le (ofNat_ne_nil n) fun _ hc => Nat.le_trans (by decide) (Binary64.mem_ofNat hc).1

theorem isLine_padded (width n : Nat) : IsLine (padded width n) := by
  refine .of_le ?_ fun _ hc => Nat.le_trans (by decide) (mem_padded hc).1
  rw [padded_eq]
  exact fun h => ofNat_ne_nil n (List.append_eq_nil_iff.mp h).2

theorem isLine_ofInt (n : Int) : IsLine (ofInt n) := by
  cases n with
  | ofNat n => exact isLine_ofNat n
  | negSucc n => exact .append (s := [45]) (by decide) (isLine_ofNat (n + 1))

end Text

namespace Decimal

theorem isLine_plain (places n : Nat) : (plain places n).IsLine := by
  unfold plain
  split
  · exact Text.isLine_ofNat n
  · have hpoint : Text.IsLine (Text.ofString ".") := by decide
    exact .cat (List.forall_mem_cons.mpr ⟨Text.isLine_ofNat _, List.forall_mem_cons.mpr ⟨hpoint,
      List.forall_mem_singleton.mpr (Text.isLine_padded _ _)⟩⟩)

theorem fixed_of_ok {places den : Nat} {num : Int} {t : Text} (h : fixed places num den = .ok t) :
    ∃ negative n, t = Binary64.signText negative ++ plain places n := by
  unfold fixed at h
  dsimp only at h
  split at h
  · cases h
  · rw [withPoint_eq_plain] at h
    exact ⟨decide (num < 0), _, (Except.ok.inj h).symm.trans (congrArg _ (List.append_nil _))⟩

theorem isLine_of_fixed {places den : Nat} {num : Int} {t : Text} (h : fixed places num den = .ok t) : t.IsLine := by
  obtain ⟨negative, n, rfl⟩ := fixed_of_ok h
  cases negative with
  | false => exact isLine_plain places n
  | true => exact .append (s := [45]) (by decide) (isLine_plain places n)

end Decimal

namespace Display

theorem wholeText_of_ok {n : Int} {t : Text} (h : wholeText n = .ok t) : t = .ofInt n := by
  unfold wholeText at h
  split at h
  · exact (Except.ok.inj h).symm
  · cases h

theorem RateUnit.isLine_format {unit : RateUnit} {kbps : Int} {t : Text} (h : unit.format kbps = .ok t) : t.IsLine := by
  cases unit with
  | kilobits => exact wholeText_of_ok h ▸ Text.isLine_ofInt kbps
  | megabits => exact Decimal.isLine_of_fixed h
  | kilobytes => exact wholeText_of_ok h ▸ Text.isLine_ofInt (kbps.fdiv 8)
  | megabytes => exact Decimal.isLine_of_fixed h

theorem Units.isLine_format {units : Units} {kbps : Int} {t : Text} (h : units.format kbps = .ok t) : t.IsLine := by
  cases units with
  | known unit => exact RateUnit.isLine_format h
  | other v =>
    cases h
    decide

theorem Units.isLine_label (units : Units) : units.label.IsLine := by
  cases units with
  | known unit => cases unit <;> decide
  | other v =>
    show unknownLabel.IsLine
    decide

/-- A rate takes one line, with its label or without. -/
theorem Units.isLine_line {units : Units} {showUnits : Bool} {kbps : Int} {t : Text}
    (h : units.line showUnits kbps = .ok t) : t.IsLine := by
  unfold Units.line at h
  cases hvalue : units.format kbps with
  | error e =>
    rw [hvalue] at h
    cases h
  | ok value =>
    have hline := Units.isLine_format hvalue
    rw [hvalue] at h
    cases showUnits with
    | false =>
      cases h
      exact hline
    | true =>
      cases h
      have hspace : Text.IsLine (Text.ofString " ") := by decide
      exact .cat (List.forall_mem_cons.mpr ⟨hline, List.forall_mem_cons.mpr ⟨hspace,
        List.forall_mem_singleton.mpr units.isLine_label⟩⟩)

end Display

/-! ## The number that is shown -/

namespace Decimal

/-- Plain digits, with at least one in front of the point and `places` behind it; without places there is no point. -/
inductive Positional : Nat → Text → Prop
  | whole {t : Text} (hnil : t ≠ []) (hdigits : ∀ c ∈ t, 48 ≤ c ∧ c ≤ 57) : Positional 0 t
  | pointed {whole decimals : Text} (hwhole : whole ≠ []) (hdecimals : decimals ≠ [])
      (hdigits : ∀ c ∈ whole ++ decimals, 48 ≤ c ∧ c ≤ 57) : Positional decimals.length (whole ++ 46 :: decimals)

/-- The number that is read off plain digits: those up to the point, and those behind it. -/
def reading (t : Text) : ℚ :=
  let whole := Binary64.takeDigits t
  let decimals := Binary64.takeDigits (whole.2.drop 1)
  (Binary64.digitsValue (whole.1 ++ decimals.1) : ℚ) / 10 ^ decimals.1.length

theorem plain_zero (n : Nat) : plain 0 n = .ofNat n := rfl

theorem plain_succ (places n : Nat) : plain (places + 1) n =
    Text.ofNat (n / Nat.pow 10 (places + 1)) ++ 46 :: Text.padded (places + 1) (n % Nat.pow 10 (places + 1)) := by
  unfold plain
  rw [if_neg (Nat.succ_ne_zero places)]
  exact congrArg (Text.ofNat _ ++ 46 :: ·) (List.append_nil _)

theorem positional_plain (places n : Nat) : Positional places (plain places n) := by
  cases places with
  | zero => exact .whole (Text.ofNat_ne_nil n) fun c hc => Binary64.mem_ofNat hc
  | succ places =>
    have hpointed := Positional.pointed (Text.ofNat_ne_nil (n / Nat.pow 10 (places + 1)))
      (Text.isLine_padded (places + 1) (n % Nat.pow 10 (places + 1))).ne_nil
      fun c hc => (List.mem_append.mp hc).elim Binary64.mem_ofNat Text.mem_padded
    rwa [Text.length_padded_mod, ← plain_succ] at hpointed

theorem takeDigits_all {digits : Text} (h : ∀ c ∈ digits, 48 ≤ c ∧ c ≤ 57) :
    Binary64.takeDigits digits = (digits.map (· - 48), []) := by
  have htake : Binary64.takeDigits (digits ++ []) = (digits.map (· - 48), []) :=
    Binary64.takeDigits_append h fun c hc => nomatch hc
  rwa [List.append_nil] at htake

theorem reading_plain (places n : Nat) : reading (plain places n) = (n : ℚ) / 10 ^ places := by
  unfold reading
  dsimp only
  cases places with
  | zero =>
    have hnone : Binary64.takeDigits (([] : Text).drop 1) = ([], []) := rfl
    rw [plain_zero, takeDigits_all fun c hc => Binary64.mem_ofNat hc, hnone, Binary64.map_ofNat, List.append_nil,
      Binary64.digitsValue_decimalDigits, List.length_nil]
  | succ places =>
    have hwhole : ∀ rest, Binary64.takeDigits (Text.ofNat (n / Nat.pow 10 (places + 1)) ++ 46 :: rest) =
        ((Text.ofNat (n / Nat.pow 10 (places + 1))).map (· - 48), 46 :: rest) := fun rest =>
      Binary64.takeDigits_append (fun c hc => Binary64.mem_ofNat hc) (by rintro c ⟨⟩; rfl)
    rw [plain_succ, hwhole, List.drop_one, List.tail_cons, takeDigits_all fun c hc => Text.mem_padded hc, ← List.map_append,
      ← Text.padded_split, Binary64.digitsValue_padded, List.length_map, Text.length_padded_mod]

end Decimal

namespace Display

/-- The places with which rates are written in a unit. -/
def RateUnit.places (unit : RateUnit) : Nat :=
  if unit = .megabits then 1 else if unit = .megabytes then 2 else 0

/-- What is shown of a rate, in units of the last place: a half goes up in megabits and megabytes. -/
def RateUnit.shown (unit : RateUnit) (kbps : Nat) : Nat :=
  if unit = .megabits then (kbps + 50) / 100
  else if unit = .megabytes then (kbps + 40) / 80
  else if unit = .kilobytes then kbps / 8
  else kbps

theorem RateUnit.shown_mono (unit : RateUnit) {less more : Nat} (h : less ≤ more) : unit.shown less ≤ unit.shown more := by
  unfold shown
  split
  · exact Nat.div_le_div_right (Nat.add_le_add_right h 50)
  · split
    · exact Nat.div_le_div_right (Nat.add_le_add_right h 40)
    · split
      · exact Nat.div_le_div_right h
      · exact h

section Exact
variable {kbps : Nat}

theorem pow_precision : Nat.pow 10 Decimal.precision = 125 * (8 * 10 ^ 25) := by decide

theorem isExact_megabits (h : kbps < 8 * 10 ^ 25) : Decimal.IsExact kbps 1000 := by
  refine Decimal.isExact_of_lt 1 3 rfl (by decide) ?_
  rw [pow_precision]
  omega

theorem isExact_megabytes (h : kbps < 8 * 10 ^ 25) : Decimal.IsExact kbps 8000 := by
  refine Decimal.isExact_of_lt 125 6 rfl (by decide) ?_
  rw [pow_precision]
  omega

theorem fixed_megabits (h : kbps < 8 * 10 ^ 25) :
    Decimal.fixed 1 kbps 1000 = .ok (Decimal.plain 1 ((kbps + 50) / 100)) := by
  have hround : Rounding.halfUp (kbps * Nat.pow 10 1) 1000 = (kbps + 50) / 100 := by
    show (2 * (kbps * 10) + 1000) / (2 * 1000) = _
    omega
  rw [← hround]
  refine Decimal.fixed_of_exact 1 (by decide) (isExact_megabits h) ?_
  rw [hround, pow_precision]
  omega

theorem fixed_megabytes (h : kbps < 8 * 10 ^ 25) :
    Decimal.fixed 2 kbps 8000 = .ok (Decimal.plain 2 ((kbps + 40) / 80)) := by
  have hround : Rounding.halfUp (kbps * Nat.pow 10 2) 8000 = (kbps + 40) / 80 := by
    show (2 * (kbps * 100) + 8000) / (2 * 8000) = _
    omega
  rw [← hround]
  refine Decimal.fixed_of_exact 2 (by decide) (isExact_megabytes h) ?_
  rw [hround, pow_precision]
  omega

theorem wholeText_natCast (h : kbps < 8 * 10 ^ 25) : wholeText kbps = .ok (.ofNat kbps) := by
  have hlength : (Text.ofNat kbps).length ≤ 26 :=
    (Text.length_ofNat_le_iff (by decide)).mpr (Nat.lt_trans h (by decide))
  unfold wholeText
  rw [Int.natAbs_natCast, if_pos (Nat.le_trans hlength (by decide))]
  rfl

theorem RateUnit.format_of_lt (unit : RateUnit) (h : kbps < 8 * 10 ^ 25) :
    unit.format kbps = .ok (Decimal.plain unit.places (unit.shown kbps)) := by
  cases unit with
  | kilobits => exact wholeText_natCast h
  | megabits => exact fixed_megabits h
  | kilobytes =>
    have hwhole : (kbps : Int).fdiv 8 = (kbps / 8 : Nat) := by
      rw [Int.fdiv_eq_ediv_of_nonneg _ (by decide)]
      rfl
    show wholeText ((kbps : Int).fdiv 8) = _
    rw [hwhole]
    exact wholeText_natCast (Nat.lt_of_le_of_lt (Nat.div_le_self kbps 8) h)
  | megabytes => exact fixed_megabytes h

/-- Below `8 * 10 ^ 25` kilobits per second every rate is shown, rounded once from the exact rate: to tenths of a megabit
and hundredths of a megabyte with a half going up, down to whole kilobytes, and as it is in kilobits. It is shown in plain
digits, and a higher rate is not shown as a lower number. -/
theorem format_exact (h : kbps < 8 * 10 ^ 25) :
    RateUnit.megabits.format kbps = .ok (Decimal.plain 1 ((kbps + 50) / 100)) ∧
    RateUnit.megabytes.format kbps = .ok (Decimal.plain 2 ((kbps + 40) / 80)) ∧
    RateUnit.kilobytes.format kbps = .ok (Text.ofNat (kbps / 8)) ∧
    RateUnit.kilobits.format kbps = .ok (Text.ofNat kbps) ∧
    Decimal.IsExact kbps 1000 ∧ Decimal.IsExact kbps 8000 ∧
    ∀ (unit : RateUnit) (t : Text), unit.format kbps = .ok t → Decimal.Positional unit.places t ∧
      ∀ (less : Nat) (u : Text), less ≤ kbps → unit.format less = .ok u → Decimal.reading u ≤ Decimal.reading t := by
  refine ⟨RateUnit.format_of_lt .megabits h, RateUnit.format_of_lt .megabytes h, RateUnit.format_of_lt .kilobytes h,
    RateUnit.format_of_lt .kilobits h, isExact_megabits h, isExact_megabytes h, ?_⟩
  intro unit t ht
  obtain rfl := Except.ok.inj ((unit.format_of_lt h).symm.trans ht)
  refine ⟨Decimal.positional_plain _ _, fun less u hle hu => ?_⟩
  obtain rfl := Except.ok.inj ((unit.format_of_lt (Nat.lt_of_le_of_lt hle h)).symm.trans hu)
  have hshown := unit.shown_mono hle
  rw [Decimal.reading_plain, Decimal.reading_plain]
  exact div_le_div_of_nonneg_right (Nat.cast_le.mpr hshown) (by positivity)

end Exact

/-- The highest of these rates, whose megabytes have 28 digits before they are rounded. -/
theorem format_highest : 8 * 10 ^ 25 - 1 < 8 * 10 ^ 25 ∧
    RateUnit.megabytes.format (8 * 10 ^ 25 - 1 : Nat) = .ok "10000000000000000000000.00" := by
  have hlt : 8 * 10 ^ 25 - 1 < 8 * 10 ^ 25 := by decide
  have hplain : Decimal.plain 2 ((8 * 10 ^ 25 - 1 + 40) / 80) = "10000000000000000000000.00" := by decide +kernel
  exact ⟨hlt, hplain ▸ (format_exact hlt).2.1⟩

end Display
end LinkMeter
