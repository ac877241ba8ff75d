import LinkMeter.Proofs.Number.Rounding
import LinkMeter.Proofs.Step
import LinkMeter.Settings.Validation

/-! # What validation makes of fields

Validation leaves the state alone, and its outcome is that of eight readings made one after the other, each of the value
under one name. Settings that are valid already are read as they are. -/

namespace LinkMeter.Settings
variable {σ α β : Type} {fields : Json.Fields}

/-- The step leaves the state alone and ends in `r`, whatever the state is. -/
def Yields (m : Logged σ α) (r : Except Fault α) : Prop := ∀ s, (m s).state = s ∧ (m s).result = r

theorem Yields.pure (a : α) : Yields (pure a : Logged σ α) (.ok a) := fun _ => ⟨rfl, rfl⟩

theorem Yields.bind {m : Logged σ α} {r : Except Fault α} {f : α → Logged σ β} {g : α → Except Fault β}
    (h : Yields m r) (hf : ∀ a, Yields (f a) (g a)) : Yields (m >>= f) (r >>= g) := by
  intro s
  obtain ⟨hstate, hresult⟩ := h s
  cases r with
  | error e =>
    rw [Step.bind_of_error hresult]
    exact ⟨hstate, rfl⟩
  | ok a =>
    rw [Step.bind_of_ok hresult, Outcome.after_state, Outcome.after_result, hstate]
    exact hf a s

theorem Yields.after_write {level : Log.Level} {component : Log.Component} {parts : List Text} {f : Unit → Logged σ α}
    {r : Except Fault α} (h : Yields (f ()) r) : Yields (Log.write level component parts >>= f) r := by
  intro s
  rw [Step.write_bind]
  exact h s

/-! ## One setting -/

/-- The default in the place of a value that does not fit, if that can be reported. -/
def standIn (default : α) (v : Json.Value) : Except Fault α :=
  if v.isSpellable then .ok default else .error (.digitLimit none)

/-- What is read under a name; the default, if nothing is there or nothing that fits. -/
def chosen (name : Text) (read : Reader α) (default : α) (fields : Json.Fields) : Except Fault α :=
  match fields.get? name with
  | none => .ok default
  | some v => read v >>= fun a => (a.map .ok).getD (standIn default v)

theorem choose_yields {name : Text} {read : Reader α} {default : α} {kind shown hint : Text} :
    Yields (choose name read default kind shown hint fields : Logged σ α) (chosen name read default fields) := by
  unfold choose chosen
  cases fields.get? name with
  | none => exact Yields.pure default
  | some v =>
    show Yields (Step.lift (read v) >>= _) (read v >>= fun a => (a.map .ok).getD (standIn default v))
    cases hread : read v with
    | error e => exact fun s => ⟨rfl, rfl⟩
    | ok a =>
      cases a with
      | none =>
        intro s
        rw [Step.lift_ok_bind]
        show _ ∧ _ = standIn default v
        unfold standIn
        cases v.isSpellable with
        | false => exact ⟨rfl, rfl⟩
        | true => exact ⟨rfl, rfl⟩
      | some a => exact fun s => ⟨rfl, rfl⟩

theorem chosen_of_read {name : Text} {read : Reader α} {default a : α} {v : Json.Value}
    (hget : fields.get? name = some v) (hread : read v = .ok (some a)) : chosen name read default fields = .ok a := by
  unfold chosen
  rw [hget]
  dsimp only
  rw [hread]
  rfl

/-! ## All settings -/

/-- The settings that the fields describe. -/
def validated (fields : Json.Fields) : Except Fault Settings := ((validate fields : Logged Unit Settings) ()).result

/-- The eight readings. -/
def readings (fields : Json.Fields) : Except Fault Settings := do
  let autoHide ← chosen "auto_hide" flag default.autoHide fields
  let showUnits ← chosen "show_units" flag default.showUnits fields
  let hideArrows ← chosen "hide_arrows" flag default.hideArrows fields
  let threshold ← chosen "auto_hide_threshold" (whole 0 100000) ⟨default.threshold, default.threshold_mem⟩ fields
  let interval ← chosen "refresh_interval" (whole 1 10) ⟨default.interval, default.interval_mem⟩ fields
  let mode ← chosen "mode" (word Display.Mode.all Display.Mode.name) default.mode fields
  let unit ← chosen "units" (word Display.RateUnit.all Display.RateUnit.name) default.unit fields
  let location ← chosen "location" (word Display.Placement.all Display.Placement.name) default.location fields
  pure ⟨location, mode, autoHide, threshold.1, threshold.2, unit, showUnits, interval.1, interval.2, hideArrows⟩

theorem validate_readings (fields : Json.Fields) : Yields (validate fields : Logged σ Settings) (readings fields) := by
  have hsettings : ∀ m : Logged σ Settings, Yields m (readings fields) →
      Yields (if !(unknownNames fields).isEmpty then
        Log.write .warning .settings ["Ignoring unknown config fields: ", .join ", " (unknownNames fields)] >>= fun _ => m
      else m) (readings fields) := by
    intro m hm
    split
    · exact hm.after_write
    · exact hm
  refine hsettings _ ?_
  unfold readings chooseFlag chooseWhole chooseWord
  refine choose_yields.bind fun autoHide => ?_
  refine choose_yields.bind fun showUnits => ?_
  refine choose_yields.bind fun hideArrows => ?_
  refine choose_yields.bind fun threshold => ?_
  refine choose_yields.bind fun interval => ?_
  refine choose_yields.bind fun mode => ?_
  refine choose_yields.bind fun unit => ?_
  refine choose_yields.bind fun location => ?_
  exact Yields.pure _

theorem validated_eq (fields : Json.Fields) : validated fields = readings fields := (validate_readings fields ()).2

/-- Validation leaves the state alone and ends in the settings that the fields describe. -/
theorem validate_yields (fields : Json.Fields) : Yields (validate fields : Logged σ Settings) (validated fields) := by
  rw [validated_eq]
  exact validate_readings fields

/-! ## Settings that are valid -/

theorem whole_of_number {low high : Nat} {n : { n : Int // (low : Int) ≤ n ∧ n ≤ high }} {v : Json.Value} {x : Binary64}
    (hnumber : numberOf v = .ok (some x)) (hlow : Binary64.intLe low x = true) (hhigh : x.leInt high = true)
    (hwhole : x.whole = n.1) : whole low high v = .ok (some n) := by
  unfold whole
  rw [hnumber]
  show Except.ok (wholeBetween low high x) = _
  unfold wholeBetween
  rw [dif_pos ⟨hlow, hhigh⟩]
  exact congrArg (fun n => Except.ok (some n)) (Subtype.ext hwhole)

theorem whole_of_mem {low high : Nat} (hbits : high < Nat.pow 2 53) (n : { n : Int // (low : Int) ≤ n ∧ n ≤ high }) :
    whole low high (.number (.int n.1)) = .ok (some n) := by
  obtain ⟨n, hlow, hhigh⟩ := n
  obtain ⟨m, rfl⟩ := Int.eq_ofNat_of_zero_le (Int.le_trans (Int.natCast_nonneg low) hlow)
  have hm : m ≤ high := Int.ofNat_le.mp hhigh
  have hnumber : numberOf (.number (.int m)) = .ok (some (.finite false (m * Binary64.unit))) := by
    show (Binary64.ofInt m).map some = _
    rw [Binary64.ofInt_natCast (Nat.lt_of_le_of_lt hm hbits)]
    rfl
  have hbetween : Binary64.intLe low (.finite false (m * Binary64.unit)) = true ∧
      (Binary64.finite false (m * Binary64.unit)).leInt high = true := by
    have hl : low * Binary64.unit ≤ m * Binary64.unit := Nat.mul_le_mul_right _ (Int.ofNat_le.mp hlow)
    have hh : m * Binary64.unit ≤ high * Binary64.unit := Nat.mul_le_mul_right _ hm
    unfold Binary64.intLe Binary64.leInt Binary64.signed
    generalize Binary64.unit = u at hl hh ⊢
    simp only [Bool.false_eq_true, ↓reduceIte, decide_eq_true_eq]
    exact_mod_cast And.intro hl hh
  have hwhole : (Binary64.finite false (m * Binary64.unit)).whole = m := by
    rw [Binary64.whole_finite, Nat.mul_div_cancel _ Binary64.unit_pos]
  exact whole_of_number hnumber hbetween.1 hbetween.2 hwhole

theorem word_mode (m : Display.Mode) : word Display.Mode.all Display.Mode.name (.string m.name) = .ok (some m) := by
  cases m <;> decide +kernel

theorem word_unit (u : Display.RateUnit) :
    word Display.RateUnit.all Display.RateUnit.name (.string u.name) = .ok (some u) := by
  cases u <;> decide +kernel

theorem word_placement (p : Display.Placement) :
    word Display.Placement.all Display.Placement.name (.string p.name) = .ok (some p) := by
  cases p <;> decide +kernel

/-- Settings are read as they are. -/
theorem validated_toFields (s : Settings) : validated s.toFields = .ok s := by
  have hautoHide : chosen "auto_hide" flag default.autoHide s.toFields = .ok s.autoHide := chosen_of_read rfl rfl
  have hshowUnits : chosen "show_units" flag default.showUnits s.toFields = .ok s.showUnits := chosen_of_read rfl rfl
  have hhideArrows : chosen "hide_arrows" flag default.hideArrows s.toFields = .ok s.hideArrows := chosen_of_read rfl rfl
  have hthreshold : chosen "auto_hide_threshold" (whole 0 100000) ⟨default.threshold, default.threshold_mem⟩ s.toFields =
      .ok ⟨s.threshold, s.threshold_mem⟩ := chosen_of_read rfl (whole_of_mem (by decide) ⟨s.threshold, s.threshold_mem⟩)
  have hinterval : chosen "refresh_interval" (whole 1 10) ⟨default.interval, default.interval_mem⟩ s.toFields =
      .ok ⟨s.interval, s.interval_mem⟩ := chosen_of_read rfl (whole_of_mem (by decide) ⟨s.interval, s.interval_mem⟩)
  have hmode : chosen "mode" (word Display.Mode.all Display.Mode.name) default.mode s.toFields = .ok s.mode :=
    chosen_of_read rfl (word_mode s.mode)
  have hunit : chosen "units" (word Display.RateUnit.all Display.RateUnit.name) default.unit s.toFields = .ok s.unit :=
    chosen_of_read rfl (word_unit s.unit)
  have hlocation : chosen "location" (word Display.Placement.all Display.Placement.name) default.location s.toFields =
      .ok s.location := chosen_of_read rfl (word_placement s.location)
  rw [validated_eq, readings, hautoHide, hshowUnits, hhideArrows, hthreshold, hinterval, hmode, hunit, hlocation]
  rfl

/-- Settings make a display configuration. -/
theorem ofSettings_toFields (s : Settings) : Display.Config.ofSettings s.toFields = .ok s.toConfig := by
  have hmode : Display.Config.modeOf s.mode.name = .ok s.mode := by
    cases s.mode <;> decide +kernel
  have hunit : Display.Config.unitOf s.unit.name = .ok s.unit := by
    cases s.unit <;> decide +kernel
  have hlocation : Display.Config.placementOf s.location.name = .ok s.location := by
    cases s.location <;> decide +kernel
  have hinterval : Display.Interval.ofValue s.interval = .ok ⟨.int s.interval, s.toConfig.interval_fits⟩ :=
    dif_pos s.toConfig.interval_fits
  have hrequired : ∀ name {v}, s.toFields.get? name = some v → Display.Config.required s.toFields name = .ok v := by
    intro name v h
    unfold Display.Config.required
    rw [h]
  unfold Display.Config.ofSettings
  rw [hrequired "mode" rfl, hrequired "auto_hide" rfl, hrequired "auto_hide_threshold" rfl,
    hrequired "units" rfl, hrequired "show_units" rfl, hrequired "refresh_interval" rfl,
    hrequired "hide_arrows" rfl, hrequired "location" rfl]
  show (Display.Config.modeOf s.mode.name >>= _) = _
  rw [hmode]
  show (Display.Config.unitOf s.unit.name >>= _) = _
  rw [hunit]
  show (Display.Config.placementOf s.location.name >>= _) = _
  rw [hlocation]
  show (Display.Interval.ofValue s.interval >>= _) = _
  rw [hinterval]
  rfl

end LinkMeter.Settings
