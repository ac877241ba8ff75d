import LinkMeter.Proofs.Settings.Validation

/-! # Complete fields

Fields are complete if they are the eight settings, in any order, each with a value that it may have. What validation ends
in is complete, and it leaves complete fields as they are. What it makes of one setting depends on the value under that
name alone, where the default stands in for a missing one, so no entry tells on another. -/

namespace LinkMeter.Settings
variable {σ α β : Type} {fields other : Json.Fields} {name : Text} {s t : Settings}

/-- The names of the settings that are truth values. -/
def flagNames : List Text := ["auto_hide", "show_units", "hide_arrows"]

/-- The fields are the eight settings, each with a value that it may have. -/
structure Complete (fields : Json.Fields) : Prop where
  names : (fields.map Prod.fst).Perm
    ["location", "mode", "auto_hide", "auto_hide_threshold", "units", "show_units", "refresh_interval", "hide_arrows"]
  flags : ∀ name ∈ flagNames, ∃ b, fields.get? name = some (.bool b)
  threshold : ∃ n : Int, fields.get? "auto_hide_threshold" = some (.number (.int n)) ∧ 0 ≤ n ∧ n ≤ 100000
  interval : ∃ n : Int, fields.get? "refresh_interval" = some (.number (.int n)) ∧ 1 ≤ n ∧ n ≤ 10
  mode : ∃ t ∈ (["both", "upstream", "downstream", "disabled"] : List Text), fields.get? "mode" = some (.string t)
  units : ∃ t ∈ (["kilobits", "megabits", "kilobytes", "megabytes"] : List Text), fields.get? "units" = some (.string t)
  location : ∃ t ∈ (["hidden", "header", "status_bar"] : List Text), fields.get? "location" = some (.string t)

/-- The value that counts under a name: that of the default if there is none. -/
def given (fields : Json.Fields) (name : Text) : Option Json.Value := (fields.get? name).or (default.toFields.get? name)

/-! ## Complete fields are settings -/

theorem complete_toFields (s : Settings) : Complete s.toFields where
  names := .refl _
  flags := by
    simp only [flagNames, List.forall_mem_cons]
    exact ⟨⟨s.autoHide, rfl⟩, ⟨s.showUnits, rfl⟩, ⟨s.hideArrows, rfl⟩, nofun⟩
  threshold := ⟨s.threshold, rfl, s.threshold_mem⟩
  interval := ⟨s.interval, rfl, s.interval_mem⟩
  mode := ⟨s.mode.name, by cases s.mode <;> decide, rfl⟩
  units := ⟨s.unit.name, by cases s.unit <;> decide, rfl⟩
  location := ⟨s.location.name, by cases s.location <;> decide, rfl⟩

theorem get?_of_notMem (h : name ∉ fields.map Prod.fst) : fields.get? name = none := by
  induction fields with
  | nil => rfl
  | cons f rest ih =>
    rw [List.map_cons, List.mem_cons, not_or] at h
    obtain ⟨hne, hrest⟩ := h
    unfold Json.Fields.get?
    rw [if_neg (Ne.symm hne), ih hrest]

/-- A name is one of the eight, or no setting has it. -/
theorem forall_names {P : Text → Prop} (h : ∀ name ∈ names, P name) (hother : ∀ name, name ∉ names → P name) (name : Text) :
    P name :=
  (Classical.em (name ∈ names)).elim (h name) (hother name)

/-- Complete fields say what some settings say. -/
theorem exists_settings (h : Complete fields) : ∃ s : Settings, ∀ name, fields.get? name = s.toFields.get? name := by
  have hmodes : ∀ t ∈ (["both", "upstream", "downstream", "disabled"] : List Text), ∃ m : Display.Mode, t = m.name := by
    simp only [List.forall_mem_cons]
    exact ⟨⟨.both, rfl⟩, ⟨.up, rfl⟩, ⟨.down, rfl⟩, ⟨.disabled, rfl⟩, nofun⟩
  have hunits : ∀ t ∈ (["kilobits", "megabits", "kilobytes", "megabytes"] : List Text), ∃ u : Display.RateUnit, t = u.name := by
    simp only [List.forall_mem_cons]
    exact ⟨⟨.kilobits, rfl⟩, ⟨.megabits, rfl⟩, ⟨.kilobytes, rfl⟩, ⟨.megabytes, rfl⟩, nofun⟩
  have hplacements : ∀ t ∈ (["hidden", "header", "status_bar"] : List Text), ∃ p : Display.Placement, t = p.name := by
    simp only [List.forall_mem_cons]
    exact ⟨⟨.hidden, rfl⟩, ⟨.header, rfl⟩, ⟨.statusBar, rfl⟩, nofun⟩
  obtain ⟨threshold, hthreshold, threshold_mem⟩ := h.threshold
  obtain ⟨interval, hinterval, interval_mem⟩ := h.interval
  obtain ⟨_, hmode, hmodeAt⟩ := h.mode
  obtain ⟨mode, rfl⟩ := hmodes _ hmode
  obtain ⟨_, hunit, hunitAt⟩ := h.units
  obtain ⟨unit, rfl⟩ := hunits _ hunit
  obtain ⟨_, hlocation, hlocationAt⟩ := h.location
  obtain ⟨location, rfl⟩ := hplacements _ hlocation
  obtain ⟨autoHide, hautoHide⟩ := h.flags "auto_hide" (by decide)
  obtain ⟨showUnits, hshowUnits⟩ := h.flags "show_units" (by decide)
  obtain ⟨hideArrows, hhideArrows⟩ := h.flags "hide_arrows" (by decide)
  refine ⟨⟨location, mode, autoHide, threshold, threshold_mem, unit, showUnits, interval, interval_mem, hideArrows⟩,
    forall_names ?_ fun name hname => ?_⟩
  · simp only [names, List.forall_mem_cons]
    exact ⟨hlocationAt, hmodeAt, hautoHide, hthreshold, hunitAt, hshowUnits, hinterval, hhideArrows, nofun⟩
  · rw [get?_of_notMem fun hmem => hname (h.names.mem_iff.mp hmem), get?_of_notMem hname]

theorem chosen_congr {read : Reader α} {default : α} (h : fields.get? name = other.get? name) :
    chosen name read default fields = chosen name read default other := by
  unfold chosen
  rw [h]

/-- Validation looks up the eight settings and nothing else. -/
theorem readings_congr (h : ∀ name ∈ names, fields.get? name = other.get? name) : readings fields = readings other := by
  unfold readings
  rw [chosen_congr (h "auto_hide" (by decide)), chosen_congr (h "show_units" (by decide)),
    chosen_congr (h "hide_arrows" (by decide)), chosen_congr (h "auto_hide_threshold" (by decide)),
    chosen_congr (h "refresh_interval" (by decide)), chosen_congr (h "mode" (by decide)),
    chosen_congr (h "units" (by decide)), chosen_congr (h "location" (by decide))]

theorem validated_of_complete (h : Complete fields) :
    ∃ s, validated fields = .ok s ∧ ∀ name, s.toFields.get? name = fields.get? name := by
  obtain ⟨s, hs⟩ := exists_settings h
  refine ⟨s, ?_, fun name => (hs name).symm⟩
  rw [validated_eq, readings_congr fun name _ => hs name, ← validated_eq, validated_toFields]

/-! ## One setting at a time -/

/-- The settings are what is read under the eight names. -/
structure ReadsAs (fields : Json.Fields) (s : Settings) : Prop where
  location : chosen "location" (word Display.Placement.all Display.Placement.name) default.location fields = .ok s.location
  mode : chosen "mode" (word Display.Mode.all Display.Mode.name) default.mode fields = .ok s.mode
  autoHide : chosen "auto_hide" flag default.autoHide fields = .ok s.autoHide
  threshold : chosen "auto_hide_threshold" (whole 0 100000) ⟨default.threshold, default.threshold_mem⟩ fields =
    .ok ⟨s.threshold, s.threshold_mem⟩
  unit : chosen "units" (word Display.RateUnit.all Display.RateUnit.name) default.unit fields = .ok s.unit
  showUnits : chosen "show_units" flag default.showUnits fields = .ok s.showUnits
  interval : chosen "refresh_interval" (whole 1 10) ⟨default.interval, default.interval_mem⟩ fields =
    .ok ⟨s.interval, s.interval_mem⟩
  hideArrows : chosen "hide_arrows" flag default.hideArrows fields = .ok s.hideArrows

theorem readsAs_of_ok (h : validated fields = .ok s) : ReadsAs fields s := by
  rw [validated_eq, readings] at h
  obtain ⟨autoHide, hautoHide, h⟩ := of_bind_ok h
  obtain ⟨showUnits, hshowUnits, h⟩ := of_bind_ok h
  obtain ⟨hideArrows, hhideArrows, h⟩ := of_bind_ok h
  obtain ⟨threshold, hthreshold, h⟩ := of_bind_ok h
  obtain ⟨interval, hinterval, h⟩ := of_bind_ok h
  obtain ⟨mode, hmode, h⟩ := of_bind_ok h
  obtain ⟨unit, hunit, h⟩ := of_bind_ok h
  obtain ⟨location, hlocation, h⟩ := of_bind_ok h
  cases h
  exact ⟨hlocation, hmode, hautoHide, hthreshold, hunit, hshowUnits, hinterval, hhideArrows⟩

/-- What is read under a name depends on the value that counts there: the default is read as it is. -/
theorem chosen_of_given {read : Reader α} {a : α} {v : Json.Value} (hdefault : default.toFields.get? name = some v)
    (hread : read v = .ok (some a)) (h : given fields name = given other name) :
    chosen name read a fields = chosen name read a other := by
  have hchosen : ∀ fields : Json.Fields, ∃ w, given fields name = some w ∧
      chosen name read a fields = read w >>= fun b => (b.map .ok).getD (standIn a w) := by
    intro fields
    unfold given chosen
    cases fields.get? name with
    | none =>
      refine ⟨v, hdefault, ?_⟩
      rw [hread]
      rfl
    | some w => exact ⟨w, rfl, rfl⟩
  obtain ⟨w, hw, hfields⟩ := hchosen fields
  obtain ⟨w', hw', hother⟩ := hchosen other
  obtain rfl : w = w' := Option.some.inj (hw.symm.trans (h.trans hw'))
  rw [hfields, hother]

/-- Two readings of one setting are the same if the same value counts for them. -/
theorem eq_of_given {read : Reader α} {d a b : α} {v : Json.Value} (ha : chosen name read d fields = .ok a)
    (hb : chosen name read d other = .ok b) (hdefault : default.toFields.get? name = some v)
    (hread : read v = .ok (some d)) (h : given fields name = given other name) : a = b := by
  rw [chosen_of_given hdefault hread h, hb] at ha
  exact (Except.ok.inj ha).symm

theorem eq_of_given_whole {low high : Nat} {d a b : { n : Int // (low : Int) ≤ n ∧ n ≤ high }}
    (ha : chosen name (whole low high) d fields = .ok a) (hb : chosen name (whole low high) d other = .ok b)
    (hbits : high < Nat.pow 2 53) (hdefault : default.toFields.get? name = some (.number (.int d.1)))
    (h : given fields name = given other name) : a.1 = b.1 :=
  congrArg Subtype.val (eq_of_given ha hb hdefault (whole_of_mem hbits d) h)

theorem get?_of_given (hs : ReadsAs fields s) (ht : ReadsAs other t) :
    ∀ name, given fields name = given other name → s.toFields.get? name = t.toFields.get? name := by
  refine forall_names ?_ fun name hname _ => ?_
  · simp only [names, List.forall_mem_cons]
    refine ⟨fun h => ?_, fun h => ?_, fun h => ?_, fun h => ?_, fun h => ?_, fun h => ?_, fun h => ?_, fun h => ?_, nofun⟩
    · exact congrArg (fun p => some (Json.Value.string (Display.Placement.name p)))
        (eq_of_given hs.location ht.location rfl (word_placement _) h)
    · exact congrArg (fun m => some (Json.Value.string (Display.Mode.name m)))
        (eq_of_given hs.mode ht.mode rfl (word_mode _) h)
    · exact congrArg (fun b => some (Json.Value.bool b)) (eq_of_given hs.autoHide ht.autoHide rfl rfl h)
    · exact congrArg (fun n => some (Json.Value.number (.int n)))
        (eq_of_given_whole hs.threshold ht.threshold (by decide) rfl h)
    · exact congrArg (fun u => some (Json.Value.string (Display.RateUnit.name u)))
        (eq_of_given hs.unit ht.unit rfl (word_unit _) h)
    · exact congrArg (fun b => some (Json.Value.bool b)) (eq_of_given hs.showUnits ht.showUnits rfl rfl h)
    · exact congrArg (fun n => some (Json.Value.number (.int n)))
        (eq_of_given_whole hs.interval ht.interval (by decide) rfl h)
    · exact congrArg (fun b => some (Json.Value.bool b)) (eq_of_given hs.hideArrows ht.hideArrows rfl rfl h)
  · rw [get?_of_notMem hname, get?_of_notMem hname]

/-- A value put under one name is the only one that counts differently. -/
theorem given_put {v : Json.Value} {changed : Text} (h : name ≠ changed) :
    given (fields.put changed v) name = given fields name := by
  unfold given
  rw [Json.Fields.get?_put, if_neg (Ne.symm h)]

/-! ## Validation -/

/-- Validation ends in the eight settings, each with a value that it may have. Each of them depends on the value that
counts under its name: two validations that agree there agree in that setting, a value put under another name changes
nothing in it, and one put under the name of no setting changes nothing at all. Complete fields keep their values, and
validating what validation ended in ends in the same. -/
theorem validate_normal (fields : Json.Fields) (state : σ) (s : Settings)
    (h : ((validate fields : Logged σ Settings) state).result = .ok s) :
    Complete s.toFields ∧
      (∀ other (state' : σ) t, ((validate other : Logged σ Settings) state').result = .ok t →
        ∀ name, given fields name = given other name → s.toFields.get? name = t.toFields.get? name) ∧
      (∀ changed v (state' : σ) t, ((validate (fields.put changed v) : Logged σ Settings) state').result = .ok t →
        ∀ name ≠ changed, t.toFields.get? name = s.toFields.get? name) ∧
      (∀ unknown ∉ names, ∀ v (state' : σ),
        ((validate (fields.put unknown v) : Logged σ Settings) state').result = .ok s) ∧
      (∀ d, Complete d → ∀ state' : σ, ∃ t, ((validate d : Logged σ Settings) state').result = .ok t ∧
        ∀ name, t.toFields.get? name = d.get? name) ∧
      ∀ state' : σ, ((validate s.toFields : Logged σ Settings) state').result = .ok s := by
  have hresult : ∀ other (state' : σ), ((validate other : Logged σ Settings) state').result = validated other :=
    fun other state' => (validate_yields other state').2
  rw [hresult] at h
  have hread : ReadsAs fields s := readsAs_of_ok h
  refine ⟨complete_toFields s, fun other state' t ht => ?_, fun changed v state' t ht name hname => ?_,
    fun unknown hunknown v state' => ?_, fun d hd state' => ?_, fun state' => ?_⟩
  · rw [hresult] at ht
    exact get?_of_given hread (readsAs_of_ok ht)
  · rw [hresult] at ht
    exact get?_of_given (readsAs_of_ok ht) hread name (given_put hname)
  · have hsame : ∀ name ∈ names, Json.Fields.get? name (fields.put unknown v) = fields.get? name := by
      intro name hmem
      have hne : unknown ≠ name := fun heq => hunknown (heq ▸ hmem)
      rw [Json.Fields.get?_put, if_neg hne]
    rw [hresult, validated_eq, readings_congr hsame, ← validated_eq, h]
  · obtain ⟨t, ht, hget⟩ := validated_of_complete hd
    exact ⟨t, (hresult d state').trans ht, hget⟩
  · rw [hresult, validated_toFields]

/-- Entries that fit in another spelling, entries that do not fit, and one that is no setting's. -/
def mixed : Json.Fields :=
  [("units", .string "KiloBytes"), ("auto_hide_threshold", .string " 1_0 "), ("theme", .null),
    ("refresh_interval", .number (.float (.ofRatio false 39 10))), ("show_units", .number (.int 1)), ("mode", .bool true)]

/-- What the mixed entries describe. -/
def mixedSettings : Settings where
  location := .statusBar
  mode := .both
  autoHide := true
  threshold := 10
  threshold_mem := by decide
  unit := .kilobytes
  showUnits := true
  interval := 3
  interval_mem := by decide
  hideArrows := false

theorem normal_mixed : ((validate mixed : Logged Unit Settings) ()).result = .ok mixedSettings ∧
    ((validate mixedSettings.toFields : Logged Unit Settings) ()).result = .ok mixedSettings := by
  have h : ((validate mixed : Logged Unit Settings) ()).result = .ok mixedSettings := by decide +kernel
  obtain ⟨-, -, -, -, -, hagain⟩ := validate_normal mixed () mixedSettings h
  exact ⟨h, hagain ()⟩

end LinkMeter.Settings
