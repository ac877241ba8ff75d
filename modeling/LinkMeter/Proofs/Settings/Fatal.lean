import LinkMeter.Proofs.Json.Spelling
import LinkMeter.Proofs.Number.Overflow
import LinkMeter.Proofs.Settings.Validation

/-! # Values that are fatal

Validation fails for integers alone: one that no floating-point number is near, as a whole number among the settings, and
one of too many digits anywhere in the value of a setting, which cannot be reported. Without these there are settings, and
they make a display configuration. -/

namespace LinkMeter.Settings
open Json.Value
variable {σ α β : Type} {P Q : Prop} {fields : Json.Fields}

/-- The names of the settings that are whole numbers. -/
def wholeNames : List Text := ["auto_hide_threshold", "refresh_interval"]

/-- The value ends validation in a fault if it stands under the name. -/
def Fatal (name : Text) (v : Json.Value) : Prop :=
  (∃ n, Within (.number (.int n)) v ∧ Json.Long n) ∨
    name ∈ wholeNames ∧ ∃ n, v = .number (.int n) ∧ Binary64.overflow ≤ n.natAbs

/-- The outcome is a fault just if `P` holds, and then one of the two that integers are. -/
structure FailsIf (P : Prop) (r : Except Fault α) : Prop where
  ok_iff : (∃ a, r = .ok a) ↔ ¬ P
  fault : ∀ e, r = .error e → e = .integerTooLarge ∨ e = .digitLimit none

namespace FailsIf

theorem congr {r : Except Fault α} (h : FailsIf P r) (hiff : P ↔ Q) : FailsIf Q r := by
  rwa [propext hiff] at h

theorem of_ok {a : α} (hP : ¬ P) : FailsIf P (.ok a : Except Fault α) :=
  ⟨⟨fun _ => hP, fun _ => ⟨a, rfl⟩⟩, nofun⟩

theorem of_error {e : Fault} (hP : P) (he : e = .integerTooLarge ∨ e = .digitLimit none) :
    FailsIf P (.error e : Except Fault α) :=
  ⟨⟨nofun, fun h => absurd hP h⟩, fun _ h => Except.error.inj h ▸ he⟩

theorem bind {r : Except Fault α} {f : α → Except Fault β} (h : FailsIf P r) (hf : ∀ a, FailsIf Q (f a)) :
    FailsIf (P ∨ Q) (r >>= f) := by
  cases r with
  | error e =>
    have hP : P := Classical.byContradiction fun hP => nomatch h.ok_iff.mpr hP
    exact of_error (.inl hP) (h.fault e rfl)
  | ok a =>
    have hP : ¬ P := h.ok_iff.mp ⟨a, rfl⟩
    exact (hf a).congr ⟨.inr, fun h => h.resolve_left hP⟩

end FailsIf

/-! ## One setting -/

theorem standIn_failsIf (default : α) (v : Json.Value) : FailsIf (v.isSpellable = false) (standIn default v) := by
  unfold standIn
  split
  · rename_i h
    exact .of_ok (ne_false_of_eq_true h)
  · rename_i h
    exact .of_error (eq_false_of_ne_true h) (.inr rfl)

/-- A value that fits can be spelled, so what matters is whether a value can be. -/
theorem failsIf_of_read {read : Reader α} {v : Json.Value} {a : Option α} (default : α) (hread : read v = .ok a)
    (hfits : a.isSome = true → v.isSpellable = true) :
    FailsIf (v.isSpellable = false) (read v >>= fun a => (a.map .ok).getD (standIn default v)) := by
  rw [hread]
  cases a with
  | none => exact standIn_failsIf default v
  | some a => exact .of_ok (ne_false_of_eq_true (hfits rfl))

/-- What is read under a name, when nothing but the value there matters. -/
theorem chosen_failsIf {name : Text} {read : Reader α} {default : α} {bad : Json.Value → Prop}
    (h : ∀ v, FailsIf (bad v) (read v >>= fun a => (a.map .ok).getD (standIn default v))) :
    FailsIf (∃ v, fields.get? name = some v ∧ bad v) (chosen name read default fields) := by
  unfold chosen
  cases hget : fields.get? name with
  | none => exact .of_ok fun ⟨v, hv, _⟩ => nomatch hv
  | some v => exact (h v).congr ⟨fun hbad => ⟨v, rfl, hbad⟩, fun ⟨w, hw, hbad⟩ => Option.some.inj hw ▸ hbad⟩

theorem fatal_iff_of_notMem {name : Text} (h : name ∉ wholeNames) (v : Json.Value) :
    v.isSpellable = false ↔ Fatal name v := by
  rw [isSpellable_eq_false_iff]
  exact ⟨.inl, fun hv => hv.resolve_right fun hw => h hw.1⟩

theorem flag_failsIf {name : Text} (h : name ∉ wholeNames) (default : Bool) :
    FailsIf (∃ v, fields.get? name = some v ∧ Fatal name v) (chosen name flag default fields) := by
  refine chosen_failsIf fun v => FailsIf.congr ?_ (fatal_iff_of_notMem h v)
  cases v with
  | bool b => exact failsIf_of_read default rfl fun _ => rfl
  | null | number _ | string _ | array _ | object _ => exact failsIf_of_read default rfl nofun

theorem word_failsIf {name : Text} (h : name ∉ wholeNames) (all : List α) (wordName : α → Text) (default : α) :
    FailsIf (∃ v, fields.get? name = some v ∧ Fatal name v) (chosen name (word all wordName) default fields) := by
  refine chosen_failsIf fun v => FailsIf.congr ?_ (fatal_iff_of_notMem h v)
  cases v with
  | string t => exact failsIf_of_read default rfl fun _ => rfl
  | null | bool _ | number _ | array _ | object _ => exact failsIf_of_read default rfl nofun

theorem not_long_of_lt {n : Int} (h : n.natAbs < Binary64.overflow) : ¬ Json.Long n := by
  have hpower : Binary64.overflow ≤ 10 ^ Number.mostDigits := by decide +kernel
  have hlength : (Nat.toDigits 10 n.natAbs).length ≤ Number.mostDigits :=
    (Nat.length_toDigits_le_iff (by decide) (by decide)).mpr (Nat.lt_of_lt_of_le h hpower)
  unfold Json.Long Text.ofNat
  rw [List.length_map]
  exact Nat.not_lt.mpr hlength

theorem whole_int (low high : Nat) (n : Int) :
    whole low high (.number (.int n)) = (Binary64.ofInt n).map (wholeBetween low high) := by
  show ((Binary64.ofInt n).map some).map _ = _
  cases Binary64.ofInt n <;> rfl

/-- An integer below the middle is read, and is short enough to be reported; from the middle on, reading it fails. -/
theorem int_failsIf {name : Text} (h : name ∈ wholeNames) {low high : Nat}
    (default : { n : Int // (low : Int) ≤ n ∧ n ≤ high }) (n : Int) :
    FailsIf (Fatal name (.number (.int n)))
      (whole low high (.number (.int n)) >>= fun a => (a.map .ok).getD (standIn default (.number (.int n)))) := by
  rcases Nat.lt_or_ge n.natAbs Binary64.overflow with hlt | hge
  · obtain ⟨x, hx⟩ := Binary64.ofInt_of_lt hlt
    have hspellable : Json.Value.isSpellable (.number (.int n)) = true := by
      rw [← Bool.not_eq_false, isSpellable_int]
      exact not_long_of_lt hlt
    have hread : whole low high (.number (.int n)) = .ok (wholeBetween low high x) := by
      rw [whole_int, hx]
      rfl
    refine (failsIf_of_read default hread fun _ => hspellable).congr ?_
    rw [hspellable]
    refine ⟨nofun, fun hfatal => ?_⟩
    rcases hfatal with hlong | ⟨_, m, heq, hm⟩
    · exact absurd ((isSpellable_eq_false_iff _).mpr hlong) (ne_false_of_eq_true hspellable)
    · cases heq
      exact absurd hm (Nat.not_le.mpr hlt)
  · have hread : whole low high (.number (.int n)) = .error .integerTooLarge := by
      rw [whole_int, Binary64.ofInt_of_le hge]
      rfl
    rw [hread]
    exact .of_error (.inr ⟨h, n, rfl, hge⟩) (.inl rfl)

theorem whole_failsIf {name : Text} (h : name ∈ wholeNames) {low high : Nat}
    (default : { n : Int // (low : Int) ≤ n ∧ n ≤ high }) :
    FailsIf (∃ v, fields.get? name = some v ∧ Fatal name v) (chosen name (whole low high) default fields) := by
  -- What is no integer is read without a fault, so there it only matters whether the value can be reported.
  have hother : ∀ {v : Json.Value}, (∀ n, v ≠ .number (.int n)) → (v.isSpellable = false ↔ Fatal name v) := by
    intro v hv
    rw [isSpellable_eq_false_iff]
    exact ⟨.inl, fun hfatal => hfatal.resolve_right fun ⟨_, n, heq, _⟩ => hv n heq⟩
  refine chosen_failsIf fun v => ?_
  cases v with
  | number x =>
    cases x with
    | int n => exact int_failsIf h default n
    | float x => exact (failsIf_of_read default rfl fun _ => rfl).congr (hother nofun)
  | string t => exact (failsIf_of_read default rfl fun _ => rfl).congr (hother nofun)
  | null | bool _ | array _ | object _ => exact (failsIf_of_read (a := none) default rfl nofun).congr (hother nofun)

/-! ## All settings -/

theorem readings_failsIf (fields : Json.Fields) :
    FailsIf (∃ name ∈ names, ∃ v, fields.get? name = some v ∧ Fatal name v) (readings fields) := by
  unfold readings
  refine FailsIf.congr (.bind (flag_failsIf (by decide) _) fun autoHide => .bind (flag_failsIf (by decide) _) fun showUnits =>
    .bind (flag_failsIf (by decide) _) fun hideArrows => .bind (whole_failsIf (by decide) _) fun threshold =>
    .bind (whole_failsIf (by decide) _) fun interval => .bind (word_failsIf (by decide) _ _ _) fun mode =>
    .bind (word_failsIf (by decide) _ _ _) fun unit => .bind (word_failsIf (by decide) _ _ _) fun location =>
    .of_ok not_false) ?_
  -- What is left is that the eight names, in the order they are read, are all of them.
  simp only [names, List.mem_cons, List.not_mem_nil, or_false, exists_eq_or_imp, exists_eq_left]
  grind

/-- Validation of any fields ends in settings, which make a display configuration, just if no setting has a fatal value.
Otherwise it ends in one of two faults. -/
theorem validate_ok_iff (fields : Json.Fields) (state : σ) :
    ((∃ s, ((validate fields : Logged σ Settings) state).result = .ok s ∧
        Display.Config.ofSettings s.toFields = .ok s.toConfig) ↔
      ∀ name ∈ names, ∀ v, fields.get? name = some v → ¬ Fatal name v) ∧
    ∀ e, ((validate fields : Logged σ Settings) state).result = .error e → e = .integerTooLarge ∨ e = .digitLimit none := by
  have hfails := readings_failsIf fields
  rw [(validate_readings fields state).2]
  refine ⟨?_, hfails.fault⟩
  calc
    _ ↔ ∃ s, readings fields = .ok s :=
      exists_congr fun s => ⟨fun h => h.1, fun h => ⟨h, ofSettings_toFields s⟩⟩
    _ ↔ ¬ ∃ name ∈ names, ∃ v, fields.get? name = some v ∧ Fatal name v := hfails.ok_iff
    _ ↔ _ := by simp only [not_exists, not_and]

/-- A refresh interval of 10^400 is fatal. -/
theorem validate_hugeInterval :
    ((validate [("refresh_interval", .number (.int (Nat.pow 10 400)))] : Logged Unit Settings) ()).result =
      .error .integerTooLarge := by
  decide +kernel

end LinkMeter.Settings
