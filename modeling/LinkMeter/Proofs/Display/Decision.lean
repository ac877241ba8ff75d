import LinkMeter.Display.Decision
import LinkMeter.Proofs.Number.Rounding

/-! # Decisions and their delays

What a decision consists of, when there is one. Its delay, if it has one, is the interval of the configuration, which
lies between a second and ten, so a timer never refuses it. -/

namespace LinkMeter.Display

/-! ## The interval -/

theorem Interval.ms_mem {seconds : Number} (h : Interval.Fits seconds) : 1000 ≤ ms seconds ∧ ms seconds ≤ 10000 := by
  unfold Interval.Fits Number.between at h
  unfold ms
  cases seconds with
  | int n =>
    have h : (1 ≤ n ∧ n ≤ 10) := by simpa using h
    dsimp only
    omega
  | float x =>
    obtain ⟨hl, hh⟩ := (Bool.and_eq_true _ _).mp h
    exact Binary64.whole_mul_mem Nat.one_pos hl hh (by decide) (by decide)

namespace Config

theorem intervalMs_mem (c : Config) : 1000 ≤ c.intervalMs ∧ c.intervalMs ≤ 10000 := Interval.ms_mem c.interval_fits

/-- The interval as a delay of the timer. -/
def delay (c : Config) : Binary64 := .finite false (c.intervalMs.toNat * Binary64.unit)

theorem ofInt_intervalMs (c : Config) : Binary64.ofInt c.intervalMs = .ok c.delay := by
  obtain ⟨hlow, hhigh⟩ := c.intervalMs_mem
  have hnat : c.intervalMs = (c.intervalMs.toNat : Int) := by omega
  have hsmall : c.intervalMs.toNat ≤ 10000 := by omega
  have hbits : c.intervalMs.toNat < Nat.pow 2 53 := Nat.lt_of_le_of_lt hsmall (by decide)
  unfold delay
  rw [← Binary64.ofInt_natCast hbits, ← hnat]

end Config

/-! ## The decision -/

section Decide
variable {rates : Rate.Estimate} {config : Config} {connected attached : Bool} {d : Decision}

theorem decide_of_ok (h : decide rates config connected attached = .ok d) :
    ∃ shown, isActive rates config connected attached = .ok d.active ∧
      lines rates config (shownDirections config connected d.active) = .ok shown ∧
      d.enabled = isEnabled config connected ∧ d.text = Text.join "\n" shown ∧
      d.visible = (d.active && d.text != [] && config.location == .statusBar) ∧
      d.arrows = (if d.visible && config.showsArrows then config.mode.arrows else .none) ∧
      d.size = (if shown.length = 2 then .multi else .single) ∧
      d.nextDelay = (if d.enabled then some config.intervalMs else none) := by
  unfold decide at h
  obtain ⟨active, hactive, h⟩ := of_bind_ok h
  obtain ⟨shown, hlines, h⟩ := of_bind_ok h
  cases h
  exact ⟨shown, hactive, hlines, rfl, rfl, rfl, rfl, rfl, rfl⟩

theorem nextDelay_of_ok (h : decide rates config connected attached = .ok d) :
    d.nextDelay = if isEnabled config connected then some config.intervalMs else none := by
  obtain ⟨shown, -, -, henabled, -, -, -, -, hdelay⟩ := decide_of_ok h
  rw [hdelay, henabled]

theorem isActive_detached {active : Bool} (h : isActive rates config connected false = .ok active) :
    active = false := by
  unfold isActive at h
  obtain ⟨exceeded, -, h⟩ := of_bind_ok h
  cases h
  rfl

/-- Nothing is shown without a surface. -/
theorem decide_detached (h : decide rates config connected false = .ok d) :
    d.active = false ∧ d.visible = false ∧ d.text = [] ∧ d.arrows = .none := by
  obtain ⟨shown, hactive, hlines, -, htext, hvisible, harrows, -, -⟩ := decide_of_ok h
  have hactive := isActive_detached hactive
  rw [hactive] at hlines hvisible
  have hshown : shown = [] := by
    unfold shownDirections at hlines
    rw [Bool.and_false, if_neg Bool.false_ne_true] at hlines
    exact (Except.ok.inj hlines).symm
  have hvisible : d.visible = false := by rw [hvisible, Bool.false_and, Bool.false_and]
  refine ⟨hactive, hvisible, ?_, ?_⟩
  · rw [htext, hshown]
    rfl
  · rw [harrows, hvisible, Bool.false_and, if_neg Bool.false_ne_true]

end Decide

end LinkMeter.Display
