import LinkMeter.Proofs.Display.Layout

/-! # Visibility

Whether the indicator is visible, in terms of what is asked of it alone: it takes a surface, a network, a mode that reports
something and a place on the status bar, and an indicator that hides itself also takes a rate above its threshold. -/

namespace LinkMeter

/-- The number is below an integer. What is not a number is below none. -/
inductive Number.Below : Number → Int → Prop
  | int {m n : Int} (h : m < n) : Below (.int m) n
  | finite {negative : Bool} {steps : Nat} {n : Int} (h : Binary64.signed negative steps < n * Binary64.unit) :
      Below (.float (.finite negative steps)) n
  | infinite {n : Int} : Below (.float (.infinite true)) n

theorem Number.lt_int_iff {threshold : Number} {n : Int} : threshold.lt (.int n) = true ↔ threshold.Below n := by
  unfold Number.lt Number.le
  rw [Bool.and_eq_true, Bool.not_eq_true']
  cases threshold with
  | int m =>
    dsimp only
    rw [decide_eq_true_eq, decide_eq_false_iff_not, Int.not_le]
    exact ⟨fun h => .int h.2, fun (.int h) => ⟨Int.le_of_lt h, h⟩⟩
  | float x =>
    cases x with
    | finite negative steps =>
      unfold Binary64.leInt Binary64.intLe
      dsimp only
      rw [decide_eq_true_eq, decide_eq_false_iff_not, Int.not_le]
      exact ⟨fun h => .finite h.2, fun (.finite h) => ⟨Int.le_of_lt h, h⟩⟩
    | infinite negative =>
      cases negative with
      | true => exact ⟨fun _ => .infinite, fun _ => ⟨rfl, rfl⟩⟩
      | false => exact ⟨fun h => absurd h.1 Bool.false_ne_true, nofun⟩
    | nan => exact ⟨fun h => absurd h.1 Bool.false_ne_true, nofun⟩

theorem Number.Below.mono {threshold : Number} {less more : Int} (h : threshold.Below less) (hle : less ≤ more) :
    threshold.Below more := by
  cases h with
  | int h => exact .int (Int.lt_of_lt_of_le h hle)
  | finite h => exact .finite (Int.lt_of_lt_of_le h (Int.mul_le_mul_of_nonneg_right hle (Int.natCast_nonneg _)))
  | infinite => exact .infinite

namespace Display

/-- One of the directions that the mode reports has a rate above the threshold. -/
def Config.Exceeded (config : Config) (rates : Rate.Estimate) : Prop :=
  ∃ direction ∈ config.mode.directions, ∃ threshold, config.autoHideThreshold.number? = some threshold ∧
    threshold.Below (rateOf rates direction)

section Visible
variable {rates other : Rate.Estimate} {config : Config} {connected attached : Bool} {d : Decision}

theorem isExceeded_of_ok {kbps : Int} {exceeded : Bool} (h : config.isExceeded kbps = .ok exceeded) :
    exceeded = true ↔ ∃ threshold, config.autoHideThreshold.number? = some threshold ∧ threshold.Below kbps := by
  unfold Config.isExceeded at h
  split at h
  · next threshold hsome =>
    cases h
    rw [Number.lt_int_iff]
    exact ⟨fun hbelow => ⟨threshold, hsome, hbelow⟩, fun ⟨_, hother, hbelow⟩ => Option.some.inj (hsome.symm.trans hother) ▸ hbelow⟩
  · cases h

theorem anyExceeds_of_ok {directions : List Direction} {exceeded : Bool} (h : anyExceeds rates config directions = .ok exceeded) :
    exceeded = true ↔ ∃ direction ∈ directions, ∃ threshold, config.autoHideThreshold.number? = some threshold ∧
      threshold.Below (rateOf rates direction) := by
  induction directions with
  | nil =>
    cases h
    exact iff_of_false nofun fun ⟨_, hmem, _⟩ => absurd hmem List.not_mem_nil
  | cons direction directions ih =>
    unfold anyExceeds at h
    obtain ⟨first, hfirst, h⟩ := of_bind_ok h
    have hiff := isExceeded_of_ok hfirst
    cases first with
    | true =>
      cases h
      exact iff_of_true rfl ⟨direction, List.mem_cons_self, hiff.mp rfl⟩
    | false =>
      rw [ih h, List.exists_mem_cons_iff]
      exact ⟨.inr, fun hany => hany.resolve_left fun habove => Bool.false_ne_true (hiff.mpr habove)⟩

theorem isActive_iff {active : Bool} (h : isActive rates config connected attached = .ok active) :
    active = true ↔ attached = true ∧ (config.hidesItself = false ∨ connected = true ∧ config.Exceeded rates) := by
  unfold isActive at h
  obtain ⟨exceeded, hexceeds, h⟩ := of_bind_ok h
  have hiff : exceeded = true ↔ config.Exceeded rates := anyExceeds_of_ok hexceeds
  obtain rfl := Except.ok.inj h
  rw [Bool.and_eq_true, Bool.or_eq_true, Bool.and_eq_true, Bool.not_eq_true', hiff]

theorem visible_iff_asked (h : decide rates config connected attached = .ok d) :
    d.visible = true ↔ attached = true ∧ connected = true ∧ config.mode ≠ .disabled ∧ config.location = .statusBar ∧
      (config.hidesItself = false ∨ config.Exceeded rates) := by
  obtain ⟨_, hactive, -, henabled, -, -, -, -, -⟩ := decide_of_ok h
  rw [visible_iff_text h, (told_of_ok h).text_iff, henabled, isEnabled_iff, isActive_iff hactive]
  constructor
  · rintro ⟨⟨hattached, hshown⟩, ⟨⟨hmode, hconnected⟩, -⟩, hplace⟩
    exact ⟨hattached, hconnected, hmode, hplace, hshown.imp_right And.right⟩
  · rintro ⟨hattached, hconnected, hmode, hplace, hshown⟩
    have hactive := And.intro hattached (hshown.imp_right (And.intro hconnected))
    exact ⟨hactive, ⟨⟨hmode, hconnected⟩, hactive⟩, hplace⟩

/-! ## Higher rates -/

theorem Config.Exceeded.mono {more : Rate.Estimate} (h : config.Exceeded rates) (htx : rates.tx ≤ more.tx)
    (hrx : rates.rx ≤ more.rx) : config.Exceeded more := by
  obtain ⟨direction, hreported, threshold, hsome, hbelow⟩ := h
  refine ⟨direction, hreported, threshold, hsome, hbelow.mono ?_⟩
  cases direction with
  | up => exact htx
  | down => exact hrx

/-! ## Rates that the mode does not report -/

theorem anyExceeds_congr {directions : List Direction}
    (h : ∀ direction ∈ directions, rateOf other direction = rateOf rates direction) :
    anyExceeds other config directions = anyExceeds rates config directions := by
  induction directions with
  | nil => rfl
  | cons direction directions ih =>
    obtain ⟨hfirst, hrest⟩ := List.forall_mem_cons.mp h
    unfold anyExceeds
    rw [hfirst, ih hrest]

theorem lines_congr {directions : List Direction}
    (h : ∀ direction ∈ directions, rateOf other direction = rateOf rates direction) :
    lines other config directions = lines rates config directions := by
  induction directions with
  | nil => rfl
  | cons direction directions ih =>
    obtain ⟨hfirst, hrest⟩ := List.forall_mem_cons.mp h
    unfold lines
    rw [hfirst, ih hrest]

theorem decide_congr (h : ∀ direction ∈ config.mode.directions, rateOf other direction = rateOf rates direction) :
    decide other config connected attached = decide rates config connected attached := by
  have hlines : ∀ active, lines other config (shownDirections config connected active) =
      lines rates config (shownDirections config connected active) := by
    intro active
    refine lines_congr fun direction hmem => h direction ?_
    unfold shownDirections at hmem
    split at hmem
    · exact hmem
    · exact absurd hmem List.not_mem_nil
  unfold decide isActive
  simp only [anyExceeds_congr h, hlines]

/-! ## What visibility takes -/

/-- The indicator is visible just if it has a surface, a network, a mode that reports something and its place on the status
bar, and either does not hide itself or has a reported rate above its threshold. Higher rates leave a visible indicator
visible, a rate that is not reported changes nothing, and a visible indicator is enabled, active and has a text and the
interval as its delay. -/
theorem visible_of_ok (h : decide rates config connected attached = .ok d) :
    (d.visible = true ↔ attached = true ∧ connected = true ∧ config.mode ≠ .disabled ∧ config.location = .statusBar ∧
      (config.hidesItself = false ∨ config.Exceeded rates)) ∧
    (∀ (more : Rate.Estimate) (e : Decision), rates.tx ≤ more.tx → rates.rx ≤ more.rx →
      decide more config connected attached = .ok e → d.visible = true → e.visible = true) ∧
    (∀ other : Rate.Estimate, (∀ direction ∈ config.mode.directions, rateOf other direction = rateOf rates direction) →
      decide other config connected attached = .ok d) ∧
    (d.visible = true → d.enabled = true ∧ d.active = true ∧ d.text ≠ [] ∧ d.nextDelay = some config.intervalMs) := by
  have hvisible := visible_iff_asked h
  refine ⟨hvisible, ?_, fun other hsame => (decide_congr hsame).trans h, fun hseen => ?_⟩
  · intro more e htx hrx hmore hseen
    obtain ⟨hattached, hconnected, hmode, hplace, hshown⟩ := hvisible.mp hseen
    exact (visible_iff_asked hmore).mpr
      ⟨hattached, hconnected, hmode, hplace, hshown.imp_right fun habove => habove.mono htx hrx⟩
  · obtain ⟨-, htext, -⟩ := (visible_iff_text h).mp hseen
    obtain ⟨henabled, hactive⟩ := (told_of_ok h).text_iff.mp htext
    obtain ⟨-, hconnected, hmode, -, -⟩ := hvisible.mp hseen
    exact ⟨henabled, hactive, htext, by rw [nextDelay_of_ok h, if_pos (isEnabled_iff.mpr ⟨hmode, hconnected⟩)]⟩

end Visible

theorem visible_bothWays : decide ⟨1250, 249⟩ .default true true = .ok bothWays ∧
    Config.default.Exceeded ⟨1250, 249⟩ ∧ (1250 : Int) ≤ 1251 ∧ (249 : Int) ≤ 249 ∧
    ∀ e, decide ⟨1251, 249⟩ .default true true = .ok e → e.visible = true := by
  have hall := visible_of_ok decide_bothWays
  have hshown := (hall.1.mp rfl).2.2.2.2
  exact ⟨decide_bothWays, hshown.resolve_left (by decide), by decide, by decide,
    fun e he => hall.2.1 ⟨1251, 249⟩ e (by decide) (by decide) he rfl⟩

end Display
end LinkMeter
