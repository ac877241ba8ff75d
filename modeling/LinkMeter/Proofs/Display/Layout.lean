import LinkMeter.Proofs.Display.Decision
import LinkMeter.Proofs.Display.RateText
import Mathlib.Data.List.Forall2

/-! # Text, size and arrows of a decision

The text of a decision has one line for each direction that the mode reports, or it is empty; its size follows the number
of its lines, and the arrows, where there are any, point in the directions of the lines. -/

namespace LinkMeter.Display

/-- The arrows point in a direction. -/
inductive Arrows.Points : Arrows → Direction → Prop
  | bothUp : Points .upAndDown .up
  | bothDown : Points .upAndDown .down
  | up : Points .upOnly .up
  | down : Points .downOnly .down

theorem Mode.directions_ne_nil {mode : Mode} (h : mode ≠ .disabled) : mode.directions ≠ [] := by
  cases mode with
  | disabled => exact absurd rfl h
  | both | up | down => exact List.cons_ne_nil _ _

/-- Each direction is reported at most once, the one up first. -/
theorem Mode.directions_sublist (mode : Mode) : mode.directions.Sublist [.up, .down] := by
  cases mode <;> decide

theorem Mode.arrows_ne_none {mode : Mode} (h : mode ≠ .disabled) : mode.arrows ≠ .none := by
  cases mode with
  | disabled => exact absurd rfl h
  | both | up | down => nofun

theorem Mode.points_iff (mode : Mode) (direction : Direction) : mode.arrows.Points direction ↔ direction ∈ mode.directions := by
  constructor
  · intro h
    cases mode <;> cases h <;> decide
  · intro h
    cases mode with
    | both =>
      cases direction with
      | up => exact .bothUp
      | down => exact .bothDown
    | up =>
      obtain rfl := List.mem_singleton.mp h
      exact .up
    | down =>
      obtain rfl := List.mem_singleton.mp h
      exact .down
    | disabled => exact absurd h List.not_mem_nil

theorem isEnabled_iff {config : Config} {connected : Bool} :
    isEnabled config connected = true ↔ config.mode ≠ .disabled ∧ connected = true := by
  unfold isEnabled
  rw [Bool.and_eq_true, bne_iff_ne]

section Text
variable {rates : Rate.Estimate} {config : Config} {connected attached : Bool} {d : Decision}

/-- Each direction has its line, in their order. -/
def LinesOf (rates : Rate.Estimate) (config : Config) (directions : List Direction) (shown : List Text) : Prop :=
  List.Forall₂ (fun direction line => config.units.line config.showsUnits (rateOf rates direction) = .ok line) directions shown

theorem linesOf_of_lines {directions : List Direction} {shown : List Text} (h : lines rates config directions = .ok shown) :
    LinesOf rates config directions shown := by
  induction directions generalizing shown with
  | nil =>
    cases h
    exact .nil
  | cons direction directions ih =>
    unfold lines at h
    obtain ⟨line, hline, h⟩ := of_bind_ok h
    obtain ⟨others, hothers, h⟩ := of_bind_ok h
    cases h
    exact .cons hline (ih hothers)

theorem LinesOf.isLine {directions : List Direction} {shown : List Text} (h : LinesOf rates config directions shown) :
    ∀ t ∈ shown, t.IsLine := by
  induction h with
  | nil => exact fun t ht => absurd ht List.not_mem_nil
  | cons hline _ ih => exact List.forall_mem_cons.mpr ⟨Units.isLine_line hline, ih⟩

theorem LinesOf.ne_nil {directions : List Direction} {shown : List Text} (h : LinesOf rates config directions shown)
    (hnil : directions ≠ []) : shown ≠ [] := by
  cases h with
  | nil => exact absurd rfl hnil
  | cons _ _ => exact List.cons_ne_nil _ _

/-- What the text of a decision is: a line for each direction, or nothing. -/
inductive Told (rates : Rate.Estimate) (config : Config) (d : Decision) : Prop where
  | lines (henabled : d.enabled = true) (hactive : d.active = true) (hmode : config.mode ≠ .disabled)
      (hlines : LinesOf rates config config.mode.directions (Text.lines d.text)) (htext : d.text ≠ [])
      (hsize : d.size = .multi ↔ (Text.lines d.text).length = 2) : Told rates config d
  | nothing (hquiet : ¬(d.enabled = true ∧ d.active = true)) (htext : d.text = []) (hsize : d.size = .single) :
      Told rates config d

theorem told_of_ok (h : decide rates config connected attached = .ok d) : Told rates config d := by
  obtain ⟨shown, -, hshown, henabled, htext, -, -, hsize, -⟩ := decide_of_ok h
  unfold shownDirections at hshown
  rw [← henabled] at hshown
  by_cases hboth : (d.enabled && d.active) = true
  · rw [if_pos hboth] at hshown
    obtain ⟨henabled', hactive⟩ := (Bool.and_eq_true _ _).mp hboth
    have hmode : config.mode ≠ .disabled := (isEnabled_iff.mp (henabled ▸ henabled')).1
    have hlines := linesOf_of_lines hshown
    have hnil := hlines.ne_nil (Mode.directions_ne_nil hmode)
    have hsplit : Text.lines d.text = shown := by
      rw [htext]
      exact Text.lines_join hnil hlines.isLine
    refine .lines henabled' hactive hmode (hsplit ▸ hlines) ?_ ?_
    · rw [htext]
      exact Text.join_ne_nil hnil hlines.isLine
    · rw [hsize, hsplit]
      split
      · next htwo => exact iff_of_true rfl htwo
      · next htwo => exact iff_of_false nofun htwo
  · rw [if_neg hboth] at hshown
    cases hshown
    exact .nothing (fun hand => hboth ((Bool.and_eq_true _ _).mpr hand)) htext hsize

theorem Told.text_iff (h : Told rates config d) : d.text ≠ [] ↔ d.enabled = true ∧ d.active = true := by
  cases h with
  | lines henabled hactive _ _ htext _ => exact iff_of_true htext ⟨henabled, hactive⟩
  | nothing hquiet htext _ => exact iff_of_false (fun hne => hne htext) hquiet

theorem Told.size_iff (h : Told rates config d) : d.size = .multi ↔ (Text.lines d.text).length = 2 := by
  cases h with
  | lines _ _ _ _ _ hsize => exact hsize
  | nothing _ htext hsize =>
    rw [htext, hsize]
    exact iff_of_false nofun (by decide)

theorem Told.linesOf (h : Told rates config d) (htext : d.text ≠ []) :
    LinesOf rates config config.mode.directions (Text.lines d.text) := by
  cases h with
  | lines _ _ _ hlines _ _ => exact hlines
  | nothing _ hnone _ => exact absurd hnone htext

theorem Told.mode_ne (h : Told rates config d) (htext : d.text ≠ []) : config.mode ≠ .disabled := by
  cases h with
  | lines _ _ hmode _ _ _ => exact hmode
  | nothing _ hnone _ => exact absurd hnone htext

theorem visible_iff_text (h : decide rates config connected attached = .ok d) :
    d.visible = true ↔ d.active = true ∧ d.text ≠ [] ∧ config.location = .statusBar := by
  obtain ⟨_, -, -, -, -, hvisible, -, -, -⟩ := decide_of_ok h
  rw [hvisible, Bool.and_eq_true, Bool.and_eq_true, bne_iff_ne, beq_iff_eq, and_assoc]

theorem arrows_of_ok (h : decide rates config connected attached = .ok d) :
    d.arrows = if d.visible && config.showsArrows then config.mode.arrows else .none := by
  obtain ⟨_, -, -, -, -, -, harrows, -, -⟩ := decide_of_ok h
  exact harrows

/-! ## All that is shown agrees -/

/-- There is a text just if traffic is reported and the indicator is to be shown. Then it has exactly one line for each
direction that the mode reports, the one up first, each as the rate in its units. The size is that of several lines just
if there are two, and there are arrows just if the indicator is visible and has arrows: those of the lines. -/
theorem layout_of_ok (h : decide rates config connected attached = .ok d) :
    (d.text ≠ [] ↔ d.enabled = true ∧ d.active = true) ∧
    (d.text ≠ [] → LinesOf rates config config.mode.directions (Text.lines d.text) ∧
      config.mode.directions.Sublist [.up, .down]) ∧
    (d.size = .multi ↔ (Text.lines d.text).length = 2) ∧
    (d.arrows ≠ .none ↔ d.visible = true ∧ config.showsArrows = true) ∧
    (d.arrows ≠ .none → ∀ direction, d.arrows.Points direction ↔ direction ∈ config.mode.directions) := by
  have htold := told_of_ok h
  have harrows := arrows_of_ok h
  refine ⟨htold.text_iff, fun htext => ⟨htold.linesOf htext, config.mode.directions_sublist⟩, htold.size_iff, ?_, ?_⟩
  · by_cases hdrawn : (d.visible && config.showsArrows) = true
    · have hboth := (Bool.and_eq_true _ _).mp hdrawn
      have htext := ((visible_iff_text h).mp hboth.1).2.1
      rw [harrows, if_pos hdrawn]
      exact iff_of_true (Mode.arrows_ne_none (htold.mode_ne htext)) hboth
    · rw [harrows, if_neg hdrawn]
      exact iff_of_false (fun hne => hne rfl) fun hboth => hdrawn ((Bool.and_eq_true _ _).mpr hboth)
  · intro hdrawn direction
    rw [harrows] at hdrawn ⊢
    split at hdrawn
    · next hboth =>
      rw [if_pos hboth]
      exact config.mode.points_iff direction
    · exact absurd rfl hdrawn

end Text

/-- What is shown by default of rates in both directions, one of them a half in the last place. -/
def bothWays : Decision where
  enabled := true
  active := true
  visible := true
  text := "1.3 Mb/s\n0.2 Mb/s"
  arrows := .upAndDown
  size := .multi
  nextDelay := some 2000

theorem decide_bothWays : decide ⟨1250, 249⟩ .default true true = .ok bothWays := by
  with_unfolding_all rfl

theorem layout_bothWays : decide ⟨1250, 249⟩ .default true true = .ok bothWays ∧
    Text.lines bothWays.text = ["1.3 Mb/s", "0.2 Mb/s"] ∧
    LinesOf ⟨1250, 249⟩ .default [.up, .down] (Text.lines bothWays.text) ∧ bothWays.arrows.Points .down := by
  obtain ⟨-, hlines, -, -, hpoints⟩ := layout_of_ok decide_bothWays
  exact ⟨decide_bothWays, rfl, (hlines (by decide)).1, (hpoints (by decide) .down).mpr (by decide)⟩

end LinkMeter.Display
