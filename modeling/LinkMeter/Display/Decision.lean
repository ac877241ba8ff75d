import LinkMeter.Display.Config
import LinkMeter.Display.RateText
import LinkMeter.Rate.Estimate

/-! # Display decisions

From the rates, the configuration, the connectivity and the attachment follows all that the surface shows: whether the
indicator is visible, its text, its arrows, and when to sample next. -/

namespace LinkMeter.Display

/-- All that the surface shows. -/
structure Decision where
  /-- Traffic is reported and a network can be reached. -/
  enabled : Bool
  /-- The indicator is to be shown, placement and text aside. -/
  active : Bool
  visible : Bool
  text : Text
  arrows : Arrows
  size : TextSize
  /-- The milliseconds until the next sample, if there is to be one. -/
  nextDelay : Option Int

/-- The rate in one direction. -/
def rateOf (rates : Rate.Estimate) : Direction → Int
  | .up => rates.tx
  | .down => rates.rx

/-- Whether one of the directions has a rate above the threshold. The search ends at the first one. -/
def anyExceeds (rates : Rate.Estimate) (config : Config) : List Direction → Except Fault Bool
  | [] => .ok false
  | d :: rest => do if ← config.isExceeded (rateOf rates d) then .ok true else anyExceeds rates config rest

/-- Whether traffic is reported and a network can be reached. -/
def isEnabled (config : Config) (connected : Bool) : Bool := config.mode != .disabled && connected

/-- Whether the indicator is to be shown: it hides itself unless a rate that the mode reports exceeds the threshold. The
rates are compared with the threshold in any case, which fails when it is no number. -/
def isActive (rates : Rate.Estimate) (config : Config) (connected attached : Bool) : Except Fault Bool := do
  let exceeded ← anyExceeds rates config config.mode.directions
  pure (attached && (!config.hidesItself || (connected && exceeded)))

/-- The directions that have a line in the text, with an indicator that is to be shown or not. -/
def shownDirections (config : Config) (connected active : Bool) : List Direction :=
  if isEnabled config connected && active then config.mode.directions else []

/-- The lines of the text. -/
def lines (rates : Rate.Estimate) (config : Config) : List Direction → Except Fault (List Text)
  | [] => .ok []
  | d :: rest => do
    let line ← config.units.line config.showsUnits (rateOf rates d)
    let others ← lines rates config rest
    pure (line :: others)

/-- What the surface shows. It fails only when the threshold is no number or a rate is too large for its unit. -/
def decide (rates : Rate.Estimate) (config : Config) (connected attached : Bool) : Except Fault Decision := do
  let enabled := isEnabled config connected
  let active ← isActive rates config connected attached
  let shown ← lines rates config (shownDirections config connected active)
  let text := Text.join "\n" shown
  let visible := active && text != [] && config.location == .statusBar
  pure {
    enabled, active, visible, text
    arrows := if visible && config.showsArrows then config.mode.arrows else .none
    size := if shown.length = 2 then .multi else .single
    nextDelay := if enabled then some config.intervalMs else none }

/-- The records that go with a decision: one for each line whose units are not known. -/
def decisionNotes (rates : Rate.Estimate) (config : Config) (connected attached : Bool) : List Log.Record :=
  match isActive rates config connected attached with
  | .ok active => (shownDirections config connected active).flatMap fun _ => config.units.notes
  | .error _ => []

end LinkMeter.Display
