import LinkMeter.Display.Config

/-! # Settings

The settings as they are kept on disk. Their bounds are part of the type, so settings always make a display
configuration. -/

namespace LinkMeter

/-- The settings of the indicator. -/
structure Settings where
  location : Display.Placement
  mode : Display.Mode
  autoHide : Bool
  /-- Kilobits per second. -/
  threshold : Int
  threshold_mem : 0 ≤ threshold ∧ threshold ≤ 100000
  unit : Display.RateUnit
  showUnits : Bool
  /-- Seconds. -/
  interval : Int
  interval_mem : 1 ≤ interval ∧ interval ≤ 10
  hideArrows : Bool
deriving DecidableEq

namespace Settings

/-- The settings of a user who chose none. -/
def default : Settings where
  location := .statusBar
  mode := .both
  autoHide := true
  threshold := 0
  threshold_mem := by decide
  unit := .megabits
  showUnits := true
  interval := 2
  interval_mem := by decide
  hideArrows := false

/-- The names of the settings, in the order in which they are written. -/
def names : List Text :=
  ["location", "mode", "auto_hide", "auto_hide_threshold", "units", "show_units", "refresh_interval", "hide_arrows"]

/-- The settings by name. -/
def toFields (s : Settings) : Json.Fields :=
  [("location", s.location.name), ("mode", s.mode.name), ("auto_hide", s.autoHide),
    ("auto_hide_threshold", s.threshold), ("units", s.unit.name), ("show_units", s.showUnits),
    ("refresh_interval", s.interval), ("hide_arrows", s.hideArrows)]

/-- The display configuration that the settings describe. -/
def toConfig (s : Settings) : Display.Config where
  mode := s.mode
  autoHide := s.autoHide
  autoHideThreshold := s.threshold
  units := .known s.unit
  showUnits := s.showUnits
  interval := .int s.interval
  interval_fits := by simp [Display.Interval.Fits, Number.between, s.interval_mem]
  hideArrows := s.hideArrows
  location := s.location

theorem names_toFields (s : Settings) : s.toFields.map Prod.fst = names := rfl

end Settings
end LinkMeter
