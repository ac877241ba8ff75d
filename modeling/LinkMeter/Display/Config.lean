import LinkMeter.Display.Vocabulary
import LinkMeter.Json.Spelling

/-! # Display configurations

A display configuration is a snapshot that is replaced as a whole. Its refresh interval lies between one and ten
seconds, which is part of the type. Its flags may be any values, which count as true or false, and so may its threshold,
but only a number can be exceeded. -/

namespace LinkMeter.Display

/-- Whether a refresh interval, in seconds, is one that the timer can run. -/
def Interval.Fits (seconds : Number) : Prop := seconds.between 1 10 = true

instance (seconds : Number) : Decidable (Interval.Fits seconds) := inferInstanceAs (Decidable (_ = true))

/-- A refresh interval in milliseconds, truncated. -/
def Interval.ms : Number → Int
  | .int n => n * 1000
  | .float x => (x.mul (.ofRatio false 1000 1)).whole

/-- The interval that a value stands for. Truth values are no numbers. -/
def Interval.ofValue : Json.Value → Except Fault { seconds : Number // Interval.Fits seconds }
  | .number n => if h : Interval.Fits n then .ok ⟨n, h⟩ else .error (.intervalOutOfRange n.toText)
  | v => .error (.intervalOutOfRange v.spelled)

/-- What the indicator shows and how often. -/
structure Config where
  mode : Mode
  autoHide : Json.Value
  /-- The rate, in kilobits per second, that has to be exceeded for an indicator that hides itself. -/
  autoHideThreshold : Json.Value
  units : Units
  showUnits : Json.Value
  /-- The seconds between two samples. -/
  interval : Number
  interval_fits : Interval.Fits interval
  hideArrows : Json.Value
  location : Placement

namespace Config

/-- The configuration of a display that nobody configured. -/
def default : Config where
  mode := .both
  autoHide := true
  autoHideThreshold := (0 : Int)
  units := .known .megabits
  showUnits := true
  interval := .int 2
  interval_fits := by decide
  hideArrows := false
  location := .statusBar

/-- The milliseconds between two samples. -/
def intervalMs (c : Config) : Int := Interval.ms c.interval

/-- Whether the indicator hides itself while little is sent and received. -/
def hidesItself (c : Config) : Bool := c.autoHide.isTruthy

/-- Whether rates have their unit behind them. -/
def showsUnits (c : Config) : Bool := c.showUnits.isTruthy

/-- Whether there are arrows beside the text. -/
def showsArrows (c : Config) : Bool := !c.hideArrows.isTruthy

/-- Whether a rate exceeds the threshold. -/
def isExceeded (c : Config) (kbps : Int) : Except Fault Bool :=
  match c.autoHideThreshold.number? with
  | some threshold => .ok (threshold.lt kbps)
  | none => .error .wrongKind

/-- The word with the name that a value gives; `kind` says in a fault what words are meant. -/
def word {α : Type} (kind : Text) (all : List α) (name : α → Text) (v : Json.Value) : Except Fault α :=
  let found := match v with
    | .string t => named? all name t
    | _ => none
  match found with
  | some a => .ok a
  | none => .error (.notAnOption v.spelled kind)

def modeOf (v : Json.Value) : Except Fault Mode := word "TrafficMode" Mode.all Mode.name v

def unitOf (v : Json.Value) : Except Fault RateUnit := word "SpeedUnit" RateUnit.all RateUnit.name v

def placementOf (v : Json.Value) : Except Fault Placement := word "Placement" Placement.all Placement.name v

/-- The value of a field that has to be there. -/
def required (fields : Json.Fields) (name : Text) : Except Fault Json.Value :=
  match fields.get? name with
  | some v => .ok v
  | none => .error (.missingField name)

/-- The configuration that settings of any kind describe. Fields are looked up in the order in which they are listed
here, so the first one that is missing or names no word is the one reported; the interval is checked last. -/
def ofSettings (fields : Json.Fields) : Except Fault Config := do
  let mode ← modeOf (← required fields "mode")
  let autoHide ← required fields "auto_hide"
  let autoHideThreshold ← required fields "auto_hide_threshold"
  let unit ← unitOf (← required fields "units")
  let showUnits ← required fields "show_units"
  let interval ← required fields "refresh_interval"
  let hideArrows ← required fields "hide_arrows"
  let location ← placementOf (← required fields "location")
  let ⟨interval, fits⟩ ← Interval.ofValue interval
  pure ⟨mode, autoHide, autoHideThreshold, .known unit, showUnits, interval, fits, hideArrows, location⟩

/-- The names of the fields. -/
def names : List Text :=
  ["mode", "auto_hide", "auto_hide_threshold", "units", "show_units", "refresh_interval", "hide_arrows", "location"]

/-- The configuration with the given fields, the others being as by default. Units may be any value; a field of another
name is a fault, which is found before a bad interval but after a bad word. -/
def ofPartial (fields : Json.Fields) : Except Fault Config := do
  let given (name : Text) (otherwise : Json.Value) : Json.Value := (fields.get? name).getD otherwise
  let mode ← modeOf (given "mode" default.mode.name)
  let location ← placementOf (given "location" default.location.name)
  match fields.find? fun f => !names.contains f.1 with
  | some (name, _) => .error (.unknownField name)
  | none =>
    let ⟨interval, fits⟩ ← Interval.ofValue (given "refresh_interval" default.interval)
    pure ⟨mode, given "auto_hide" default.autoHide, given "auto_hide_threshold" default.autoHideThreshold,
      .ofValue (given "units" default.units.toValue), given "show_units" default.showUnits, interval, fits,
      given "hide_arrows" default.hideArrows, location⟩

/-- The fields of the configuration, with the interval in milliseconds beside them. -/
def toFields (c : Config) : Json.Fields :=
  [("mode", c.mode.name), ("auto_hide", c.autoHide), ("auto_hide_threshold", c.autoHideThreshold),
    ("units", c.units.toValue), ("show_units", c.showUnits), ("refresh_interval", c.interval),
    ("hide_arrows", c.hideArrows), ("location", c.location.name), ("refresh_interval_ms", c.intervalMs)]

end Config
end LinkMeter.Display
