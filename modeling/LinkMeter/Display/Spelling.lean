import LinkMeter.Display.Config

/-! # Configurations in messages -/

namespace LinkMeter.Display

/-- The letters from a to z in upper case, other characters as they are. -/
def capitals (t : Text) : Text := t.map fun c => if 97 ≤ c ∧ c ≤ 122 then c - 32 else c

/-- A word of a vocabulary in a message. -/
def wordSpelled (vocabulary name : Text) : Text := .cat ["<", vocabulary, ".", capitals name, ": ", name.quoted, ">"]

/-- Units in a message. -/
def Units.spelled : Units → Text
  | .known unit => wordSpelled "SpeedUnit" unit.name
  | .other v => v.spelled

/-- A configuration in a message. -/
def Config.spelled (c : Config) : Text :=
  .cat ["DisplayConfig(mode=", wordSpelled "TrafficMode" c.mode.name, ", auto_hide=", c.autoHide.spelled,
    ", auto_hide_threshold=", c.autoHideThreshold.spelled, ", units=", c.units.spelled, ", show_units=",
    c.showUnits.spelled, ", refresh_interval=", c.interval.toText, ", hide_arrows=", c.hideArrows.spelled, ", location=",
    wordSpelled "Placement" c.location.name, ")"]

end LinkMeter.Display
