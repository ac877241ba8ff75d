import LinkMeter.Display.Vocabulary
import LinkMeter.Json.Spelling
import LinkMeter.Log.Record
import LinkMeter.Number.Decimal

/-! # Rates as text

A rate is a whole number of kilobits per second. It is shown as it is in kilobits, with one place in megabits, with two
places in megabytes, and cut down to a whole number in kilobytes. -/

namespace LinkMeter.Display

/-- An integer in decimal digits. One of too many digits cannot be written. -/
def wholeText (n : Int) : Except Fault Text :=
  if (Text.ofNat n.natAbs).length ≤ Number.mostDigits then .ok (.ofInt n) else .error (.digitLimit none)

/-- The rate in a unit, without a label. -/
def RateUnit.format (unit : RateUnit) (kbps : Int) : Except Fault Text :=
  match unit with
  | .kilobits => wholeText kbps
  | .megabits => Decimal.fixed 1 kbps 1000
  | .kilobytes => wholeText (kbps.fdiv 8)
  | .megabytes => Decimal.fixed 2 kbps 8000

/-- The text for a rate or a label that cannot be shown. -/
def unknownLabel : Text := "unknown"

/-- The rate in the given units. -/
def Units.format (units : Units) (kbps : Int) : Except Fault Text :=
  match units with
  | .known unit => unit.format kbps
  | .other _ => .ok unknownLabel

/-- The label of the given units. -/
def Units.label : Units → Text
  | .known unit => unit.label
  | .other _ => unknownLabel

/-- The rate as it is shown: with its label behind a space, if labels are shown. -/
def Units.line (units : Units) (showUnits : Bool) (kbps : Int) : Except Fault Text :=
  (units.format kbps).map fun value => if showUnits then .cat [value, " ", units.label] else value

/-- The record that is written each time a rate is asked for in units that are not known. -/
def Units.notes : Units → List Log.Record
  | .known _ => []
  | .other v => [⟨.warning, .display, .cat ["Unrecognised unit ", v.spelled], none⟩]

end LinkMeter.Display
