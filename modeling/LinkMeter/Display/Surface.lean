import LinkMeter.Display.Decision

/-! # The surface of the log

Where there is no status bar, the decisions go to the log: a visible indicator as one line with its arrows, a hidden one
with the reason. -/

namespace LinkMeter.Display

/-- The lines of a text beside each other. -/
def besides (t : Text) : Text := Text.replace Text.lineFeed " | " t

/-- The record that shows a decision. -/
def Decision.record (d : Decision) : Log.Record :=
  if d.visible then ⟨.info, .surface, .cat ["[", d.arrows.name, "] ", besides d.text], none⟩
  else ⟨.debug, .surface, .cat ["Indicator hidden (enabled=", Json.Value.boolText d.enabled, ", active=",
    Json.Value.boolText d.active, ")"], none⟩

end LinkMeter.Display
