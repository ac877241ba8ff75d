import LinkMeter.Display.Config
import LinkMeter.Link.Handle

/-! # Messages of the engine

Everything that happens to the engine reaches it as a message. -/

namespace LinkMeter.Engine

/-- One thing that happened. -/
inductive Message where
  /-- It is time for a sample. -/
  | tick
  | updateView
  | linkUpdated (handle : Link.Handle) (name : Option Text)
  | linkLost (handle : Link.Handle)
  | configChanged (config : Display.Config)
  /-- The connectivity changed; without a state the probe is asked. -/
  | connectivityChanged (available : Option Bool)
  | screenChanged (on dozing : Bool)
  | attach
  | detach

/-- The kind of the message in a log record. -/
def Message.kind : Message → Text
  | tick => "TICK"
  | updateView => "UPDATE_VIEW"
  | linkUpdated _ _ => "LINK_UPDATED"
  | linkLost _ => "LINK_LOST"
  | configChanged _ => "CONFIG_CHANGED"
  | connectivityChanged _ => "CONNECTIVITY_CHANGED"
  | screenChanged _ _ => "SCREEN_CHANGED"
  | attach => "ATTACH"
  | detach => "DETACH"

end LinkMeter.Engine
