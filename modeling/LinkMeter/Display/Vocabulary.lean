import LinkMeter.Json.Value

/-! # The words of the display

What the indicator reports, in which unit, where it stands, and how its text is drawn. Every word has a name by which
settings and decisions refer to it. -/

namespace LinkMeter.Display

/-- A direction of traffic, seen from the host. -/
inductive Direction where
  | up
  | down
deriving DecidableEq

/-- Which directions the indicator reports. -/
inductive Mode where
  | both
  | up
  | down
  | disabled
deriving DecidableEq

namespace Mode

def all : List Mode := [both, up, down, disabled]

def name : Mode → Text
  | both => "both"
  | up => "upstream"
  | down => "downstream"
  | disabled => "disabled"

/-- The directions that the mode reports, in the order of their lines. -/
def directions : Mode → List Direction
  | both => [.up, .down]
  | up => [.up]
  | down => [.down]
  | disabled => []

end Mode

/-- The unit in which a rate is shown. -/
inductive RateUnit where
  | kilobits
  | megabits
  | kilobytes
  | megabytes
deriving DecidableEq

namespace RateUnit

def all : List RateUnit := [kilobits, megabits, kilobytes, megabytes]

def name : RateUnit → Text
  | kilobits => "kilobits"
  | megabits => "megabits"
  | kilobytes => "kilobytes"
  | megabytes => "megabytes"

/-- The label that follows a rate. -/
def label : RateUnit → Text
  | kilobits => "kb/s"
  | megabits => "Mb/s"
  | kilobytes => "kB/s"
  | megabytes => "MB/s"

end RateUnit

/-- Where the indicator is placed. -/
inductive Placement where
  | hidden
  | header
  | statusBar
deriving DecidableEq

namespace Placement

def all : List Placement := [hidden, header, statusBar]

def name : Placement → Text
  | hidden => "hidden"
  | header => "header"
  | statusBar => "status_bar"

end Placement

/-- The arrows that are drawn beside the text. -/
inductive Arrows where
  | none
  | upAndDown
  | upOnly
  | downOnly
deriving DecidableEq

namespace Arrows

def all : List Arrows := [none, upAndDown, upOnly, downOnly]

def name : Arrows → Text
  | none => "none"
  | upAndDown => "up_and_down"
  | upOnly => "up_only"
  | downOnly => "down_only"

end Arrows

/-- The arrows of a mode. -/
def Mode.arrows : Mode → Arrows
  | both => .upAndDown
  | up => .upOnly
  | down => .downOnly
  | disabled => .none

/-- The size of the text: one line or two lines on top of each other. -/
inductive TextSize where
  | single
  | multi
deriving DecidableEq

namespace TextSize

def name : TextSize → Text
  | single => "single"
  | multi => "multi"

end TextSize

/-- The unit of a display: one of the known ones, or some other value, for which rates cannot be shown. -/
inductive Units where
  | known (unit : RateUnit)
  | other (value : Json.Value)

/-- The word among `all` that has the given name. -/
def named? {α : Type} (all : List α) (name : α → Text) (t : Text) : Option α := all.find? fun a => name a = t

/-- The units that a value stands for. -/
def Units.ofValue : Json.Value → Units
  | .string t => match named? RateUnit.all RateUnit.name t with
    | some unit => .known unit
    | none => .other (.string t)
  | v => .other v

/-- The value that stands for the units. -/
def Units.toValue : Units → Json.Value
  | .known unit => unit.name
  | .other v => v

end LinkMeter.Display
