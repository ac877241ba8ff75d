import LinkMeter.Log.Record
import LinkMeter.Number.Reading
import LinkMeter.Settings.Basic
import LinkMeter.Text.LetterCase
import LinkMeter.Text.Order

/-! # Validation of settings

Named values of any kind become settings. Each setting is read from the value under its own name alone; a value that does
not fit is reported and gives way to the default, as a missing one does silently. Numbers may be spelled in a text and are
cut down to whole ones, words may be in any case, and names that are no setting's are reported and dropped. Only integers
can be faults: one that is too large for a floating-point number, and one of too many digits in a value that is reported. -/

namespace LinkMeter.Settings
variable {σ α : Type}

/-- What a value says about one setting, if it fits. -/
abbrev Reader (α : Type) := Json.Value → Except Fault (Option α)

/-- A truth value. -/
def flag : Reader Bool
  | .bool b => .ok (some b)
  | _ => .ok none

/-- The number that a value is or spells. -/
def numberOf : Json.Value → Except Fault (Option Binary64)
  | .number (.int n) => (Binary64.ofInt n).map some
  | .number (.float x) => .ok (some x)
  | .string t => .ok (Binary64.ofText? t)
  | _ => .ok none

/-- The integer part of a number between two natural numbers. -/
def wholeBetween (low high : Nat) (x : Binary64) : Option { n : Int // (low : Int) ≤ n ∧ n ≤ high } :=
  if h : Binary64.intLe low x = true ∧ x.leInt high = true then some ⟨x.whole, Binary64.whole_mem h.1 h.2⟩ else none

/-- A whole number between two natural ones. -/
def whole (low high : Nat) : Reader { n : Int // (low : Int) ≤ n ∧ n ≤ high } := fun v =>
  (numberOf v).map fun x => x.bind (wholeBetween low high)

/-- One of several words, in any case. -/
def word (all : List α) (name : α → Text) : Reader α
  | .string t => .ok (all.find? fun a => Text.lower (name a) = Text.lower t)
  | _ => .ok none

/-- The value of one setting: what its reader makes of the value under its name. A value that does not fit is reported,
with what `hint` adds, and the default stands in for it. -/
def choose (name : Text) (read : Reader α) (default : α) (kind shown hint : Text) (fields : Json.Fields) :
    Logged σ α :=
  match fields.get? name with
  | none => pure default
  | some v => do
    match ← Step.lift (read v) with
    | some a => pure a
    | none =>
      if v.isSpellable then
        Log.write .warning .settings
          ["Invalid ", name, " '", v.bare, "', resetting to ", kind, "default '", shown, "'", hint]
        pure default
      else Step.fail (.digitLimit none)

/-- A truth value among the settings. -/
def chooseFlag (name : Text) (default : Bool) (fields : Json.Fields) : Logged σ Bool :=
  choose name flag default "boolean " (Json.Value.boolText default) "" fields

/-- A whole number among the settings. -/
def chooseWhole (name : Text) (low high : Nat) (default : { n : Int // (low : Int) ≤ n ∧ n ≤ high })
    (fields : Json.Fields) : Logged σ { n : Int // (low : Int) ≤ n ∧ n ≤ high } :=
  choose name (whole low high) default "" (.ofInt default.1) "" fields

/-- The texts in a message. -/
def listed (ts : List Text) : Text := (Json.Value.array (ts.map .string)).spelled

/-- A word among the settings. -/
def chooseWord (name : Text) (all : List α) (wordName : α → Text) (default : α) (fields : Json.Fields) :
    Logged σ α :=
  choose name (word all wordName) default "" (wordName default)
    (.cat [". Valid choices: ", listed (all.map wordName)]) fields

/-- The names among the fields that are no setting's, in ascending order. -/
def unknownNames (fields : Json.Fields) : List Text := Text.setOf ((fields.map Prod.fst).filter fun n => !names.contains n)

/-- The settings that the fields describe. -/
def validate (fields : Json.Fields) : Logged σ Settings := do
  let unknown := unknownNames fields
  if !unknown.isEmpty then
    Log.write .warning .settings ["Ignoring unknown config fields: ", .join ", " unknown]
  let autoHide ← chooseFlag "auto_hide" default.autoHide fields
  let showUnits ← chooseFlag "show_units" default.showUnits fields
  let hideArrows ← chooseFlag "hide_arrows" default.hideArrows fields
  let ⟨threshold, threshold_mem⟩ ← chooseWhole "auto_hide_threshold" 0 100000 ⟨default.threshold, by decide⟩ fields
  let ⟨interval, interval_mem⟩ ← chooseWhole "refresh_interval" 1 10 ⟨default.interval, by decide⟩ fields
  let mode ← chooseWord "mode" Display.Mode.all Display.Mode.name default.mode fields
  let unit ← chooseWord "units" Display.RateUnit.all Display.RateUnit.name default.unit fields
  let location ← chooseWord "location" Display.Placement.all Display.Placement.name default.location fields
  pure { location, mode, autoHide, threshold, threshold_mem, unit, showUnits, interval, interval_mem, hideArrows }

end LinkMeter.Settings
