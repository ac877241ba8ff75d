import LinkMeter.Constants.Rule
import LinkMeter.Display.RateText
import LinkMeter.Monitor.Launch

/-! # The constants of the program

The constants by group and name, with the rules that tie them together. A group may be built with other values for some of
its constants, or with more of them; the rules then say whether it is sound. -/

namespace LinkMeter.Constants
open Json

/-- The groups of constants. -/
inductive Group where
  | app
  | logs
  | timeouts
  | timers
  | display
  | units
  | rates
  | interface
  | defaults
  | messages
deriving DecidableEq

namespace Group

def all : List Group := [app, logs, timeouts, timers, display, units, rates, interface, defaults, messages]

def name : Group → Text
  | app => "app"
  | logs => "logs"
  | timeouts => "timeouts"
  | timers => "timers"
  | display => "display"
  | units => "units"
  | rates => "rates"
  | interface => "interface"
  | defaults => "defaults"
  | messages => "messages"

/-- Texts as one value. -/
def texts (ts : List Text) : Value := .array (ts.map .string)

/-- A level as a value. -/
def rank (l : Log.Level) : Value := (l.rank : Int)

/-- The modes that report a direction, as a set. -/
def modesWith (d : Display.Direction) : Value :=
  texts (Text.setOf ((Display.Mode.all.filter fun m => m.directions.contains d).map Display.Mode.name))

/-- The constants of the group. -/
def values : Group → Fields
  | app => [("APP_NAME", Identity.name), ("VERSION", Identity.version), ("ENV_VAR_PROD_MODE", Identity.productionVariable)]
  | logs =>
    [("LOG_FILENAME", Log.Sinks.fileName),
      ("LOG_FORMAT", ("%(asctime)s - %(name)s - %(levelname)s - %(module)s.%(funcName)s:%(lineno)d - %(message)s" : Text)),
      ("LOG_DATE_FORMAT", ("%Y-%m-%d %H:%M:%S" : Text)), ("FILE_LOG_LEVEL", rank .info), ("CONSOLE_LOG_LEVEL", rank .info),
      ("PRODUCTION_LOG_LEVEL", rank Log.Sinks.leastInProduction), ("MAX_LOG_SIZE", (Log.Sinks.largestFile : Int)),
      ("LOG_BACKUP_COUNT", (Log.Sinks.keptFiles : Int)), ("RATE_LOGGING_FREQUENCY", (Rate.Sampler.logEvery : Int))]
  | timeouts => [("WATCHER_THREAD_STOP_WAIT_MS", (2000 : Int)), ("MAX_CONSECUTIVE_ERRORS", (Host.Watcher.mostErrors : Int))]
  | timers =>
    [("MINIMUM_REFRESH_INTERVAL_SECONDS", (1 : Int)), ("MAXIMUM_REFRESH_INTERVAL_SECONDS", (10 : Int)),
      ("LINK_POLL_INTERVAL_MS", Monitor.pollInterval), ("MINIMUM_POLL_INTERVAL_MS", Host.Watcher.leastInterval)]
  | display =>
    [("LINE_SEPARATOR", ("\n" : Text)), ("UNIT_SEPARATOR", (" " : Text)), ("EMPTY_TEXT", ([] : Text)),
      ("VISIBLE_PLACEMENT", Display.Placement.statusBar.name), ("UPSTREAM_MODES", modesWith .up),
      ("DOWNSTREAM_MODES", modesWith .down)]
  | units =>
    [("BITS_PER_BYTE", (8 : Int)), ("BITS_PER_KILOBIT", (1000 : Int)), ("MS_PER_SECOND", (1000 : Int)),
      ("KILOBITS_PER_MEGABIT", (1000 : Int)), ("KILOBITS_PER_MEGABYTE", (8000 : Int)),
      ("KILOBITS_LABEL", Display.RateUnit.kilobits.label), ("MEGABITS_LABEL", Display.RateUnit.megabits.label),
      ("KILOBYTES_LABEL", Display.RateUnit.kilobytes.label), ("MEGABYTES_LABEL", Display.RateUnit.megabytes.label),
      ("UNKNOWN_LABEL", Display.unknownLabel)]
  | rates => [("DEFAULT_KBPS", Rate.Estimate.zero.tx), ("DEBOUNCE_FACTOR", .number (.float Rate.Sampler.leastShare))]
  | interface =>
    [("EXCLUDED_NAMES", texts Host.excludedNames), ("EXCLUDED_KEYWORDS", texts Host.excludedParts),
      ("NON_ROUTABLE_PREFIXES", texts Host.localStarts), ("NO_OFFLOAD_COUNTERS", .array [(0 : Int), (0 : Int)])]
  | defaults =>
    let s := Settings.default
    [("DEFAULT_LOCATION", s.location.name), ("DEFAULT_MODE", s.mode.name), ("DEFAULT_AUTO_HIDE", s.autoHide),
      ("DEFAULT_AUTO_HIDE_THRESHOLD", s.threshold), ("DEFAULT_UNITS", s.unit.name), ("DEFAULT_SHOW_UNITS", s.showUnits),
      ("DEFAULT_REFRESH_INTERVAL", s.interval), ("DEFAULT_HIDE_ARROWS", s.hideArrows),
      ("MINIMUM_AUTO_HIDE_THRESHOLD", (0 : Int)), ("MAXIMUM_AUTO_HIDE_THRESHOLD", (100000 : Int)),
      ("MINIMUM_REFRESH_INTERVAL", (1 : Int)), ("MAXIMUM_REFRESH_INTERVAL", (10 : Int)),
      ("VALID_LOCATIONS", texts (Display.Placement.all.map Display.Placement.name)),
      ("VALID_MODES", texts (Display.Mode.all.map Display.Mode.name)),
      ("VALID_UNITS", texts (Display.RateUnit.all.map Display.RateUnit.name)), ("CONFIG_FILENAME", Monitor.settingsName),
      ("DEFAULT_CONFIG", .object s.toFields)]
  | messages =>
    [("INVALID_NUMERIC", ("Invalid \x7bkey\x7d '\x7bvalue\x7d', resetting to default '\x7bdefault\x7d'" : Text)),
      ("INVALID_BOOLEAN", ("Invalid \x7bkey\x7d '\x7bvalue\x7d', resetting to boolean default '\x7bdefault\x7d'" : Text)),
      ("INVALID_CHOICE", ("Invalid \x7bkey\x7d '\x7bvalue\x7d', resetting to default '\x7bdefault\x7d'. " : Text) ++
        ("Valid choices: \x7bchoices\x7d" : Text))]

/-- The rule that a constant is the rank of a level. -/
def isLevel (name : Text) : Rule :=
  demand (fun fs => .ok (Log.Level.all.any fun l => (valueOf fs name).same (rank l))) fun fs =>
    .cat ["Invalid ", name, ": ", (valueOf fs name).bare]

/-- Whether a value is a number that a test accepts. -/
def isNumber (test : Number → Bool) (v : Value) : Bool := v.number?.any test

/-- Whether the values of two constants, which are sets of modes, have a mode in either or in both of them. -/
def inModes (both : Bool) (mode : Display.Mode) (fs : Fields) : Except Fault Bool := do
  let up ← isAmong mode.name (valueOf fs "UPSTREAM_MODES")
  let down ← isAmong mode.name (valueOf fs "DOWNSTREAM_MODES")
  pure (if both then up && down else up || down)

/-- The names that the settings by default must have. -/
def settingNames : List Text := Text.setOf Settings.names

/-- A set of texts in a message; an empty one is called so. -/
def setText (ts : List Text) : Text :=
  if ts.isEmpty then "None" else .cat ["\x7b", .join ", " (ts.map Text.quoted), "\x7d"]

/-- The rule that the settings by default have the names of all settings and no others. -/
def completeSettings : Rule := fun fs =>
  match valueOf fs "DEFAULT_CONFIG" with
  | .object members =>
    let given := Text.setOf (members.map Prod.fst)
    let missing := settingNames.filter fun n => !given.contains n
    let extra := given.filter fun n => !settingNames.contains n
    .ok (if missing.isEmpty && extra.isEmpty then none
      else some (.cat ["DEFAULT_CONFIG key mismatch. Missing: ", setText missing, ". Extra: ", setText extra, "."]))
  | _ => .error .noText

/-- The product of two numbers. It is an integer if both are. -/
def numberProduct : Number → Number → Except Fault Number
  | .int m, .int n => .ok (.int (m * n))
  | m, n => do pure (.float ((← m.toBinary64).mul (← n.toBinary64)))

/-- A text or list several times over. -/
def repeated (n : Int) : Value → Except Fault Value
  | .string t => .ok (.string (List.replicate n.toNat t).flatten)
  | .array vs => .ok (.array (List.replicate n.toNat vs).flatten)
  | _ => .error .wrongKind

/-- The product of two constants. An integer times a text or list repeats it. -/
def product (v w : Value) : Except Fault Value :=
  match v.number?, w.number? with
  | some m, some n => (numberProduct m n).map .number
  | some (.int m), none => repeated m w
  | none, some (.int n) => repeated n v
  | _, _ => .error .wrongKind

/-- Whether a name ends in one of the given ways. -/
def endsIn (ends : List Text) (name : Text) : Bool := ends.any fun e => e.isSuffixOf name

/-- The rules of the group, in the order in which they are checked. -/
def rules : Group → List Rule
  | app => [filled "APP_NAME", filled "VERSION", filled "ENV_VAR_PROD_MODE"]
  | logs =>
    [filled "LOG_FILENAME", against (fun a b => !a.le b) "MAX_LOG_SIZE" 0 "MAX_LOG_SIZE must be positive",
      atLeast "RATE_LOGGING_FREQUENCY" 1 "RATE_LOGGING_FREQUENCY must be at least 1", isLevel "FILE_LOG_LEVEL",
      isLevel "CONSOLE_LOG_LEVEL", isLevel "PRODUCTION_LOG_LEVEL"]
  | timeouts =>
    [forNames (endsIn ["_MS"]) (isNumber fun n => !n.lt (.int 0)) fun n => .cat [n, " must be a non-negative number."],
      atLeast "MAX_CONSECUTIVE_ERRORS" 1 "MAX_CONSECUTIVE_ERRORS must be at least 1"]
  | timers =>
    [forNames (endsIn ["_MS", "_SECONDS"]) (isNumber fun n => !n.le (.int 0)) fun n =>
        .cat [n, " must be a positive number."],
      demand (fun fs => compared (fun a b => !b.lt a) (valueOf fs "MINIMUM_REFRESH_INTERVAL_SECONDS")
        (valueOf fs "MAXIMUM_REFRESH_INTERVAL_SECONDS"))
        fun _ => "MINIMUM_REFRESH_INTERVAL_SECONDS must not exceed MAXIMUM_REFRESH_INTERVAL_SECONDS"]
  | display =>
    [demand (fun fs => (inModes false .disabled fs).map not) fun _ => "DISABLED must not show any traffic direction",
      demand (inModes true .both) fun _ => "BOTH must show both traffic directions",
      demand (fun fs => (size (valueOf fs "UNIT_SEPARATOR")).map (· == 1)) fun _ =>
        "UNIT_SEPARATOR must be a single character"]
  | units =>
    [demand (fun fs => .ok ((valueOf fs "BITS_PER_BYTE").same (8 : Int))) fun _ => "BITS_PER_BYTE must be 8",
      demand (fun fs => (product (valueOf fs "KILOBITS_PER_MEGABIT") (valueOf fs "BITS_PER_BYTE")).map
        (valueOf fs "KILOBITS_PER_MEGABYTE").same)
        fun _ => "KILOBITS_PER_MEGABYTE must equal KILOBITS_PER_MEGABIT * BITS_PER_BYTE"]
  | rates =>
    [atLeast "DEFAULT_KBPS" 0 "DEFAULT_KBPS must be non-negative",
      demand (fun fs => compared (fun a b => (Number.int 0).lt a && a.le b) (valueOf fs "DEBOUNCE_FACTOR") (1 : Int))
        fun _ => "DEBOUNCE_FACTOR must be in (0, 1]"]
  | interface =>
    let lower (name : Text) : Rule :=
      demand (fun fs => do allLower (← parts (valueOf fs name))) fun _ => .cat [name, " must be lowercase"]
    [lower "EXCLUDED_KEYWORDS", lower "EXCLUDED_NAMES"]
  | defaults =>
    [within "MINIMUM_REFRESH_INTERVAL" "DEFAULT_REFRESH_INTERVAL" "MAXIMUM_REFRESH_INTERVAL"
        "DEFAULT_REFRESH_INTERVAL must lie within the refresh interval bounds",
      within "MINIMUM_AUTO_HIDE_THRESHOLD" "DEFAULT_AUTO_HIDE_THRESHOLD" "MAXIMUM_AUTO_HIDE_THRESHOLD"
        "DEFAULT_AUTO_HIDE_THRESHOLD must lie within the threshold bounds",
      filled "CONFIG_FILENAME", listedIn "DEFAULT_MODE" "VALID_MODES", listedIn "DEFAULT_UNITS" "VALID_UNITS",
      listedIn "DEFAULT_LOCATION" "VALID_LOCATIONS", completeSettings]
  | messages =>
    [forNames (fun n => Text.isUpper n && n.head? != some 95) (fun | .string t => !t.isEmpty | _ => false)
      fun n => .cat ["ConfigMessages.", n, " must be a non-empty string."]]

/-- The name under which a group keeps not a constant but its check. -/
def checkName : Text := "validate"

/-- The set that a list of modes stands for. -/
def modeSet (v : Value) : Except Fault Value := do
  let modes ← (← parts v).mapM Display.Config.modeOf
  pure (texts (Text.setOf (modes.map Display.Mode.name)))

/-- The given values with a list of modes under a name made a set. -/
def withModes (name : Text) (given : Fields) : Except Fault Fields :=
  match given.get? name with
  | some v => do pure (given.put name (← modeSet v))
  | none => .ok given

/-- The group with other values for some constants, or with more of them, if it is sound. With a value in the place of its
check it cannot be built. -/
def build (g : Group) (overrides : Fields) : Except Fault Fields := do
  let given ← withModes "DOWNSTREAM_MODES" (← withModes "UPSTREAM_MODES" overrides)
  if (overrides.get? checkName).isSome then Except.error Fault.wrongKind
  let fields := g.values.merge given
  check fields g.rules
  pure fields

/-- The constants among the fields: those whose names are in upper case. -/
def constants (fields : Fields) : Fields := fields.filter fun (n, _) => Text.isUpper n

end Group
end LinkMeter.Constants
