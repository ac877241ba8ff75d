import LinkMeter.Settings.Store

/-! # The settings in use

The controller holds the settings that are in use, changes them, and watches the settings file: when it changes, the
settings are loaded anew. Every change of the settings in use is published as one display configuration. -/

namespace LinkMeter.Settings

/-- What the controller reports: log records, and the configurations that it publishes. -/
inductive Notice where
  | record (r : Log.Record)
  | published (c : Display.Config)

/-- A notice is a record or a published configuration. -/
def Notice.sort : Notice → Log.Record ⊕ Display.Config
  | record r => .inl r
  | published c => .inr c

/-- The settings in use, their store, and the watched paths. There are no settings in use before the first loading. -/
structure Controller where
  current : Option Settings
  store : Store
  watched : List Path

namespace Controller

/-- A controller before the first loading. -/
def fresh (store : Store) : Controller := ⟨none, store, []⟩

/-- The settings in use by name; before the first loading there are none. -/
def fields (c : Controller) : Json.Fields := (c.current.map Settings.toFields).getD []

/-- Works on the store. -/
def onStore {α : Type} (m : Logged Store α) : Step Notice Controller α :=
  .zoom store (fun st c => { c with store := st }) (.relay .record m)

/-- Writes a record. -/
def note (level : Log.Level) (parts : List Text) : Step Notice Controller Unit :=
  .relay .record (Log.write level .controller parts)

/-- Watches the settings file, if it is there and not watched yet. -/
def watch : Step Notice Controller Unit := do
  let c ← Step.get
  let path := c.store.path
  if !c.watched.contains path then
    if (c.store.files.find path).toOption.isSome then Step.set { c with watched := c.watched ++ [path] }
    else note .warning ["Could not watch configuration file ", path.toText]

/-- Loads the settings for the first time and starts watching the file. -/
def start : Step Notice Controller Display.Config := do
  note .debug ["Loading initial configuration..."]
  let s ← onStore (Store.load {})
  Step.modify fun c => { c with current := some s }
  watch
  pure s.toConfig

/-- Puts settings into use. -/
def adopt (s : Settings) : Step Notice Controller Unit := Step.modify fun c => { c with current := some s }

/-- Changes some settings and publishes the outcome; they are saved first, if that is asked for. -/
def update (updates : Json.Fields) (save : Bool) (hazards : Hazards := {}) : Step Notice Controller Display.Config := do
  note .debug ["Updating configuration with ", .ofNat updates.length, " items... (Save: ", Json.Value.boolText save, ")"]
  let merged := (← Step.get).fields.merge updates
  if save then onStore (Store.save hazards merged)
  let s ← onStore (validate merged)
  adopt s
  Step.report (.published s.toConfig)
  pure s.toConfig

/-- Loads the settings anew after a file changed, which `told` names. When they cannot be loaded those in use stay. -/
def reload (told : Text) (hazards : Hazards) : Step Notice Controller Unit := do
  note .debug ["Configuration file changed: ", told]
  match ← Step.attempt (onStore (Store.load hazards)) with
  | .error (.settingsLost what cause) =>
    note .error ["Failed to reload configuration, keeping the current one: ", (Fault.settingsLost what cause).message]
  | .error e => Step.fail e
  | .ok s =>
    adopt s
    watch
    Step.report (.published s.toConfig)

/-- Forgets the watched paths, as happens when a watched file is replaced. -/
def forget (c : Controller) : Controller := { c with watched := [] }

end Controller
end LinkMeter.Settings
