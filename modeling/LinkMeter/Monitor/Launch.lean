import LinkMeter.Monitor.Basic

/-! # Launching the monitor

The sinks of the log are set up first, so that a failing start is told there. Then the settings are loaded, engine and
watcher are started, and the surface is attached by a message that waits for the first turn of the program. -/

namespace LinkMeter.Monitor

/-- The milliseconds between two polls of the interfaces. -/
def pollInterval : Int := 1000

/-- The controller after its start, with the configuration that it loaded. -/
def startController (path : Path) : Logged Files (Settings.Controller × Display.Config) := do
  let started : Step Settings.Notice Settings.Controller (Settings.Controller × Display.Config) := do
    let config ← Settings.Controller.start
    pure (← Step.get, config)
  let (_, result) ← Step.zoom (fun files => Settings.Controller.fresh (.fresh path files)) (fun c _ => c.store.files)
    (Step.gather Settings.Notice.sort started)
  Step.lift result

/-- The engine after its start, with a surface about to be attached. -/
def startEngine {σ : Type} (config : Display.Config) (now : Binary64) (around : Surroundings) :
    Logged σ (Engine Surroundings) := fun s =>
  let o := (Engine.start : Engine.Act Surroundings Unit) (.fresh config now around)
  let attached := (Engine.post .attach : Engine.Act Surroundings Unit) o.state
  ⟨o.reports.filterMap fun r => r.sort.getLeft?, s, .ok attached.state⟩

/-- Puts the program together. -/
def assemble (env : Environment) (sinks : Log.Sinks) (now : Binary64) (around : Surroundings) : Logged Files Monitor := do
  let folder ← env.dataFolder none
  let (controller, config) ← startController (folder.concat settingsName)
  let engine ← startEngine config now around
  let watcher ← Host.Watcher.start pollInterval
  note .info [Identity.name, " ", Identity.version, " running. Press Ctrl+C to stop."]
  pure ⟨sinks, controller, watcher, engine⟩

/-- How a launch ended. -/
structure Launch where
  sinks : Log.Sinks
  /-- What was told on the console besides the records. -/
  told : List Text
  /-- The running program, if it could be started. -/
  monitor : Option Monitor

/-- Sets up the sinks and puts the program together. A fault on the way is told as a record. -/
def boot (env : Environment) (now : Binary64) (around : Surroundings) : Logged Files Launch := do
  let (sinks, told) ← Log.Sinks.setUp env
  match ← Step.attempt (assemble env sinks now around) with
  | .ok monitor => pure ⟨sinks, told, some monitor⟩
  | .error e =>
    Log.writeFault .critical .main ["A critical error occurred during startup: ", e.message] e
    pure ⟨sinks, told, none⟩

/-- The launch after records went to the sinks. -/
def Launch.written (records : List Log.Record) (l : Launch) : Launch :=
  { l with monitor := l.monitor.map (Monitor.written records) }

/-- Launches the program: its records go to the sinks, and only those that are kept are reported. -/
def launch (env : Environment) (now : Binary64) (around : Surroundings) : Logged Files Launch := fun files =>
  match boot env now around files with
  | ⟨records, files, .ok l⟩ =>
    let files := if records.any l.sinks.writes then l.sinks.touch files else files
    ⟨records.filter l.sinks.keeps, files, .ok (l.written records)⟩
  | o => o

end LinkMeter.Monitor
