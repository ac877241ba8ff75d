import LinkMeter.Display.Surface
import LinkMeter.Host.Watcher
import LinkMeter.Log.Sinks
import LinkMeter.Monitor.Surroundings
import LinkMeter.Settings.Controller

/-! # The monitor

The whole program: settings, watcher and engine with the ways between them. What the watcher sees becomes messages of the
engine, each followed by a question for the connectivity; a configuration that is published becomes a message; what the
engine shows goes to the log. -/

namespace LinkMeter

/-- The running program. -/
structure Monitor where
  sinks : Log.Sinks
  controller : Settings.Controller
  watcher : Host.Watcher
  engine : Engine Monitor.Surroundings

namespace Monitor
variable {α : Type}

/-- The name of the settings file in the data folder. -/
def settingsName : Text := "NetTraffic_Config.json"

/-- Writes a record. -/
def note {σ : Type} (level : Log.Level) (parts : List Text) : Logged σ Unit := Log.write level .main parts

/-- Works on the engine. Decisions go to the log. -/
def onEngine (m : Engine.Act Surroundings α) : Logged Monitor α :=
  .zoom engine (fun e s => { s with engine := e }) (.relay (fun r => r.sort.elim id Display.Decision.record) m)

/-- Works on the watcher, and gives what it told. -/
def onWatcher (m : Step Host.Sighting Host.Watcher α) : Logged Monitor (List Host.Event × Except Fault α) :=
  .zoom watcher (fun w s => { s with watcher := w }) (.gather Host.Sighting.sort m)

/-- Works on the controller, and gives what it published. -/
def onController (m : Step Settings.Notice Settings.Controller α) :
    Logged Monitor (List Display.Config × Except Fault α) :=
  .zoom controller (fun c s => { s with controller := c }) (.gather Settings.Notice.sort m)

/-- The files that the settings are among. -/
def files (s : Monitor) : Files := s.controller.store.files

/-- Works on the files. -/
def onFiles (m : Logged Files α) : Logged Monitor α :=
  .zoom files (fun fs s => { s with controller := { s.controller with store := { s.controller.store with files := fs } } }) m

/-- Changes what is observed of the host. -/
def observe (f : Surroundings → Surroundings) : Logged Monitor Unit :=
  onEngine (.modify fun e => { e with around := f e.around })

/-- Works off the messages of the engine. -/
def drain : Logged Monitor Unit := onEngine do let _ ← Engine.pump connections

/-- What the program does about an event of the watcher. -/
def react : Host.Event → Logged Monitor Unit
  | .updated name => onEngine do
    Engine.post (.linkUpdated (.named name) (some name))
    Engine.post (.connectivityChanged none)
  | .lost name => onEngine do
    Engine.post (.linkLost (.named name))
    Engine.post (.connectivityChanged none)
  | .failed message => note .critical [message]

/-- Makes a step of the watcher and does what follows from it. -/
def watch (m : Step Host.Sighting Host.Watcher Unit) : Logged Monitor Unit := do
  let (events, result) ← onWatcher m
  Step.each react events
  Step.lift result
  drain

/-- Polls the interfaces once. -/
def poll : Logged Monitor Unit := do watch (Host.Watcher.poll (← Step.get).engine.around.interfaces)

/-- Polls the interfaces once and keeps count of failing polls. -/
def tryPoll : Logged Monitor Unit := do watch (Host.Watcher.tryPoll (← Step.get).engine.around.interfaces)

/-- Takes notice that a settings file changed, which `told` names. -/
def settingsChanged (told : Text) (dropped : Bool) : Logged Monitor Unit := do
  let (published, result) ← onController do
    if dropped then Step.modify Settings.Controller.forget
    Settings.Controller.reload told {}
  onEngine (Step.each (fun c => Engine.post (.configChanged c)) published)
  Step.lift result
  drain

/-- Lets milliseconds pass. -/
def advance (ms : Binary64) : Logged Monitor Unit := onEngine (Engine.advance connections ms)

/-- Stops the program. -/
def stop : Logged Monitor Unit := do
  let _ ← onWatcher Host.Watcher.stop
  onEngine Engine.cleanup

/-- The program after records went to the sinks. -/
def written (records : List Log.Record) (s : Monitor) : Monitor :=
  if records.any s.sinks.writes then
    let store := { s.controller.store with files := s.sinks.touch s.files }
    { s with controller := { s.controller with store }, sinks := { s.sinks with opened := true } }
  else s

/-- Makes a step of the running program: its records go to the sinks, and only those that are kept are reported. -/
def step (m : Logged Monitor α) : Logged Monitor α := fun s =>
  let o := m s
  ⟨o.reports.filter s.sinks.keeps, written o.reports o.state, o.result⟩

end Monitor
end LinkMeter
