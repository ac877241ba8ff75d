import LinkMeter.Display.Decision
import LinkMeter.Display.Spelling
import LinkMeter.Engine.Clockwork
import LinkMeter.Engine.Message
import LinkMeter.Engine.Timer
import LinkMeter.Rate.Sampler

/-! # The engine

The engine owns the links, the sampler, the timer and the state of the display. Messages are worked on one at a time, in
the order in which they came: most of them end in a new decision for the surface, after which the next sample is
scheduled, but only while a surface is attached and the screen is on. -/

namespace LinkMeter

/-- What the engine reports: log records, and the decisions that it shows. -/
inductive Engine.Report where
  | record (r : Log.Record)
  | display (d : Display.Decision)

/-- A report is a record or a decision. -/
def Engine.Report.sort : Engine.Report → Log.Record ⊕ Display.Decision
  | record r => .inl r
  | display d => .inr d

/-- The engine in surroundings of type `σ`. -/
structure Engine (σ : Type) where
  config : Display.Config
  sampler : Rate.Sampler
  timer : Engine.Timer Unit
  attached : Bool
  screenOn : Bool
  connected : Bool
  /-- The last decision that was shown. -/
  shown : Option Display.Decision
  /-- The messages that wait, the oldest first. -/
  queue : List Engine.Message
  /-- The time of the timer, in milliseconds. -/
  now : Binary64
  around : σ

namespace Engine
variable {σ : Type}

/-- How the engine reaches its surroundings. -/
structure Connections (σ : Type) where
  counters : Rate.Source σ
  /-- Whether a network can be reached. -/
  probe : Logged σ Bool
  /-- The reading of the engine's clock at a time of the timer. -/
  clock : Binary64 → Binary64

/-- A step of the engine. -/
abbrev Act (σ α : Type) := Step Report (Engine σ) α

/-- Writes a record. -/
def note (level : Log.Level) (parts : List Text) : Act σ Unit := .relay .record (Log.write level .engine parts)

/-- Works on the timer. -/
def onTimer {α : Type} (m : Logged (Timer Unit) α) : Act σ α :=
  .zoom timer (fun t e => { e with timer := t }) (.relay .record m)

/-- Works on the sampler. -/
def onSampler {α : Type} (m : Logged Rate.Sampler α) : Act σ α :=
  .zoom sampler (fun s e => { e with sampler := s }) (.relay .record m)

/-- Works on the links. -/
def onLinks (m : Logged Link.Registry Unit) : Act σ Unit :=
  onSampler (.zoom Rate.Sampler.registry (fun r s => { s with registry := r }) m)

/-- A new engine: nothing attached, the screen on, no connection known. -/
def fresh (config : Display.Config) (now : Binary64) (around : σ) : Engine σ where
  config
  sampler := .fresh config.intervalMs
  timer := .fresh
  attached := false
  screenOn := true
  connected := false
  shown := none
  queue := []
  now
  around

/-- Starts the engine. -/
def start : Act σ Unit := note .info ["TrafficEngine initialized."]

/-- Puts a message at the end of the queue. -/
def post (m : Message) : Act σ Unit := .modify fun e => { e with queue := e.queue ++ [m] }

/-- Asks the probe whether a network can be reached; a probe that fails says no. -/
def ask (c : Connections σ) : Act σ Bool := do
  match ← Step.attempt (Step.zoom around (fun s e => { e with around := s }) (Step.relay .record c.probe)) with
  | .ok available => pure available
  | .error e =>
    .relay .record (Log.writeFault .error .engine ["Connectivity query failed, treating as unavailable: ", e.message] e)
    pure false

/-- Asks the probe and keeps its answer. -/
def query (c : Connections σ) : Act σ Unit := do
  let available ← ask c
  Step.modify fun e => { e with connected := available }

/-- Takes a sample. -/
def sample (c : Connections σ) : Act σ Unit := do
  let time := c.clock (← Step.get).now
  let _ ← Step.zoom (fun e => (e.sampler, e.around)) (fun p e => { e with sampler := p.1, around := p.2 })
    (Step.relay .record (Rate.Sampler.tick c.counters time))

/-- What the surface is to show now. -/
def decision (e : Engine σ) : Except Fault Display.Decision :=
  Display.decide e.sampler.estimate e.config e.connected e.attached

/-- The records that go with what the surface is to show now. -/
def decisionNotes (e : Engine σ) : List Log.Record :=
  Display.decisionNotes e.sampler.estimate e.config e.connected e.attached

/-- Whether a sample may be scheduled. -/
def isAwake (e : Engine σ) : Bool := e.attached && e.screenOn

/-- Shows a new decision and schedules the next sample. -/
def display : Act σ Unit := do
  let e ← Step.get
  Step.each (fun r => Step.report (.record r)) e.decisionNotes
  let d ← Step.lift e.decision
  Step.modify fun e => { e with shown := some d }
  Step.report (.display d)
  onTimer Timer.cancel
  match d.nextDelay with
  | none => pure ()
  | some delay => if e.isAwake then onTimer (Timer.schedule e.now (.int delay) ())

/-- Takes a sample and shows the outcome, unless the engine is asleep. -/
def handleTick (c : Connections σ) : Act σ Unit := do
  if (← Step.get).isAwake then
    sample c
    display
  else note .debug ["Dropping tick while detached or asleep"]

/-- Takes over a configuration. -/
def handleConfig (c : Connections σ) (config : Display.Config) : Act σ Unit := do
  Step.modify fun e => { e with config }
  onSampler (Rate.Sampler.setInterval config.intervalMs)
  query c
  note .debug ["Configuration snapshot applied: ", config.spelled]
  display

/-- Takes over the state of the connectivity, or asks for it. -/
def handleConnectivity (c : Connections σ) (available : Option Bool) : Act σ Unit := do
  match available with
  | some b => Step.modify fun e => { e with connected := b }
  | none => query c
  note .debug ["Connectivity changed: available=", Json.Value.boolText (← Step.get).connected]
  display

/-- Takes over the state of the screen. -/
def handleScreen (c : Connections σ) (on dozing : Bool) : Act σ Unit := do
  Step.modify fun e => { e with screenOn := on && !dozing }
  if on && !dozing then
    note .debug ["Display awake, resuming updates"]
    query c
    display
  else
    note .debug ["Display off or dozing, suspending updates"]
    onTimer Timer.cancel

/-- Starts working for a surface. -/
def handleAttach (c : Connections σ) : Act σ Unit := do
  Step.modify fun e => { e with attached := true }
  query c
  note .info ["Display surface attached"]
  display

/-- Stops working for a surface. -/
def handleDetach : Act σ Unit := do
  Step.modify fun e => { e with attached := false }
  onTimer Timer.cancel
  note .info ["Display surface detached"]
  display

/-- Does what a message asks for. -/
def handle (c : Connections σ) : Message → Act σ Unit
  | .tick => handleTick c
  | .updateView => display
  | .linkUpdated h name => onLinks (Link.Registry.add h name)
  | .linkLost h => onLinks (Link.Registry.remove h)
  | .configChanged config => handleConfig c config
  | .connectivityChanged available => handleConnectivity c available
  | .screenChanged on dozing => handleScreen c on dozing
  | .attach => handleAttach c
  | .detach => handleDetach

/-- Works on one message. -/
def process (c : Connections σ) (m : Message) : Act σ Unit := do
  note .debug ["Processing ", m.kind]
  handle c m

/-- Works on the given messages, which are those that wait; each is taken from the queue before it is worked on. -/
def pumpAll (c : Connections σ) : List Message → Act σ Unit
  | [] => pure ()
  | m :: rest => do
    Step.modify fun e => { e with queue := e.queue.drop 1 }
    process c m
    pumpAll c rest

/-- Works on all messages that wait, and gives their number. A fault leaves the rest waiting. -/
def pump (c : Connections σ) : Act σ Nat := do
  let waiting := (← Step.get).queue
  pumpAll c waiting
  pure waiting.length

/-- Lets the timer go off: if it still runs its callback, a sample is asked for by a message. -/
def expire : Act σ Unit := do
  let e ← Step.get
  Step.modify fun e => { e with timer := e.timer.spent }
  if e.timer.taken.isSome then post .tick

/-- The engine as something on which time passes. -/
def clockwork (c : Connections σ) : Clockwork Report (Engine σ) where
  now := now
  setNow t e := { e with now := t }
  due e := e.timer.due
  expire := expire
  pump := do let _ ← pump c

/-- Lets milliseconds pass. At least a second lies between two samples, and one sample may be overdue; a bound on their
number that is far too large does no harm. -/
def advance (c : Connections σ) (ms : Binary64) : Act σ Unit := (clockwork c).advance (ms.whole.toNat + 64) ms

/-- Stops the engine. -/
def cleanup : Act σ Unit := do
  Step.modify fun e => { e with attached := false }
  onTimer Timer.cancel
  onTimer Timer.cleanup
  note .debug ["Engine cleanup completed."]

end Engine
end LinkMeter
