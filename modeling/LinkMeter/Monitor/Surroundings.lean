import LinkMeter.Engine.Basic
import LinkMeter.Host.Connectivity

/-! # The surroundings of the engine

What the engine of a running program works on: the interfaces of the host and its counters, both as last observed, and a
clock that counts seconds. -/

namespace LinkMeter.Monitor

/-- The host as last observed. -/
structure Surroundings where
  interfaces : Host.Interfaces
  counters : Rate.Cached (Except Fault Rate.Counts)

/-- The milliseconds that a clock of seconds shows. They may differ from `now` in the last place. -/
def clock (now : Binary64) : Binary64 :=
  let thousand := Binary64.ofRatio false 1000 1
  ((now.div thousand).toOption.getD .zero).mul thousand

/-- The counters of the host as a source. -/
def counters : Rate.Source (Rate.Cached (Except Fault Rate.Counts)) := Rate.Cached.source do Step.lift (← Step.get)

/-- How the engine reaches the host. -/
def connections : Engine.Connections Surroundings where
  counters := counters.zoom Surroundings.counters fun c s => { s with counters := c }
  probe := do Host.isConnected (← Step.get).interfaces
  clock := clock

end LinkMeter.Monitor
