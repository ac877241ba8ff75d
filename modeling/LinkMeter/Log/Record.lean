import LinkMeter.Identity
import LinkMeter.Step

/-! # Log records

A record has a level, the component that wrote it and a message. Steps that only log report records. -/

namespace LinkMeter.Log

/-- How serious a record is. -/
inductive Level where
  | debug
  | info
  | warning
  | error
  | critical
deriving DecidableEq

namespace Level

/-- The number that orders the levels. -/
def rank : Level → Nat
  | debug => 10
  | info => 20
  | warning => 30
  | error => 40
  | critical => 50

def name : Level → Text
  | debug => "DEBUG"
  | info => "INFO"
  | warning => "WARNING"
  | error => "ERROR"
  | critical => "CRITICAL"

/-- All levels, in ascending order. -/
def all : List Level := [debug, info, warning, error, critical]

end Level

/-- The parts of the program that write records. -/
inductive Component where
  | application
  | folders
  | settings
  | controller
  | links
  | rates
  | display
  | counters
  | watcher
  | timer
  | engine
  | surface
  | main
deriving DecidableEq

namespace Component

/-- The name that stands in front of the component's messages. -/
def name : Component → Text
  | application => Identity.name
  | folders => "nettraffic.utils.helpers"
  | settings => "NetTraffic.Config"
  | controller => "NetTraffic.ConfigController"
  | links => "NetTraffic.LinkRegistry"
  | rates => "NetTraffic.RateSampler"
  | display => "NetTraffic.DisplayPolicy"
  | counters => "NetTraffic.PsutilCounterSource"
  | watcher => "NetTraffic.InterfaceWatcher"
  | timer => "NetTraffic.QtTickScheduler"
  | engine => "NetTraffic.TrafficEngine"
  | surface => "NetTraffic.Surface"
  | main => "NetTraffic.Main"

end Component

/-- One log record. -/
structure Record where
  level : Level
  component : Component
  message : Text
  /-- The fault whose account is written below the message, if there is one. -/
  fault : Option Fault
deriving DecidableEq

/-- What is written of a record: its message, and below it the account of its fault. -/
def Record.text (r : Record) : Text := .join "\n" (r.message :: (r.fault.map Fault.account).toList)

end LinkMeter.Log

namespace LinkMeter

/-- A step that reports log records. -/
abbrev Logged (σ α : Type) := Step Log.Record σ α

namespace Log
variable {σ : Type}

/-- Writes one record whose message is made up of the given texts. -/
def write (level : Level) (component : Component) (parts : List Text) : Logged σ Unit :=
  Step.report ⟨level, component, .cat parts, none⟩

/-- Writes one record about a fault, which is given an account of below the message. -/
def writeFault (level : Level) (component : Component) (parts : List Text) (e : Fault) : Logged σ Unit :=
  Step.report ⟨level, component, .cat parts, some e⟩

end Log
end LinkMeter
