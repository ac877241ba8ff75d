import LinkMeter.Json.Parser
import LinkMeter.Monitor.Basic

/-! # Observations of the host

The monitor is fed with observations: JSON objects that say which interfaces are up (`stats`, a list of names and truth
values), which addresses they have (`addrs`, lists of families and addresses by name) and what they carried so far (`io`,
bytes sent and received by name), each at a time in milliseconds (`ms`). What an observation leaves out stays as it was. -/

namespace LinkMeter.Monitor
open Json

/-- One observation. -/
structure Observation where
  time : Int
  states : Option (List (Text × Bool))
  addresses : Option (List (Text × List Host.Address))
  counts : Option Rate.Counts

namespace Observation

/-- The value under a name; without one, nothing. -/
def under (v : Value) (name : Text) : Value := (v.fields.get? name).getD .null

/-- An integer; other values count as zero. -/
def int : Value → Int
  | .number (.int n) => n
  | _ => 0

/-- A text; other values count as empty. -/
def text : Value → Text
  | .string t => t
  | _ => []

/-- A text, if it is one. -/
def text? : Value → Option Text
  | .string t => some t
  | _ => none

/-- The items of a list; other values have none. -/
def items : Value → List Value
  | .array vs => vs
  | _ => []

/-- The interfaces with what is said about each being up; what is said last of an interface counts. -/
def statesOf (v : Value) : List (Text × Bool) :=
  let said : Fields := (items v).foldl (fun fs item =>
    match item with
    | .array [name, up] => fs.put (text name) up
    | _ => fs) []
  said.map fun (name, up) => (name, up.isTruthy)

/-- One address with its family. -/
def addressOf : Value → Host.Address
  | .array [family, address] =>
    ⟨if family == .string "link" then .link else if family == .string "inet6" then .inet6 else .inet, text? address⟩
  | _ => ⟨.link, none⟩

/-- The addresses by interface. -/
def addressesOf (v : Value) : List (Text × List Host.Address) := v.fields.map fun (n, vs) => (n, (items vs).map addressOf)

/-- Bytes sent and received. -/
def trafficOf (v : Value) : Rate.Traffic :=
  match items v with
  | [tx, rx] => ⟨int tx, int rx⟩
  | _ => ⟨0, 0⟩

/-- The traffic by interface. -/
def countsOf (v : Value) : Rate.Counts := v.fields.map fun (n, w) => (n, trafficOf w)

/-- The observation that a value describes. -/
def ofValue (v : Value) : Observation where
  time := int (under v "ms")
  states := (v.fields.get? "stats").map statesOf
  addresses := (v.fields.get? "addrs").map addressesOf
  counts := (v.fields.get? "io").map countsOf

/-- The observation that a line of text describes, if it holds a JSON object. -/
def ofLine? (line : Text) : Option Observation :=
  match Parser.parse line with
  | .ok (.object fs) => some (ofValue (.object fs))
  | _ => none

/-- The surroundings after an observation. -/
def apply (o : Observation) (s : Surroundings) : Surroundings where
  interfaces := ⟨(o.states.map .ok).getD s.interfaces.states, (o.addresses.map .ok).getD s.interfaces.addresses⟩
  counters := { s.counters with host := (o.counts.map .ok).getD s.counters.host }

end Observation

/-- Surroundings of which nothing has been observed yet. -/
def unobserved : Surroundings := ⟨⟨.ok [], .ok []⟩, ⟨none, .ok []⟩⟩

/-- One turn of the program: an observation is taken in, time passes until it was made, and the interfaces are polled. -/
def turn (o : Observation) : Logged Monitor Unit := do
  observe o.apply
  let time ← Step.lift (Binary64.ofInt o.time)
  advance (time.sub (← Step.get).engine.now)
  if (← Step.get).watcher.running then tryPoll

end LinkMeter.Monitor
