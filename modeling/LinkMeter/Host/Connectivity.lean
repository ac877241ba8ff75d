import LinkMeter.Host.Interfaces
import LinkMeter.Log.Record

/-! # Connectivity

The host is connected when some interface that is up and not left out has an internet address that can reach a network.
When the host cannot be asked it counts as not connected. -/

namespace LinkMeter.Host

/-- Whether one of the addresses is an internet address that can reach a network. The search ends at the first one; an
internet address without a text before it is a fault. -/
def anyRoutable : List Address → Except Fault Bool
  | [] => .ok false
  | a :: rest =>
    if a.family = .link then anyRoutable rest
    else
      match a.text with
      | none => .error .noAddress
      | some t => if isRoutable t then .ok true else anyRoutable rest

/-- Whether one of the interfaces has an address that can reach a network. -/
def anyConnected (addresses : List (Text × List Address)) : List (Text × Bool) → Except Fault Bool
  | [] => .ok false
  | state :: rest =>
    if isTracked state then do
      if ← anyRoutable (addressesOf addresses state.1) then .ok true else anyConnected addresses rest
    else anyConnected addresses rest

/-- Both answers of the host. -/
def Interfaces.answers (i : Interfaces) : Except Fault (List (Text × Bool) × List (Text × List Address)) := do
  let states ← i.states
  let addresses ← i.addresses
  pure (states, addresses)

/-- Whether the host is connected. -/
def isConnected {σ : Type} (i : Interfaces) : Logged σ Bool :=
  match i.answers with
  | .ok (states, addresses) => Step.lift (anyConnected addresses states)
  | .error e => do
    if isExpected e then
      Log.write .warning .watcher ["Connectivity query failed, assuming no connection: ", e.message]
      pure false
    else Step.fail e

end LinkMeter.Host
