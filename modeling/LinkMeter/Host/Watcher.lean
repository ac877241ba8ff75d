import LinkMeter.Host.Connectivity
import LinkMeter.Number.Basic
import LinkMeter.Text.Order

/-! # The interface watcher

The watcher polls the interfaces of the host and tells what changed since the last poll: links that were lost, and links
that are new or have other addresses. A poll that fails tells nothing and changes nothing. Between two polls the watcher
sleeps, in short slices, so that it can be stopped; after more than ten failing polls in a row it stops by itself. -/

namespace LinkMeter.Host

/-- What the watcher tells. The name of an interface is the handle of its link. -/
inductive Event where
  | updated (name : Text)
  | lost (name : Text)
  | failed (message : Text)
deriving DecidableEq

/-- What the watcher reports: log records and events. -/
inductive Sighting where
  | record (r : Log.Record)
  | event (e : Event)

/-- A sighting is a record or an event. -/
def Sighting.sort : Sighting → Log.Record ⊕ Event
  | record r => .inl r
  | event e => .inr e

/-- The tracked interfaces, each with the set of its addresses, by name. -/
abbrev Links := List (Text × List Text)

/-- The watcher between two polls. -/
structure Watcher where
  /-- Seconds. -/
  interval : Binary64
  running : Bool
  /-- The number of failing polls in a row. -/
  errors : Int
  known : Links

namespace Watcher

/-- The most failing polls in a row that the watcher puts up with. -/
def mostErrors : Nat := 10

/-- The least interval in milliseconds. -/
def leastInterval : Int := 10

/-- The set of the non-empty addresses. -/
def addressSet (as_ : List Address) : List Text := Text.setOf (as_.filterMap fun a => a.text.filter (· ≠ []))

/-- Puts a link in its place by name. -/
def place (link : Text × List Text) : Links → Links
  | [] => [link]
  | other :: rest => if Text.le link.1 other.1 then link :: other :: rest else other :: place link rest

/-- The links of the host. -/
def linksOf (states : List (Text × Bool)) (addresses : List (Text × List Address)) : Links :=
  (states.filter isTracked).foldr (fun s links => place (s.1, addressSet (addressesOf addresses s.1)) links) []

/-- Writes a record. -/
def note (level : Log.Level) (parts : List Text) : Step Sighting Watcher Unit :=
  .relay .record (Log.write level .watcher parts)

/-- Tells an event. -/
def tell (e : Event) : Step Sighting Watcher Unit := .report (.event e)

/-- Tells that a link is lost. -/
def tellLost (name : Text) : Step Sighting Watcher Unit := do
  note .info ["Link '", name, "' lost"]
  tell (.lost name)

/-- Tells what is new about a link, if anything is. -/
def tellFound (known : Links) (link : Text × List Text) : Step Sighting Watcher Unit := do
  let (name, addresses) := link
  match known.lookup name with
  | none =>
    note .info ["Link '", name, "' available"]
    tell (.updated name)
  | some before =>
    if before ≠ addresses then
      note .debug ["Link '", name, "' addresses changed"]
      tell (.updated name)

/-- Polls the host once. -/
def poll (host : Interfaces) : Step Sighting Watcher Unit := do
  let (states, addresses) ← Step.lift host.answers
  let known := (← Step.get).known
  let current := linksOf states addresses
  Step.each tellLost ((known.map Prod.fst).filter fun name => (current.lookup name).isNone)
  Step.each (tellFound known) current
  Step.modify fun w => { w with known := current }

/-- Counts a failing poll. With one too many the watcher stops and tells why. -/
def countError (e : Fault) : Step Sighting Watcher Unit := do
  Step.modify fun w => { w with errors := w.errors + 1 }
  let errors := (← Step.get).errors
  note .error ["Error polling interfaces (Attempt ", .ofInt errors, "/", .ofNat mostErrors, "): ", e.message]
  if mostErrors < errors then
    note .critical ["Circuit breaker tripped. Stopping interface watcher."]
    tell (.failed (.cat ["Interface watcher failure: ", e.message]))
    Step.modify fun w => { w with running := false }

/-- Polls the host once and keeps count of the failing polls. -/
def tryPoll (host : Interfaces) : Step Sighting Watcher Unit := do
  match ← Step.attempt (poll host) with
  | .ok () => Step.modify fun w => if 0 < w.errors then { w with errors := 0 } else w
  | .error e => if isExpected e then countError e else Step.fail e

/-- The longest time that the watcher sleeps at once. -/
def slice : Binary64 := .ofRatio false 1 10

/-- The times for which the watcher sleeps until `remaining` seconds have passed. -/
def slices : (fuel : Nat) → Binary64 → List Binary64
  | 0, _ => []
  | fuel + 1, remaining =>
    if Binary64.zero.lt remaining then
      let now := if remaining.lt slice then remaining else slice
      now :: slices fuel (remaining.sub now)
    else []

/-- The times for which the watcher sleeps between two polls. -/
def sleeps (interval : Binary64) : List Binary64 := slices ((interval.whole * 20).toNat + 40) interval

/-- The watcher's loop: it polls, and sleeps before the next poll. `hosts` is what each poll finds; the stop comes in the
first sleep after the last of them. The result is the times slept and the number of hosts that were not polled. -/
def loop : List Interfaces → Step Sighting Watcher (List Binary64 × Nat)
  | [] => pure ([], 0)
  | host :: rest => do
    if !(← Step.get).running then pure ([], rest.length + 1)
    else
      tryPoll host
      let w ← Step.get
      if !w.running then pure ([], rest.length)
      else if rest.isEmpty then
        Step.set { w with running := false }
        pure (slices 1 w.interval, 0)
      else
        let (later, unused) ← loop rest
        pure (sleeps w.interval ++ later, unused)

/-- Runs the watcher on the hosts that its polls find, of which there is at least one. -/
def run (first : Interfaces) (rest : List Interfaces) : Step Sighting Watcher (List Binary64 × Nat) := do
  note .debug ["InterfaceWatcher starting loop..."]
  loop (first :: rest)

/-- Stops the watcher. -/
def stop : Step Sighting Watcher Unit := do
  Step.modify fun w => { w with running := false }
  note .info ["InterfaceWatcher stopped."]

/-- A watcher that polls every `ms` milliseconds, which are cut down to whole ones and raised to the least interval. -/
def start {σ : Type} (ms : Number) : Logged σ Watcher := do
  let whole ← Step.lift ms.trunc
  let seconds ← Step.lift do (← Binary64.ofInt (max leastInterval whole)).div (.ofRatio false 1000 1)
  Log.write .debug .watcher ["InterfaceWatcher initialized with interval ", seconds.toFixed 2, "s"]
  pure ⟨seconds, true, 0, []⟩

end Watcher
end LinkMeter.Host
